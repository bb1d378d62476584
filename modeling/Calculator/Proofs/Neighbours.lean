import Calculator.Proofs.Grammar

/-!
# Sentences by their neighbours

Whether terminals form a sentence can be seen without a derivation: each of them has to stand where an
operand is due or where one has just ended, and the parentheses have to nest
(`sentence_iff_wellPlaced`). Where no two operands are juxtaposed, counting is enough: there is at most
one literal more than there are operators, and just one more only if every terminal is well placed
(`literalCount_le`). The last section lists what keeps a row from being a sentence (`Malformed`).
-/

namespace Calculator

namespace Terminal

/-- An operand starts with the terminal. -/
def startsOperand : Terminal → Bool
  | literal _ | leftParen => true
  | operator _ | rightParen => false

/-- An operand ends with the terminal. -/
def endsOperand : Terminal → Bool
  | literal _ | rightParen => true
  | operator _ | leftParen => false

def isLiteral : Terminal → Bool
  | literal _ => true
  | _ => false

def isOperator : Terminal → Bool
  | operator _ => true
  | _ => false

end Terminal

def literalCount (ts : List Terminal) : Nat := ts.countP Terminal.isLiteral

def operatorCount (ts : List Terminal) : Nat := ts.countP Terminal.isOperator

/-- Every terminal stands in a place for it, and an operand ends the row; `after` says whether one has
ended right in front. What starts an operand has its place where none has ended, all else where one
has. -/
def wellPlaced (after : Bool) : List Terminal → Bool
  | [] => after
  | t :: ts => (after != t.startsOperand) && wellPlaced t.endsOperand ts

/-- How many parentheses are open behind a row, `depth` in front of it; none if one closes too much. -/
def nesting? (depth : Nat) : List Terminal → Option Nat
  | [] => some depth
  | .leftParen :: ts => nesting? (depth + 1) ts
  | .rightParen :: ts => if depth = 0 then none else nesting? (depth - 1) ts
  | _ :: ts => nesting? depth ts

/-! ## Sentences are well placed and nested -/

/-- A sentence is read like a single operand. -/
theorem Sentence.wellPlaced_append {ts : List Terminal} (h : Sentence ts) (us : List Terminal) :
    wellPlaced false (ts ++ us) = wellPlaced true us := by
  induction h generalizing us with
  | literal _ => rfl
  | binary op _ _ ihl ihr =>
    rw [List.append_assoc, ihl]
    exact ihr us
  | group _ ih =>
    rw [List.append_assoc]
    exact ih (.rightParen :: us)

/-- A sentence leaves as many parentheses open as it finds. -/
theorem Sentence.nesting?_append {ts : List Terminal} (h : Sentence ts) (depth : Nat) (us : List Terminal) :
    nesting? depth (ts ++ us) = nesting? depth us := by
  induction h generalizing depth us with
  | literal _ => rfl
  | binary op _ _ ihl ihr =>
    rw [List.append_assoc, ihl]
    exact ihr depth us
  | group _ ih =>
    rw [List.append_assoc]
    exact (ih (depth + 1) (.rightParen :: us)).trans (by simp [nesting?])

/-! ## Sentences in the making -/

/-- One level of a row that is read: a sentence if an operand has just ended; else nothing, or a sentence
and an operator behind it. -/
def Piece : Bool → List Terminal → Prop
  | true, ts => Sentence ts
  | false, ts => ts = [] ∨ ∃ us op, Sentence us ∧ ts = us ++ [.operator op]

/-- A row that is read up to some place with `depth` parentheses open: a piece for each level. -/
inductive Opened : Nat → Bool → List Terminal → Prop
  | base {after : Bool} {ts : List Terminal} (piece : Piece after ts) : Opened 0 after ts
  | enter {depth : Nat} {after : Bool} {front ts : List Terminal} (outside : Opened depth false front)
      (piece : Piece after ts) : Opened (depth + 1) after (front ++ .leftParen :: ts)

theorem Piece.append_sentence {ts us : List Terminal} (h : Piece false ts) (hu : Sentence us) :
    Piece true (ts ++ us) := by
  rcases h with rfl | ⟨vs, op, hv, rfl⟩
  · exact hu
  · rw [List.append_assoc]
    exact .binary op hv hu

namespace Opened

variable {depth : Nat} {ts us : List Terminal}

theorem append_sentence (h : Opened depth false ts) (hu : Sentence us) : Opened depth true (ts ++ us) := by
  cases h with
  | base piece => exact .base (piece.append_sentence hu)
  | enter outside piece =>
    rw [List.append_assoc]
    exact .enter outside (piece.append_sentence hu)

theorem append_operator (h : Opened depth true ts) (op : Operator) :
    Opened depth false (ts ++ [.operator op]) := by
  cases h with
  | base piece => exact .base (Or.inr ⟨ts, op, piece, rfl⟩)
  | @enter depth _ front vs outside piece =>
    rw [List.append_assoc]
    exact .enter outside (Or.inr ⟨vs, op, piece, rfl⟩)

theorem append_leftParen (h : Opened depth false ts) : Opened (depth + 1) false (ts ++ [.leftParen]) :=
  .enter h (Or.inl rfl)

theorem append_rightParen (h : Opened (depth + 1) true ts) : Opened depth true (ts ++ [.rightParen]) := by
  cases h with
  | enter outside piece =>
    rw [List.append_assoc]
    exact outside.append_sentence (.group piece)

/-- Well placed terminals that close what is open complete the row to a sentence. -/
theorem sentence {after : Bool} (h : Opened depth after ts) (hlit : ∀ w, .literal w ∈ us → IsLiteral w)
    (hplace : wellPlaced after us = true) (hnest : nesting? depth us = some 0) : Sentence (ts ++ us) := by
  induction us generalizing depth after ts with
  | nil =>
    obtain rfl : after = true := hplace
    obtain rfl : depth = 0 := by simpa [nesting?] using hnest
    cases h with
    | base piece => rwa [List.append_nil]
  | cons t us ih =>
    have hlit' : ∀ w, .literal w ∈ us → IsLiteral w := fun w hw => hlit w (by simp [hw])
    simp only [wellPlaced, Bool.and_eq_true, bne_iff_ne, ne_eq] at hplace
    obtain ⟨ht, hplace⟩ := hplace
    rw [List.append_cons]
    cases t with
    | operator op =>
      obtain rfl : after = true := by simpa [Terminal.startsOperand] using ht
      exact ih (h.append_operator op) hlit' hplace hnest
    | leftParen =>
      obtain rfl : after = false := by simpa [Terminal.startsOperand] using ht
      exact ih h.append_leftParen hlit' hplace hnest
    | rightParen =>
      obtain rfl : after = true := by simpa [Terminal.startsOperand] using ht
      cases depth with
      | zero => simp [nesting?] at hnest
      | succ depth => exact ih h.append_rightParen hlit' hplace (by simpa [nesting?] using hnest)
    | literal w =>
      obtain rfl : after = false := by simpa [Terminal.startsOperand] using ht
      exact ih (h.append_sentence (.literal (hlit w (by simp)))) hlit' hplace hnest

end Opened

theorem sentence_iff_wellPlaced {ts : List Terminal} (hlit : ∀ w, .literal w ∈ ts → IsLiteral w) :
    Sentence ts ↔ wellPlaced false ts = true ∧ nesting? 0 ts = some 0 := by
  constructor
  · intro h
    have hw := h.wellPlaced_append []
    have hn := h.nesting?_append 0 []
    rw [List.append_nil] at hw hn
    exact ⟨hw, hn⟩
  · rintro ⟨hw, hn⟩
    have start : Opened 0 false [] := .base (Or.inl rfl)
    exact start.sentence hlit hw hn

/-! ## Rows without juxtaposition -/

/-- Somewhere an operand starts right behind the end of another. -/
def Juxtaposed (ts : List Terminal) : Prop :=
  ∃ front a b back, ts = front ++ a :: b :: back ∧ a.endsOperand = true ∧ b.startsOperand = true

theorem juxtaposed_cons_iff {t : Terminal} {ts : List Terminal} :
    Juxtaposed (t :: ts) ↔
      t.endsOperand = true ∧ ts.head?.any Terminal.startsOperand = true ∨ Juxtaposed ts := by
  constructor
  · rintro ⟨front, a, b, back, h, ha, hb⟩
    cases front with
    | nil =>
      cases h
      exact .inl ⟨ha, hb⟩
    | cons u front =>
      cases h
      exact .inr ⟨front, a, b, back, rfl, ha, hb⟩
  · rintro (⟨ht, hany⟩ | ⟨front, a, b, back, rfl, ha, hb⟩)
    · cases ts with
      | nil => cases hany
      | cons u ts => exact ⟨[], t, u, ts, rfl, ht, hany⟩
    · exact ⟨t :: front, a, b, back, rfl, ha, hb⟩

instance decidableJuxtaposed : (ts : List Terminal) → Decidable (Juxtaposed ts)
  | [] => .isFalse fun ⟨front, _, _, _, h, _, _⟩ => by simp at h
  | _ :: ts =>
    have := decidableJuxtaposed ts
    decidable_of_iff _ juxtaposed_cons_iff.symm

theorem startsOperand_of_not_juxtaposed {t : Terminal} {ts : List Terminal} (h : ¬ Juxtaposed (t :: ts))
    (ht : t.endsOperand = true) : ∀ u ∈ ts.head?, u.startsOperand = false := by
  intro u hu
  refine Bool.eq_false_iff.2 fun hs => h (juxtaposed_cons_iff.2 (.inl ⟨ht, ?_⟩))
  rw [Option.mem_def.1 hu]
  exact hs

/-- Of two neighbours in a well placed row either the first ends an operand or the second starts one,
never both. -/
theorem startsOperand_ne_of_wellPlaced {after : Bool} {front back : List Terminal} {a b : Terminal}
    (h : wellPlaced after (front ++ a :: b :: back) = true) : a.endsOperand ≠ b.startsOperand := by
  induction front generalizing after with
  | nil =>
    simp only [List.nil_append, wellPlaced, Bool.and_eq_true, bne_iff_ne] at h
    exact h.2.1
  | cons t front ih =>
    simp only [List.cons_append, wellPlaced, Bool.and_eq_true] at h
    exact ih h.2

theorem not_juxtaposed_of_wellPlaced {after : Bool} {ts : List Terminal} (h : wellPlaced after ts = true) :
    ¬ Juxtaposed ts := by
  rintro ⟨front, a, b, back, rfl, ha, hb⟩
  exact startsOperand_ne_of_wellPlaced h (ha.trans hb.symm)

theorem literalCount_cons (t : Terminal) (ts : List Terminal) :
    literalCount (t :: ts) = literalCount ts + t.isLiteral.toNat := by
  rw [literalCount, List.countP_cons]
  cases t <;> rfl

theorem operatorCount_cons (t : Terminal) (ts : List Terminal) :
    operatorCount (t :: ts) = operatorCount ts + t.isOperator.toNat := by
  rw [operatorCount, List.countP_cons]
  cases t <;> rfl

/-- What a terminal costs: a literal pays for the operand that it is, an operator for the one that it
takes. Only a terminal in its place costs nothing, a misplaced one has no operand to take or to close. -/
theorem place_cost {after : Bool} {t : Terminal} (h : after = true → t.startsOperand = false) :
    t.isLiteral.toNat + after.toNat ≤ t.isOperator.toNat + t.endsOperand.toNat ∧
      (t.isLiteral.toNat + after.toNat = t.isOperator.toNat + t.endsOperand.toNat →
        (after != t.startsOperand) = true) := by
  cases t <;> cases after <;>
    simp_all [Terminal.isLiteral, Terminal.isOperator, Terminal.startsOperand, Terminal.endsOperand]

/-- Without juxtaposition there is at most one literal more than there are operators, and just one
more only in a row that is well placed. -/
theorem literalCount_le {after : Bool} {ts : List Terminal} (hjux : ¬ Juxtaposed ts)
    (hhead : after = true → ∀ t ∈ ts.head?, t.startsOperand = false) :
    literalCount ts + after.toNat ≤ operatorCount ts + 1 ∧
      (literalCount ts + after.toNat = operatorCount ts + 1 → wellPlaced after ts = true) := by
  induction ts generalizing after with
  | nil => cases after <;> simp [literalCount, operatorCount, wellPlaced]
  | cons t ts ih =>
    have hnext := startsOperand_of_not_juxtaposed hjux
    obtain ⟨hle, heq⟩ := ih (fun h => hjux (juxtaposed_cons_iff.2 (.inr h))) hnext
    obtain ⟨hcost, hplace⟩ := place_cost fun ha => hhead ha t rfl
    rw [literalCount_cons, operatorCount_cons]
    refine ⟨by omega, fun h => ?_⟩
    rw [wellPlaced, hplace (by omega), heq (by omega)]
    rfl

/-! ## Rows that are no sentence -/

/-- An operand is missing at an end of the row or between two neighbours, as in `()`, `(+` or `+)`; or the
parentheses do not nest. -/
inductive Malformed : List Terminal → Prop
  | leading {op : Operator} {ts : List Terminal} : Malformed (.operator op :: ts)
  | trailing {op : Operator} {ts : List Terminal} : Malformed (ts ++ [.operator op])
  | between {a b : Terminal} {front back : List Terminal} (ha : a = .leftParen ∨ ∃ op, a = .operator op)
      (hb : b = .rightParen ∨ ∃ op, b = .operator op) : Malformed (front ++ a :: b :: back)
  | unbalanced {ts : List Terminal} (h : ts.count .leftParen ≠ ts.count .rightParen) : Malformed ts
  | unopened {front back : List Terminal} (h : front.count .leftParen < front.count .rightParen) :
      Malformed (front ++ back)

/-- In a row that is not malformed an operand is missing neither at the start nor between two neighbours. -/
theorem startsOperand_of_not_malformed {ts : List Terminal} (h : ¬ Malformed ts) :
    (∀ t ∈ ts.head?, t.startsOperand = true) ∧
    ∀ a b, [a, b] <:+: ts → a.endsOperand = false → b.startsOperand = true := by
  constructor
  · intro t ht
    obtain ⟨later, rfl⟩ := List.head?_eq_some_iff.1 ht
    cases t with
    | operator op => exact absurd .leading h
    | rightParen =>
      have hcount : [Terminal.rightParen].count .leftParen < [Terminal.rightParen].count .rightParen := by decide
      exact absurd (.unopened hcount) h
    | _ => rfl
  · rintro a b ⟨front, back, rfl⟩ ha
    cases hb : b.startsOperand with
    | true => rfl
    | false =>
      have hleft : a = .leftParen ∨ ∃ op, a = .operator op := by
        cases a <;> simp_all [Terminal.endsOperand]
      have hright : b = .rightParen ∨ ∃ op, b = .operator op := by
        cases b <;> simp_all [Terminal.startsOperand]
      rw [List.append_assoc] at h
      exact absurd (.between hleft hright) h

theorem endsOperand_of_wellPlaced {after : Bool} {ts : List Terminal} {t : Terminal}
    (h : wellPlaced after (ts ++ [t]) = true) : t.endsOperand = true := by
  induction ts generalizing after with
  | nil =>
    simp only [List.nil_append, wellPlaced, Bool.and_eq_true] at h
    exact h.2
  | cons u ts ih =>
    simp only [List.cons_append, wellPlaced, Bool.and_eq_true] at h
    exact ih h.2

/-- Parentheses that nest behind some front have nested in the front already, and are counted. -/
theorem count_of_nesting? {depth n : Nat} {front back : List Terminal}
    (h : nesting? depth (front ++ back) = some n) :
    ∃ m, nesting? m back = some n ∧ depth + front.count .leftParen = m + front.count .rightParen := by
  induction front generalizing depth with
  | nil => exact ⟨depth, h, rfl⟩
  | cons t front ih =>
    cases t with
    | operator op => simpa using ih h
    | literal w => simpa using ih h
    | leftParen =>
      have hinner : nesting? (depth + 1) (front ++ back) = some n := h
      obtain ⟨m, hm, hcount⟩ := ih hinner
      exact ⟨m, hm, by simp; omega⟩
    | rightParen =>
      cases depth with
      | zero => cases h
      | succ depth =>
        have houter : nesting? depth (front ++ back) = some n := h
        obtain ⟨m, hm, hcount⟩ := ih houter
        exact ⟨m, hm, by simp; omega⟩

theorem Sentence.not_malformed {ts : List Terminal} (h : Sentence ts) : ¬ Malformed ts := by
  obtain ⟨hplace, hnest⟩ := (sentence_iff_wellPlaced h.isLiteral).1 h
  intro hm
  cases hm with
  | leading => cases hplace
  | trailing => cases endsOperand_of_wellPlaced hplace
  | between ha hb =>
    apply startsOperand_ne_of_wellPlaced hplace
    rcases ha with rfl | ⟨p, rfl⟩ <;> rcases hb with rfl | ⟨o, rfl⟩ <;> rfl
  | unbalanced hcount =>
    rw [← ts.append_nil] at hnest
    obtain ⟨m, hm, hsum⟩ := count_of_nesting? hnest
    cases hm
    omega
  | unopened hcount =>
    obtain ⟨m, -, hsum⟩ := count_of_nesting? hnest
    omega

end Calculator
