import Calculator.Proofs.Grammar

/-!
# The terminals of a text

Places apart, a token is a terminal of the grammar. Main statement: a text that writes terminals, with
blanks around them as one likes, has just these terminals as its tokens, provided that no two literals
are neighbours (`terminals_of_writes`).
-/

namespace Calculator

open Token

/-- A token without its place. -/
def Token.terminal (t : Token) : Terminal :=
  match t.kind with
  | .operator op => .operator op
  | .leftParen => .leftParen
  | .rightParen => .rightParen
  | .literal => .literal t.lexeme

def terminals (source : Text) : List Terminal := (tokens source).map Token.terminal

/-! ## Kinds of characters -/

theorem ofChar?_of_isBlank {c : Char} (h : isBlank c = true) : Kind.ofChar? c = none := by
  simp [Kind.ofChar?, h]

theorem ofChar?_leftParen : Kind.ofChar? '(' = some .leftParen := by decide

theorem ofChar?_rightParen : Kind.ofChar? ')' = some .rightParen := by decide

theorem ofChar?_symbol (op : Operator) : Kind.ofChar? op.symbol = some (.operator op) := by
  cases op <;> decide

theorem ofChar?_eq_leftParen_iff {c : Char} : Kind.ofChar? c = some .leftParen ↔ c = '(' := by
  refine ⟨fun h => ?_, by rintro rfl; exact ofChar?_leftParen⟩
  unfold Kind.ofChar? at h
  grind

theorem ofChar?_eq_rightParen_iff {c : Char} : Kind.ofChar? c = some .rightParen ↔ c = ')' := by
  refine ⟨fun h => ?_, by rintro rfl; exact ofChar?_rightParen⟩
  unfold Kind.ofChar? at h
  grind

theorem ofChar?_eq_operator_iff {c : Char} {op : Operator} :
    Kind.ofChar? c = some (.operator op) ↔ c = op.symbol := by
  refine ⟨fun h => ?_, by rintro rfl; exact ofChar?_symbol op⟩
  unfold Kind.ofChar? at h
  grind [Operator.ofSymbol?_eq_some_iff]

theorem isLiteralChar_iff {c : Char} :
    isLiteralChar c = true ↔ isBlank c = false ∧ c ∉ ['+', '-', '*', '/', '(', ')'] := by
  simp only [isLiteralChar, Kind.ofChar?, Operator.ofSymbol?, beq_iff_eq, List.mem_cons, List.not_mem_nil,
    or_false, not_or]
  grind

theorem ofChar?_eq_literal_iff {c : Char} : Kind.ofChar? c = some .literal ↔ isLiteralChar c = true := by
  simp [isLiteralChar]

/-! ## One character -/

/-- Puts a character in front of the literal at the head. -/
def joinTerminal (c : Char) : List Terminal → List Terminal
  | [] => [.literal [c]]
  | .literal w :: later => .literal (c :: w) :: later
  | t :: later => t :: later

theorem map_terminal_joinLiteral (c : Char) (here : Location) (ts : List Token) :
    (joinLiteral c here ts).map Token.terminal = joinTerminal c (ts.map Token.terminal) := by
  cases ts with
  | nil => rfl
  | cons t later =>
    obtain ⟨kind, lexeme, place⟩ := t
    cases kind <;> rfl

/-- Places have no influence on the terminals. -/
theorem map_terminal_tokensFrom (here there : Location) (text : Text) :
    (tokensFrom here text).map Token.terminal = (tokensFrom there text).map Token.terminal := by
  induction text generalizing here there with
  | nil => rfl
  | cons c rest ih =>
    have hrest := ih (here.after c) (there.after c)
    simp only [tokensFrom]
    cases hc : Kind.ofChar? c with
    | none => simpa using hrest
    | some kind =>
      cases kind with
      | literal =>
        by_cases hr : rest.head?.any isLiteralChar = true
        · simp only [hr, ↓reduceIte, map_terminal_joinLiteral, hrest]
        · simp [hr, hrest, Token.terminal]
      | _ => simp [hrest, Token.terminal]

theorem terminals_cons (c : Char) (rest : Text) :
    terminals (c :: rest) =
      match Kind.ofChar? c with
      | none => terminals rest
      | some .literal =>
        if rest.head?.any isLiteralChar then joinTerminal c (terminals rest)
        else .literal [c] :: terminals rest
      | some (.operator op) => .operator op :: terminals rest
      | some .leftParen => .leftParen :: terminals rest
      | some .rightParen => .rightParen :: terminals rest := by
  have hrest := map_terminal_tokensFrom (Location.start.after c) .start rest
  simp only [terminals, tokens, tokensFrom]
  cases Kind.ofChar? c with
  | none => exact hrest
  | some kind =>
    cases kind with
    | literal =>
      by_cases hr : rest.head?.any isLiteralChar = true
      · simp only [hr, ↓reduceIte, map_terminal_joinLiteral, hrest]
      · simp [hr, hrest, Token.terminal]
    | _ => simp [hrest, Token.terminal]

@[simp] theorem terminals_nil : terminals [] = [] := rfl

theorem terminals_blank {c : Char} (h : isBlank c = true) (rest : Text) :
    terminals (c :: rest) = terminals rest := by
  rw [terminals_cons, ofChar?_of_isBlank h]

theorem terminals_append_blank {gap : Text} (h : isBlankText gap = true) (rest : Text) :
    terminals (gap ++ rest) = terminals rest := by
  induction gap with
  | nil => rfl
  | cons c gap ih =>
    rw [isBlankText_cons] at h
    rw [List.cons_append, terminals_blank h.1, ih h.2]

/-- The character that a terminal other than a literal consists of. -/
def Terminal.char? : Terminal → Option Char
  | operator op => some op.symbol
  | leftParen => some '('
  | rightParen => some ')'
  | literal _ => none

theorem Terminal.spelling_of_char? {t : Terminal} {p : Char} (h : t.char? = some p) : t.spelling = [p] := by
  cases t <;> cases h
  · exact spelling_operator _
  · rfl
  · rfl

theorem Terminal.isBlank_of_char? {t : Terminal} {p : Char} (h : t.char? = some p) : isBlank p = false := by
  cases t with
  | operator op =>
    cases h
    cases op <;> decide
  | leftParen => cases h; decide
  | rightParen => cases h; decide
  | literal w => cases h

theorem terminals_char {t : Terminal} {p : Char} (h : t.char? = some p) (rest : Text) :
    terminals (p :: rest) = t :: terminals rest := by
  cases t <;> cases h
  · rw [terminals_cons, ofChar?_symbol]
  · rw [terminals_cons, ofChar?_leftParen]
  · rw [terminals_cons, ofChar?_rightParen]

/-- A character is a blank, part of a literal or a terminal of its own. -/
theorem char_cases (c : Char) :
    isBlank c = true ∨ isLiteralChar c = true ∨ ∃ t : Terminal, t.char? = some c := by
  cases hc : Kind.ofChar? c with
  | none =>
    left
    unfold Kind.ofChar? at hc
    grind
  | some kind =>
    right
    cases kind with
    | literal => exact .inl (ofChar?_eq_literal_iff.1 hc)
    | operator op => exact .inr ⟨.operator op, by rw [ofChar?_eq_operator_iff.1 hc]; rfl⟩
    | leftParen => exact .inr ⟨.leftParen, by rw [ofChar?_eq_leftParen_iff.1 hc]; rfl⟩
    | rightParen => exact .inr ⟨.rightParen, by rw [ofChar?_eq_rightParen_iff.1 hc]; rfl⟩

/-- A literal ends where no literal character follows. -/
theorem terminals_literal {w : Text} (h : IsLiteral w) {rest : Text}
    (hr : rest.head?.any isLiteralChar = false) : terminals (w ++ rest) = .literal w :: terminals rest := by
  obtain ⟨hne, hw⟩ := h
  induction w with
  | nil => exact absurd rfl hne
  | cons c w ih =>
    have hc : Kind.ofChar? c = some .literal := ofChar?_eq_literal_iff.2 (isLiteralChar_iff.2 (hw c (by simp)))
    rw [List.cons_append, terminals_cons, hc]
    cases w with
    | nil => simp [hr]
    | cons d w =>
      have hd : isLiteralChar d = true := isLiteralChar_iff.2 (hw d (by simp))
      have := ih (by simp) fun x hx => hw x (by simp [hx])
      rw [List.cons_append] at this ⊢
      simp [hd, this, joinTerminal]

/-! ## Written terminals -/

/-- The texts that write the terminals in order, with blanks before, between and behind them. -/
inductive Writes : List Terminal → Text → Prop
  | nil {gap : Text} (blank : isBlankText gap = true) : Writes [] gap
  | cons {gap : Text} {t : Terminal} {ts : List Terminal} {text : Text}
      (blank : isBlankText gap = true) (rest : Writes ts text) : Writes (t :: ts) (gap ++ t.spelling ++ text)

/-- Every row is written by its spelling alone. -/
theorem writes_spelling (ts : List Terminal) : Writes ts (ts.flatMap Terminal.spelling) := by
  induction ts with
  | nil => exact .nil rfl
  | cons t ts ih => exact @Writes.cons [] t ts _ rfl ih

def LiteralsMeet (ts : List Terminal) : Prop :=
  ∃ front back v w, ts = front ++ .literal v :: .literal w :: back

/-- A text that starts with anything but a literal starts with no literal character. -/
theorem head_of_writes {ts : List Terminal} {text : Text} (h : Writes ts text)
    (hts : ∀ w, ts.head? ≠ some (.literal w)) : text.head?.any isLiteralChar = false := by
  have hblank {gap : Text} (hg : isBlankText gap = true) (rest : Text)
      (hr : rest.head?.any isLiteralChar = false) : (gap ++ rest).head?.any isLiteralChar = false := by
    cases gap with
    | nil => exact hr
    | cons c gap => simp [isLiteralChar, ofChar?_of_isBlank (isBlankText_cons.1 hg).1]
  cases h with
  | nil hg => simpa using hblank hg [] rfl
  | @cons gap t ts text hg _ =>
    rw [List.append_assoc]
    refine hblank hg _ ?_
    cases t with
    | literal w => exact absurd rfl (hts w)
    | operator op => simp [Terminal.spelling_operator, isLiteralChar, ofChar?_symbol]
    | leftParen => simp [Terminal.spelling, isLiteralChar, ofChar?_leftParen]
    | rightParen => simp [Terminal.spelling, isLiteralChar, ofChar?_rightParen]

theorem terminals_of_writes {ts : List Terminal} {text : Text} (h : Writes ts text)
    (hlit : ∀ w, .literal w ∈ ts → IsLiteral w) (hmeet : ¬ LiteralsMeet ts) : terminals text = ts := by
  induction h with
  | nil hg => simpa using terminals_append_blank hg []
  | @cons gap t ts text hg hw ih =>
    have hrest : terminals text = ts :=
      ih (fun w hw => hlit w (by simp [hw])) fun ⟨front, back, v, w, he⟩ =>
        hmeet ⟨t :: front, back, v, w, by simp [he]⟩
    rw [List.append_assoc, terminals_append_blank hg]
    cases hp : t.char? with
    | some p => rw [Terminal.spelling_of_char? hp, List.singleton_append, terminals_char hp, hrest]
    | none =>
      cases t with
      | literal v =>
        rw [Terminal.spelling, terminals_literal (hlit v (by simp)), hrest]
        refine head_of_writes hw fun w hw => ?_
        obtain ⟨back, rfl⟩ := List.head?_eq_some_iff.1 hw
        exact hmeet ⟨[], back, v, w, rfl⟩
      | _ => cases hp

/-! ## The terminals of any text -/

/-- A literal character is a literal of its own or the first character of the one behind it. -/
theorem terminals_cons_literal {c : Char} (h : isLiteralChar c = true) (rest : Text) :
    terminals (c :: rest) = .literal [c] :: terminals rest ∨
      ∃ w later, terminals rest = .literal w :: later ∧ terminals (c :: rest) = .literal (c :: w) :: later := by
  induction rest generalizing c with
  | nil => exact .inl (by rw [terminals_cons, ofChar?_eq_literal_iff.2 h]; rfl)
  | cons d rest ih =>
    rw [terminals_cons, ofChar?_eq_literal_iff.2 h]
    by_cases hd : isLiteralChar d = true
    · have hhead : ∃ w later, terminals (d :: rest) = .literal w :: later := by
        rcases ih hd with he | ⟨w, later, -, he⟩
        · exact ⟨_, _, he⟩
        · exact ⟨_, _, he⟩
      obtain ⟨w, later, he⟩ := hhead
      exact .inr ⟨w, later, he, by simp [hd, he, joinTerminal]⟩
    · exact .inl (by simp [hd])

theorem isLiteral_of_mem_terminals (text w : Text) (h : .literal w ∈ terminals text) : IsLiteral w := by
  induction text generalizing w with
  | nil => simp at h
  | cons c rest ih =>
    rcases char_cases c with hb | hlit | ⟨t, ht⟩
    · rw [terminals_blank hb] at h
      exact ih w h
    · have hchar := isLiteralChar_iff.1 hlit
      rcases terminals_cons_literal hlit rest with he | ⟨v, later, hrest, he⟩
      · rw [he, List.mem_cons, Terminal.literal.injEq] at h
        rcases h with rfl | h
        · exact ⟨by simp, by simpa using hchar⟩
        · exact ih w h
      · rw [he, List.mem_cons, Terminal.literal.injEq] at h
        rcases h with rfl | h
        · have hv : IsLiteral v := ih v (by simp [hrest])
          refine ⟨by simp, fun x hx => ?_⟩
          rcases List.mem_cons.1 hx with rfl | hx
          · exact hchar
          · exact hv.2 x hx
        · exact ih w (by simp [hrest, h])
    · rw [terminals_char ht, List.mem_cons] at h
      rcases h with rfl | h
      · cases ht
      · exact ih w h

/-- Written one behind the other, the terminals of a text are the text without its blanks. -/
theorem flatMap_spelling_terminals (text : Text) :
    (terminals text).flatMap Terminal.spelling = stripBlanks text := by
  induction text with
  | nil => rfl
  | cons c rest ih =>
    rcases char_cases c with hb | hchar | ⟨t, ht⟩
    · rw [terminals_blank hb, ih]
      simp [stripBlanks, hb]
    · have hc := (isLiteralChar_iff.1 hchar).1
      rcases terminals_cons_literal hchar rest with he | ⟨w, later, hrest, he⟩
      · simp [he, Terminal.spelling, ih, stripBlanks, hc]
      · rw [hrest] at ih
        simp only [List.flatMap_cons, Terminal.spelling] at ih
        simp [he, Terminal.spelling, ih, stripBlanks, hc]
    · have hc := Terminal.isBlank_of_char? ht
      simp [terminals_char ht, Terminal.spelling_of_char? ht, ih, stripBlanks, hc]

/-- A terminal that is no literal occurs among the terminals of a text as often as its character in
the text. -/
theorem count_terminals {t : Terminal} {p : Char} (ht : t.char? = some p) (text : Text) :
    (terminals text).count t = text.count p := by
  have hlit (w : Text) : Terminal.literal w ≠ t := by rintro rfl; cases ht
  induction text with
  | nil => rfl
  | cons c rest ih =>
    by_cases hcp : c = p
    · rw [hcp, terminals_char ht, List.count_cons_self, List.count_cons_self, ih]
    · rw [List.count_cons_of_ne hcp, ← ih]
      rcases char_cases c with hb | hchar | ⟨u, hu⟩
      · rw [terminals_blank hb]
      · rcases terminals_cons_literal hchar rest with he | ⟨w, later, hrest, he⟩
        · rw [he, List.count_cons_of_ne (hlit _)]
        · rw [he, hrest, List.count_cons_of_ne (hlit _), List.count_cons_of_ne (hlit _)]
      · have hne : u ≠ t := by
          rintro rfl
          exact hcp (Option.some.inj (hu.symm.trans ht))
        rw [terminals_char hu, List.count_cons_of_ne hne]

end Calculator
