import Calculator.Proofs.Conversion
import Mathlib.Data.List.Induction

/-!
# What a conversion refuses

Whether a terminal is at fault depends on the terminals in front of it alone: a parenthesis that closes
none, or an operator that meets another with nothing but parentheses between them that open there
(`Fault`). The yard sees neither, but only the end of its text and the top of its stack; that these tell
the same is the invariant `Tracks`, which every step preserves (`Tracks.step`). So a run fails just if a
terminal is at fault, with the first fault (`Tracks.read`), and a conversion else only because a parenthesis
stays open.
-/

namespace Calculator

/-! ## Faults -/

/-- Only parentheses, of which none closes one from further left. -/
def OnlyOpens (ps : List Terminal) : Prop :=
  (∀ t ∈ ps, t = .leftParen ∨ t = .rightParen) ∧
    ∀ qs, qs <+: ps → qs.count .rightParen ≤ qs.count .leftParen

/-- The terminal is at fault behind those in front of it, for the reason given. -/
inductive Fault : List Terminal → Terminal → ExpressionError → Prop
  | unopened {front : List Terminal} (balanced : front.count .leftParen = front.count .rightParen) :
      Fault front .rightParen .missingLeftParenthesis
  | adjacent {front ps : List Terminal} {p o : Operator} (between : OnlyOpens ps) :
      Fault (front ++ .operator p :: ps) (.operator o)
        (.adjacentOperators (if ps.count .rightParen < ps.count .leftParen then '(' else p.symbol) o.symbol)

/-- None of the terminals `ts` that follow `front` is at fault. -/
def Faultless (front ts : List Terminal) : Prop :=
  ∀ mid t back, ts = mid ++ t :: back → ∀ e, ¬ Fault (front ++ mid) t e

/-- Among the terminals `ts` that follow `front`, the first one at fault is so for the reason given. -/
def FirstFault (front ts : List Terminal) (e : ExpressionError) : Prop :=
  ∃ mid t back, ts = mid ++ t :: back ∧ Fault (front ++ mid) t e ∧ Faultless front mid

theorem faultless_nil (front : List Terminal) : Faultless front [] := by
  intro mid t back h
  simp at h

theorem faultless_cons {front ts : List Terminal} {t : Terminal} :
    Faultless front (t :: ts) ↔ (∀ e, ¬ Fault front t e) ∧ Faultless (front ++ [t]) ts := by
  constructor
  · intro h
    refine ⟨fun e he => h [] t ts rfl e (by simpa using he), fun mid u back hts e he => ?_⟩
    exact h (t :: mid) u back (by simp [hts]) e (by simpa using he)
  · rintro ⟨ht, h⟩ mid u back hts e he
    cases mid with
    | nil =>
      cases hts
      exact ht e (by simpa using he)
    | cons v mid =>
      cases hts
      exact h mid u back rfl e (by simpa using he)

theorem firstFault_cons {front ts : List Terminal} {t : Terminal} {e : ExpressionError} :
    FirstFault front (t :: ts) e ↔
      Fault front t e ∨ (∀ err, ¬ Fault front t err) ∧ FirstFault (front ++ [t]) ts e := by
  constructor
  · rintro ⟨mid, u, back, hts, hf, hmid⟩
    cases mid with
    | nil =>
      cases hts
      exact .inl (by simpa using hf)
    | cons v mid =>
      cases hts
      obtain ⟨hv, hmid⟩ := faultless_cons.1 hmid
      exact .inr ⟨hv, mid, u, back, rfl, by simpa using hf, hmid⟩
  · rintro (hf | ⟨ht, mid, u, back, rfl, hf, hmid⟩)
    · exact ⟨[], t, ts, rfl, by simpa using hf, faultless_nil front⟩
    · exact ⟨t :: mid, u, back, rfl, by simpa using hf, faultless_cons.2 ⟨ht, hmid⟩⟩

/-! ## The trail of an operator -/

def trailStep : Option (Operator × Nat) → Terminal → Option (Operator × Nat)
  | _, .operator op => some (op, 0)
  | some (op, n), .leftParen => some (op, n + 1)
  | some (op, n + 1), .rightParen => some (op, n)
  | _, _ => none

/-- The operator that a further one would meet behind the terminals, and how many parentheses stand open
between them. -/
def trail (ts : List Terminal) : Option (Operator × Nat) := ts.foldl trailStep none

theorem trail_append (ts : List Terminal) (t : Terminal) : trail (ts ++ [t]) = trailStep (trail ts) t := by
  simp [trail]

theorem OnlyOpens.append {ps : List Terminal} (h : OnlyOpens ps) {t : Terminal}
    (ht : t = .leftParen ∨ t = .rightParen)
    (hle : (ps ++ [t]).count .rightParen ≤ (ps ++ [t]).count .leftParen) : OnlyOpens (ps ++ [t]) := by
  refine ⟨fun u hu => ?_, fun qs hq => ?_⟩
  · rcases List.mem_append.1 hu with hu | hu
    · exact h.1 u hu
    · obtain rfl := List.mem_singleton.1 hu
      exact ht
  · rcases List.prefix_concat_iff.1 hq with rfl | hq
    · exact hle
    · exact h.2 qs hq

/-- Parentheses that only open leave the trail of the operator in front of them. -/
theorem foldl_trailStep {ps : List Terminal} (hps : ∀ t ∈ ps, t = .leftParen ∨ t = .rightParen)
    (op : Operator) (n : Nat) (h : ∀ qs, qs <+: ps → qs.count .rightParen ≤ qs.count .leftParen + n) :
    ps.foldl trailStep (some (op, n)) = some (op, ps.count .leftParen + n - ps.count .rightParen) := by
  induction ps generalizing n with
  | nil => simp
  | cons t ps ih =>
    have hps' : ∀ u ∈ ps, u = .leftParen ∨ u = .rightParen := fun u hu => hps u (by simp [hu])
    rcases hps t (by simp) with rfl | rfl
    · have := ih hps' (n + 1) fun qs hq => by
        have := h (.leftParen :: qs) (by simpa using hq)
        simp at this
        omega
      simp only [List.foldl_cons, trailStep, this]
      simp
      omega
    · have h1 := h [.rightParen] (by simp)
      obtain ⟨m, rfl⟩ : ∃ m, n = m + 1 := ⟨n - 1, by simp at h1; omega⟩
      have := ih hps' m fun qs hq => by
        have := h (.rightParen :: qs) (by simpa using hq)
        simp at this
        omega
      simp only [List.foldl_cons, trailStep, this]
      simp
      omega

theorem trail_eq_some_iff {ts : List Terminal} {op : Operator} {n : Nat} :
    trail ts = some (op, n) ↔
      ∃ front ps, ts = front ++ .operator op :: ps ∧ OnlyOpens ps ∧
        ps.count .leftParen = ps.count .rightParen + n := by
  constructor
  · intro h
    induction ts using List.reverseRecOn generalizing n with
    | nil => cases h
    | append_singleton ts t ih =>
      rw [trail_append] at h
      cases t with
      | operator o =>
        cases h
        exact ⟨ts, [], rfl, ⟨by simp, by simp⟩, by simp⟩
      | leftParen =>
        rcases ht : trail ts with _ | ⟨o, m⟩ <;> rw [ht] at h <;> cases h
        obtain ⟨front, ps, rfl, hps, hcount⟩ := ih ht
        exact ⟨front, ps ++ [.leftParen], by simp, hps.append (.inl rfl) (by simp; omega), by simp; omega⟩
      | rightParen =>
        rcases ht : trail ts with _ | ⟨o, _ | m⟩ <;> rw [ht] at h <;> cases h
        obtain ⟨front, ps, rfl, hps, hcount⟩ := ih ht
        exact ⟨front, ps ++ [.rightParen], by simp, hps.append (.inr rfl) (by simp; omega), by simp; omega⟩
      | literal w => rcases ht : trail ts with _ | ⟨o, m⟩ <;> rw [ht] at h <;> cases h
  · rintro ⟨front, ps, rfl, hps, hcount⟩
    have := foldl_trailStep hps.1 op 0 hps.2
    rw [trail, List.foldl_append, List.foldl_cons, trailStep, this]
    simp
    omega

/-- An operator is at fault just if it meets another one. -/
theorem fault_operator_iff {front : List Terminal} {o : Operator} {e : ExpressionError} :
    Fault front (.operator o) e ↔
      ∃ p n, trail front = some (p, n) ∧
        e = .adjacentOperators (if 0 < n then '(' else p.symbol) o.symbol := by
  constructor
  · intro h
    cases h with
    | @adjacent front ps p _ between =>
      have hle := between.2 ps (List.prefix_refl ps)
      obtain ⟨n, hcount⟩ := Nat.exists_eq_add_of_le hle
      have hn : 0 < n ↔ ps.count .rightParen < ps.count .leftParen := by omega
      refine ⟨p, n, trail_eq_some_iff.2 ⟨front, ps, rfl, between, hcount⟩, ?_⟩
      simp only [hn]
  · rintro ⟨p, n, ht, rfl⟩
    obtain ⟨front, ps, rfl, hps, hcount⟩ := trail_eq_some_iff.1 ht
    have hn : 0 < n ↔ ps.count .rightParen < ps.count .leftParen := by omega
    simpa only [hn] using Fault.adjacent hps

/-! ## What the yard knows -/

namespace Yard

/-- The end of the text and the top of the stack tell of a trail: there is a blank at the end just if there
is a trail, and then the parentheses that stand open lie on its operator. -/
def Shows (y : Yard) : Option (Operator × Nat) → Prop
  | none => y.endsBlank = false
  | some (op, n) =>
    y.endsBlank = true ∧ ∃ below, y.stack = List.replicate n .leftParen ++ .operator op :: below

/-- The yard is in step with the terminals that it has read. -/
structure Tracks (front : List Terminal) (y : Yard) : Prop where
  depth : y.outer.length + front.count .rightParen = front.count .leftParen
  shows : y.Shows (trail front)

theorem tracks_nil : Tracks [] {} := ⟨rfl, rfl⟩

theorem stack_enter (y : Yard) : y.enter.stack = .leftParen :: y.stack := rfl

theorem stack_hold (y : Yard) (op : Operator) : (y.hold op).stack = .operator op :: y.stack := rfl

theorem stack_leave {y : Yard} (hy : y.level = []) {level : List Operator} {outer : List (List Operator)}
    (ho : y.outer = level :: outer) : y.stack = .leftParen :: (y.leave level outer).stack := by
  simp [stack, leave, hy, ho, entries]

theorem level_of_stack_leftParen {y : Yard} {below : List Entry} (h : y.stack = .leftParen :: below) :
    y.level = [] := by
  obtain ⟨level, outer, written⟩ := y
  cases level with
  | nil => rfl
  | cons op level => simp [stack, entries] at h

theorem level_of_stack_operator {y : Yard} {op : Operator} {below : List Entry}
    (h : y.stack = .operator op :: below) : ∃ level, y.level = op :: level := by
  obtain ⟨level, outer, written⟩ := y
  cases level with
  | nil => cases outer <;> simp [stack, entries] at h
  | cons o level =>
    simp only [stack, entries, List.map_cons, List.cons_append, List.cons.injEq, Entry.operator.injEq] at h
    exact ⟨level, by rw [h.1]⟩

/-- Writing what waits leaves no blank at the end, unless nothing waits. -/
theorem endsBlank_drain_cons {y : Yard} {op : Operator} {level : List Operator} (h : y.level = op :: level) :
    y.drain.endsBlank = false := by
  have : y.drain.written = ((y.emit op).emitAll level).written := by rw [drain, h]; rfl
  rw [endsBlank, this]
  exact endsBlank_emitAll (endsBlank_emit y op) level

theorem adjacency?_of_shows {y : Yard} {trail : Option (Operator × Nat)} (h : y.Shows trail) (o : Operator) :
    y.adjacency? o =
      trail.map fun (p, n) => .adjacentOperators (if 0 < n then '(' else p.symbol) o.symbol := by
  rcases trail with _ | ⟨p, n⟩
  · exact adjacency?_of_not_endsBlank h o
  · obtain ⟨hblank, below, hstack⟩ := h
    cases n <;> simp [adjacency?, hblank, hstack, Entry.symbol, List.replicate_succ]

/-! ## Every step keeps in step -/

variable {front : List Terminal} {y : Yard}

theorem Tracks.write (h : Tracks front y) {w : Text} (hw : IsLiteral w) :
    Tracks (front ++ [.literal w]) (y.write w) := by
  refine ⟨by simpa [Yard.write] using h.depth, ?_⟩
  rw [trail_append]
  rcases trail front with _ | ⟨p, n⟩ <;> exact endsBlank_write hw y

theorem Tracks.enter (h : Tracks front y) : Tracks (front ++ [.leftParen]) y.enter := by
  have hd := h.depth
  refine ⟨by simp [Yard.enter]; omega, ?_⟩
  have hs := h.shows
  rw [trail_append]
  rcases htr : trail front with _ | ⟨p, n⟩ <;> rw [htr] at hs
  · exact hs
  · obtain ⟨hblank, below, hstack⟩ := hs
    exact ⟨hblank, below, by rw [stack_enter, hstack]; rfl⟩

theorem Tracks.leave (h : Tracks front y) {level : List Operator} {outer : List (List Operator)}
    (ho : y.outer = level :: outer) : Tracks (front ++ [.rightParen]) (y.leave level outer) := by
  have hd := h.depth
  rw [ho, List.length_cons] at hd
  refine ⟨by simp [Yard.leave]; omega, ?_⟩
  have hs := h.shows
  rw [trail_append]
  rcases htr : trail front with _ | ⟨p, _ | n⟩ <;> rw [htr] at hs
  · exact endsBlank_drain hs
  · -- the operator waits in the level that closes, so that it is written now
    obtain ⟨-, below, hstack⟩ := hs
    obtain ⟨rest, hlevel⟩ := level_of_stack_operator hstack
    exact endsBlank_drain_cons hlevel
  · -- only a parenthesis lies on top, and nothing is written
    obtain ⟨hblank, below, hstack⟩ := hs
    have hlevel := level_of_stack_leftParen hstack
    refine ⟨?_, below, ?_⟩
    · simpa [endsBlank, Yard.leave, drain, hlevel, emitAll] using hblank
    · rw [stack_leave hlevel ho] at hstack
      exact (List.cons.inj hstack).2

theorem Tracks.place (h : Tracks front y) (op : Operator) :
    Tracks (front ++ [.operator op]) (y.place op) := by
  refine ⟨by simpa [Yard.place] using h.depth, ?_⟩
  rw [trail_append]
  refine ⟨rfl, (y.settle op.precedence).stack, ?_⟩
  rw [place_eq, stack_hold]
  rfl

/-- One step: it fails just if the terminal is at fault, for that reason, and else the yard stays in step
with what it has read. -/
theorem Tracks.step (h : Tracks front y) {t : Terminal} (ht : ∀ w, t = .literal w → IsLiteral w) :
    (∃ z, y.step t = ⟨none, z⟩ ∧ Tracks (front ++ [t]) z ∧ ∀ e, ¬ Fault front t e) ∨
      ∃ e, (y.step t).error? = some e ∧ ∀ err, Fault front t err ↔ err = e := by
  cases t with
  | literal w => exact .inl ⟨_, step_literal y w, h.write (ht w rfl), fun e he => nomatch he⟩
  | leftParen => exact .inl ⟨_, step_leftParen y, h.enter, fun e he => nomatch he⟩
  | rightParen =>
    have hd := h.depth
    cases ho : y.outer with
    | nil =>
      rw [ho, List.length_nil] at hd
      refine .inr ⟨.missingLeftParenthesis, by rw [step_rightParen_nil ho], fun err => ?_⟩
      exact ⟨by rintro ⟨⟩; rfl, by rintro rfl; exact .unopened (by omega)⟩
    | cons level outer =>
      rw [ho, List.length_cons] at hd
      refine .inl ⟨_, step_rightParen_cons ho, h.leave ho, ?_⟩
      rintro e ⟨hbal⟩
      omega
  | operator o =>
    have hadj := adjacency?_of_shows h.shows o
    simp only [fault_operator_iff]
    rcases htr : trail front with _ | ⟨p, n⟩ <;> rw [htr] at hadj
    · exact .inl ⟨_, step_operator_none hadj, h.place o, by simp⟩
    · exact .inr ⟨_, by rw [step_operator_some hadj], by simp⟩

/-! ## Runs -/

/-- A run: it fails just if a terminal is at fault, with the first fault; without one it ends in step with
what it has read. -/
theorem Tracks.read (h : Tracks front y) {ts : List Terminal} (hts : ∀ w, .literal w ∈ ts → IsLiteral w) :
    (∃ z, y.read ts = .ok z ∧ Tracks (front ++ ts) z ∧ Faultless front ts) ∨
      ∃ e, y.read ts = .error e ∧ ∀ err, FirstFault front ts err ↔ err = e := by
  induction ts generalizing front y with
  | nil => exact .inl ⟨y, rfl, by simpa using h, faultless_nil front⟩
  | cons t ts ih =>
    have ht : ∀ w, t = .literal w → IsLiteral w := fun w hw => hts w (by simp [hw])
    have hts' : ∀ w, .literal w ∈ ts → IsLiteral w := fun w hw => hts w (by simp [hw])
    rcases h.step ht with ⟨z, hstep, hz, hok⟩ | ⟨e, hstep, hf⟩
    · rw [read_cons_of_ok hstep]
      rcases ih hz hts' with ⟨x, hx, hfront, hclean⟩ | ⟨e, he, hf⟩
      · exact .inl ⟨x, hx, by simpa using hfront, faultless_cons.2 ⟨hok, hclean⟩⟩
      · refine .inr ⟨e, he, fun err => ?_⟩
        rw [firstFault_cons, hf]
        exact ⟨fun hor => hor.elim (fun hbad => absurd hbad (hok err)) (·.2), fun herr => .inr ⟨hok, herr⟩⟩
    · refine .inr ⟨e, read_cons_of_error hstep ts, fun err => ?_⟩
      rw [firstFault_cons, hf]
      exact ⟨fun hor => hor.elim id fun hno => absurd ((hf e).2 rfl) (hno.1 e), .inl⟩

end Yard

theorem not_firstFault_of_faultless {front ts : List Terminal} (h : Faultless front ts) (e : ExpressionError) :
    ¬ FirstFault front ts e := by
  rintro ⟨mid, t, back, hts, hf, -⟩
  exact h mid t back hts e hf

theorem not_faultless_of_firstFault {front ts : List Terminal} {e : ExpressionError}
    (h : FirstFault front ts e) : ¬ Faultless front ts :=
  fun hclean => not_firstFault_of_faultless hclean e h

theorem Fault.ne_emptyExpression {front : List Terminal} {t : Terminal} {e : ExpressionError}
    (h : Fault front t e) : e ≠ .emptyExpression := by
  cases h <;> simp

theorem FirstFault.ne_emptyExpression {front ts : List Terminal} {e : ExpressionError}
    (h : FirstFault front ts e) : e ≠ .emptyExpression := by
  obtain ⟨mid, t, back, -, hf, -⟩ := h
  exact hf.ne_emptyExpression

/-- Conversions, sorted by what they come to. A blank text alone has an empty expression. In any other text
the first terminal at fault decides; without a fault the conversion fails just if more parentheses
open than close. -/
theorem toPostfix_classified (source : Text) :
    (toPostfix source = .error .emptyExpression ↔ isBlankText source = true) ∧
    (isBlankText source = false → ∀ e, toPostfix source = .error e ↔
      FirstFault [] (terminals source) e ∨
        Faultless [] (terminals source) ∧ source.count ')' < source.count '(' ∧ e = .missingRightParenthesis) ∧
    ((∃ text, toPostfix source = .ok text) ↔
      isBlankText source = false ∧ Faultless [] (terminals source) ∧ source.count '(' ≤ source.count ')') := by
  rw [← count_terminals (t := .leftParen) rfl, ← count_terminals (t := .rightParen) rfl]
  cases hb : isBlankText source with
  | true => simp [toPostfix, hb]
  | false =>
    rw [toPostfix_eq_read hb]
    rcases Yard.tracks_nil.read (isLiteral_of_mem_terminals source) with ⟨z, hz, htr, hclean⟩ | ⟨e, he, hf⟩
    · have hdepth := htr.depth
      have hno := not_firstFault_of_faultless hclean
      rw [List.nil_append] at hdepth
      cases hout : z.outer with
      | nil =>
        rw [hout, List.length_nil] at hdepth
        have heven : (terminals source).count .leftParen = (terminals source).count .rightParen := by omega
        simp [hz, Yard.finish, hout, hno, hclean, heven]
      | cons level outer =>
        rw [hout, List.length_cons] at hdepth
        have hopen : (terminals source).count .rightParen < (terminals source).count .leftParen := by omega
        simp [hz, Yard.finish, hout, hno, hclean, hopen, eq_comm]
    · have hbad := (hf e).2 rfl
      have hne := hbad.ne_emptyExpression
      have hnot := not_faultless_of_firstFault hbad
      simp [he, hf, hne, hnot, eq_comm]

/-- A parenthesis that opens in between is named in place of the operator in front of it. -/
example : toPostfix ['1', '+', '(', '*', '2', ')'] = .error (.adjacentOperators '(' '*') := rfl

end Calculator
