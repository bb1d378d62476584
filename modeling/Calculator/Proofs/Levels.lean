import Calculator.Proofs.FailedFeeds

/-!
# The levels of the stack

The parentheses on the stack part the operators that wait into levels. In each of them every operator binds tighter
than the one below it: an operator that comes is put on top only when all that binds as tightly has left
(`Tightens.cons_filter`). So a level holds four operators at most, and what an operator leaves behind in its level is
just what binds looser. Neither an operator nor a parenthesis that closes reaches below the topmost parenthesis. Main
statement: this holds however a yard has been fed, errors included (`stack_tightens`).
-/

namespace Calculator

namespace Yard

variable {y : Yard} {t : Token} {ops level : List Operator} {outer : List (List Operator)}

/-! ## Levels in which each operator binds tighter -/

/-- Each operator of the level binds tighter than those below it. -/
def Tightens (level : List Operator) : Prop :=
  level.Pairwise fun upper lower => lower.precedence < upper.precedence

theorem tightens_nil : Tightens [] := .nil

/-- There is one tier for each operator, and each tier has room for one. -/
theorem Tightens.length_le_of_le (h : Tightens level) {k : Nat} (hk : ∀ op ∈ level, op.precedence ≤ k) :
    level.length ≤ k := by
  induction level generalizing k with
  | nil => exact Nat.zero_le k
  | cons op level ih =>
    obtain ⟨hop, hlevel⟩ := List.pairwise_cons.1 h
    have hpos : 1 ≤ op.precedence := by cases op <;> decide
    have hle : op.precedence ≤ k := hk op (by simp)
    have hlength : level.length ≤ op.precedence - 1 := ih hlevel fun o ho => by
      have := hop o ho
      omega
    rw [List.length_cons]
    omega

theorem Tightens.length_le (h : Tightens level) : level.length ≤ 4 :=
  h.length_le_of_le fun op _ => by cases op <;> decide

/-- What is left below the operators that are due is all that binds looser. -/
theorem Tightens.dropWhile_eq_filter (h : Tightens level) (k : Nat) :
    level.dropWhile (k ≤ ·.precedence) = level.filter (·.precedence < k) := by
  induction level with
  | nil => rfl
  | cons op level ih =>
    obtain ⟨hop, hlevel⟩ := List.pairwise_cons.1 h
    by_cases hk : k ≤ op.precedence
    · have hnot : ¬ op.precedence < k := Nat.not_lt.2 hk
      rw [List.dropWhile_cons_of_pos (by simpa using hk), List.filter_cons_of_neg (by simpa using hnot), ih hlevel]
    · have hall : ∀ o ∈ op :: level, o.precedence < k := by
        intro o ho
        rcases List.mem_cons.1 ho with rfl | ho
        · omega
        · have := hop o ho
          omega
      rw [List.dropWhile_cons_of_neg (by simpa using hk), List.filter_eq_self.2 fun o ho => by simpa using hall o ho]

theorem Tightens.cons_filter (h : Tightens level) (op : Operator) :
    Tightens (op :: level.filter (·.precedence < op.precedence)) := by
  refine List.pairwise_cons.2 ⟨fun o ho => ?_, List.Pairwise.filter _ h⟩
  simpa using (List.mem_filter.1 ho).2

/-! ## Every level of a yard -/

/-- In every level of the yard each operator binds tighter than those below it. -/
def Graded (y : Yard) : Prop := ∀ level ∈ y.level :: y.outer, Tightens level

theorem graded_start : Graded {} := by
  intro level hlevel
  obtain rfl := List.mem_singleton.1 hlevel
  exact tightens_nil

theorem Graded.innermost (h : y.Graded) : Tightens y.level := h _ (by simp)

theorem Graded.level_place (h : y.Graded) (op : Operator) :
    (y.place op).level = op :: y.level.filter (·.precedence < op.precedence) := by
  rw [Yard.place, h.innermost.dropWhile_eq_filter]

theorem Graded.enter (h : y.Graded) : y.enter.Graded := by
  intro level hlevel
  rcases List.mem_cons.1 hlevel with rfl | hlevel
  · exact tightens_nil
  · exact h level hlevel

theorem Graded.drain (h : y.Graded) : y.drain.Graded := by
  intro level hlevel
  rcases List.mem_cons.1 hlevel with rfl | hlevel
  · exact tightens_nil
  · rw [Yard.drain, outer_emitAll] at hlevel
    exact h level (List.mem_cons_of_mem _ hlevel)

theorem Graded.leave (h : y.Graded) (inside : y.outer = level :: outer) : (y.leave level outer).Graded := by
  intro l hl
  refine h l (List.mem_cons_of_mem _ ?_)
  rw [inside]
  exact hl

theorem Graded.place (h : y.Graded) (op : Operator) : (y.place op).Graded := by
  intro level hlevel
  rcases List.mem_cons.1 hlevel with rfl | hlevel
  · rw [h.level_place]
    exact h.innermost.cons_filter op
  · exact h level (List.mem_cons_of_mem _ hlevel)

/-- One token: whatever it comes to, the levels stay graded. -/
theorem Graded.feed (h : y.Graded) (t : Token) : (y.feed t).yard.Graded := by
  cases hkind : t.kind with
  | literal =>
    rw [y.feed_of_literal hkind]
    exact h
  | leftParen =>
    rw [y.feed_of_leftParen hkind]
    exact h.enter
  | rightParen =>
    cases houter : y.outer with
    | nil =>
      rw [feed_of_rightParen_nil hkind houter]
      exact h.drain
    | cons level outer =>
      rw [feed_of_rightParen_cons hkind houter]
      exact h.leave houter
  | operator op =>
    cases hadj : y.adjacency? op with
    | none =>
      rw [feed_of_operator_none hkind hadj]
      exact h.place op
    | some e =>
      rw [feed_of_operator_some hkind hadj]
      exact h

/-- Any tokens, whatever becomes of them. -/
theorem Graded.feedThrough (h : y.Graded) (ts : List Token) : (y.feedThrough ts).Graded := by
  induction ts generalizing y with
  | nil => exact h
  | cons t ts ih => exact ih (h.feed t)

/-! ## The levels on the stack -/

/-- Consecutive entries of which none is a parenthesis lie on one side of any parenthesis. -/
theorem infix_of_leftParen_notMem {run above below : List Entry} (hrun : .leftParen ∉ run)
    (h : run <:+: above ++ .leftParen :: below) : run <:+: above ∨ run <:+: below := by
  have hempty {l : List Entry} (hl : .leftParen ∉ l) (hpre : l <+: .leftParen :: below) : l = [] := by
    rcases List.prefix_cons_iff.1 hpre with rfl | ⟨later, rfl, -⟩
    · rfl
    · simp at hl
  rcases List.infix_append_iff.1 h with habove | hbelow | ⟨upper, lower, rfl, hupper, hlower⟩
  · exact .inl habove
  · rcases List.infix_cons_iff.1 hbelow with hpre | hbelow
    · rw [hempty hrun hpre]
      exact .inl List.nil_infix
    · exact .inr hbelow
  · rw [List.mem_append, not_or] at hrun
    rw [hempty hrun.2 hlower, List.append_nil]
    exact .inl hupper.isInfix

theorem infix_of_entries (h : entries ops <:+: entries level) : ops <:+: level := by
  obtain ⟨run, hrun, heq⟩ := List.infix_map_iff.1 h
  rwa [(List.map_inj_right fun _ _ => Entry.operator.inj).1 heq]

/-- Operators that lie on the stack with no parenthesis among them lie in one level. -/
theorem exists_level_of_infix (y : Yard) (h : entries ops <:+: y.stack) :
    ∃ level ∈ y.level :: y.outer, ops <:+: level := by
  induction houter : y.outer generalizing y with
  | nil =>
    rw [stack_eq_of_outer_nil houter] at h
    exact ⟨y.level, by simp, infix_of_entries h⟩
  | cons level outer ih =>
    rw [stack_eq_of_outer_cons houter] at h
    rcases infix_of_leftParen_notMem (leftParen_notMem_entries ops) h with h | h
    · exact ⟨y.level, by simp, infix_of_entries h⟩
    · obtain ⟨found, hfound, hops⟩ := ih (y.leave level outer) h rfl
      exact ⟨found, List.mem_cons_of_mem _ hfound, hops⟩

theorem Graded.tightens (h : y.Graded) (hops : entries ops <:+: y.stack) : Tightens ops := by
  obtain ⟨level, hlevel, hsub⟩ := y.exists_level_of_infix hops
  exact List.Pairwise.sublist hsub.sublist (h level hlevel)

/-- Each parenthesis counts for itself and for the four operators that its level has room for. -/
theorem Graded.length_stack_le (h : y.Graded) : y.stack.length ≤ 5 * y.stack.count .leftParen + 4 := by
  have hnone (level : List Operator) : (entries level).count .leftParen = 0 :=
    List.count_eq_zero.2 (leftParen_notMem_entries level)
  induction houter : y.outer generalizing y with
  | nil =>
    have hlevel := h.innermost.length_le
    rw [stack_eq_of_outer_nil houter, hnone, entries, List.length_map]
    omega
  | cons level outer ih =>
    have hlevel := h.innermost.length_le
    have hbelow := ih (h.leave houter) rfl
    rw [stack_eq_of_outer_cons houter, List.length_append, List.length_cons, List.count_append, hnone,
      List.count_cons_self, entries, List.length_map]
    omega

/-! ## Below the topmost parenthesis -/

/-- An operator changes nothing from the topmost parenthesis downwards, and comes upon what binds looser. -/
theorem Graded.stack_feed_operator (h : y.Graded) {op : Operator} (hkind : t.kind = .operator op) :
    ∃ kept, (y.feed t).yard.stack = entries kept ++ (y.outer.flatMap fun level => .leftParen :: entries level) ∧
      ((y.feed t).error? = none → kept = op :: y.level.filter (·.precedence < op.precedence)) := by
  cases hadj : y.adjacency? op with
  | none =>
    rw [feed_of_operator_none hkind hadj]
    exact ⟨(y.place op).level, rfl, fun _ => h.level_place op⟩
  | some e =>
    rw [feed_of_operator_some hkind hadj]
    exact ⟨y.level, rfl, fun hok => nomatch hok⟩

/-- However a yard has been fed so far: where operators lie on the stack with no parenthesis among them, each binds
tighter than the one below it, so that they are four at most, and five entries for each open parenthesis and four more
are the most that the stack holds. The stack parts above the topmost parenthesis: an operator leaves all from there
downwards as it is, and if it is placed, it comes upon those operators above that bind looser; a parenthesis that closes
one takes that one off and all above it, whose operators are written from the top down. -/
theorem stack_tightens (ts : List Token) :
    let y := ({} : Yard).feedThrough ts
    (∀ ops, entries ops <:+: y.stack →
      ops.Pairwise (fun upper lower => lower.precedence < upper.precedence) ∧ ops.length ≤ 4) ∧
    y.stack.length ≤ 5 * y.stack.count .leftParen + 4 ∧
    ∃ ops around, y.stack = entries ops ++ around ∧ (∀ e ∈ around.head?, e = .leftParen) ∧
      (∀ t op, t.kind = .operator op → ∃ kept, (y.feed t).yard.stack = entries kept ++ around ∧
        ((y.feed t).error? = none → kept = op :: ops.filter (·.precedence < op.precedence))) ∧
      ∀ t, t.kind = .rightParen → (y.feed t).error? = none → ∃ below, around = .leftParen :: below ∧
        (y.feed t).yard.stack = below ∧
        (y.feed t).yard.output = y.output ++ ops.flatMap fun op => [' ', op.symbol] := by
  intro y
  have hgraded : y.Graded := graded_start.feedThrough ts
  refine ⟨fun ops hops => ?_, hgraded.length_stack_le, y.level, _, rfl, ?_, fun t op hkind => ?_, fun t hkind hok => ?_⟩
  · have htight := hgraded.tightens hops
    exact ⟨htight, htight.length_le⟩
  · cases y.outer with
    | nil => simp
    | cons level outer => simp
  · exact hgraded.stack_feed_operator hkind
  · cases houter : y.outer with
    | nil =>
      rw [feed_of_rightParen_nil hkind houter] at hok
      cases hok
    | cons level outer =>
      rw [feed_of_rightParen_cons hkind houter]
      exact ⟨_, rfl, rfl, output_drain y⟩

/-- `1-2+3/4*(5-6+7/8*` fills both of its levels. -/
example : (({} : Yard).feedThrough (tokens ['1', '-', '2', '+', '3', '/', '4', '*', '(', '5', '-', '6', '+', '7', '/',
    '8', '*'])).stack.length = 9 :=
  rfl

end Yard

end Calculator
