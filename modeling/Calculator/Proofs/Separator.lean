import Calculator.Proofs.Faults
import Calculator.Proofs.Levels

/-!
# The blank at the end

A yard finds out that two operators are adjacent by a blank at the end of its text. Such a blank marks an operator
that dangles: the latest that has been placed, with no literal behind it, which still waits, under parentheses at most.
To say which operator on the stack that is, every entry is numbered by the token that has brought it (`numbered`);
without its numbers this is the stack of the yard (`map_fst_numbered`). Main statement: however a yard has been fed,
errors included, its text ends with a blank just while an operator dangles that still waits, then every operator is
refused, and a text that has been drained does not end with a blank (`blank_marks_dangling`).
-/

namespace Calculator

/-- A literal has a last character, and it is no blank. -/
def Token.EndsVisibly (t : Token) : Prop := t.kind = .literal → t.lexeme ≠ [] ∧ t.lexeme.getLast? ≠ some ' '

theorem endsVisibly_of_mem_tokens {source : Text} {t : Token} (ht : t ∈ tokens source) : t.EndsVisibly := by
  intro hkind
  have hterminal : t.terminal = .literal t.lexeme := by simp only [Token.terminal, hkind]
  have hmem : .literal t.lexeme ∈ terminals source := by
    rw [← hterminal]
    exact List.mem_map_of_mem ht
  obtain ⟨hne, hchars⟩ := isLiteral_of_mem_terminals source _ hmem
  refine ⟨hne, fun hlast => ?_⟩
  have hblank := (hchars ' ' (List.mem_of_getLast? hlast)).1
  rw [isBlank_space] at hblank
  cases hblank

namespace Yard

variable {y : Yard} {t : Token} {ts : List Token} {stack : List (Entry × Nat)} {i j : Nat}

/-! ## Entries by number -/

/-- The kind of the tokens that bring such an entry. -/
def Entry.kind : Entry → Token.Kind
  | .operator op => .operator op
  | .leftParen => .leftParen

/-- The entry has to leave before an operator of precedence `k` may wait; of precedence 1, every operator has to. -/
def Entry.isDue (k : Nat) : Entry → Bool
  | .operator op => k ≤ op.precedence
  | .leftParen => false

theorem isDue_one (op : Operator) : (Entry.operator op).isDue 1 = true := by
  cases op <;> rfl

/-- What token number `n` makes of a stack with numbers, where `error?` is what it comes to. An operator that is refused
changes nothing; a parenthesis that closes takes the operators off and the parenthesis below them, if there is one. -/
def renumber (n : Nat) (t : Token) (error? : Option ExpressionError) (stack : List (Entry × Nat)) :
    List (Entry × Nat) :=
  match t.kind, error? with
  | .operator op, none => (.operator op, n) :: stack.dropWhile (·.1.isDue op.precedence)
  | .operator _, some _ => stack
  | .leftParen, _ => (.leftParen, n) :: stack
  | .rightParen, _ => (stack.dropWhile (·.1.isDue 1)).tail
  | .literal, _ => stack

def numberedFrom (y : Yard) (n : Nat) (stack : List (Entry × Nat)) : List Token → List (Entry × Nat)
  | [] => stack
  | t :: later => (y.feed t).yard.numberedFrom (n + 1) (renumber n t (y.feed t).error? stack) later

/-- The stack behind tokens that are fed one after the other, the topmost entry first, each entry with the number of
the token that has brought it. -/
def numbered (ts : List Token) : List (Entry × Nat) := ({} : Yard).numberedFrom 0 [] ts

theorem numberedFrom_concat (y : Yard) (n : Nat) (stack : List (Entry × Nat)) (ts : List Token) (t : Token) :
    y.numberedFrom n stack (ts ++ [t]) =
      renumber (n + ts.length) t ((y.feedThrough ts).feed t).error? (y.numberedFrom n stack ts) := by
  induction ts generalizing y n stack with
  | nil => rfl
  | cons u ts ih =>
    rw [List.cons_append, numberedFrom, ih, List.length_cons, Nat.add_right_comm]
    rfl

theorem numbered_concat (ts : List Token) (t : Token) :
    numbered (ts ++ [t]) = renumber ts.length t ((({} : Yard).feedThrough ts).feed t).error? (numbered ts) := by
  rw [numbered, numberedFrom_concat, Nat.zero_add]
  rfl

/-- Settling takes the entries off that are due. -/
theorem stack_settle (y : Yard) (k : Nat) : (y.settle k).stack = y.stack.dropWhile (·.isDue k) := by
  obtain ⟨level, outer, written⟩ := y
  induction level generalizing written with
  | nil => cases outer <;> rfl
  | cons op level ih =>
    by_cases hk : k ≤ op.precedence
    · rw [settle_cons rfl hk]
      exact (ih _).trans (by simp [Yard.stack, entries, Entry.isDue, hk])
    · rw [settle_of_lt (by simpa using hk)]
      simp [Yard.stack, entries, Entry.isDue, hk]

theorem stack_place (y : Yard) (op : Operator) :
    (y.place op).stack = .operator op :: y.stack.dropWhile (·.isDue op.precedence) := by
  rw [place_eq, stack_hold, stack_settle]

theorem stack_feed_rightParen (y : Yard) (hkind : t.kind = .rightParen) :
    (y.feed t).yard.stack = (y.stack.dropWhile (·.isDue 1)).tail := by
  rw [← stack_settle, settle_one]
  cases houter : y.outer with
  | nil =>
    rw [feed_of_rightParen_nil hkind houter]
    simp [Yard.stack, drain, entries, houter]
  | cons level outer =>
    rw [feed_of_rightParen_cons hkind houter]
    simp [Yard.stack, drain, leave, entries, houter]

theorem map_dropWhile_isDue (k : Nat) (stack : List (Entry × Nat)) :
    (stack.dropWhile (·.1.isDue k)).map Prod.fst = (stack.map Prod.fst).dropWhile (·.isDue k) := by
  rw [List.dropWhile_map]
  rfl

theorem tail_dropWhile_sublist (stack : List (Entry × Nat)) :
    (stack.dropWhile (·.1.isDue 1)).tail.Sublist stack :=
  (List.tail_sublist _).trans (List.dropWhile_sublist _)

/-- Without the numbers it is the stack of the yard: one token. -/
theorem map_fst_renumber (h : stack.map Prod.fst = y.stack) (n : Nat) (t : Token) :
    (renumber n t (y.feed t).error? stack).map Prod.fst = (y.feed t).yard.stack := by
  cases hkind : t.kind with
  | literal =>
    rw [y.feed_of_literal hkind]
    simp only [renumber, hkind]
    exact h
  | leftParen =>
    rw [y.feed_of_leftParen hkind, stack_enter, ← h]
    simp only [renumber, hkind, List.map_cons]
  | rightParen =>
    rw [y.stack_feed_rightParen hkind, ← h, ← map_dropWhile_isDue, ← List.map_tail]
    simp only [renumber, hkind]
  | operator op =>
    cases hadj : y.adjacency? op with
    | none =>
      rw [feed_of_operator_none hkind hadj, stack_place, ← h, ← map_dropWhile_isDue]
      simp only [renumber, hkind, List.map_cons]
    | some e =>
      rw [feed_of_operator_some hkind hadj]
      simpa only [renumber, hkind] using h

/-- Any tokens. -/
theorem map_fst_numbered (ts : List Token) : (numbered ts).map Prod.fst = (({} : Yard).feedThrough ts).stack := by
  induction ts using List.reverseRecOn with
  | nil => rfl
  | append_singleton ts t ih => rw [numbered_concat, feedThrough_concat, map_fst_renumber ih]

/-- Each number is that of a token that brings such an entry, and from the top down the numbers become smaller. -/
structure Numbers (ts : List Token) (stack : List (Entry × Nat)) : Prop where
  ordered : stack.Pairwise fun upper lower => lower.2 < upper.2
  named : ∀ e ∈ stack, ∃ t, ts[e.2]? = some t ∧ t.kind = e.1.kind

theorem Numbers.lt_length (h : Numbers ts stack) {e : Entry × Nat} (he : e ∈ stack) : e.2 < ts.length := by
  obtain ⟨u, hu, -⟩ := h.named e he
  exact (List.getElem?_eq_some_iff.1 hu).1

/-- What is left on the stack keeps its numbers. -/
theorem Numbers.keep (h : Numbers ts stack) {kept : List (Entry × Nat)} (hsub : kept.Sublist stack) (t : Token) :
    Numbers (ts ++ [t]) kept := by
  refine ⟨h.ordered.sublist hsub, fun e he => ?_⟩
  obtain ⟨u, hu, hkind⟩ := h.named e (hsub.subset he)
  exact ⟨u, by rw [List.getElem?_append_left (h.lt_length (hsub.subset he)), hu], hkind⟩

/-- A new entry has the greatest number so far. -/
theorem Numbers.push (h : Numbers ts stack) {kept : List (Entry × Nat)} (hsub : kept.Sublist stack) {e : Entry}
    (hkind : t.kind = e.kind) : Numbers (ts ++ [t]) ((e, ts.length) :: kept) := by
  refine ⟨List.pairwise_cons.2 ⟨fun o ho => h.lt_length (hsub.subset ho), h.ordered.sublist hsub⟩, fun o ho => ?_⟩
  rcases List.mem_cons.1 ho with rfl | ho
  · exact ⟨t, by simp, hkind⟩
  · exact (h.keep hsub t).named o ho

theorem Numbers.renumber (h : Numbers ts stack) (t : Token) (error? : Option ExpressionError) :
    Numbers (ts ++ [t]) (renumber ts.length t error? stack) := by
  cases hkind : t.kind with
  | literal =>
    simp only [Yard.renumber, hkind]
    exact h.keep (List.Sublist.refl _) t
  | leftParen =>
    simp only [Yard.renumber, hkind]
    exact h.push (List.Sublist.refl _) hkind
  | rightParen =>
    simp only [Yard.renumber, hkind]
    exact h.keep (tail_dropWhile_sublist stack) t
  | operator op =>
    cases error? with
    | none =>
      simp only [Yard.renumber, hkind]
      exact h.push (List.dropWhile_sublist _) hkind
    | some e =>
      simp only [Yard.renumber, hkind]
      exact h.keep (List.Sublist.refl _) t

theorem numbers_numbered (ts : List Token) : Numbers ts (numbered ts) := by
  induction ts using List.reverseRecOn with
  | nil => exact ⟨.nil, by simp [numbered, numberedFrom]⟩
  | append_singleton ts t ih =>
    rw [numbered_concat]
    exact ih.renumber t _

/-! ## The operator that dangles -/

/-- Token number `i` is an operator, and it has been placed. -/
def Placed (ts : List Token) (i : Nat) : Prop :=
  ∃ t op, ts[i]? = some t ∧ t.kind = .operator op ∧ ((({} : Yard).feedThrough (ts.take i)).feed t).error? = none

/-- Token number `i` is the latest operator that has been placed, and no literal has come since. -/
structure Dangling (ts : List Token) (i : Nat) : Prop where
  placed : Placed ts i
  latest : ∀ j, i < j → ¬ Placed ts j
  bare : ∀ t ∈ ts.drop (i + 1), t.kind ≠ .literal

theorem Placed.lt_length (h : Placed ts i) : i < ts.length := by
  obtain ⟨t, -, ht, -⟩ := h
  exact (List.getElem?_eq_some_iff.1 ht).1

/-- The latest operator is a single one. -/
theorem Dangling.unique (hi : Dangling ts i) (hj : Dangling ts j) : i = j := by
  rcases Nat.lt_trichotomy i j with hlt | rfl | hlt
  · exact absurd hj.placed (hi.latest j hlt)
  · rfl
  · exact absurd hi.placed (hj.latest i hlt)

theorem placed_concat_of_lt (h : i < ts.length) : Placed (ts ++ [t]) i ↔ Placed ts i := by
  rw [Placed, Placed, List.getElem?_append_left h, List.take_append_of_le_length (Nat.le_of_lt h)]

theorem placed_concat_length :
    Placed (ts ++ [t]) ts.length ↔
      ∃ op, t.kind = .operator op ∧ ((({} : Yard).feedThrough ts).feed t).error? = none := by
  simp [Placed]

theorem not_placed_of_kind (h : ∀ op, t.kind ≠ .operator op) : ¬ Placed (ts ++ [t]) ts.length := by
  intro hplaced
  obtain ⟨op, hop, -⟩ := placed_concat_length.1 hplaced
  exact h op hop

theorem le_length_of_placed_concat (h : Placed (ts ++ [t]) i) : i ≤ ts.length := by
  have hlt := h.lt_length
  rw [List.length_append, List.length_singleton] at hlt
  exact Nat.le_of_lt_succ hlt

theorem dangling_of_placed (h : Placed (ts ++ [t]) ts.length) : Dangling (ts ++ [t]) ts.length :=
  ⟨h, fun _ hj hplaced => Nat.not_le.2 hj (le_length_of_placed_concat hplaced), by simp⟩

/-- A token that is no literal leaves the operator dangling, unless it is an operator that is placed. -/
theorem dangling_concat_iff (hnot : ¬ Placed (ts ++ [t]) ts.length) (hkind : t.kind ≠ .literal) :
    Dangling (ts ++ [t]) i ↔ Dangling ts i := by
  have hbare (hlt : i < ts.length) :
      (∀ u ∈ (ts ++ [t]).drop (i + 1), u.kind ≠ .literal) ↔ ∀ u ∈ ts.drop (i + 1), u.kind ≠ .literal := by
    rw [List.drop_append_of_le_length hlt, List.forall_mem_append, List.forall_mem_singleton, and_iff_left hkind]
  constructor
  · intro h
    have hne : i ≠ ts.length := by
      rintro rfl
      exact hnot h.placed
    have hlt : i < ts.length := Nat.lt_of_le_of_ne (le_length_of_placed_concat h.placed) hne
    refine ⟨(placed_concat_of_lt hlt).1 h.placed, fun j hj hplaced => ?_, (hbare hlt).1 h.bare⟩
    exact h.latest j hj ((placed_concat_of_lt hplaced.lt_length).2 hplaced)
  · intro h
    have hlt := h.placed.lt_length
    refine ⟨(placed_concat_of_lt hlt).2 h.placed, fun j hj hplaced => ?_, (hbare hlt).2 h.bare⟩
    rcases Nat.lt_or_eq_of_le (le_length_of_placed_concat hplaced) with hjlt | rfl
    · exact h.latest j hj ((placed_concat_of_lt hjlt).1 hplaced)
    · exact hnot hplaced

theorem dangling_concat_paren (hkind : t.kind = .leftParen ∨ t.kind = .rightParen) :
    Dangling (ts ++ [t]) i ↔ Dangling ts i := by
  refine dangling_concat_iff (not_placed_of_kind fun op hop => ?_) fun hlit => ?_
  · rcases hkind with hkind | hkind <;> rw [hkind] at hop <;> cases hop
  · rcases hkind with hkind | hkind <;> rw [hkind] at hlit <;> cases hlit

/-- Behind a literal nothing dangles. -/
theorem not_dangling_of_literal (hkind : t.kind = .literal) : ¬ Dangling (ts ++ [t]) i := by
  intro h
  have hle := le_length_of_placed_concat h.placed
  rcases Nat.lt_or_eq_of_le hle with hlt | rfl
  · refine h.bare t ?_ hkind
    rw [List.drop_append_of_le_length hlt]
    simp
  · obtain ⟨op, hop, -⟩ := placed_concat_length.1 h.placed
    rw [hkind] at hop
    cases hop

/-! ## The end of the text -/

theorem endsBlank_write_of_visible {w : Text} (hne : w ≠ []) (hlast : w.getLast? ≠ some ' ') (y : Yard) :
    (y.write w).endsBlank = false := by
  refine Bool.eq_false_iff.2 fun hblank => hlast ?_
  rwa [endsBlank_iff, output_write, List.getLast?_append, List.getLast?_eq_some_getLast hne, Option.some_or,
    ← List.getLast?_eq_some_getLast hne] at hblank

/-- Writing what waits leaves a blank at the end just if nothing waits behind it. -/
theorem endsBlank_drain_iff : y.drain.endsBlank = true ↔ y.endsBlank = true ∧ y.level = [] := by
  cases hlevel : y.level with
  | nil => simp [endsBlank, drain, emitAll, hlevel]
  | cons op level => simp [endsBlank_drain_cons hlevel]

theorem endsBlank_feed_rightParen (y : Yard) (hkind : t.kind = .rightParen) :
    (y.feed t).yard.endsBlank = y.drain.endsBlank := by
  cases houter : y.outer with
  | nil => rw [feed_of_rightParen_nil hkind houter]
  | cons level outer =>
    rw [feed_of_rightParen_cons hkind houter]
    rfl

/-- The operator with this number lies on top, or under parentheses alone. -/
def OnTop (i : Nat) (stack : List (Entry × Nat)) : Prop :=
  ∃ parens op below, stack = parens ++ (.operator op, i) :: below ∧ ∀ e ∈ parens, e.1 = .leftParen

theorem OnTop.mem (h : OnTop i stack) : i ∈ stack.map Prod.snd := by
  obtain ⟨parens, op, below, rfl, -⟩ := h
  simp

/-- A blank at the end tells of an operator that dangles and still waits, and that one lies on top. -/
structure Marks (ts : List Token) (y : Yard) (stack : List (Entry × Nat)) : Prop where
  onTop : y.endsBlank = true → ∃ i, Dangling ts i ∧ OnTop i stack
  endsBlank : ∀ i, Dangling ts i → i ∈ stack.map Prod.snd → y.endsBlank = true

theorem Marks.onTop_of_mem (h : Marks ts y stack) (hi : Dangling ts i) (hmem : i ∈ stack.map Prod.snd) :
    OnTop i stack := by
  obtain ⟨j, hj, htop⟩ := h.onTop (h.endsBlank i hi hmem)
  rwa [hi.unique hj]

/-! ## Every token keeps the mark -/

theorem Marks.write (hkind : t.kind = .literal) (hvisible : t.EndsVisibly) (y : Yard) :
    Marks (ts ++ [t]) (y.write t.lexeme) stack := by
  obtain ⟨hne, hlast⟩ := hvisible hkind
  refine ⟨fun hblank => ?_, fun i hi => absurd hi (not_dangling_of_literal hkind)⟩
  rw [endsBlank_write_of_visible hne hlast] at hblank
  cases hblank

theorem Marks.enter (h : Marks ts y stack) (hkind : t.kind = .leftParen) :
    Marks (ts ++ [t]) y.enter ((.leftParen, ts.length) :: stack) := by
  have hiff {i : Nat} : Dangling (ts ++ [t]) i ↔ Dangling ts i := dangling_concat_paren (.inl hkind)
  refine ⟨fun hblank => ?_, fun i hi hmem => ?_⟩
  · obtain ⟨i, hi, parens, op, below, rfl, hparens⟩ := h.onTop hblank
    refine ⟨i, hiff.2 hi, (.leftParen, ts.length) :: parens, op, below, rfl, ?_⟩
    rw [List.forall_mem_cons]
    exact ⟨rfl, hparens⟩
  · rw [hiff] at hi
    rcases List.mem_cons.1 hmem with rfl | hmem
    · exact absurd hi.placed.lt_length (Nat.lt_irrefl _)
    · exact h.endsBlank i hi hmem

/-- The parenthesis that closes takes off one that lies on the operator, or the operator itself, which is then written
at the end of the text. -/
theorem Marks.close (h : Marks ts y stack) (hnumbers : Numbers ts stack) (herased : stack.map Prod.fst = y.stack)
    (hkind : t.kind = .rightParen) :
    Marks (ts ++ [t]) (y.feed t).yard (stack.dropWhile (·.1.isDue 1)).tail := by
  have hiff {i : Nat} : Dangling (ts ++ [t]) i ↔ Dangling ts i := dangling_concat_paren (.inr hkind)
  refine ⟨fun hblank => ?_, fun i hi hmem => ?_⟩
  · rw [y.endsBlank_feed_rightParen hkind, endsBlank_drain_iff] at hblank
    obtain ⟨i, hi, parens, op, below, rfl, hparens⟩ := h.onTop hblank.1
    cases parens with
    | nil =>
      obtain ⟨level, hlevel⟩ := level_of_stack_operator herased.symm
      rw [hblank.2] at hlevel
      cases hlevel
    | cons p parens =>
      obtain ⟨hp, hparens⟩ := List.forall_mem_cons.1 hparens
      rw [List.cons_append, List.dropWhile_cons_of_neg (by simp [hp, Entry.isDue]), List.tail_cons]
      exact ⟨i, hiff.2 hi, parens, op, below, rfl, hparens⟩
  · rw [hiff] at hi
    have hbefore : i ∈ stack.map Prod.snd := ((tail_dropWhile_sublist stack).map Prod.snd).subset hmem
    rw [y.endsBlank_feed_rightParen hkind, endsBlank_drain_iff]
    refine ⟨h.endsBlank i hi hbefore, ?_⟩
    obtain ⟨parens, op, below, rfl, hparens⟩ := h.onTop_of_mem hi hbefore
    cases parens with
    | nil =>
      -- the operator has left, and all that is still there has a smaller number
      rw [List.nil_append, List.dropWhile_cons_of_pos (by simp [isDue_one])] at hmem
      obtain ⟨e, he, rfl⟩ := List.mem_map.1 hmem
      have hbelow : e ∈ below := (tail_dropWhile_sublist below).subset he
      exact absurd ((List.pairwise_cons.1 hnumbers.ordered).1 e hbelow) (Nat.lt_irrefl _)
    | cons p parens =>
      obtain ⟨_, n⟩ := p
      obtain ⟨rfl, -⟩ := List.forall_mem_cons.1 hparens
      exact level_of_stack_leftParen herased.symm

theorem Marks.place (h : Placed (ts ++ [t]) ts.length) (y : Yard) (op : Operator) (kept : List (Entry × Nat)) :
    Marks (ts ++ [t]) (y.place op) ((.operator op, ts.length) :: kept) :=
  ⟨fun _ => ⟨ts.length, dangling_of_placed h, [], op, kept, rfl, by simp⟩, fun _ _ _ => rfl⟩

theorem Marks.refuse (h : Marks ts y stack) (hnot : ¬ Placed (ts ++ [t]) ts.length) (hkind : t.kind ≠ .literal) :
    Marks (ts ++ [t]) y stack := by
  refine ⟨fun hblank => ?_, fun i hi => h.endsBlank i ((dangling_concat_iff hnot hkind).1 hi)⟩
  obtain ⟨i, hi, htop⟩ := h.onTop hblank
  exact ⟨i, (dangling_concat_iff hnot hkind).2 hi, htop⟩

/-- One token. -/
theorem Marks.concat (h : Marks ts (({} : Yard).feedThrough ts) (numbered ts)) (hvisible : t.EndsVisibly) :
    Marks (ts ++ [t]) (({} : Yard).feedThrough (ts ++ [t])) (numbered (ts ++ [t])) := by
  rw [feedThrough_concat, numbered_concat]
  cases hkind : t.kind with
  | literal =>
    rw [feed_of_literal _ hkind]
    simp only [renumber, hkind]
    exact Marks.write hkind hvisible _
  | leftParen =>
    rw [feed_of_leftParen _ hkind]
    simp only [renumber, hkind]
    exact h.enter hkind
  | rightParen =>
    simp only [renumber, hkind]
    exact h.close (numbers_numbered ts) (map_fst_numbered ts) hkind
  | operator op =>
    cases hadj : (({} : Yard).feedThrough ts).adjacency? op with
    | none =>
      have hfed := feed_of_operator_none hkind hadj
      rw [hfed]
      simp only [renumber, hkind]
      exact Marks.place (placed_concat_length.2 ⟨op, hkind, by rw [hfed]⟩) _ op _
    | some e =>
      have hfed := feed_of_operator_some hkind hadj
      have hnot : ¬ Placed (ts ++ [t]) ts.length := by
        intro hplaced
        obtain ⟨-, -, hok⟩ := placed_concat_length.1 hplaced
        rw [hfed] at hok
        cases hok
      rw [hfed]
      simp only [renumber, hkind]
      exact h.refuse hnot (by simp [hkind])

theorem marks_start : Marks [] {} [] := ⟨nofun, nofun⟩

/-- Any tokens. -/
theorem marks_numbered (hts : ∀ t ∈ ts, t.EndsVisibly) :
    Marks ts (({} : Yard).feedThrough ts) (numbered ts) := by
  induction ts using List.reverseRecOn with
  | nil => exact marks_start
  | append_singleton ts t ih =>
    rw [List.forall_mem_append, List.forall_mem_singleton] at hts
    exact (ih hts.1).concat hts.2

/-! ## What the mark is good for -/

theorem Marks.stack_ne_nil (h : Marks ts y stack) (herased : stack.map Prod.fst = y.stack)
    (hblank : y.endsBlank = true) : y.stack ≠ [] := by
  obtain ⟨i, -, parens, op, below, rfl, -⟩ := h.onTop hblank
  rw [← herased]
  simp

/-- Where no parenthesis is open, draining leaves no blank at the end. -/
theorem Marks.endsBlank_drain (h : Marks ts y stack) (herased : stack.map Prod.fst = y.stack) (houter : y.outer = []) :
    y.drain.endsBlank = false := by
  refine Bool.eq_false_iff.2 fun hblank => ?_
  obtain ⟨hblank, hlevel⟩ := endsBlank_drain_iff.1 hblank
  refine h.stack_ne_nil herased hblank ?_
  rw [stack_eq_of_outer_nil houter, hlevel]
  rfl

/-- However a yard has been fed so far, with literals that end in no blank, as those of the tokens of a text do: its
text ends with a blank just if an operator dangles that is still on the stack, where the entries are told apart by the
tokens that have brought them. Then only parentheses lie above it, and any operator that comes is refused for what is
on top. A text that has been drained does not end with a blank. -/
theorem blank_marks_dangling :
    (∀ source, ∀ t ∈ tokens source, t.EndsVisibly) ∧
    ∀ ts : List Token, (∀ t ∈ ts, t.EndsVisibly) →
      let y := ({} : Yard).feedThrough ts
      ((numbered ts).map Prod.fst = y.stack ∧ Numbers ts (numbered ts)) ∧
      (y.output.getLast? = some ' ' ↔ ∃ i, Dangling ts i ∧ i ∈ (numbered ts).map Prod.snd) ∧
      (∀ i, Dangling ts i → i ∈ (numbered ts).map Prod.snd → OnTop i (numbered ts)) ∧
      (y.output.getLast? = some ' ' → ∃ top, y.stack.head? = some top ∧
        ∀ t op, t.kind = .operator op → y.feed t = ⟨some (.adjacentOperators top.symbol op.symbol), y⟩) ∧
      (∀ text, y.finish = .ok text → text.getLast? ≠ some ' ') ∧
      ∀ t, (y.feed t).error? = some .missingLeftParenthesis → (y.feed t).yard.output.getLast? ≠ some ' ' := by
  refine ⟨fun source t ht => endsVisibly_of_mem_tokens ht, fun ts hts => ?_⟩
  intro y
  have herased : (numbered ts).map Prod.fst = y.stack := map_fst_numbered ts
  have hmarks : Marks ts y (numbered ts) := marks_numbered hts
  refine ⟨⟨herased, numbers_numbered ts⟩, ⟨fun hblank => ?_, ?_⟩, fun i hi hmem => hmarks.onTop_of_mem hi hmem,
    fun hblank => ?_, ?_, ?_⟩
  · obtain ⟨i, hi, htop⟩ := hmarks.onTop (y.endsBlank_iff.2 hblank)
    exact ⟨i, hi, htop.mem⟩
  · rintro ⟨i, hi, hmem⟩
    exact y.endsBlank_iff.1 (hmarks.endsBlank i hi hmem)
  · have hends := y.endsBlank_iff.2 hblank
    obtain ⟨top, below, hstack⟩ := List.exists_cons_of_ne_nil (hmarks.stack_ne_nil herased hends)
    refine ⟨top, by rw [hstack]; rfl, fun t op hkind => feed_of_operator_some hkind ?_⟩
    simp [adjacency?, hends, hstack]
  · intro text hfinish hblank
    obtain ⟨houter, rfl⟩ := finish_eq_ok hfinish
    rw [← endsBlank_iff, hmarks.endsBlank_drain herased houter] at hblank
    cases hblank
  · intro t herror hblank
    obtain ⟨houter, hdrain⟩ := yard_feed_of_missing herror
    rw [hdrain, ← endsBlank_iff, hmarks.endsBlank_drain herased houter] at hblank
    cases hblank

/-- In `1+)2-(*` the `)` drains the yard before it fails, the `*` is refused, and the `-` dangles under a parenthesis. -/
theorem blank_marks_dangling_refused :
    let ts := tokens ['1', '+', ')', '2', '-', '(', '*']
    let y := ({} : Yard).feedThrough ts
    (∀ t ∈ ts, t.EndsVisibly) ∧ y.output = ['1', ' ', ' ', '+', '2', ' '] ∧
      numbered ts = [(.leftParen, 5), (.operator .sub, 4)] ∧ Dangling ts 4 ∧
      ∀ t op, t.kind = .operator op → y.feed t = ⟨some (.adjacentOperators '(' op.symbol), y⟩ := by
  intro ts y
  obtain ⟨hlexer, hfed⟩ := blank_marks_dangling
  obtain ⟨-, hblank, -, hrefused, -⟩ := hfed ts (hlexer _)
  have hnumbered : numbered ts = [(.leftParen, 5), (.operator .sub, 4)] := rfl
  have hlast : y.output.getLast? = some ' ' := rfl
  obtain ⟨top, htop, hrefused⟩ := hrefused hlast
  cases htop
  obtain ⟨i, hi, hmem⟩ := hblank.1 hlast
  rw [hnumbered] at hmem
  refine ⟨hlexer _, rfl, hnumbered, ?_, hrefused⟩
  rcases List.mem_cons.1 hmem with rfl | hmem
  · -- the parenthesis is no operator
    obtain ⟨t, op, ht, hop, -⟩ := hi.placed
    cases ht
    cases hop
  · obtain rfl := List.mem_singleton.1 hmem
    exact hi

end Yard

end Calculator
