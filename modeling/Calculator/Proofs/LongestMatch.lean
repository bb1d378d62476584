import Calculator.Proofs.Scanning

/-!
# Longest match

The tokens of a text can be declared by patterns: blanks, which are skipped, the six symbols, and literals. A
scanner cuts the longest piece off the text that a pattern matches, over and over; a text where no pattern
matches would be passed through as an unmatched piece. Main statement: this scanner finds the tokens, and
never meets an unmatched piece (`longestScan_iff`).
-/

namespace Calculator

open Token

/-- The place behind a text that starts here. -/
def Location.behind (here : Location) (text : Text) : Location := text.foldl Location.after here

/-! ## Patterns -/

/-- The texts that the patterns match, each with the kind of token that it is; blanks are none. -/
inductive Matches : Option Kind → Text → Prop
  | blanks {w : Text} (nonempty : w ≠ []) (blank : isBlankText w = true) : Matches none w
  | operator (op : Operator) : Matches (some (.operator op)) [op.symbol]
  | leftParen : Matches (some .leftParen) ['(']
  | rightParen : Matches (some .rightParen) [')']
  | literal {w : Text} (h : IsLiteral w) : Matches (some .literal) w

/-- A pattern matches `w`, and none matches a longer beginning of `w` and the rest. -/
def Longest (kind : Option Kind) (w rest : Text) : Prop :=
  Matches kind w ∧ ∀ k v, v <+: w ++ rest → Matches k v → v.length ≤ w.length

/-- What a scanner by longest match makes of a text that starts here: its tokens, and among them as an error
every piece at whose start no pattern matches. -/
inductive LongestScan : Location → Text → List (Except Token Token) → Prop
  | done {here : Location} : LongestScan here [] []
  | skip {here : Location} {w rest : Text} {out : List (Except Token Token)} (longest : Longest none w rest)
      (later : LongestScan (here.behind w) rest out) : LongestScan here (w ++ rest) out
  | token {here : Location} {kind : Kind} {w rest : Text} {out : List (Except Token Token)}
      (longest : Longest (some kind) w rest) (later : LongestScan (here.behind w) rest out) :
      LongestScan here (w ++ rest) (.ok ⟨kind, w, here⟩ :: out)
  | unmatched {here : Location} {w rest : Text} {out : List (Except Token Token)} (nonempty : w ≠ [])
      (none_matches : ∀ k v, v <+: w ++ rest → ¬ Matches k v) (later : LongestScan (here.behind w) rest out) :
      LongestScan here (w ++ rest) (.error ⟨.literal, w, here⟩ :: out)

/-! ## Patterns by the kinds of characters -/

/-- Pieces of the kind go on as long as their characters do. -/
def runsOn : Option Kind → Bool
  | none | some .literal => true
  | _ => false

theorem eq_literal_of_runsOn {kind : Kind} (h : runsOn (some kind) = true) : kind = .literal := by
  cases kind with
  | literal => rfl
  | _ => cases h

theorem ofChar?_eq_none_iff {c : Char} : Kind.ofChar? c = none ↔ isBlank c = true := by
  refine ⟨fun h => ?_, ofChar?_of_isBlank⟩
  unfold Kind.ofChar? at h
  grind

theorem matches_iff {kind : Option Kind} {w : Text} :
    Matches kind w ↔ w ≠ [] ∧ (∀ c ∈ w, Kind.ofChar? c = kind) ∧ (runsOn kind = false → w.length = 1) := by
  constructor
  · intro h
    cases h with
    | blanks hne hb =>
      refine ⟨hne, fun c hc => ofChar?_of_isBlank ?_, nofun⟩
      exact List.all_eq_true.1 hb c hc
    | operator op => exact ⟨by simp, by simpa using ofChar?_symbol op, fun _ => rfl⟩
    | leftParen => exact ⟨by simp, by simpa using ofChar?_leftParen, fun _ => rfl⟩
    | rightParen => exact ⟨by simp, by simpa using ofChar?_rightParen, fun _ => rfl⟩
    | literal h => exact ⟨h.1, fun c hc => ofChar?_eq_literal_iff.2 (isLiteralChar_iff.2 (h.2 c hc)), nofun⟩
  · rintro ⟨hne, hall, hone⟩
    match kind with
    | none => exact .blanks hne (List.all_eq_true.2 fun c hc => ofChar?_eq_none_iff.1 (hall c hc))
    | some .literal => exact .literal ⟨hne, fun c hc => isLiteralChar_iff.1 (ofChar?_eq_literal_iff.1 (hall c hc))⟩
    | some (.operator op) =>
      obtain ⟨c, rfl⟩ := List.length_eq_one_iff.1 (hone rfl)
      rw [ofChar?_eq_operator_iff.1 (hall c (by simp))]
      exact .operator op
    | some .leftParen =>
      obtain ⟨c, rfl⟩ := List.length_eq_one_iff.1 (hone rfl)
      rw [ofChar?_eq_leftParen_iff.1 (hall c (by simp))]
      exact .leftParen
    | some .rightParen =>
      obtain ⟨c, rfl⟩ := List.length_eq_one_iff.1 (hone rfl)
      rw [ofChar?_eq_rightParen_iff.1 (hall c (by simp))]
      exact .rightParen

/-- A match is longest if it cannot go on. -/
theorem longest_iff {kind : Option Kind} {w rest : Text} :
    Longest kind w rest ↔ Matches kind w ∧ (runsOn kind = true → ∀ c ∈ rest.head?, Kind.ofChar? c ≠ kind) := by
  refine and_congr_right fun hw => ?_
  obtain ⟨hne, hall, -⟩ := matches_iff.1 hw
  constructor
  · intro hlongest hrun c hc heq
    obtain ⟨later, rfl⟩ := List.head?_eq_some_iff.1 hc
    have hlonger : Matches kind (w ++ [c]) := by
      refine matches_iff.2 ⟨by simp, fun d hd => ?_, fun h => by simp [hrun] at h⟩
      rcases List.mem_append.1 hd with hd | hd
      · exact hall d hd
      · rw [List.mem_singleton.1 hd, heq]
    have hle := hlongest kind (w ++ [c]) ⟨later, by simp⟩ hlonger
    rw [List.length_append, List.length_singleton] at hle
    omega
  · intro hstop k v hv hmatch
    obtain ⟨hvne, hvall, hvone⟩ := matches_iff.1 hmatch
    have hk : k = kind := by
      obtain ⟨c, w', rfl⟩ := List.exists_cons_of_ne_nil hne
      obtain ⟨d, v', rfl⟩ := List.exists_cons_of_ne_nil hvne
      obtain ⟨rfl, -⟩ := List.cons_prefix_cons.1 hv
      exact (hvall d (by simp)).symm.trans (hall d (by simp))
    subst hk
    cases hrun : runsOn k with
    | false =>
      rw [hvone hrun]
      exact List.length_pos_iff.2 hne
    | true =>
      -- a longer match would hold the first character of the rest
      refine Nat.le_of_not_lt fun hlt => ?_
      obtain ⟨more, rfl⟩ := List.prefix_of_prefix_length_le (List.prefix_append w rest) hv (Nat.le_of_lt hlt)
      have hmore : more <+: rest := (List.prefix_append_right_inj w).1 hv
      cases more with
      | nil => simp at hlt
      | cons x more =>
        obtain ⟨later, rfl⟩ := hmore
        exact hstop hrun x rfl (hvall x (by simp))

/-- No literal character is next behind a literal that is longest. -/
theorem Longest.head?_any {w rest : Text} (h : Longest (some .literal) w rest) :
    rest.head?.any isLiteralChar = false := by
  have hstop := (longest_iff.1 h).2 rfl
  cases hhead : rest.head? with
  | none => rfl
  | some c => simpa [isLiteralChar] using hstop c hhead

/-- The first character decides which pattern has the longest match. -/
theorem exists_longest {text : Text} (h : text ≠ []) : ∃ kind w rest, text = w ++ rest ∧ Longest kind w rest := by
  obtain ⟨c, text, rfl⟩ := List.exists_cons_of_ne_nil h
  cases hrun : runsOn (Kind.ofChar? c) with
  | false =>
    refine ⟨Kind.ofChar? c, [c], text, rfl, longest_iff.2 ⟨matches_iff.2 ?_, by simp [hrun]⟩⟩
    exact ⟨by simp, by simp, fun _ => rfl⟩
  | true =>
    let same : Char → Bool := fun d => Kind.ofChar? d == Kind.ofChar? c
    refine ⟨Kind.ofChar? c, (c :: text).takeWhile same, (c :: text).dropWhile same,
      List.takeWhile_append_dropWhile.symm, longest_iff.2 ⟨matches_iff.2 ⟨?_, fun d hd => ?_, by simp [hrun]⟩, ?_⟩⟩
    · simp [same]
    · simpa [same] using List.all_eq_true.1 List.all_takeWhile d hd
    · intro _ d hd
      have hstop := List.head?_dropWhile_not same (c :: text)
      rw [Option.mem_def.1 hd] at hstop
      simpa [same] using hstop

/-- Induction along the longest matches of a text, with the place where each of them starts. -/
@[elab_as_elim]
theorem longest_induction {motive : Location → Text → Prop} (done : ∀ here, motive here [])
    (skip : ∀ here w rest, Longest none w rest → motive (here.behind w) rest → motive here (w ++ rest))
    (token : ∀ here kind w rest, Longest (some kind) w rest → motive (here.behind w) rest → motive here (w ++ rest))
    (here : Location) (text : Text) : motive here text := by
  induction hn : text.length using Nat.strongRecOn generalizing here text with
  | ind n ih =>
    by_cases hne : text = []
    · subst hne
      exact done here
    · obtain ⟨kind, w, rest, rfl, hlongest⟩ := exists_longest hne
      have hlen : rest.length < n := by
        have hpos := List.length_pos_iff.2 (matches_iff.1 hlongest.1).1
        rw [← hn, List.length_append]
        omega
      have hrest : motive (here.behind w) rest := ih rest.length hlen (here.behind w) rest rfl
      cases kind with
      | none => exact skip here w rest hlongest hrest
      | some kind => exact token here kind w rest hlongest hrest

/-! ## The tokens of a piece -/

theorem tokensFrom_append_blank {gap : Text} (h : isBlankText gap = true) (here : Location) (rest : Text) :
    tokensFrom here (gap ++ rest) = tokensFrom (here.behind gap) rest := by
  induction gap generalizing here with
  | nil => rfl
  | cons c gap ih =>
    rw [isBlankText_cons] at h
    rw [List.cons_append, tokensFrom, ofChar?_of_isBlank h.1]
    exact ih h.2 (here.after c)

/-- A literal ends where no literal character follows. -/
theorem tokensFrom_literal {w : Text} (h : IsLiteral w) {rest : Text} (hr : rest.head?.any isLiteralChar = false)
    (here : Location) : tokensFrom here (w ++ rest) = ⟨.literal, w, here⟩ :: tokensFrom (here.behind w) rest := by
  obtain ⟨hne, hw⟩ := h
  induction w generalizing here with
  | nil => exact absurd rfl hne
  | cons c w ih =>
    have hc : Kind.ofChar? c = some .literal := ofChar?_eq_literal_iff.2 (isLiteralChar_iff.2 (hw c (by simp)))
    rw [List.cons_append, tokensFrom, hc]
    cases w with
    | nil => simp [hr, Location.behind]
    | cons d w =>
      have hd : isLiteralChar d = true := isLiteralChar_iff.2 (hw d (by simp))
      have hrest := ih (here.after c) (by simp) fun x hx => hw x (by simp [hx])
      rw [List.cons_append] at hrest ⊢
      simp [hd, hrest, joinLiteral, Location.behind]

/-- The longest match is the first token, unless it is skipped. -/
theorem tokensFrom_of_longest {kind : Option Kind} {w rest : Text} (h : Longest kind w rest) (here : Location) :
    tokensFrom here (w ++ rest) =
      (kind.map fun k => ⟨k, w, here⟩).toList ++ tokensFrom (here.behind w) rest := by
  cases h.1 with
  | blanks _ hb => exact tokensFrom_append_blank hb here rest
  | operator op => rw [List.singleton_append, tokensFrom, ofChar?_symbol]; rfl
  | leftParen => rw [List.singleton_append, tokensFrom, ofChar?_leftParen]; rfl
  | rightParen => rw [List.singleton_append, tokensFrom, ofChar?_rightParen]; rfl
  | literal hw => exact tokensFrom_literal hw h.head?_any here

/-- The scan by longest match finds the tokens of the text, and meets no unmatched piece. -/
theorem longestScan_iff {here : Location} {text : Text} {out : List (Except Token Token)} :
    LongestScan here text out ↔ out = (tokensFrom here text).map .ok := by
  constructor
  · intro h
    induction h with
    | done => rfl
    | skip longest _ ih => rw [tokensFrom_of_longest longest, ih]; rfl
    | token longest _ ih => rw [tokensFrom_of_longest longest, ih]; rfl
    | @unmatched here w rest out nonempty none_matches _ _ =>
      have hne : w ++ rest ≠ [] := by simp [nonempty]
      obtain ⟨kind, v, later, htext, hlongest⟩ := exists_longest hne
      exact absurd hlongest.1 (none_matches kind v ⟨later, htext.symm⟩)
  · rintro rfl
    induction here, text using longest_induction with
    | done here => exact .done
    | skip here w rest longest ih =>
      rw [tokensFrom_of_longest longest]
      exact .skip longest ih
    | token here kind w rest longest ih =>
      rw [tokensFrom_of_longest longest]
      exact .token longest ih

end Calculator
