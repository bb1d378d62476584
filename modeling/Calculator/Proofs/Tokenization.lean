import Calculator.Proofs.LongestMatch

/-!
# Tokens by their places

Which tokens a text has can be said without a scan, by the bytes that they cover: the tokens cover just the
characters that are no blanks, each of them stands in the text where it says, and a literal is as long as it can
be (`Tokenizes`). Main statement: the tokens of a text have these properties and no others have
(`tokens_exact`).
-/

namespace Calculator

open Token

/-! ## Places in bytes -/

/-- In a source whose first byte is counted as `start`, the text `w` stands at the byte `n`. -/
def StandsAt (start : Nat) (source : Text) (n : Nat) (w : Text) : Prop :=
  ∃ front back, source = front ++ w ++ back ∧ n = start + byteSize front

theorem byteSize_append (v w : Text) : byteSize (v ++ w) = byteSize v + byteSize w := by
  induction v with
  | nil => simp [byteSize]
  | cons c v ih => simp [byteSize, ih, Nat.add_assoc]

theorem byteSize_pos {w : Text} (h : w ≠ []) : 0 < byteSize w := by
  obtain ⟨c, w, rfl⟩ := List.exists_cons_of_ne_nil h
  have hc := c.utf8Size_pos
  simp only [byteSize]
  omega

theorem byteSize_eq_zero_iff {w : Text} : byteSize w = 0 ↔ w = [] := by
  cases w with
  | nil => simp [byteSize]
  | cons c w => simpa using Nat.ne_of_gt (byteSize_pos (List.cons_ne_nil c w))

theorem offset_behind (here : Location) (w : Text) : (here.behind w).offset = here.offset + byteSize w := by
  induction w generalizing here with
  | nil => rfl
  | cons c w ih =>
    have hafter : (here.after c).offset = here.offset + c.utf8Size := by
      unfold Location.after
      split <;> rfl
    have hcons : here.behind (c :: w) = (here.after c).behind w := rfl
    rw [hcons, ih, hafter, byteSize, Nat.add_assoc]

variable {start n : Nat} {front back w : Text} {c : Char}

theorem StandsAt.le {source : Text} (h : StandsAt start source n w) : start ≤ n := by
  obtain ⟨a, b, -, rfl⟩ := h
  omega

/-- What stands behind the first part of a source stands in the second part. -/
theorem standsAt_append_iff (h : start + byteSize front ≤ n) :
    StandsAt start (front ++ back) n w ↔ StandsAt (start + byteSize front) back n w := by
  constructor
  · rintro ⟨a, b, hab, rfl⟩
    rw [List.append_assoc, List.append_eq_append_iff] at hab
    rcases hab with ⟨mid, rfl, hback⟩ | ⟨mid, rfl, hback⟩
    · exact ⟨mid, b, by simpa using hback, by rw [byteSize_append]; omega⟩
    · rw [byteSize_append] at h
      obtain rfl : mid = [] := byteSize_eq_zero_iff.1 (by omega)
      exact ⟨[], b, by simpa using hback.symm, by simp [byteSize]⟩
  · rintro ⟨a, b, rfl, rfl⟩
    exact ⟨front ++ a, b, by simp, by rw [byteSize_append]; omega⟩

/-- A character that stands in front of the second part of a source stands in the first part. -/
theorem mem_of_standsAt (h : n < start + byteSize front) (hc : StandsAt start (front ++ back) n [c]) : c ∈ front := by
  obtain ⟨a, b, hab, rfl⟩ := hc
  rw [List.append_assoc, List.append_eq_append_iff] at hab
  rcases hab with ⟨mid, rfl, -⟩ | ⟨mid, rfl, hback⟩
  · rw [byteSize_append] at h
    omega
  · cases mid with
    | nil => simp at h
    | cons d mid =>
      cases hback
      simp

theorem standsAt_start_iff {d : Char} : StandsAt start (d :: back) start [c] ↔ c = d := by
  constructor
  · rintro ⟨a, b, hab, hn⟩
    obtain rfl : a = [] := byteSize_eq_zero_iff.1 (by omega)
    exact (List.cons.inj hab).1.symm
  · rintro rfl
    exact ⟨[], back, rfl, rfl⟩

/-- A character of the first part of a source stands somewhere in front of the second part. -/
theorem exists_standsAt (hc : c ∈ front) (start : Nat) (back : Text) :
    ∃ n, start ≤ n ∧ n < start + byteSize front ∧ StandsAt start (front ++ back) n [c] := by
  obtain ⟨a, b, rfl⟩ := List.append_of_mem hc
  have hpos := c.utf8Size_pos
  refine ⟨start + byteSize a, Nat.le_add_right _ _, ?_, a, b ++ back, by simp, rfl⟩
  simp only [byteSize_append, byteSize]
  omega

/-! ## What makes a row of tokens the tokens of a source -/

/-- The byte lies in the token. -/
def Token.Covers (t : Token) (n : Nat) : Prop := t.location.offset ≤ n ∧ n < t.endOffset

/-- The token without line and column. -/
def Token.piece (t : Token) : Kind × Text × Nat := (t.kind, t.lexeme, t.location.offset)

/-- The tokens cover the source as its tokens do; its first byte is counted as `start`. -/
structure Tokenizes (start : Nat) (source : Text) (ts : List Token) : Prop where
  nonempty : ∀ t ∈ ts, t.location.offset < t.endOffset
  /-- Every token ends before the next ones begin. -/
  apart : ts.Pairwise fun t u => t.endOffset ≤ u.location.offset
  stands : ∀ t ∈ ts, StandsAt start source t.location.offset t.lexeme
  /-- A character is blank if it lies in no token, and only then. -/
  blank_iff : ∀ n c, StandsAt start source n [c] → (isBlank c = true ↔ ∀ t ∈ ts, ¬ t.Covers n)
  /-- An operator or a parenthesis is its one character. -/
  symbol : ∀ t ∈ ts, ∀ p, t.terminal.char? = some p → t.lexeme = [p]
  literal : ∀ t ∈ ts, t.kind = .literal → ∀ c ∈ t.lexeme, c ∉ ['+', '-', '*', '/', '(', ')']
  /-- Between two literals with no token in between there is a blank. -/
  separated : ∀ t u, [t, u] <:+: ts → t.kind = .literal → u.kind = .literal →
    ∃ n c, StandsAt start source n [c] ∧ isBlank c = true ∧ t.endOffset ≤ n ∧ n < u.location.offset

namespace Tokenizes

variable {source rest : Text} {ts : List Token} {t u : Token}

theorem le_offset (h : Tokenizes start source ts) (ht : t ∈ ts) : start ≤ t.location.offset :=
  (h.stands t ht).le

theorem lexeme_ne_nil (h : Tokenizes start source ts) (ht : t ∈ ts) : t.lexeme ≠ [] := by
  intro hnil
  have hlt := h.nonempty t ht
  simp [endOffset, hnil, byteSize] at hlt

theorem offset_le_of_mem (h : Tokenizes start source (u :: ts)) (ht : t ∈ u :: ts) :
    u.location.offset ≤ t.location.offset := by
  rcases List.mem_cons.1 ht with rfl | ht
  · exact Nat.le_refl _
  · have hafter := (List.pairwise_cons.1 h.apart).1 t ht
    have hlt := h.nonempty u (by simp)
    omega

/-! ## The characters of a token -/

theorem not_isBlank_of_mem_lexeme (h : Tokenizes start source ts) (ht : t ∈ ts) (hc : c ∈ t.lexeme) :
    isBlank c = false := by
  obtain ⟨a, b, rfl, hoffset⟩ := h.stands t ht
  obtain ⟨n, hle, hlt, hn⟩ := exists_standsAt hc (start + byteSize a) b
  rw [← standsAt_append_iff hle, ← List.append_assoc] at hn
  refine Bool.eq_false_iff.2 fun hb => (h.blank_iff n c hn).1 hb t ht ⟨by omega, ?_⟩
  rw [endOffset]
  omega

theorem matches_lexeme (h : Tokenizes start source ts) (ht : t ∈ ts) : Matches (some t.kind) t.lexeme := by
  have hsymbol := h.symbol t ht
  cases hkind : t.kind with
  | operator op =>
    rw [hsymbol op.symbol (by rw [Token.terminal, hkind]; rfl)]
    exact .operator op
  | leftParen =>
    rw [hsymbol '(' (by rw [Token.terminal, hkind]; rfl)]
    exact .leftParen
  | rightParen =>
    rw [hsymbol ')' (by rw [Token.terminal, hkind]; rfl)]
    exact .rightParen
  | literal =>
    exact .literal ⟨h.lexeme_ne_nil ht, fun c hc =>
      ⟨h.not_isBlank_of_mem_lexeme ht hc, h.literal t ht hkind c hc⟩⟩

theorem ofChar?_of_mem_lexeme (h : Tokenizes start source ts) (ht : t ∈ ts) (hc : c ∈ t.lexeme) :
    Kind.ofChar? c = some t.kind :=
  (matches_iff.1 (h.matches_lexeme ht)).2.1 c hc

/-- A token at the start holds the first character. -/
theorem mem_lexeme_of_offset_eq (h : Tokenizes start (c :: back) ts) (ht : t ∈ ts)
    (hoffset : t.location.offset = start) : c ∈ t.lexeme := by
  obtain ⟨d, w, hw⟩ := List.exists_cons_of_ne_nil (h.lexeme_ne_nil ht)
  obtain ⟨a, b, hab, hn⟩ := h.stands t ht
  obtain rfl : a = [] := byteSize_eq_zero_iff.1 (by omega)
  rw [hw] at hab ⊢
  obtain ⟨rfl, -⟩ := List.cons.inj hab
  exact List.mem_cons_self

/-- A first character that is no blank lies in the first token. -/
theorem exists_offset_eq (h : Tokenizes start (c :: back) ts) (hc : isBlank c = false) :
    ∃ u us, ts = u :: us ∧ u.location.offset = start := by
  obtain ⟨t, ht, hcovers⟩ : ∃ t ∈ ts, t.Covers start := by
    refine Classical.byContradiction fun hnone => ?_
    have hb := (h.blank_iff start c (standsAt_start_iff.2 rfl)).2 fun t ht hcovers => hnone ⟨t, ht, hcovers⟩
    rw [hc] at hb
    cases hb
  cases ts with
  | nil => cases ht
  | cons u us =>
    have hfrom := hcovers.1
    have hfirst := h.offset_le_of_mem ht
    have hle := h.le_offset (t := u) List.mem_cons_self
    exact ⟨u, us, rfl, by omega⟩

/-- A literal that comes first has a blank in front of it, if the source starts with no literal character. -/
theorem blank_of_literal (h : Tokenizes start source (u :: ts)) (hu : u.kind = .literal)
    (hhead : source.head?.any isLiteralChar = false) :
    ∃ c, StandsAt start source start [c] ∧ isBlank c = true ∧ start < u.location.offset := by
  have hmem : u ∈ u :: ts := List.mem_cons_self
  cases source with
  | nil =>
    obtain ⟨a, b, hab, -⟩ := h.stands u hmem
    exact absurd hab (by simp [h.lexeme_ne_nil hmem])
  | cons c source =>
    refine ⟨c, standsAt_start_iff.2 rfl, ?_⟩
    cases hb : isBlank c with
    | true =>
      refine ⟨rfl, Nat.lt_of_le_of_ne (h.le_offset hmem) fun heq => ?_⟩
      have hc := h.not_isBlank_of_mem_lexeme hmem (h.mem_lexeme_of_offset_eq hmem heq.symm)
      rw [hb] at hc
      cases hc
    | false =>
      -- the literal would stand right at the start, and so would its first character
      obtain ⟨v, vs, hcons, hv⟩ := h.exists_offset_eq hb
      cases hcons
      have hc := h.ofChar?_of_mem_lexeme hmem (h.mem_lexeme_of_offset_eq hmem hv)
      simp [isLiteralChar, hc, hu] at hhead

/-! ## The tokens that are found -/

theorem skip {gap : Text} (h : Tokenizes (start + byteSize gap) rest ts) (hgap : isBlankText gap = true) :
    Tokenizes start (gap ++ rest) ts where
  nonempty := h.nonempty
  apart := h.apart
  stands t ht := (standsAt_append_iff (h.le_offset ht)).2 (h.stands t ht)
  blank_iff n c hc := by
    by_cases hn : n < start + byteSize gap
    · have hb : isBlank c = true := List.all_eq_true.1 hgap c (mem_of_standsAt hn hc)
      refine iff_of_true hb fun t ht hcovers => ?_
      have hle := h.le_offset ht
      have hfrom := hcovers.1
      omega
    · exact h.blank_iff n c ((standsAt_append_iff (by omega)).1 hc)
  symbol := h.symbol
  literal := h.literal
  separated t u htu ht hu := by
    obtain ⟨n, c, hc, hrest⟩ := h.separated t u htu ht hu
    exact ⟨n, c, (standsAt_append_iff hc.le).2 hc, hrest⟩

theorem cons {kind : Kind} {here : Location} (h : Tokenizes (here.offset + byteSize w) rest ts)
    (hlongest : Longest (some kind) w rest) : Tokenizes here.offset (w ++ rest) (⟨kind, w, here⟩ :: ts) := by
  obtain ⟨hne, hall, -⟩ := matches_iff.1 hlongest.1
  have hpos := byteSize_pos hne
  constructor
  case nonempty =>
    intro t ht
    rcases List.mem_cons.1 ht with rfl | ht
    · simpa [endOffset] using hpos
    · exact h.nonempty t ht
  case apart => exact List.pairwise_cons.2 ⟨fun u hu => h.le_offset hu, h.apart⟩
  case stands =>
    intro t ht
    rcases List.mem_cons.1 ht with rfl | ht
    · exact ⟨[], rest, rfl, rfl⟩
    · exact (standsAt_append_iff (h.le_offset ht)).2 (h.stands t ht)
  case blank_iff =>
    intro n c hc
    have hle := hc.le
    by_cases hn : n < here.offset + byteSize w
    · have hkind := hall c (mem_of_standsAt hn hc)
      have hb : ¬ isBlank c = true := fun hb => by simp [ofChar?_of_isBlank hb] at hkind
      exact iff_of_false hb fun hnone => hnone ⟨kind, w, here⟩ (by simp) ⟨hle, hn⟩
    · rw [h.blank_iff n c ((standsAt_append_iff (by omega)).1 hc), List.forall_mem_cons]
      exact ⟨fun hnone => ⟨fun hcovers => hn hcovers.2, hnone⟩, fun hnone => hnone.2⟩
  case symbol =>
    intro t ht p hp
    rcases List.mem_cons.1 ht with rfl | ht
    · cases hlongest.1 <;> cases hp <;> rfl
    · exact h.symbol t ht p hp
  case literal =>
    intro t ht hkind c hc
    rcases List.mem_cons.1 ht with rfl | ht
    · obtain rfl : kind = .literal := hkind
      exact (isLiteralChar_iff.1 (ofChar?_eq_literal_iff.1 (hall c hc))).2
    · exact h.literal t ht hkind c hc
  case separated =>
    intro t u htu ht hu
    rcases List.infix_cons_iff.1 htu with hfirst | hlater
    · obtain ⟨rfl, later, rfl⟩ := List.cons_prefix_cons.1 hfirst
      obtain rfl : kind = .literal := ht
      obtain ⟨c, hc, hb, hlt⟩ := h.blank_of_literal hu hlongest.head?_any
      exact ⟨_, c, (standsAt_append_iff (Nat.le_refl _)).2 hc, hb, Nat.le_refl _, hlt⟩
    · obtain ⟨n, c, hc, hgap⟩ := h.separated t u hlater ht hu
      exact ⟨n, c, (standsAt_append_iff hc.le).2 hc, hgap⟩

theorem tokensFrom (here : Location) (text : Text) : Tokenizes here.offset text (tokensFrom here text) := by
  induction here, text using longest_induction with
  | done here => constructor <;> simp [StandsAt, Calculator.tokensFrom]
  | skip here w rest longest ih =>
    rw [offset_behind] at ih
    rw [tokensFrom_of_longest longest]
    cases longest.1 with
    | blanks _ hb => exact ih.skip hb
  | token here kind w rest longest ih =>
    rw [offset_behind] at ih
    rw [tokensFrom_of_longest longest]
    exact ih.cons longest

/-! ## No others -/

/-- Behind its first token a source has the other ones. -/
theorem tail (h : Tokenizes start (front ++ back) (t :: ts)) (hend : t.endOffset = start + byteSize front) :
    Tokenizes (start + byteSize front) back ts := by
  have hle : ∀ u ∈ ts, start + byteSize front ≤ u.location.offset := fun u hu =>
    hend ▸ (List.pairwise_cons.1 h.apart).1 u hu
  constructor
  case nonempty => exact fun u hu => h.nonempty u (by simp [hu])
  case apart => exact (List.pairwise_cons.1 h.apart).2
  case stands => exact fun u hu => (standsAt_append_iff (hle u hu)).1 (h.stands u (by simp [hu]))
  case blank_iff =>
    intro n c hc
    have hn := hc.le
    rw [h.blank_iff n c ((standsAt_append_iff hn).2 hc), List.forall_mem_cons]
    exact ⟨fun hnone => hnone.2, fun hnone => ⟨fun hcovers => by have := hcovers.2; omega, hnone⟩⟩
  case symbol => exact fun u hu => h.symbol u (by simp [hu])
  case literal => exact fun u hu => h.literal u (by simp [hu])
  case separated =>
    intro u v huv hu hv
    obtain ⟨n, c, hc, hb, hn⟩ := h.separated u v (huv.trans (List.infix_cons (List.infix_refl ts))) hu hv
    have hmem : u ∈ ts := huv.subset (by simp)
    have hfrom := hle u hmem
    have hlt := h.nonempty u (by simp [hmem])
    exact ⟨n, c, (standsAt_append_iff (by omega)).1 hc, hb, hn⟩

/-- What stands in front of the first token is blank. -/
theorem isBlankText_front (h : Tokenizes start (front ++ back) (t :: ts))
    (ht : t.location.offset = start + byteSize front) : isBlankText front = true := by
  refine List.all_eq_true.2 fun c hc => ?_
  obtain ⟨n, -, hlt, hn⟩ := exists_standsAt hc start back
  refine (h.blank_iff n c hn).2 fun u hu hcovers => ?_
  have hfirst := h.offset_le_of_mem hu
  have hfrom := hcovers.1
  omega

/-- Nothing prolongs the first token: the character behind it would start a literal right there. -/
theorem longest_lexeme (h : Tokenizes start (front ++ t.lexeme ++ back) (t :: ts))
    (hoffset : t.location.offset = start + byteSize front) : Longest (some t.kind) t.lexeme back := by
  have hmem : t ∈ t :: ts := List.mem_cons_self
  have hend : t.endOffset = start + byteSize (front ++ t.lexeme) := by
    rw [endOffset, byteSize_append]
    omega
  refine longest_iff.2 ⟨h.matches_lexeme hmem, fun hrun d hd hkind => ?_⟩
  obtain ⟨later, rfl⟩ := List.head?_eq_some_iff.1 hd
  have htail := h.tail hend
  have hblank : isBlank d = false := Bool.eq_false_iff.2 fun hb => by simp [ofChar?_of_isBlank hb] at hkind
  obtain ⟨u, us, rfl, hu⟩ := htail.exists_offset_eq hblank
  have hd' := htail.mem_lexeme_of_offset_eq List.mem_cons_self hu
  have hsame : some t.kind = some u.kind := hkind.symm.trans (htail.ofChar?_of_mem_lexeme List.mem_cons_self hd')
  have ht := eq_literal_of_runsOn hrun
  obtain ⟨n, c, -, -, hfrom, hto⟩ := h.separated t u ⟨[], us, rfl⟩ ht (Option.some.inj hsame ▸ ht)
  omega

theorem map_piece_eq (h : Tokenizes start source ts) {here : Location} (hstart : here.offset = start) :
    ts.map Token.piece = (Calculator.tokensFrom here source).map Token.piece := by
  induction ts generalizing start source here with
  | nil =>
    have hblank : isBlankText source = true := List.all_eq_true.2 fun c hc => by
      obtain ⟨n, -, -, hn⟩ := exists_standsAt hc start []
      rw [List.append_nil] at hn
      exact (h.blank_iff n c hn).2 (by simp)
    have hnone := tokensFrom_append_blank hblank here []
    rw [List.append_nil] at hnone
    rw [hnone]
    rfl
  | cons t ts ih =>
    obtain ⟨front, back, rfl, hoffset⟩ := h.stands t (by simp)
    have hend : t.endOffset = start + byteSize (front ++ t.lexeme) := by
      rw [endOffset, byteSize_append]
      omega
    have hfront : isBlankText front = true := by
      rw [List.append_assoc] at h
      exact h.isBlankText_front hoffset
    have hplace : ((here.behind front).behind t.lexeme).offset = start + byteSize (front ++ t.lexeme) := by
      rw [offset_behind, offset_behind, byteSize_append]
      omega
    have hlater := ih (h.tail hend) hplace
    rw [List.append_assoc, tokensFrom_append_blank hfront, tokensFrom_of_longest (h.longest_lexeme hoffset),
      List.map_cons, hlater]
    have hhere : t.location.offset = (here.behind front).offset := by
      rw [offset_behind]
      omega
    simp [Token.piece, hhere]

end Tokenizes

theorem flatMap_lexeme_joinLiteral (c : Char) (here : Location) (ts : List Token) :
    (joinLiteral c here ts).flatMap Token.lexeme = c :: ts.flatMap Token.lexeme := by
  cases ts <;> rfl

theorem flatMap_lexeme_tokensFrom (here : Location) (text : Text) :
    (tokensFrom here text).flatMap Token.lexeme = stripBlanks text := by
  induction text generalizing here with
  | nil => rfl
  | cons c rest ih =>
    rw [tokensFrom]
    cases hc : Kind.ofChar? c with
    | none =>
      have hb := ofChar?_eq_none_iff.1 hc
      simpa [stripBlanks, hb] using ih (here.after c)
    | some kind =>
      have hb : ¬ isBlank c = true := fun hb => by simp [ofChar?_of_isBlank hb] at hc
      have hrest : stripBlanks (c :: rest) = c :: stripBlanks rest := by simp [stripBlanks, hb]
      rw [hrest, ← ih (here.after c)]
      cases kind with
      | literal =>
        by_cases hjoin : rest.head?.any isLiteralChar = true
        · simp only [hjoin, ↓reduceIte, flatMap_lexeme_joinLiteral]
        · simp [hjoin]
      | _ => rfl

/-- The tokens of a text have the properties of its tokens, and a row of tokens that has them agrees with them
but for lines and columns. Their lexemes are the text without its blanks, and they are what a scan by longest
match finds, which so never meets a piece that no pattern matches. -/
theorem tokens_exact (source : Text) :
    Tokenizes 0 source (tokens source) ∧
    (∀ ts, Tokenizes 0 source ts → ts.map Token.piece = (tokens source).map Token.piece) ∧
    (tokens source).flatMap Token.lexeme = stripBlanks source ∧
    ∀ out, LongestScan .start source out ↔ out = (tokens source).map .ok :=
  ⟨Tokenizes.tokensFrom .start source, fun _ h => h.map_piece_eq rfl, flatMap_lexeme_tokensFrom .start source,
    fun _ => longestScan_iff⟩

end Calculator
