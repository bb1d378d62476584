import Calculator.Reduction

/-!
# Written numbers

A number is written as a sign or none, digits, and further digits behind a point or none. Main statements: a word is
a numeral just if it is written like that (`ofText?_eq_some_iff`), and digits that fit are taken as they stand
(`toDecimal?_of_lt`).
-/

namespace Calculator

/-! ## Digits -/

/-- A text of nothing but ASCII digits. -/
def AllDigits (text : Text) : Prop := ∀ c ∈ text, c.isDigit = true

instance (text : Text) : Decidable (AllDigits text) := List.decidableBAll _ text

/-- The whole number that digits write. -/
def number (digits : Text) : Nat := Nat.ofDigitChars 10 digits 0

/-- The values of the digits one by one. -/
def digitValues (digits : Text) : List Nat := digits.map fun c => c.toNat - '0'.toNat

theorem allDigits_cons {c : Char} {text : Text} :
    AllDigits (c :: text) ↔ c.isDigit = true ∧ AllDigits text := by
  simp [AllDigits]

theorem allDigits_append {v w : Text} : AllDigits (v ++ w) ↔ AllDigits v ∧ AllDigits w := by
  simp only [AllDigits, List.mem_append]
  constructor
  · intro h
    exact ⟨fun c hc => h c (.inl hc), fun c hc => h c (.inr hc)⟩
  · rintro ⟨hv, hw⟩ c (hc | hc)
    · exact hv c hc
    · exact hw c hc

theorem AllDigits.not_mem {text : Text} (h : AllDigits text) {c : Char} (hc : c.isDigit = false) : c ∉ text := by
  intro hmem
  rw [h c hmem] at hc
  cases hc

theorem allDigits_lastDigits (k n : Nat) : AllDigits (Decimal.lastDigits k n) := by
  induction k generalizing n with
  | zero => exact nofun
  | succ k ih =>
    rw [Decimal.lastDigits, allDigits_append]
    refine ⟨ih (n / 10), fun c hc => ?_⟩
    rw [List.mem_singleton.1 hc, Nat.isDigit_digitChar]
    exact decide_eq_true (Nat.mod_lt n (by decide))

theorem isBlank_of_isDigit {c : Char} (h : c.isDigit = true) : isBlank c = false := by
  obtain ⟨hlow, hhigh⟩ := Char.isDigit_iff_toNat.1 h
  have h0 : '0'.toNat = 48 := rfl
  have h9 : '9'.toNat = 57 := rfl
  refine Bool.eq_false_iff.2 fun hb => ?_
  obtain ⟨r, hr, hlo, hhi⟩ := (Ranges.covers_iff isOrdered_blankRanges _).1 hb
  simp only [blankRanges, List.mem_cons, List.not_mem_nil, or_false] at hr
  rcases hr with rfl | rfl | rfl | rfl | rfl | rfl | rfl | rfl | rfl | rfl <;> simp only at hlo hhi <;> omega

theorem digitValues_append (v w : Text) : digitValues (v ++ w) = digitValues v ++ digitValues w := List.map_append

theorem digitValue?_eq (c : Char) :
    digitValue? c = if c.isDigit = true then some (c.toNat - '0'.toNat) else none := by
  have hrange : ('0' ≤ c ∧ c ≤ '9') ↔ c.isDigit = true := Char.isDigit_iff_toNat.symm
  unfold digitValue?
  by_cases h : c.isDigit = true
  · rw [if_pos h, if_pos (hrange.2 h)]
  · rw [if_neg h, if_neg fun hc => h (hrange.1 hc)]

theorem digits?_eq_some_iff {text : Text} {ds : List Nat} :
    Numeral.digits? text = some ds ↔ AllDigits text ∧ ds = digitValues text := by
  induction text generalizing ds with
  | nil =>
    rw [Numeral.digits?, List.mapM_nil]
    constructor
    · intro h
      cases h
      exact ⟨nofun, rfl⟩
    · rintro ⟨-, rfl⟩
      rfl
  | cons c text ih =>
    have hcons : Numeral.digits? (c :: text) =
        (digitValue? c).bind fun d => (Numeral.digits? text).map (d :: ·) := by
      rw [Numeral.digits?, Numeral.digits?, List.mapM_cons]
      cases digitValue? c with
      | none => rfl
      | some d => cases List.mapM digitValue? text <;> rfl
    rw [hcons, digitValue?_eq, allDigits_cons]
    by_cases hc : c.isDigit = true
    · rw [if_pos hc, Option.bind_some, Option.map_eq_some_iff]
      constructor
      · rintro ⟨later, hlater, rfl⟩
        obtain ⟨htext, rfl⟩ := ih.1 hlater
        exact ⟨⟨hc, htext⟩, rfl⟩
      · rintro ⟨⟨-, htext⟩, rfl⟩
        exact ⟨digitValues text, ih.2 ⟨htext, rfl⟩, rfl⟩
    · rw [if_neg hc]
      constructor
      · intro h
        cases h
      · rintro ⟨⟨hdigit, -⟩, -⟩
        exact absurd hdigit hc

theorem lt_ten_of_mem_digitValues {digits : Text} (h : AllDigits digits) {d : Nat} (hd : d ∈ digitValues digits) :
    d < 10 := by
  obtain ⟨c, hc, rfl⟩ := List.mem_map.1 hd
  obtain ⟨-, hhigh⟩ := Char.isDigit_iff_toNat.1 (h c hc)
  have h0 : '0'.toNat = 48 := rfl
  have h9 : '9'.toNat = 57 := rfl
  omega

theorem digitsValue_digitValues (n : Nat) (digits : Text) :
    Numeral.digitsValue n (digitValues digits) = Nat.ofDigitChars 10 digits n := by
  rw [Nat.ofDigitChars_eq_foldl, Numeral.digitsValue, digitValues, List.foldl_map]

theorem digitsValue_cons (n d : Nat) (ds : List Nat) :
    Numeral.digitsValue n (d :: ds) = Numeral.digitsValue (10 * n + d) ds := rfl

theorem le_digitsValue (n : Nat) (ds : List Nat) : n ≤ Numeral.digitsValue n ds := by
  induction ds generalizing n with
  | nil => exact Nat.le_refl n
  | cons d ds ih =>
    have hle := ih (10 * n + d)
    rw [digitsValue_cons]
    omega

/-! ## Numerals -/

/-- The word writes a number: a sign or none, digits, and behind a point or none further digits; at least one digit
in all. -/
structure Spells (sign whole fraction word : Text) : Prop where
  sign_mem : sign ∈ [[], ['+'], ['-']]
  digits : AllDigits (whole ++ fraction)
  ne_nil : whole ++ fraction ≠ []
  word_eq : word = sign ++ whole ++ '.' :: fraction ∨ fraction = [] ∧ word = sign ++ whole

/-- The numeral of these parts. -/
def Numeral.ofSpelling (sign whole fraction : Text) : Numeral :=
  ⟨sign == ['-'], digitValues whole, digitValues fraction⟩

/-- A text that writes a number without a sign. -/
def Unsigned (whole fraction text : Text) : Prop :=
  AllDigits (whole ++ fraction) ∧ whole ++ fraction ≠ [] ∧
    (text = whole ++ '.' :: fraction ∨ fraction = [] ∧ text = whole)

theorem isDigit_point : '.'.isDigit = false := by decide

/-- Where the digits in front of the point, or of the end, stop. -/
theorem split_at_point {whole tail : Text} (h : '.' ∉ whole) (htail : ∀ c ∈ tail.head?, c = '.') :
    (whole ++ tail).takeWhile (· != '.') = whole ∧ (whole ++ tail).dropWhile (· != '.') = tail := by
  induction whole with
  | nil =>
    cases tail with
    | nil => exact ⟨rfl, rfl⟩
    | cons c tail =>
      have hc : c = '.' := htail c rfl
      simp [hc]
  | cons c whole ih =>
    simp only [List.mem_cons, not_or] at h
    have hc : (c != '.') = true := by simpa using Ne.symm h.1
    obtain ⟨htake, hdrop⟩ := ih h.2
    simp only [List.cons_append, List.takeWhile_cons, List.dropWhile_cons, hc, ↓reduceIte, htake, hdrop, and_self]

/-- The parts of a text in front of its first point and behind it. -/
theorem point_cases (text : Text) :
    (∃ rest, text = text.takeWhile (· != '.') ++ '.' :: rest ∧ (text.dropWhile (· != '.')).drop 1 = rest) ∨
      text = text.takeWhile (· != '.') ∧ (text.dropWhile (· != '.')).drop 1 = [] := by
  have hsplit := List.takeWhile_append_dropWhile (p := (· != '.')) (l := text)
  cases hd : text.dropWhile (· != '.') with
  | nil =>
    rw [hd, List.append_nil] at hsplit
    exact .inr ⟨hsplit.symm, rfl⟩
  | cons c rest =>
    have hhead : (text.dropWhile (· != '.')).head? = some c := by rw [hd]; rfl
    have hpoint := List.head?_dropWhile_not (· != '.') text
    rw [hhead] at hpoint
    have hc : c = '.' := by simpa using hpoint
    rw [hd, hc] at hsplit
    exact .inl ⟨rest, hsplit.symm, rfl⟩

theorem unsigned?_eq_some_iff {negative : Bool} {text : Text} {n : Numeral} :
    Numeral.unsigned? negative text = some n ↔
      ∃ whole fraction, Unsigned whole fraction text ∧ n = ⟨negative, digitValues whole, digitValues fraction⟩ := by
  constructor
  · intro h
    unfold Numeral.unsigned? at h
    split at h
    next whole fraction hwhole hfraction =>
      obtain ⟨hw, rfl⟩ := digits?_eq_some_iff.1 hwhole
      obtain ⟨hf, rfl⟩ := digits?_eq_some_iff.1 hfraction
      split at h
      · cases h
      next hne =>
        cases h
        refine ⟨_, _, ⟨allDigits_append.2 ⟨hw, hf⟩, fun hnil => hne ?_, ?_⟩, rfl⟩
        · rw [← digitValues_append, hnil]
          rfl
        · rcases point_cases text with ⟨rest, htext, hrest⟩ | ⟨htext, hrest⟩
          · rw [hrest]
            exact .inl htext
          · exact .inr ⟨hrest, htext⟩
    next => cases h
  · rintro ⟨whole, fraction, ⟨hdigits, hne, htext⟩, rfl⟩
    obtain ⟨hw, hf⟩ := allDigits_append.1 hdigits
    have hparts : Numeral.digits? (text.takeWhile (· != '.')) = some (digitValues whole) ∧
        Numeral.digits? ((text.dropWhile (· != '.')).drop 1) = some (digitValues fraction) := by
      have htail : ∃ tail, text = whole ++ tail ∧ (∀ c ∈ tail.head?, c = '.') ∧ tail.drop 1 = fraction := by
        rcases htext with rfl | ⟨rfl, rfl⟩
        · exact ⟨'.' :: fraction, rfl, by simp, rfl⟩
        · exact ⟨[], (List.append_nil text).symm, nofun, rfl⟩
      obtain ⟨tail, rfl, hpoint, rfl⟩ := htail
      obtain ⟨htake, hdrop⟩ := split_at_point (hw.not_mem isDigit_point) hpoint
      rw [htake, hdrop]
      exact ⟨digits?_eq_some_iff.2 ⟨hw, rfl⟩, digits?_eq_some_iff.2 ⟨hf, rfl⟩⟩
    have hvalues : digitValues whole ++ digitValues fraction ≠ [] := by
      rw [← digitValues_append]
      exact fun hnil => hne (List.map_eq_nil_iff.1 hnil)
    rw [Numeral.unsigned?, hparts.1, hparts.2]
    exact if_neg hvalues

theorem spells_iff {sign whole fraction word : Text} :
    Spells sign whole fraction word ↔
      sign ∈ [[], ['+'], ['-']] ∧ ∃ text, word = sign ++ text ∧ Unsigned whole fraction text := by
  constructor
  · rintro ⟨hsign, hdigits, hne, rfl | ⟨rfl, rfl⟩⟩
    · exact ⟨hsign, whole ++ '.' :: fraction, List.append_assoc .., hdigits, hne, .inl rfl⟩
    · exact ⟨hsign, whole, rfl, hdigits, hne, .inr ⟨rfl, rfl⟩⟩
  · rintro ⟨hsign, text, rfl, hdigits, hne, rfl | ⟨rfl, rfl⟩⟩
    · exact ⟨hsign, hdigits, hne, .inl (List.append_assoc ..).symm⟩
    · exact ⟨hsign, hdigits, hne, .inr ⟨rfl, rfl⟩⟩

/-- A number without a sign starts with a digit or its point. -/
theorem Unsigned.ofText? {whole fraction text : Text} (h : Unsigned whole fraction text) :
    Numeral.ofText? text = Numeral.unsigned? false text := by
  obtain ⟨hdigits, hne, htext⟩ := h
  have hhead : ∀ c ∈ text.head?, c = '.' ∨ c.isDigit = true := by
    cases whole with
    | nil =>
      rcases htext with rfl | ⟨rfl, rfl⟩
      · simp
      · exact absurd rfl hne
    | cons d whole =>
      have hd : d.isDigit = true := hdigits d (by simp)
      rcases htext with rfl | ⟨rfl, rfl⟩ <;> simp [hd]
  rw [Numeral.ofText?]
  · rintro rest rfl
    rcases hhead '+' rfl with hc | hc <;> revert hc <;> decide
  · rintro rest rfl
    rcases hhead '-' rfl with hc | hc <;> revert hc <;> decide

/-- A word is a numeral just if it writes a number. -/
theorem ofText?_eq_some_iff {word : Text} {n : Numeral} :
    Numeral.ofText? word = some n ↔
      ∃ sign whole fraction, Spells sign whole fraction word ∧ n = .ofSpelling sign whole fraction := by
  constructor
  · intro h
    unfold Numeral.ofText? at h
    split at h
    next text =>
      obtain ⟨whole, fraction, hu, rfl⟩ := unsigned?_eq_some_iff.1 h
      exact ⟨['+'], whole, fraction, spells_iff.2 ⟨by simp, text, rfl, hu⟩, rfl⟩
    next text =>
      obtain ⟨whole, fraction, hu, rfl⟩ := unsigned?_eq_some_iff.1 h
      exact ⟨['-'], whole, fraction, spells_iff.2 ⟨by simp, text, rfl, hu⟩, rfl⟩
    next =>
      obtain ⟨whole, fraction, hu, rfl⟩ := unsigned?_eq_some_iff.1 h
      exact ⟨[], whole, fraction, spells_iff.2 ⟨by simp, word, rfl, hu⟩, rfl⟩
  · rintro ⟨sign, whole, fraction, hs, rfl⟩
    obtain ⟨hsign, text, rfl, hu⟩ := spells_iff.1 hs
    simp only [List.mem_cons, List.not_mem_nil, or_false] at hsign
    rcases hsign with rfl | rfl | rfl
    · exact hu.ofText?.trans (unsigned?_eq_some_iff.2 ⟨whole, fraction, hu, rfl⟩)
    · exact unsigned?_eq_some_iff.2 ⟨whole, fraction, hu, rfl⟩
    · exact unsigned?_eq_some_iff.2 ⟨whole, fraction, hu, rfl⟩

/-! ## The decimal of a numeral -/

/-- Digits that fit are taken as they stand. -/
theorem takeFraction_of_lt {m s : Nat} {ds : List Nat} (hm : Numeral.digitsValue m ds < Decimal.limit)
    (hs : s + ds.length ≤ Decimal.maxScale) :
    Numeral.takeFraction m s ds = some (Numeral.digitsValue m ds, s + ds.length) := by
  induction ds generalizing m s with
  | nil => rfl
  | cons d ds ih =>
    rw [digitsValue_cons] at hm
    have hle := le_digitsValue (10 * m + d) ds
    rw [List.length_cons] at hs
    have hfits : s < Decimal.maxScale ∧ 10 * m + d < Decimal.limit := ⟨by omega, by omega⟩
    rw [Numeral.takeFraction, if_pos hfits, ih hm (by omega), digitsValue_cons, List.length_cons]
    congr 2
    omega

theorem digitsValue_ofSpelling (whole fraction : Text) :
    Numeral.digitsValue (Numeral.digitsValue 0 (digitValues whole)) (digitValues fraction) =
      number (whole ++ fraction) := by
  rw [digitsValue_digitValues, digitsValue_digitValues, number, Nat.ofDigitChars_append]

/-- A written number that fits has just its digits, and no sign if they are all zero. -/
theorem toDecimal?_of_lt {sign whole fraction : Text} (hm : number (whole ++ fraction) < Decimal.limit)
    (hs : fraction.length ≤ Decimal.maxScale) :
    (Numeral.ofSpelling sign whole fraction).toDecimal? =
      some (Decimal.unsignZero ⟨sign == ['-'], number (whole ++ fraction), fraction.length, hm, hs⟩) := by
  have hvalue := digitsValue_ofSpelling whole fraction
  have hlength : (digitValues fraction).length = fraction.length := List.length_map ..
  have htake := @takeFraction_of_lt (Numeral.digitsValue 0 (digitValues whole)) 0 (digitValues fraction)
    (by rwa [hvalue]) (by omega)
  have hle := le_digitsValue (Numeral.digitsValue 0 (digitValues whole)) (digitValues fraction)
  have hwhole : Numeral.digitsValue 0 (digitValues whole) < Decimal.limit := by omega
  rw [hvalue, hlength, Nat.zero_add] at htake
  simp only [Numeral.toDecimal?, Numeral.ofSpelling, hwhole, ↓reduceIte, htake]
  rw [Decimal.ofParts?, dif_pos ⟨hm, hs⟩]
  rfl

theorem operand_of_spells {sign whole fraction word : Text} (h : Spells sign whole fraction word) :
    operand word =
      match (Numeral.ofSpelling sign whole fraction).toDecimal? with
      | none => .error .numericOverflow
      | some d => .ok d := by
  have hnumeral := ofText?_eq_some_iff.2 ⟨sign, whole, fraction, h, rfl⟩
  unfold operand
  split
  next hnone =>
    rw [hnumeral] at hnone
    cases hnone
  next n hn =>
    rw [hnumeral] at hn
    cases hn
    rfl

end Calculator
