import Calculator.Proofs.Numerals
import Calculator.Proofs.Rounding

/-!
# Reading numbers

What becomes of a word that stands for a number (`operand_classified`): it is invalid unless it writes a number; a
number beyond the bound overflows; digits that fit are taken as they stand; and of other numbers the digits are taken as
long as they fit, and rounded half up by the next one, which is the right rounding (`takeFraction_rounds`).
-/

namespace Calculator

/-! ## The exact number -/

/-- The fraction that digits write behind a point. -/
def fractionValue : List ℕ → ℚ
  | [] => 0
  | d :: later => (d + fractionValue later) / 10

/-- The exact number that is written. -/
def exactValue (sign whole fraction : Text) : ℚ :=
  withSign (sign == ['-']) (number (whole ++ fraction) / 10 ^ fraction.length)

theorem fractionValue_nonneg (ds : List ℕ) : 0 ≤ fractionValue ds := by
  induction ds with
  | nil => exact le_refl 0
  | cons d ds ih =>
    unfold fractionValue
    positivity

theorem fractionValue_lt_one {ds : List ℕ} (h : ∀ d ∈ ds, d < 10) : fractionValue ds < 1 := by
  induction ds with
  | nil => exact one_pos
  | cons d ds ih =>
    have hlater := ih fun d hd => h d (List.mem_cons_of_mem _ hd)
    have hd : (d : ℚ) + 1 ≤ 10 := mod_cast h d List.mem_cons_self
    rw [fractionValue, div_lt_one (by norm_num)]
    linarith

theorem digitsValue_eq (m : ℕ) (ds : List ℕ) :
    (Numeral.digitsValue m ds : ℚ) = (m + fractionValue ds) * 10 ^ ds.length := by
  induction ds generalizing m with
  | nil => simp [Numeral.digitsValue, fractionValue]
  | cons d ds ih =>
    rw [digitsValue_cons, ih, fractionValue, List.length_cons, pow_succ]
    push_cast
    ring

/-! ## Taking digits -/

/-- Adding one to the last digit rounds up, where the next digit is at least five. -/
theorem roundUp_rounds {y : ℚ} (hy : 0 ≤ y) {m s : ℕ} (hm : m < Decimal.limit) (hs : s ≤ 28)
    (hlow : m + 1 / 2 ≤ y * 10 ^ s) (hhigh : y * 10 ^ s < m + 1)
    (hnext : s = 28 ∨ Decimal.bound ≤ y * 10 ^ (s + 1)) :
    match Numeral.roundUp m s with
    | none => Decimal.bound ≤ y
    | some (n, t) => MostPlaces y t ∧ Nearest True (y * 10 ^ t) n := by
  unfold Numeral.roundUp
  by_cases hfits : m + 1 < Decimal.limit
  · rw [if_pos hfits]
    have hnear : Nearest True (y * 10 ^ s) (m + 1) :=
      .raise hhigh.le (hlow.lt_or_eq.imp id fun heq => ⟨heq.symm, .inl trivial⟩)
    exact ⟨hnear.mostPlaces hfits hy hs hnext, hnear⟩
  · rw [if_neg hfits]
    have hlast : m + 1 = Decimal.limit := by omega
    have hlast' : (m : ℚ) + 1 = Decimal.limit := mod_cast hlast
    by_cases hzero : s = 0
    · rw [if_pos hzero, Decimal.bound_eq]
      rw [hzero, pow_zero, mul_one] at hlow
      linarith
    · rw [if_neg hzero, hlast]
      obtain ⟨t, rfl⟩ := Nat.exists_eq_succ_of_ne_zero hzero
      have hten : y * 10 ^ (t + 1) = y * 10 ^ t * 10 := by ring
      rw [Nat.succ_eq_add_one, hten] at hlow hhigh
      have hnear : Nearest True (y * 10 ^ t) ((Decimal.limit + 4) / 10) :=
        .of_limit (by linarith) (by linarith)
      have hlimit : (Decimal.limit + 4) / 10 < Decimal.limit := by decide
      have hbeyond : Decimal.bound ≤ y * 10 ^ (t + 1) := by
        rw [hten, Decimal.bound_eq]
        linarith
      exact ⟨hnear.mostPlaces hlimit hy (by omega) (.inr hbeyond), hnear⟩

/-- Digits that do not all fit are rounded half up to the most places. -/
theorem takeFraction_rounds {y : ℚ} (hy : 0 ≤ y) {m s : ℕ} {ds : List ℕ} (hm : m < Decimal.limit) (hs : s ≤ 28)
    (hds : ∀ d ∈ ds, d < 10) (hvalue : y * 10 ^ s = m + fractionValue ds)
    (hover : Decimal.limit ≤ Numeral.digitsValue m ds ∨ 28 < s + ds.length) :
    match Numeral.takeFraction m s ds with
    | none => Decimal.bound ≤ y
    | some (n, t) => MostPlaces y t ∧ Nearest True (y * 10 ^ t) n := by
  induction ds generalizing m s with
  | nil =>
    rcases hover with hover | hover
    · exact absurd hm (Nat.not_lt.2 hover)
    · exact absurd hs (Nat.not_le.2 hover)
  | cons d ds ih =>
    have hlater : ∀ d ∈ ds, d < 10 := fun d hd => hds d (List.mem_cons_of_mem _ hd)
    have hlow := fractionValue_nonneg ds
    have hhigh := fractionValue_lt_one hlater
    have hd : (d : ℚ) + 1 ≤ 10 := mod_cast hds d List.mem_cons_self
    rw [fractionValue] at hvalue
    have hstep : y * 10 ^ (s + 1) = (10 * m + d : ℕ) + fractionValue ds := by
      push_cast
      rw [pow_succ, ← mul_assoc, hvalue]
      ring
    rw [Numeral.takeFraction]
    by_cases hfits : s < Decimal.maxScale ∧ 10 * m + d < Decimal.limit
    · rw [if_pos hfits]
      rw [digitsValue_cons, List.length_cons] at hover
      exact ih hfits.2 hfits.1 hlater hstep (hover.imp id fun h => by omega)
    · rw [if_neg hfits]
      have hnext : s = 28 ∨ Decimal.bound ≤ y * 10 ^ (s + 1) := by
        by_cases h28 : s = 28
        · exact .inl h28
        · have hlimit : Decimal.limit ≤ 10 * m + d := by
            refine Nat.le_of_not_lt fun hlt => hfits ⟨?_, hlt⟩
            unfold Decimal.maxScale
            omega
          have hlimit' : (Decimal.limit : ℚ) ≤ (10 * m + d : ℕ) := mod_cast hlimit
          exact .inr (Decimal.bound_le_of_limit_le (by linarith))
      by_cases hfive : 5 ≤ d
      · rw [if_pos hfive]
        have hfive' : (5 : ℚ) ≤ d := mod_cast hfive
        exact roundUp_rounds hy hm hs (by linarith) (by linarith) hnext
      · rw [if_neg hfive]
        have hfour : (d : ℚ) + 1 ≤ 5 := mod_cast Nat.lt_of_not_le hfive
        have hnear : Nearest True (y * 10 ^ s) m := .keep (by linarith) (.inl (by linarith))
        exact ⟨hnear.mostPlaces hm hy hs hnext, hnear⟩

/-! ## Words -/

theorem abs_exactValue (sign whole fraction : Text) :
    |exactValue sign whole fraction| = number (whole ++ fraction) / 10 ^ fraction.length := by
  rw [exactValue, abs_withSign, abs_of_nonneg (by positivity)]

/-- The magnitude is the whole part and the fraction. -/
theorem abs_exactValue_eq_add (sign whole fraction : Text) :
    |exactValue sign whole fraction| =
      Numeral.digitsValue 0 (digitValues whole) + fractionValue (digitValues fraction) := by
  have hlength : (digitValues fraction).length = fraction.length := List.length_map ..
  rw [abs_exactValue, ← digitsValue_ofSpelling, digitsValue_eq, hlength, mul_div_cancel_right₀]
  positivity

/-- A written number that does not fit is rounded half up, or beyond the bound. -/
theorem toDecimal?_rounds {sign whole fraction : Text} (hdigits : AllDigits (whole ++ fraction))
    (hover : Decimal.limit ≤ number (whole ++ fraction) ∨ 28 < fraction.length) :
    match (Numeral.ofSpelling sign whole fraction).toDecimal? with
    | none => Decimal.bound ≤ |exactValue sign whole fraction|
    | some d => MostPlaces |exactValue sign whole fraction| d.scale ∧
        Nearest True (|exactValue sign whole fraction| * 10 ^ d.scale) d.mantissa ∧
        d.negative = (sign == ['-'] && !d.isZero) := by
  have hy := abs_exactValue_eq_add sign whole fraction
  have hlength : (digitValues fraction).length = fraction.length := List.length_map ..
  have hnonneg := fractionValue_nonneg (digitValues fraction)
  unfold Numeral.toDecimal?
  change match (if Numeral.digitsValue 0 (digitValues whole) < Decimal.limit then
      match Numeral.takeFraction (Numeral.digitsValue 0 (digitValues whole)) 0 (digitValues fraction) with
      | none => none
      | some (m, s) => (Decimal.ofParts? (sign == ['-']) m s).map Decimal.unsignZero
    else none) with
    | none => _
    | some d => _
  by_cases hwhole : Numeral.digitsValue 0 (digitValues whole) < Decimal.limit
  · rw [if_pos hwhole]
    rw [← digitsValue_ofSpelling] at hover
    have hds : ∀ d ∈ digitValues fraction, d < 10 := fun d hd =>
      lt_ten_of_mem_digitValues (allDigits_append.1 hdigits).2 hd
    have htake := takeFraction_rounds (abs_nonneg (exactValue sign whole fraction)) hwhole (Nat.zero_le 28) hds
      (by rw [pow_zero, mul_one, hy]) (by rwa [hlength, Nat.zero_add])
    revert htake
    cases Numeral.takeFraction (Numeral.digitsValue 0 (digitValues whole)) 0 (digitValues fraction) with
    | none => exact id
    | some parts =>
      obtain ⟨n, t⟩ := parts
      rintro ⟨hplaces, hnear⟩
      have hparts : n < Decimal.limit ∧ t ≤ Decimal.maxScale := ⟨hnear.lt_limit_iff.2 hplaces.1.2, hplaces.1.1⟩
      simp only [Decimal.ofParts?, dif_pos hparts, Option.map_some]
      exact ⟨hplaces, hnear, rfl⟩
  · rw [if_neg hwhole]
    have hlimit : (Decimal.limit : ℚ) ≤ Numeral.digitsValue 0 (digitValues whole) := mod_cast Nat.not_lt.1 hwhole
    exact Decimal.bound_le_of_limit_le (by rw [hy]; linarith)

/-- The digits of a number fit just if it is a mantissa's worth of its last places. -/
theorem fits_iff (sign whole fraction : Text) :
    |exactValue sign whole fraction| * 10 ^ fraction.length ≤ 2 ^ 96 - 1 ↔
      number (whole ++ fraction) < Decimal.limit := by
  have hten : (10 : ℚ) ^ fraction.length ≠ 0 := by positivity
  have hlimit : ((2 : ℚ) ^ 96 - 1) = (Decimal.limit - 1 : ℕ) := by norm_num [Decimal.limit]
  rw [abs_exactValue, div_mul_cancel₀ _ hten, hlimit, Nat.cast_le, Nat.le_sub_one_iff_lt (by decide)]

theorem operand_eq_invalidNumber_iff {word atom : Text} :
    operand word = .error (.invalidNumber atom) ↔ atom = word ∧ Numeral.ofText? word = none := by
  unfold operand
  cases Numeral.ofText? word with
  | none =>
    simp only [Except.error.injEq, ExpressionError.invalidNumber.injEq, and_true]
    exact eq_comm
  | some n =>
    dsimp only
    cases n.toDecimal? <;> simp

/-- A written number that fits. -/
theorem operand_of_fits {sign whole fraction word : Text} (h : Spells sign whole fraction word)
    (hm : number (whole ++ fraction) < Decimal.limit) (hs : fraction.length ≤ 28) :
    ∃ d, operand word = .ok d ∧ d.negative = (sign == ['-'] && !d.isZero) ∧
      d.value = exactValue sign whole fraction ∧ d.scale = fraction.length := by
  refine ⟨_, by rw [operand_of_spells h, toDecimal?_of_lt hm hs], rfl, ?_, rfl⟩
  rw [Decimal.value_unsignZero, Decimal.value_eq]
  rfl

/-- What is read of a word. It is invalid, as a whole, just if it does not write a number. A written number overflows
just if it is beyond the bound. Otherwise it has a decimal, without a sign if it is zero: the very number, with all its
places, if its digits fit; if they do not, the number rounded half up to the most places. -/
theorem operand_classified (word : Text) :
    (operand word = .error (.invalidNumber word) ↔ ¬∃ sign whole fraction, Spells sign whole fraction word) ∧
    (∀ atom, operand word = .error (.invalidNumber atom) → atom = word) ∧
    ∀ sign whole fraction, Spells sign whole fraction word →
      (operand word = .error .numericOverflow ↔ 2 ^ 96 - 1 / 2 ≤ |exactValue sign whole fraction|) ∧
      (|exactValue sign whole fraction| < 2 ^ 96 - 1 / 2 → ∃ d, operand word = .ok d ∧
        (d.negative = true ↔ sign = ['-'] ∧ d.mantissa ≠ 0) ∧
        if |exactValue sign whole fraction| * 10 ^ fraction.length ≤ 2 ^ 96 - 1 ∧ fraction.length ≤ 28 then
          d.value = exactValue sign whole fraction ∧ d.scale = fraction.length
        else
          MostPlaces |exactValue sign whole fraction| d.scale ∧
            Nearest True (|exactValue sign whole fraction| * 10 ^ d.scale) d.mantissa) := by
  refine ⟨?_, fun atom h => (operand_eq_invalidNumber_iff.1 h).1, fun sign whole fraction h => ?_⟩
  · rw [operand_eq_invalidNumber_iff, Option.eq_none_iff_forall_ne_some]
    constructor
    · rintro ⟨-, hnone⟩ ⟨sign, whole, fraction, h⟩
      exact hnone _ (ofText?_eq_some_iff.2 ⟨sign, whole, fraction, h, rfl⟩)
    · intro hnot
      refine ⟨rfl, fun n hn => hnot ?_⟩
      obtain ⟨sign, whole, fraction, h, -⟩ := ofText?_eq_some_iff.1 hn
      exact ⟨sign, whole, fraction, h⟩
  · have hsign : ∀ d : Decimal, d.negative = (sign == ['-'] && !d.isZero) →
        (d.negative = true ↔ sign = ['-'] ∧ d.mantissa ≠ 0) := by
      intro d hd
      simp [hd, Decimal.isZero]
    change (_ ↔ Decimal.bound ≤ _) ∧ (_ < Decimal.bound → _)
    by_cases hfits : |exactValue sign whole fraction| * 10 ^ fraction.length ≤ 2 ^ 96 - 1 ∧ fraction.length ≤ 28
    · have hm := (fits_iff sign whole fraction).1 hfits.1
      obtain ⟨d, hd, hnegative, hvalue, hscale⟩ := operand_of_fits h hm hfits.2
      have hlt : |exactValue sign whole fraction| < Decimal.bound := by
        rw [abs_exactValue]
        exact IsPlaced.lt_bound ⟨_, _, hm, hfits.2, rfl⟩
      rw [hd]
      refine ⟨⟨(by intro h; cases h), fun hle => absurd hlt (not_lt.2 hle)⟩, fun _ => ⟨d, rfl, hsign d hnegative, ?_⟩⟩
      rw [if_pos hfits]
      exact ⟨hvalue, hscale⟩
    · have hover : Decimal.limit ≤ number (whole ++ fraction) ∨ 28 < fraction.length := by
        rw [fits_iff] at hfits
        omega
      rw [operand_of_spells h]
      have hrounds := @toDecimal?_rounds sign whole fraction h.digits hover
      revert hrounds
      cases (Numeral.ofSpelling sign whole fraction).toDecimal? with
      | none =>
        intro hbound
        exact ⟨⟨fun _ => hbound, fun _ => rfl⟩, fun hlt => absurd hlt (not_lt.2 hbound)⟩
      | some d =>
        rintro ⟨hplaces, hnear, hnegative⟩
        have hlt := hplaces.lt_bound (abs_nonneg _)
        refine ⟨⟨(by intro h; cases h), fun hle => absurd hlt (not_lt.2 hle)⟩, fun _ => ⟨d, rfl, hsign d hnegative, ?_⟩⟩
        rw [if_neg hfits]
        exact ⟨hplaces, hnear⟩

/-- A number with one place too many, at a half. -/
theorem operand_classified_half :
    ∃ d, operand "-.00000000000000000000000000005".toList = .ok d ∧ MostPlaces (5 / 10 ^ 29) d.scale ∧
      Nearest True (5 / 10 ^ 29 * 10 ^ d.scale) d.mantissa := by
  have hspells : Spells ['-'] [] "00000000000000000000000000005".toList "-.00000000000000000000000000005".toList :=
    ⟨by simp, by decide, by decide, .inl rfl⟩
  have hlength : "00000000000000000000000000005".toList.length = 29 := rfl
  have hvalue : |exactValue ['-'] [] "00000000000000000000000000005".toList| = 5 / 10 ^ 29 := by
    have hnumber : number ([] ++ "00000000000000000000000000005".toList) = 5 := by decide
    rw [abs_exactValue, hnumber, hlength, Nat.cast_ofNat]
  have hrounds := ((operand_classified _).2.2 _ _ _ hspells).2
  rw [hvalue, hlength] at hrounds
  obtain ⟨d, hd, -, hrest⟩ := hrounds (by norm_num)
  rw [if_neg (by norm_num)] at hrest
  exact ⟨d, hd, hrest⟩

end Calculator
