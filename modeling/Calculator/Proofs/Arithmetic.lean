import Calculator.Decimal.Arithmetic
import Calculator.Proofs.Rounding

/-!
# Sums, differences and products

Each is the exact result rounded to the most places, half to even, or none beyond the bound (`add_answers`,
`sub_answers`, `mul_answers`). The shortcuts for zeros and for short factors give just what rounding gives.
-/

namespace Calculator.Decimal

/-! ## Sum and difference -/

theorem withSign_natAbs (z : ℤ) (s : ℕ) : withSign (z < 0) (z.natAbs / 10 ^ s) = z / 10 ^ s := by
  unfold withSign
  rw [Nat.cast_natAbs, Int.cast_abs]
  by_cases hz : z < 0
  · have hz' : (z : ℚ) < 0 := mod_cast hz
    rw [if_pos (decide_eq_true hz), abs_of_neg hz', neg_div, neg_neg]
  · have hz' : (0 : ℚ) ≤ z := mod_cast Int.not_lt.1 hz
    rw [if_neg (by simpa using hz), abs_of_nonneg hz']

/-- The value written with more places. -/
theorem value_eq_div (d : Decimal) {s : ℕ} (h : d.scale ≤ s) :
    d.value = (d.signed * (tenTo (s - d.scale) : ℕ) : ℤ) / 10 ^ s := by
  obtain ⟨k, rfl⟩ := Nat.exists_eq_add_of_le h
  rw [Nat.add_sub_cancel_left, value, pow_add]
  push_cast
  rw [cast_tenTo]
  field_simp

theorem exactSum_eq (a b : Decimal) : a.value + b.value = exactSum a b / 10 ^ max a.scale b.scale := by
  rw [value_eq_div a (Nat.le_max_left _ b.scale), value_eq_div b (Nat.le_max_right a.scale _), exactSum, Int.cast_add,
    add_div]

theorem add_answers (a b : Decimal) : Answers (fun _ => False) (a.value + b.value) (a.add b) := by
  unfold add
  by_cases ha : a.isZero = true
  · rw [if_pos ha]
    exact .of_value (by rw [(value_eq_zero_iff a).2 ha, zero_add])
  · rw [if_neg ha]
    by_cases hb : b.isZero = true
    · rw [if_pos hb]
      exact .of_value (by rw [(value_eq_zero_iff b).2 hb, add_zero])
    · rw [if_neg hb, exactSum_eq, ← withSign_natAbs]
      exact fit_answers _ _ _

theorem sub_answers (a b : Decimal) : Answers (fun _ => False) (a.value - b.value) (a.sub b) := by
  unfold sub
  by_cases h : (a.isZero && b.isZero) = true
  · rw [if_pos h]
    rw [Bool.and_eq_true] at h
    exact .of_value (by rw [(value_eq_zero_iff a).2 h.1, (value_eq_zero_iff b).2 h.2, sub_zero])
  · rw [if_neg h, sub_eq_add_neg, ← value_neg]
    exact add_answers a b.neg

/-! ## Product -/

theorem value_mul (a b : Decimal) :
    a.value * b.value =
      withSign (a.negative != b.negative) ((a.mantissa * b.mantissa : ℕ) / 10 ^ (a.scale + b.scale)) := by
  rw [value_eq, value_eq, withSign_mul, magnitude, magnitude, div_mul_div_comm, ← pow_add, Nat.cast_mul]

/-- A number below half a unit of the last place is rounded to zero. -/
theorem zero_approximates {x : ℚ} {halfUp : ℕ → Prop} (h : |x| * 10 ^ 28 < 1 / 2) : Approximates halfUp x zero := by
  have hnear : Nearest (halfUp 28) (|x| * 10 ^ 28) 0 := by
    refine .of_lt_half ?_
    rwa [Nat.cast_zero, sub_zero, abs_of_nonneg (by positivity)]
  refine ⟨⟨28, 0, ?_, hnear, ?_⟩, fun hz => absurd value_zero hz⟩
  · exact hnear.mostPlaces (by decide) (abs_nonneg x) (le_refl 28) (.inl rfl)
  · rw [value_zero, abs_zero, Nat.cast_zero, zero_div]

/-- Short factors with many places have a product below half a unit of the last place. -/
theorem mul_lt_half_of_short {a b : Decimal} (hshort : bothShort a b = true) (hscale : 47 < a.scale + b.scale) :
    |a.value * b.value| * 10 ^ 28 < 1 / 2 := by
  simp only [bothShort, Bool.and_eq_true, decide_eq_true_eq] at hshort
  have hm : a.mantissa * b.mantissa < 4294967296 * 4294967296 := Nat.mul_lt_mul'' hshort.1 hshort.2
  have hm' : ((a.mantissa * b.mantissa : ℕ) : ℚ) < 4294967296 * 4294967296 := mod_cast hm
  have hpow : (10 : ℚ) ^ 48 ≤ 10 ^ (a.scale + b.scale) := pow_le_pow_right₀ (by norm_num) (by omega)
  have hnonneg : (0 : ℚ) ≤ (a.mantissa * b.mantissa : ℕ) / 10 ^ (a.scale + b.scale) := by positivity
  rw [value_mul, abs_withSign, abs_of_nonneg hnonneg, div_mul_eq_mul_div, div_lt_div_iff₀ (by positivity) two_pos]
  have h48 : (10 : ℚ) ^ 28 * (4294967296 * 4294967296) * 2 < 10 ^ 48 := by norm_num
  linarith

theorem mul_answers (a b : Decimal) : Answers (fun _ => False) (a.value * b.value) (a.mul b) := by
  unfold mul
  by_cases hzero : (a.isZero || b.isZero) = true
  · rw [if_pos hzero]
    refine .of_value ?_
    rw [Bool.or_eq_true, ← value_eq_zero_iff, ← value_eq_zero_iff] at hzero
    rw [value_zero, mul_eq_zero.2 hzero]
  · rw [if_neg hzero]
    by_cases hshort : bothShort a b = true
    · by_cases hscale : 47 < a.scale + b.scale
      · rw [if_pos (by simp [hshort, hscale])]
        exact zero_approximates (mul_lt_half_of_short hshort hscale)
      · rw [if_neg (by simp [hscale]), value_mul]
        dsimp only
        rw [if_pos hshort]
        exact (fit_answers _ _ _).map_unsignZero
    · rw [if_neg (by simp [hshort]), value_mul]
      dsimp only
      rw [if_neg hshort]
      exact fit_answers _ _ _

end Calculator.Decimal
