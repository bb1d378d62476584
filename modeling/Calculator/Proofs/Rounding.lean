import Calculator.Decimal.Arithmetic
import Mathlib.Order.Lattice.Nat
import Mathlib.Algebra.Order.Field.Basic
import Mathlib.Tactic.FieldSimp
import Mathlib.Tactic.Linarith
import Mathlib.Tactic.NormNum
import Mathlib.Tactic.Positivity
import Mathlib.Tactic.Ring

/-!
# Correct rounding

The value of a decimal is a rational number. A magnitude is rounded to as many places, at most 28, as leave its digits
within a decimal (`MostPlaces`), and there to a nearest whole number of last places (`Nearest`). Main statements: the
rounded digits fit just if the exact number is below the bound (`Nearest.lt_limit_iff`), a magnitude that a decimal has
is what it is rounded to (`Rounded.eq_of_isPlaced`), and `fit` rounds correctly (`fit_answers`).
-/

namespace Calculator

theorem cast_tenTo (k : ℕ) : ((tenTo k : ℕ) : ℚ) = 10 ^ k := Nat.cast_pow 10 k

namespace Decimal

/-! ## The bound of decimals -/

/-- Half a unit above the largest mantissa. -/
def bound : ℚ := 2 ^ 96 - 1 / 2

theorem bound_eq : bound = limit - 1 / 2 := by norm_num [bound, limit]

theorem bound_le_of_limit_le {y : ℚ} (h : (limit : ℚ) ≤ y) : bound ≤ y := by
  rw [bound_eq]
  linarith

end Decimal

/-! ## Nearest whole numbers -/

/-- A whole number nearest to `y`; of two the even one, or the larger one if a half goes up. -/
structure Nearest (halfUp : Prop) (y : ℚ) (n : ℕ) : Prop where
  near : |y - n| ≤ 1 / 2
  even_of_half : ¬halfUp → |y - n| = 1 / 2 → Even n
  lt_of_half : halfUp → |y - n| = 1 / 2 → y < n

namespace Nearest

variable {halfUp : Prop} {y : ℚ} {n q : ℕ}

/-- Away from a half there is only one nearest number. -/
theorem of_lt_half (h : |y - n| < 1 / 2) : Nearest halfUp y n :=
  ⟨h.le, fun _ hhalf => absurd hhalf h.ne, fun _ hhalf => absurd hhalf h.ne⟩

theorem of_eq (h : y = n) : Nearest halfUp y n := by
  refine of_lt_half ?_
  rw [h, sub_self, abs_zero]
  norm_num

/-- The whole part is nearest below a half, and at a half that goes to it. -/
theorem keep (hq : (q : ℚ) ≤ y) (h : y < q + 1 / 2 ∨ y = q + 1 / 2 ∧ ¬halfUp ∧ Even q) : Nearest halfUp y q := by
  rcases h with h | ⟨rfl, hup, heven⟩
  · refine of_lt_half ?_
    rw [abs_lt]
    constructor <;> linarith
  · refine ⟨?_, fun _ _ => heven, fun h _ => absurd h hup⟩
    rw [add_sub_cancel_left, abs_of_pos one_half_pos]

/-- The number above the whole part is nearest above a half, and at a half that does not go to the whole part. -/
theorem raise (hq : y ≤ q + 1) (h : q + 1 / 2 < y ∨ y = q + 1 / 2 ∧ (halfUp ∨ ¬Even q)) :
    Nearest halfUp y (q + 1) := by
  rcases h with h | ⟨rfl, hup⟩
  · refine of_lt_half ?_
    rw [abs_lt]
    push_cast
    constructor <;> linarith
  · refine ⟨?_, fun hnot _ => ?_, fun _ _ => ?_⟩
    · rw [abs_le]
      push_cast
      constructor <;> linarith
    · exact Nat.even_add_one.2 (hup.resolve_left hnot)
    · push_cast
      linarith

/-- Where a half goes is all that the condition says. -/
theorem congr_not {other : Prop} (h : Nearest halfUp y n) (hup : ¬halfUp) (hother : ¬other) : Nearest other y n :=
  ⟨h.near, fun _ => h.even_of_half hup, fun h => absurd h hother⟩

theorem eq_of_natCast {k : ℕ} (h : Nearest halfUp k n) : n = k := by
  obtain ⟨hlow, hhigh⟩ := abs_le.1 h.near
  have hle : k < n + 1 := by
    have : (k : ℚ) < (n + 1 : ℕ) := by push_cast; linarith
    exact Nat.cast_lt.1 this
  have hge : n < k + 1 := by
    have : (n : ℚ) < (k + 1 : ℕ) := by push_cast; linarith
    exact Nat.cast_lt.1 this
  omega

/-- The nearest number is a mantissa just if the exact one is below the bound. Where a half goes makes no difference:
half a unit above the largest mantissa, which is odd, it goes up in either case. -/
theorem lt_limit_iff (h : Nearest halfUp y n) : n < Decimal.limit ↔ y < Decimal.bound := by
  obtain ⟨hlow, hhigh⟩ := abs_le.1 h.near
  rw [Decimal.bound_eq]
  constructor
  · intro hn
    have hn' : (n : ℚ) + 1 ≤ Decimal.limit := mod_cast hn
    refine lt_of_le_of_ne (by linarith) fun hy => ?_
    have hlast : (n : ℚ) + 1 = Decimal.limit := by linarith
    have hhalf : |y - n| = 1 / 2 := by
      rw [hy, ← hlast, abs_of_pos] <;> linarith
    by_cases hup : halfUp
    · have hlt := h.lt_of_half hup hhalf
      linarith
    · have heven := h.even_of_half hup hhalf
      have hodd : n + 1 = Decimal.limit := mod_cast hlast
      rw [Nat.even_iff] at heven
      unfold Decimal.limit at hodd
      omega
  · intro hy
    have hn : (n : ℚ) < Decimal.limit := by linarith
    exact Nat.cast_lt.1 hn

/-- Digits that are rounded up to the limit give up a place. -/
theorem of_limit (hlow : (Decimal.limit : ℚ) - 1 / 2 ≤ y * 10) (hhigh : y * 10 < Decimal.limit) :
    Nearest halfUp y ((Decimal.limit + 4) / 10) := by
  have hn : ((Decimal.limit + 4) / 10 : ℕ) * 10 = Decimal.limit + 4 := by decide
  have hn' : (((Decimal.limit + 4) / 10 : ℕ) : ℚ) * 10 = Decimal.limit + 4 := mod_cast hn
  refine .of_lt_half ?_
  rw [abs_lt]
  constructor <;> linarith

end Nearest

/-- The whole part of `n / d` and its rest. -/
theorem natCast_div_add_mod (n : ℕ) {d : ℕ} (hd : 0 < d) : (n : ℚ) / d = (n / d : ℕ) + (n % d : ℕ) / d := by
  have hd' : (d : ℚ) ≠ 0 := by positivity
  have hn : ((d * (n / d) + n % d : ℕ) : ℚ) = n := by rw [Nat.div_add_mod]
  push_cast at hn
  field_simp
  linarith

theorem natCast_div_lt_one {r d : ℕ} (h : r < d) : (r : ℚ) / d < 1 := by
  have hd : (0 : ℚ) < d := mod_cast Nat.zero_lt_of_lt h
  rw [div_lt_one hd]
  exact mod_cast h

/-- What `r / d` leaves over beside the half, in terms of twice `r`. -/
theorem div_lt_half_iff {r d : ℕ} (hd : 0 < d) : (r : ℚ) / d < 1 / 2 ↔ 2 * r < d := by
  have hd' : (0 : ℚ) < d := mod_cast hd
  rw [div_lt_div_iff₀ hd' two_pos, one_mul, mul_comm]
  exact mod_cast Iff.rfl

theorem half_lt_div_iff {r d : ℕ} (hd : 0 < d) : 1 / 2 < (r : ℚ) / d ↔ d < 2 * r := by
  have hd' : (0 : ℚ) < d := mod_cast hd
  rw [div_lt_div_iff₀ two_pos hd', one_mul, mul_comm]
  exact mod_cast Iff.rfl

theorem div_eq_half_iff {r d : ℕ} (hd : 0 < d) : (r : ℚ) / d = 1 / 2 ↔ 2 * r = d := by
  have hd' : (d : ℚ) ≠ 0 := by positivity
  rw [div_eq_div_iff hd' two_ne_zero, one_mul, mul_comm]
  exact mod_cast Iff.rfl

theorem Nearest.keep_rest {halfUp : Prop} {q r d : ℕ} (hd : 0 < d)
    (h : 2 * r < d ∨ 2 * r = d ∧ ¬halfUp ∧ Even q) : Nearest halfUp (q + (r : ℚ) / d) q := by
  have hr0 : (0 : ℚ) ≤ (r : ℚ) / d := by positivity
  refine .keep (by linarith) ?_
  rcases h with h | ⟨h, hup⟩
  · have hhalf := (div_lt_half_iff hd).2 h
    exact .inl (by linarith)
  · exact .inr ⟨by rw [(div_eq_half_iff hd).2 h], hup⟩

theorem Nearest.raise_rest {halfUp : Prop} {q r d : ℕ} (hr : r < d)
    (h : d < 2 * r ∨ 2 * r = d ∧ (halfUp ∨ ¬Even q)) : Nearest halfUp (q + (r : ℚ) / d) (q + 1) := by
  have hd : 0 < d := Nat.zero_lt_of_lt hr
  have hr1 : (r : ℚ) / d < 1 := natCast_div_lt_one hr
  refine .raise (by linarith) ?_
  rcases h with h | ⟨h, hup⟩
  · have hhalf := (half_lt_div_iff hd).2 h
    exact .inl (by linarith)
  · exact .inr ⟨by rw [(div_eq_half_iff hd).2 h], hup⟩

/-- Half to even, decided by twice the rest and the last digit. -/
theorem nearest_of_rest (q : ℕ) {r d : ℕ} (hr : r < d) :
    Nearest False (q + (r : ℚ) / d) (if d < 2 * r || (2 * r == d && q % 2 == 1) then q + 1 else q) := by
  split_ifs with h
  · simp only [Bool.or_eq_true, decide_eq_true_eq, Bool.and_eq_true, beq_iff_eq] at h
    refine .raise_rest hr (h.imp_right fun ⟨heq, hodd⟩ => ⟨heq, .inr ?_⟩)
    rw [Nat.even_iff]
    omega
  · simp only [Bool.or_eq_true, decide_eq_true_eq, Bool.and_eq_true, beq_iff_eq] at h
    refine .keep_rest (Nat.zero_lt_of_lt hr) ?_
    rcases Nat.lt_trichotomy (2 * r) d with hlt | heq | hgt
    · exact .inl hlt
    · exact .inr ⟨heq, id, Nat.even_iff.2 (by omega)⟩
    · exact absurd (.inl hgt) h

theorem nearest_roundHalfEven (n : ℕ) {d : ℕ} (hd : 0 < d) : Nearest False ((n : ℚ) / d) (roundHalfEven n d) := by
  rw [natCast_div_add_mod n hd]
  exact nearest_of_rest (n / d) (Nat.mod_lt n hd)

/-! ## Places -/

/-- The most places, at most 28, with which the digits of `y` are below the bound. -/
def MostPlaces (y : ℚ) (t : ℕ) : Prop := IsGreatest {t | t ≤ 28 ∧ y * 10 ^ t < Decimal.bound} t

/-- The magnitude `v` is the magnitude `y` rounded to the most places. Whether a half goes up may depend on how many
they are. -/
def Rounded (halfUp : ℕ → Prop) (y v : ℚ) : Prop :=
  ∃ t n : ℕ, MostPlaces y t ∧ Nearest (halfUp t) (y * 10 ^ t) n ∧ v = n / 10 ^ t

/-- A magnitude of digits that fit a decimal. -/
def IsPlaced (y : ℚ) : Prop := ∃ m s : ℕ, m < Decimal.limit ∧ s ≤ 28 ∧ y = m / 10 ^ s

theorem mul_pow_le_mul_pow {y : ℚ} (hy : 0 ≤ y) {s t : ℕ} (h : s ≤ t) : y * 10 ^ s ≤ y * 10 ^ t :=
  mul_le_mul_of_nonneg_left (pow_le_pow_right₀ (by norm_num) h) hy

/-- The places are the most if with one more the digits are beyond the bound. -/
theorem mostPlaces_of_next {y : ℚ} (hy : 0 ≤ y) {t : ℕ} (ht : t ≤ 28) (hlt : y * 10 ^ t < Decimal.bound)
    (hnext : t = 28 ∨ Decimal.bound ≤ y * 10 ^ (t + 1)) : MostPlaces y t := by
  refine ⟨⟨ht, hlt⟩, fun u ⟨hu, hlu⟩ => ?_⟩
  rcases hnext with rfl | hnext
  · exact hu
  · refine Nat.le_of_not_lt fun htu => ?_
    have hle := mul_pow_le_mul_pow hy (show t + 1 ≤ u from htu)
    linarith

/-- Where the nearest digits fit, it is enough that one place more is beyond the bound. -/
theorem Nearest.mostPlaces {halfUp : Prop} {y : ℚ} {t n : ℕ} (h : Nearest halfUp (y * 10 ^ t) n) (hn : n < Decimal.limit)
    (hy : 0 ≤ y) (ht : t ≤ 28) (hnext : t = 28 ∨ Decimal.bound ≤ y * 10 ^ (t + 1)) : MostPlaces y t :=
  mostPlaces_of_next hy ht (h.lt_limit_iff.1 hn) hnext

theorem exists_mostPlaces {y : ℚ} (hy : y < Decimal.bound) : ∃ t, MostPlaces y t := by
  have hne : {t | t ≤ 28 ∧ y * 10 ^ t < Decimal.bound}.Nonempty := ⟨0, by omega, by simpa using hy⟩
  have hbdd : BddAbove {t | t ≤ 28 ∧ y * 10 ^ t < Decimal.bound} := ⟨28, fun _ h => h.1⟩
  exact ⟨_, Nat.sSup_mem hne hbdd, fun _ h => le_csSup hbdd h⟩

theorem MostPlaces.lt_bound {y : ℚ} (hy : 0 ≤ y) {t : ℕ} (h : MostPlaces y t) : y < Decimal.bound := by
  have hle := mul_pow_le_mul_pow hy (Nat.zero_le t)
  have hlt := h.1.2
  rw [pow_zero, mul_one] at hle
  linarith

namespace IsPlaced

variable {y : ℚ}

theorem nonneg (h : IsPlaced y) : 0 ≤ y := by
  obtain ⟨m, s, -, -, rfl⟩ := h
  positivity

/-- A magnitude of digits that fit is a whole number of its last places. -/
theorem exists_natCast (h : IsPlaced y) {t : ℕ} (ht : MostPlaces y t) : ∃ n : ℕ, y * 10 ^ t = n := by
  obtain ⟨m, s, hm, hs, rfl⟩ := h
  have hten : (10 : ℚ) ^ s ≠ 0 := by positivity
  have hst : s ≤ t := by
    refine ht.2 ⟨hs, ?_⟩
    have hm' : (m : ℚ) + 1 ≤ Decimal.limit := mod_cast hm
    rw [div_mul_cancel₀ _ hten, Decimal.bound_eq]
    linarith
  refine ⟨m * 10 ^ (t - s), ?_⟩
  obtain ⟨k, rfl⟩ := Nat.exists_eq_add_of_le hst
  rw [Nat.add_sub_cancel_left, pow_add]
  push_cast
  field_simp

theorem lt_bound (h : IsPlaced y) : y < Decimal.bound := by
  obtain ⟨m, s, hm, -, rfl⟩ := h
  have hm' : (m : ℚ) + 1 ≤ Decimal.limit := mod_cast hm
  have hle : (m : ℚ) / 10 ^ s ≤ m := div_le_self (by positivity) (one_le_pow₀ (by norm_num))
  rw [Decimal.bound_eq]
  linarith

/-- A magnitude of digits that fit is rounded to itself. -/
theorem rounded (h : IsPlaced y) {halfUp : ℕ → Prop} : Rounded halfUp y y := by
  obtain ⟨t, ht⟩ := exists_mostPlaces h.lt_bound
  obtain ⟨n, hn⟩ := h.exists_natCast ht
  exact ⟨t, n, ht, .of_eq hn, by rw [← hn]; field_simp⟩

end IsPlaced

/-- A magnitude of digits that fit is rounded to nothing else. -/
theorem Rounded.eq_of_isPlaced {halfUp : ℕ → Prop} {y v : ℚ} (h : Rounded halfUp y v) (hy : IsPlaced y) : v = y := by
  obtain ⟨t, n, ht, hnear, rfl⟩ := h
  obtain ⟨k, hk⟩ := hy.exists_natCast ht
  rw [hk] at hnear
  rw [hnear.eq_of_natCast, ← hk]
  field_simp

/-! ## The value of a decimal -/

/-- A magnitude with a sign. -/
def withSign (negative : Bool) (y : ℚ) : ℚ := if negative then -y else y

@[simp] theorem abs_withSign (negative : Bool) (y : ℚ) : |withSign negative y| = |y| := by
  cases negative
  · rfl
  · exact abs_neg y

theorem withSign_lt_zero_iff {negative : Bool} {y : ℚ} (hy : 0 < y) : withSign negative y < 0 ↔ negative = true := by
  cases negative
  · simp [withSign, hy.le]
  · simp [withSign, hy]

theorem withSign_mul (s t : Bool) (y z : ℚ) : withSign s y * withSign t z = withSign (s != t) (y * z) := by
  cases s <;> cases t <;> simp [withSign]

theorem withSign_div (s t : Bool) (y z : ℚ) : withSign s y / withSign t z = withSign (s != t) (y / z) := by
  cases s <;> cases t <;> simp [withSign, div_neg, neg_div]

namespace Decimal

/-- The number that a decimal stands for. -/
def value (d : Decimal) : ℚ := d.signed / 10 ^ d.scale

/-- The magnitude of a decimal. -/
def magnitude (d : Decimal) : ℚ := d.mantissa / 10 ^ d.scale

theorem value_eq (d : Decimal) : d.value = withSign d.negative d.magnitude := by
  unfold value signed withSign magnitude
  cases d.negative
  · simp
  · simp [neg_div]

theorem magnitude_nonneg (d : Decimal) : 0 ≤ d.magnitude := by
  unfold magnitude
  positivity

theorem abs_value (d : Decimal) : |d.value| = d.magnitude := by
  rw [value_eq, abs_withSign, abs_of_nonneg d.magnitude_nonneg]

theorem isPlaced_magnitude (d : Decimal) : IsPlaced d.magnitude := ⟨d.mantissa, d.scale, d.mantissa_lt, d.scale_le, rfl⟩

theorem value_eq_zero_iff (d : Decimal) : d.value = 0 ↔ d.isZero = true := by
  have hten : (10 : ℚ) ^ d.scale ≠ 0 := by positivity
  rw [← abs_eq_zero, abs_value, magnitude, div_eq_zero_iff, or_iff_left hten, Nat.cast_eq_zero, isZero, beq_iff_eq]

theorem value_zero : zero.value = 0 := (value_eq_zero_iff zero).2 rfl

theorem value_neg (d : Decimal) : d.neg.value = -d.value := by
  unfold value signed neg
  cases d.negative <;> simp [neg_div]

theorem value_unsignZero (d : Decimal) : d.unsignZero.value = d.value := by
  by_cases hz : d.isZero = true
  · have hz' : d.unsignZero.isZero = true := hz
    rw [(value_eq_zero_iff _).2 hz, (value_eq_zero_iff _).2 hz']
  · rw [Bool.not_eq_true] at hz
    rw [value_eq, value_eq, unsignZero, hz, Bool.not_false, Bool.and_true]

/-! ## Decimals for an exact number -/

/-- The decimal is the exact number `x` rounded to the most places, and has its sign. -/
structure Approximates (halfUp : ℕ → Prop) (x : ℚ) (d : Decimal) : Prop where
  rounded : Rounded halfUp |x| |d.value|
  sign : d.value ≠ 0 → (d.value < 0 ↔ x < 0)

/-- The result is the decimal for `x`, or none if `x` is beyond the bound. -/
def Answers (halfUp : ℕ → Prop) (x : ℚ) : Option Decimal → Prop
  | none => bound ≤ |x|
  | some d => Approximates halfUp x d

variable {halfUp : ℕ → Prop} {x : ℚ}

theorem Approximates.of_value {d : Decimal} (h : d.value = x) : Approximates halfUp x d := by
  subst h
  refine ⟨?_, fun _ => Iff.rfl⟩
  rw [abs_value]
  exact d.isPlaced_magnitude.rounded

/-- A number that some decimal has is what it is rounded to. -/
theorem Approximates.eq_of_value {d e : Decimal} (h : Approximates halfUp x d) (he : e.value = x) : d.value = x := by
  have hplaced : IsPlaced |x| := by
    rw [← he, abs_value]
    exact e.isPlaced_magnitude
  have habs := h.rounded.eq_of_isPlaced hplaced
  by_cases hz : d.value = 0
  · rw [hz, abs_zero] at habs
    rw [hz, abs_eq_zero.1 habs.symm]
  · rcases abs_eq_abs.1 habs with heq | hneg
    · exact heq
    · -- the signs agree, so the opposite of `x` is no choice
      have hsign := h.sign hz
      rcases lt_or_gt_of_ne hz with hlt | hgt
      · have := hsign.1 hlt
        linarith
      · have : ¬x < 0 := fun hx => lt_asymm hgt (hsign.2 hx)
        linarith

/-- A magnitude below the bound, rounded, and with the sign of the exact number. -/
theorem Approximates.of_rounded {negative : Bool} {y : ℚ} (hy : 0 ≤ y) {d : Decimal} (hd : d.negative = negative)
    (h : Rounded halfUp y d.magnitude) : Approximates halfUp (withSign negative y) d := by
  refine ⟨?_, fun hz => ?_⟩
  · rwa [abs_withSign, abs_of_nonneg hy, abs_value]
  · have hd0 : d.magnitude ≠ 0 := by rwa [← abs_value, abs_ne_zero]
    have hy0 : y ≠ 0 := by
      rintro rfl
      exact hd0 (h.eq_of_isPlaced ⟨0, 0, by decide, by decide, by simp⟩)
    rw [value_eq, hd, withSign_lt_zero_iff (lt_of_le_of_ne d.magnitude_nonneg hd0.symm),
      withSign_lt_zero_iff (lt_of_le_of_ne hy hy0.symm)]

theorem Answers.map_unsignZero {result : Option Decimal} (h : Answers halfUp x result) :
    Answers halfUp x (result.map unsignZero) := by
  cases result with
  | none => exact h
  | some d =>
    rcases h with ⟨hrounded, hsign⟩
    rw [← value_unsignZero] at hrounded hsign
    exact ⟨hrounded, hsign⟩

/-! ## Rounding once -/

theorem div_pow_mul_pow (m : ℕ) {s p : ℕ} (h : p ≤ s) : (m : ℚ) / 10 ^ s * 10 ^ p = m / (tenTo (s - p) : ℕ) := by
  obtain ⟨k, rfl⟩ := Nat.exists_eq_add_of_le h
  rw [Nat.add_sub_cancel_left, cast_tenTo, pow_add]
  field_simp

/-- The digits at `p` places, if they fit, round the magnitude; if they do not, it is beyond the bound there. -/
theorem ofParts?_answers {negative : Bool} {m s p : ℕ} (hp : p ≤ 28) (hps : p ≤ s)
    (hnext : p = s ∨ p = 28 ∨ bound ≤ (m : ℚ) / 10 ^ s * 10 ^ (p + 1)) :
    match ofParts? negative (roundHalfEven m (tenTo (s - p))) p with
    | some d => Approximates (fun _ => False) (withSign negative (m / 10 ^ s)) d
    | none => bound ≤ (m : ℚ) / 10 ^ s * 10 ^ p := by
  have hy : (0 : ℚ) ≤ (m : ℚ) / 10 ^ s := by positivity
  have hnear := nearest_roundHalfEven m (tenTo_pos (s - p))
  rw [← div_pow_mul_pow m hps] at hnear
  split
  next d hd =>
    obtain ⟨hneg, hm, hscale⟩ := ofParts?_eq_some_iff.1 hd
    refine .of_rounded hy hneg ?_
    have hlt : roundHalfEven m (tenTo (s - p)) < limit := by
      rw [← hm]
      exact d.mantissa_lt
    rw [magnitude, hm, hscale]
    rcases hnext with rfl | hnext
    · rw [div_mul_cancel₀ _ (by positivity)] at hnear
      rw [hnear.eq_of_natCast] at hlt ⊢
      exact IsPlaced.rounded ⟨m, p, hlt, hp, rfl⟩
    · exact ⟨p, _, hnear.mostPlaces hlt hy hp hnext, hnear, rfl⟩
  next hnone =>
    rcases ofParts?_eq_none_iff.1 hnone with hlimit | hscale
    · exact le_of_not_gt fun hlt => Nat.not_lt.2 hlimit (hnear.lt_limit_iff.2 hlt)
    · exact absurd hp (Nat.not_le.2 hscale)

theorem fitAt_answers (negative : Bool) (m s : ℕ) {places : ℕ} (hp : places ≤ 28) (hps : places ≤ s)
    (hnext : places = s ∨ places = 28 ∨ bound ≤ (m : ℚ) / 10 ^ s * 10 ^ (places + 1)) :
    Answers (fun _ => False) (withSign negative (m / 10 ^ s)) (fitAt negative m s places) := by
  induction places with
  | zero =>
    have h := @ofParts?_answers negative m s 0 hp hps hnext
    rw [fitAt]
    rw [Nat.sub_zero] at h
    cases hd : ofParts? negative (roundHalfEven m (tenTo s)) 0 with
    | none =>
      rw [hd] at h
      have hy : (0 : ℚ) ≤ (m : ℚ) / 10 ^ s := by positivity
      simpa [Answers, abs_of_nonneg hy] using h
    | some d =>
      rw [hd] at h
      exact h
  | succ places ih =>
    have h := @ofParts?_answers negative m s (places + 1) hp hps hnext
    rw [fitAt]
    cases hd : ofParts? negative (roundHalfEven m (tenTo (s - (places + 1)))) (places + 1) with
    | none =>
      rw [hd] at h
      exact ih (by omega) (by omega) (.inr (.inr h))
    | some d =>
      rw [hd] at h
      exact h

/-- A magnitude of whole last places is rounded once, half to even. -/
theorem fit_answers (negative : Bool) (m s : ℕ) :
    Answers (fun _ => False) (withSign negative (m / 10 ^ s)) (fit negative m s) := by
  have h28 : maxScale = 28 := rfl
  exact fitAt_answers negative m s (by omega) (by omega) (by omega)

end Decimal

end Calculator
