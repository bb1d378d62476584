import Calculator.Decimal.Quotient
import Calculator.Proofs.Rounding
import Mathlib.Algebra.Order.Floor.Semifield
import Mathlib.Data.Rat.Floor

/-!
# Quotients

The quotient of two decimals is the exact one rounded to the most places, or none beyond the bound (`div_answers`). A
half goes to even, but up where a round of the division has found the digit of the half together with the last digit
and the divisor has more than 64 bits (`HalfGoesUp`). Every round keeps what digits and rest are worth
(`InProgress.next`), so that the end of the division, whichever it is, rounds the exact quotient (`divide_finishes`);
removing zeros changes nothing of it (`trim_kept`).
-/

namespace Calculator.Decimal.Quotient

/-! ## How many digits fit -/

theorem growth_fits {d : ℕ} (hd : d < limit) (k : ℕ) : d * tenTo (growth d k) < limit := by
  induction k with
  | zero => simpa [growth, tenTo] using hd
  | succ k ih =>
    unfold growth
    split
    next h => exact h
    next => exact ih

/-- If less than allowed fit, one more does not. -/
theorem limit_le_of_growth_lt {d k : ℕ} (h : growth d k < k) : limit ≤ d * tenTo (growth d k + 1) := by
  induction k with
  | zero => exact absurd h (Nat.not_lt_zero _)
  | succ k ih =>
    unfold growth at h ⊢
    split at h
    next => exact absurd h (Nat.lt_irrefl _)
    next hover =>
      rw [if_neg hover]
      rcases Nat.lt_or_ge (growth d k) k with hlt | hge
      · exact ih hlt
      · rw [Nat.le_antisymm (growth_le d k) hge]
        exact Nat.not_lt.1 hover

theorem mul_tenTo_mono (d : ℕ) {j k : ℕ} (h : j ≤ k) : d * tenTo j ≤ d * tenTo k :=
  Nat.mul_le_mul_left d (Nat.pow_le_pow_right (by decide) h)

theorem step_of_ne {rest : ℕ} (h : rest ≠ 0) (q : Quotient) : q.step rest = growth q.digits (min 9 q.room) := if_neg h

theorem step_le_nine (q : Quotient) (rest : ℕ) : q.step rest ≤ 9 := by
  have hmax := growth_le q.digits (min 9 q.room)
  unfold step
  split <;> omega

theorem step_fits {q : Quotient} {rest : ℕ} (hdigits : q.digits < limit) (hrest : rest ≠ 0) :
    q.digits * tenTo (q.step rest) < limit := by
  rw [step_of_ne hrest]
  exact growth_fits hdigits _

theorem limit_le_of_step_lt {q : Quotient} {rest : ℕ} (hrest : rest ≠ 0) (h : q.step rest < min 9 q.room) :
    limit ≤ q.digits * tenTo (q.step rest + 1) := by
  rw [step_of_ne hrest] at h ⊢
  exact limit_le_of_growth_lt h

/-! ## What digits and rest are worth -/

/-- With `part` of a last digit left over, the quotient stands for `y`. -/
def Worth (y part : ℚ) (q : Quotient) : Prop := y * 10 ^ 28 = (q.digits + part) * 10 ^ q.room

namespace Worth

variable {y part : ℚ} {q : Quotient}

/-- The digits before the point of the places that there are. -/
theorem mul_pow (h : Worth y part q) (hroom : q.room ≤ 28) : y * 10 ^ (28 - q.room) = q.digits + part := by
  obtain ⟨t, ht⟩ := Nat.exists_eq_add_of_le hroom
  unfold Worth at h
  rw [ht, pow_add, ← mul_assoc, mul_right_comm] at h
  rw [ht, Nat.add_sub_cancel_left]
  exact mul_right_cancel₀ (by positivity) h

theorem nonneg (h : Worth y part q) (hpart : 0 ≤ part) : 0 ≤ y := by
  have hten : (0 : ℚ) < 10 ^ 28 := by positivity
  refine nonneg_of_mul_nonneg_left ?_ hten
  rw [h]
  positivity

/-- The whole part at the places that there are. -/
theorem floor_eq (h : Worth y part q) (hpart : 0 ≤ part) (hlt : part < 1) (hroom : q.room ≤ 28) :
    ⌊y * 10 ^ (28 - q.room)⌋₊ = q.digits := by
  rw [h.mul_pow hroom, Nat.floor_eq_iff (by positivity)]
  constructor <;> linarith

/-- Digits beyond the limit with no places are beyond the bound. -/
theorem bound_le (h : Worth y part q) (hpart : 0 ≤ part) {k : ℕ} (hlimit : limit ≤ q.digits * tenTo k)
    (hroom : 28 + k ≤ q.room) : bound ≤ y := by
  obtain ⟨j, hj⟩ := Nat.exists_eq_add_of_le hroom
  have hlimit' : (limit : ℚ) ≤ q.digits * 10 ^ k := by
    rw [← cast_tenTo]
    exact mod_cast hlimit
  have hone : (1 : ℚ) ≤ 10 ^ j := one_le_pow₀ (by norm_num)
  have hy : y = (q.digits * 10 ^ k + part * 10 ^ k) * 10 ^ j := by
    unfold Worth at h
    rw [hj, pow_add, pow_add] at h
    have hten : (10 : ℚ) ^ 28 ≠ 0 := by positivity
    refine mul_right_cancel₀ hten (h.trans ?_)
    ring
  refine bound_le_of_limit_le ?_
  have hpart' : 0 ≤ part * (10 : ℚ) ^ k := by positivity
  rw [hy]
  nlinarith

end Worth

/-- A round keeps what digits and rest are worth. -/
theorem worth_extend {y : ℚ} {b rest k : ℕ} {q : Quotient} (hb : 0 < b) (hk : k ≤ q.room)
    (h : Worth y ((rest : ℚ) / b) q) : Worth y ((rest * tenTo k % b : ℕ) / b) (q.extend rest b k) := by
  obtain ⟨j, hj⟩ := Nat.exists_eq_add_of_le hk
  have hrest := natCast_div_add_mod (rest * tenTo k) hb
  unfold Worth at h ⊢
  simp only [extend, hj, Nat.add_sub_cancel_left]
  rw [hj] at h
  push_cast at hrest ⊢
  rw [cast_tenTo] at hrest ⊢
  rw [h, pow_add, add_assoc, ← hrest]
  ring

/-! ## Ends of the division -/

/-- The result rounds `y` to the most places, or there is none and `y` is beyond the bound. -/
def Finishes (halfUp : ℕ → Prop) (y : ℚ) : Option Quotient → Prop
  | none => bound ≤ y
  | some q => q.digits < limit ∧ q.room ≤ 28 ∧ Rounded halfUp y (q.digits * 10 ^ q.room / 10 ^ 28)

theorem digits_mul_pow_div (n : ℚ) {room : ℕ} (h : room ≤ 28) : n * 10 ^ room / 10 ^ 28 = n / 10 ^ (28 - room) := by
  obtain ⟨t, ht⟩ := Nat.exists_eq_add_of_le h
  rw [ht, Nat.add_sub_cancel_left, pow_add]
  field_simp

/-- Nearest digits that fit are a right result where no further digit fits. -/
theorem finishes_of_nearest {halfUp : ℕ → Prop} {y : ℚ} {q : Quotient} (hdigits : q.digits < limit) (hy : 0 ≤ y)
    (hroom : q.room ≤ 28) (hnext : 28 - q.room = 28 ∨ bound ≤ y * 10 ^ (28 - q.room + 1))
    (hnear : Nearest (halfUp (28 - q.room)) (y * 10 ^ (28 - q.room)) q.digits) : Finishes halfUp y (some q) :=
  ⟨hdigits, hroom, 28 - q.room, q.digits, hnear.mostPlaces hdigits hy (Nat.sub_le 28 _) hnext, hnear,
    digits_mul_pow_div _ hroom⟩

/-- Digits without a rest. -/
theorem Worth.finishes {halfUp : ℕ → Prop} {y : ℚ} {q : Quotient} (h : Worth y 0 q) (hroom : q.room ≤ 28)
    (hdigits : q.digits < limit) : Finishes halfUp y (some q) := by
  have hy : y = q.digits / 10 ^ (28 - q.room) := by
    rw [← add_zero (q.digits : ℚ), ← h.mul_pow hroom]
    field_simp
  refine ⟨hdigits, hroom, ?_⟩
  rw [digits_mul_pow_div _ hroom, ← hy]
  exact IsPlaced.rounded ⟨q.digits, 28 - q.room, hdigits, by omega, hy⟩

/-! ## Taking a digit back -/

/-- The digit `c` and the rest decide on the digits before: above five the digits go up, below they stay, and at five it
counts whether there is more. -/
theorem nearest_of_carry {halfUp : Prop} (q : ℕ) {c rest b : ℕ} {more : Bool} (hc : c < 10) (hrest : rest < b)
    (hmore : rest ≠ 0 → more = true) (hhalf : rest = 0 → (more = true ↔ halfUp)) :
    Nearest halfUp (q + ((c * b + rest : ℕ) : ℚ) / (10 * b : ℕ))
      (if 5 < c || (c == 5 && (more || q % 2 == 1)) then q + 1 else q) := by
  have hb : 0 < 10 * b := by omega
  have hlt : c * b + rest < 10 * b := by
    have := Nat.mul_le_mul_right b (Nat.le_of_lt_succ hc)
    omega
  rcases Nat.lt_trichotomy c 5 with hlow | rfl | hhigh
  · have hmul := Nat.mul_le_mul_right b (Nat.le_of_lt_succ hlow)
    rw [if_neg (by simp only [Bool.or_eq_true, decide_eq_true_eq, Bool.and_eq_true, beq_iff_eq]; omega)]
    exact .keep_rest hb (.inl (by omega))
  · by_cases hm : more = true
    · rw [if_pos (by simp [hm])]
      refine .raise_rest hlt ?_
      by_cases hzero : rest = 0
      · exact .inr ⟨by omega, .inl ((hhalf hzero).1 hm)⟩
      · exact .inl (by omega)
    · have hzero : rest = 0 := by
        by_contra hne
        exact hm (hmore hne)
      have hnot : ¬halfUp := fun hup => hm ((hhalf hzero).2 hup)
      by_cases hodd : q % 2 = 1
      · rw [if_pos (by simp [hodd])]
        refine .raise_rest hlt (.inr ⟨by omega, .inr ?_⟩)
        rw [Nat.even_iff]
        omega
      · rw [if_neg (by simp [hm, hodd])]
        exact .keep_rest hb (.inr ⟨by omega, hnot, Nat.even_iff.2 (by omega)⟩)
  · have hmul := Nat.mul_le_mul_right b hhigh
    rw [if_pos (by simp [hhigh])]
    exact .raise_rest hlt (.inl (by omega))

/-- What the last digit and the rest are worth in units of the digit before. -/
theorem Worth.mul_pow_tenth {y : ℚ} {q : Quotient} {rest b t : ℕ} (hb : 0 < b) (h : Worth y ((rest : ℚ) / b) q)
    (ht : q.room + 1 + t = 28) :
    y * 10 ^ t = (q.digits / 10 : ℕ) + ((q.digits % 10 * b + rest : ℕ) : ℚ) / (10 * b : ℕ) := by
  have hmul := h.mul_pow (by omega)
  have hroom : 28 - q.room = t + 1 := by omega
  have hdigits : ((10 * (q.digits / 10) + q.digits % 10 : ℕ) : ℚ) = q.digits := by rw [Nat.div_add_mod]
  have hb' : (b : ℚ) ≠ 0 := by positivity
  rw [hroom, pow_succ, ← mul_assoc, ← hdigits] at hmul
  push_cast at hmul ⊢
  field_simp at hmul ⊢
  linarith

/-- The digit taken back from digits beyond the limit rounds them, if `more` says whether something is left over
besides, or that a half is to go up. -/
theorem carry_finishes {halfUp : ℕ → Prop} {y : ℚ} {q : Quotient} {rest b : ℕ} {more : Bool} (hy : 0 ≤ y)
    (hrest : rest < b) (h : Worth y ((rest : ℚ) / b) q) (hover : limit ≤ q.digits) (hfits : q.digits / 10 + 1 < limit)
    (hmore : rest ≠ 0 → more = true)
    (hhalf : q.room < 28 → rest = 0 → (more = true ↔ halfUp (28 - (q.room + 1)))) :
    Finishes halfUp y (q.carry more) := by
  have hpart : 0 ≤ (rest : ℚ) / b := by positivity
  unfold carry
  by_cases hroom : maxScale ≤ q.room
  · rw [if_pos hroom]
    have hover' : limit ≤ q.digits * tenTo 0 := hover.trans_eq (Nat.mul_one q.digits).symm
    exact h.bound_le hpart hover' hroom
  · rw [if_neg hroom]
    have ht : q.room + 1 + (28 - (q.room + 1)) = 28 := Nat.add_sub_cancel' (Nat.lt_of_not_le hroom)
    have hnext : bound ≤ y * 10 ^ (28 - (q.room + 1) + 1) := by
      have hover' : (limit : ℚ) ≤ q.digits := mod_cast hover
      rw [show 28 - (q.room + 1) + 1 = 28 - q.room by omega, h.mul_pow (by omega)]
      exact bound_le_of_limit_le (by linarith)
    have hnear := nearest_of_carry (q.digits / 10) (Nat.mod_lt q.digits (by decide)) hrest hmore (hhalf (by omega))
    rw [← h.mul_pow_tenth (Nat.zero_lt_of_lt hrest) ht] at hnear
    split
    next hup =>
      rw [if_pos hup] at hnear
      exact finishes_of_nearest hfits hy (by simp only; omega) (.inr hnext) hnear
    next hup =>
      rw [if_neg hup] at hnear
      exact finishes_of_nearest (by simp only; omega) hy (by simp only; omega) (.inr hnext) hnear

/-! ## Rounding the last digit -/

theorem carry_limit (room : ℕ) (inexact more : Bool) :
    carry ⟨limit, room, inexact⟩ more =
      if maxScale ≤ room then none else some ⟨(limit + 4) / 10, room + 1, inexact⟩ := by
  have hup : (decide (5 < limit % 10) || (limit % 10 == 5 && (more || limit / 10 % 2 == 1))) = true := by
    rw [decide_eq_true (by decide), Bool.true_or]
  unfold carry
  dsimp only
  rw [if_pos hup]
  rfl

/-- Digits that are rounded up to the limit give up a place, or have none to give up. -/
theorem carry_limit_finishes {halfUp : ℕ → Prop} {y : ℚ} {room : ℕ} {inexact more : Bool} (hy : 0 ≤ y)
    (hroom : room ≤ 28) (hlow : (limit : ℚ) - 1 / 2 ≤ y * 10 ^ (28 - room)) (hhigh : y * 10 ^ (28 - room) < limit) :
    Finishes halfUp y (carry ⟨limit, room, inexact⟩ more) := by
  rw [carry_limit]
  by_cases hlast : maxScale ≤ room
  · rw [if_pos hlast]
    have h28 : 28 - room = 0 := Nat.sub_eq_zero_of_le hlast
    rw [h28, pow_zero, mul_one, ← bound_eq] at hlow
    exact hlow
  · rw [if_neg hlast]
    have hlt : room < 28 := Nat.lt_of_not_le hlast
    have hpow : 28 - room = 28 - (room + 1) + 1 := by omega
    rw [hpow] at hlow hhigh
    have hnext : bound ≤ y * 10 ^ (28 - (room + 1) + 1) := by rwa [bound_eq]
    rw [pow_succ, ← mul_assoc] at hlow hhigh
    have hnear : Nearest (halfUp (28 - (room + 1))) (y * 10 ^ (28 - (room + 1))) ((limit + 4) / 10) :=
      .of_limit hlow hhigh
    have hfits : (limit + 4) / 10 < limit := by decide
    exact finishes_of_nearest hfits hy hlt (.inr hnext) hnear

/-- Half to even is right for the last digit that fits, where a half is not to go up. -/
theorem roundLast_finishes {halfUp : ℕ → Prop} {y : ℚ} {q : Quotient} {rest b : ℕ} (hy : 0 ≤ y) (hrest : rest < b)
    (h : Worth y ((rest : ℚ) / b) q) (hdigits : q.digits < limit) (hroom : q.room ≤ 28)
    (hfull : q.room = 0 ∨ limit ≤ q.digits * 10) (hhalf : ¬halfUp (28 - q.room)) :
    Finishes halfUp y (q.roundLast rest b) := by
  have hpart : 0 ≤ (rest : ℚ) / b := by positivity
  have hpart1 : (rest : ℚ) / b < 1 := natCast_div_lt_one hrest
  have hmul := h.mul_pow hroom
  have hnear := nearest_of_rest q.digits hrest
  rw [← hmul] at hnear
  have hnext : 28 - q.room = 28 ∨ bound ≤ y * 10 ^ (28 - q.room + 1) := by
    rcases hfull with hzero | hlimit
    · exact .inl (by rw [hzero])
    · have hlimit' : (limit : ℚ) ≤ q.digits * 10 := mod_cast hlimit
      rw [pow_succ, ← mul_assoc, hmul]
      exact .inr (bound_le_of_limit_le (by linarith))
  unfold roundLast
  split
  next hup =>
    rw [if_pos hup] at hnear
    unfold settle
    by_cases hfits : q.digits + 1 < limit
    · rw [if_pos hfits]
      exact finishes_of_nearest hfits hy hroom hnext (hnear.congr_not id hhalf)
    · rw [if_neg hfits]
      have hlimit : q.digits + 1 = limit := by omega
      have hlimit' : (q.digits : ℚ) + 1 = limit := mod_cast hlimit
      have hclose := (abs_le.1 hnear.near).1
      rw [hlimit] at hclose ⊢
      exact carry_limit_finishes hy hroom (by linarith) (by linarith)
  next hup =>
    rw [if_neg hup] at hnear
    exact finishes_of_nearest hdigits hy hroom hnext (hnear.congr_not id hhalf)

/-! ## Rounds -/

/-- How many of the first `t` places a quotient has found since its last round of nine digits, if it was missing `start`
places at first. -/
def sinceFullRound (start t : ℕ) : ℕ := (start + t - 28) % 9

/-- Where a half goes up in the quotient `y` of `t` places, by a divisor `b` for which `start` places were missing at
first: the divisor has more than 64 bits, and the round that finds the last of the places finds the digit of the half
too, since after the full rounds that many digits fit. -/
def HalfGoesUp (b start : ℕ) (y : ℚ) (t : ℕ) : Prop :=
  2 ^ 64 ≤ b ∧ t < 28 ∧
    ⌊y * 10 ^ t⌋₊ / tenTo (sinceFullRound start t) * tenTo (sinceFullRound start t + 1) < limit

/-- All rounds so far had nine digits, or the last one has left no place, or no room for a digit. -/
def FullRounds (start : ℕ) (q : Quotient) : Prop :=
  (start - q.room) % 9 = 0 ∨ q.room = 0 ∨
    limit ≤ q.digits / tenTo ((start - q.room) % 9) * tenTo ((start - q.room) % 9 + 1)

/-- The division of `y`, with `rest` left over so far. -/
structure InProgress (b start : ℕ) (y : ℚ) (rest : ℕ) (q : Quotient) : Prop where
  rest_lt : rest < b
  digits_lt : q.digits < limit
  room_le : q.room ≤ start
  worth : Worth y ((rest : ℚ) / b) q
  full : rest ≠ 0 → FullRounds start q

namespace InProgress

variable {b start rest : ℕ} {y : ℚ} {q : Quotient}

theorem part_lt_one (h : InProgress b start y rest q) : (rest : ℚ) / b < 1 :=
  natCast_div_lt_one h.rest_lt

theorem digits_extend_lt (h : InProgress b start y rest q) (k : ℕ) : rest * tenTo k / b < tenTo k :=
  Nat.div_lt_of_lt_mul (Nat.mul_lt_mul_of_pos_right h.rest_lt (tenTo_pos k))

theorem digits_extend_div (h : InProgress b start y rest q) (k : ℕ) : (q.extend rest b k).digits / tenTo k = q.digits := by
  rw [extend, Nat.mul_comm, Nat.mul_add_div (tenTo_pos k), Nat.div_eq_of_lt (h.digits_extend_lt k), Nat.add_zero]

/-- A digit still fits, so all rounds so far had nine. -/
theorem mod_nine_eq_zero (h : InProgress b start y rest q) (hrest : rest ≠ 0) (hstep : q.step rest ≠ 0) :
    (start - q.room) % 9 = 0 := by
  have hle := q.step_le rest
  have hfits : q.digits * 10 < limit :=
    Nat.lt_of_le_of_lt (mul_tenTo_mono q.digits (Nat.one_le_iff_ne_zero.2 hstep)) (step_fits h.digits_lt hrest)
  rcases h.full hrest with hzero | hzero | hlimit
  · exact hzero
  · omega
  · rw [tenTo_succ, Nat.mul_comm 10, ← Nat.mul_assoc] at hlimit
    have := Nat.div_mul_le_self q.digits (tenTo ((start - q.room) % 9))
    omega

/-- A round after full ones is full, or takes the last place, or as many digits as fit. -/
theorem fullRounds_extend (h : InProgress b start y rest q) (hrest : rest ≠ 0) (hstep : q.step rest ≠ 0) :
    FullRounds start (q.extend rest b (q.step rest)) := by
  have hzero := h.mod_nine_eq_zero hrest hstep
  have hle := q.step_le rest
  have hnine := q.step_le_nine rest
  have hstart := h.room_le
  have hdiv := h.digits_extend_div (q.step rest)
  have hroom : (q.extend rest b (q.step rest)).room = q.room - q.step rest := rfl
  have hsince : (start - (q.room - q.step rest)) % 9 = q.step rest % 9 := by omega
  unfold FullRounds
  rw [hroom, hsince]
  by_cases hfull : q.step rest = 9
  · exact .inl (by rw [hfull])
  · by_cases hlast : q.step rest = q.room
    · exact .inr (.inl (by omega))
    · have hmod : q.step rest % 9 = q.step rest := Nat.mod_eq_of_lt (by omega)
      rw [hmod, hdiv]
      exact .inr (.inr (limit_le_of_step_lt hrest (by omega)))

/-- What a round keeps. -/
theorem next (h : InProgress b start y rest q) (hstep : q.step rest ≠ 0)
    (hfits : (q.extend rest b (q.step rest)).digits < limit) :
    InProgress b start y (rest * tenTo (q.step rest) % b) (q.extend rest b (q.step rest)) := by
  have hb : 0 < b := Nat.zero_lt_of_lt h.rest_lt
  refine ⟨Nat.mod_lt _ hb, hfits, Nat.le_trans (Nat.sub_le _ _) h.room_le, worth_extend hb (q.step_le rest) h.worth,
    fun hleft => ?_⟩
  have hrest : rest ≠ 0 := by
    rintro rfl
    rw [Nat.zero_mul, Nat.zero_mod] at hleft
    exact hleft rfl
  exact h.fullRounds_extend hrest hstep

/-! ## The ends of a round -/

/-- A round that cannot bring the digits up to the point. -/
theorem bound_le_of_short (h : InProgress b start y rest q) (hshort : q.step rest < 9 ∧ 28 + q.step rest < q.room) :
    bound ≤ y := by
  have hpart : 0 ≤ (rest : ℚ) / b := by positivity
  obtain ⟨hnine, hroom⟩ := hshort
  by_cases hrest : rest = 0
  · rw [step, if_pos hrest] at hnine hroom
    unfold maxScale at hnine hroom
    omega
  · exact h.worth.bound_le hpart (limit_le_of_step_lt hrest (by omega)) hroom

/-- Zeros that lead beyond the limit. -/
theorem bound_le_of_limit_le (h : InProgress b start y rest q) (hend : ¬(rest = 0 ∧ q.room ≤ 28))
    (hlimit : limit ≤ q.digits * tenTo (q.step rest)) : bound ≤ y := by
  have hpart : 0 ≤ (rest : ℚ) / b := by positivity
  by_cases hrest : rest = 0
  · have hroom : 28 + q.step rest ≤ q.room := by
      rw [step, if_pos hrest]
      unfold maxScale
      omega
    exact h.worth.bound_le hpart hlimit hroom
  · exact absurd (step_fits h.digits_lt hrest) (Nat.not_lt.2 hlimit)

/-- No further digit fits. -/
theorem roundLast_finishes (h : InProgress b start y rest q) (hend : ¬(rest = 0 ∧ q.room ≤ 28))
    (hshort : ¬(q.step rest < 9 ∧ 28 + q.step rest < q.room)) (hstep : q.step rest = 0) :
    Finishes (HalfGoesUp b start y) y (q.roundLast rest b) := by
  have hpart : 0 ≤ (rest : ℚ) / b := by positivity
  have hroom : q.room ≤ 28 := by omega
  have hrest : rest ≠ 0 := fun hzero => hend ⟨hzero, hroom⟩
  have hfull : q.room = 0 ∨ limit ≤ q.digits * 10 := by
    by_cases hzero : q.room = 0
    · exact .inl hzero
    · have hlimit := limit_le_of_step_lt hrest (show q.step rest < min 9 q.room by omega)
      rw [hstep] at hlimit
      exact .inr hlimit
  refine Quotient.roundLast_finishes (h.worth.nonneg hpart) h.rest_lt h.worth h.digits_lt hroom hfull ?_
  rintro ⟨-, hplaces, hfits⟩
  -- the last round was full, or a digit more did not fit after the full ones
  have hstart := h.room_le
  have hsince : sinceFullRound start (28 - q.room) = (start - q.room) % 9 := by
    unfold sinceFullRound
    congr 1
    omega
  rw [h.worth.floor_eq hpart h.part_lt_one hroom, hsince] at hfits
  rcases h.full hrest with hzero | hzero | hlimit
  · rw [hzero] at hfits
    have hlimit := hfull.resolve_left (by omega)
    exact absurd hfits (Nat.not_lt.2 (by simpa [tenTo] using hlimit))
  · omega
  · exact absurd hfits (Nat.not_lt.2 hlimit)

theorem isWide_iff (b : ℕ) : isWide b = true ↔ 2 ^ 64 ≤ b := by
  have hpow : (2 ^ 64 : ℕ) = 18446744073709551616 := by norm_num
  rw [hpow, isWide, decide_eq_true_eq]

/-- What the half does with a digit too many: all rounds before had nine digits, and this one has found the digits
behind theirs. -/
theorem halfGoesUp_of_isWide (h : InProgress b start y rest q) (hrest : rest ≠ 0) (hstep : q.step rest ≠ 0)
    (hwide : isWide b = true) (hroom : q.room - q.step rest < 28) :
    HalfGoesUp b start y (28 - (q.room - q.step rest + 1)) := by
  have hb : 0 < b := Nat.zero_lt_of_lt h.rest_lt
  have hzero := h.mod_nine_eq_zero hrest hstep
  have hfits := step_fits h.digits_lt hrest
  have hdiv := h.digits_extend_div (q.step rest)
  have hnine := q.step_le_nine rest
  have hle := q.step_le rest
  have hstart := h.room_le
  have hworth := worth_extend hb hle h.worth
  have hfloor : ⌊y * 10 ^ (28 - (q.room - q.step rest + 1))⌋₊ = (q.extend rest b (q.step rest)).digits / 10 := by
    have hpow : 28 - (q.room - q.step rest) = 28 - (q.room - q.step rest + 1) + 1 := by omega
    have hdigits := hworth.floor_eq (by positivity) (natCast_div_lt_one (Nat.mod_lt _ hb)) (Nat.le_of_lt hroom)
    rw [extend, hpow, pow_succ, ← mul_assoc] at hdigits
    rw [extend, ← hdigits, ← Nat.floor_div_ofNat]
    congr 1
    field_simp
  refine ⟨(isWide_iff b).1 hwide, by omega, ?_⟩
  obtain ⟨j, hj⟩ : ∃ j, q.step rest = j + 1 := ⟨q.step rest - 1, by omega⟩
  have hsince : sinceFullRound start (28 - (q.room - q.step rest + 1)) = j := by
    unfold sinceFullRound
    omega
  rw [hsince, hfloor, Nat.div_div_eq_div_mul, ← tenTo_succ, ← hj, hdiv]
  exact hfits

/-- A digit too many. -/
theorem carry_finishes (h : InProgress b start y rest q) (hstep : q.step rest ≠ 0)
    (hlimit : ¬limit ≤ q.digits * tenTo (q.step rest))
    (hover : ¬(q.extend rest b (q.step rest)).digits < limit) :
    Finishes (HalfGoesUp b start y) y
      ((q.extend rest b (q.step rest)).carry (isWide b || rest * tenTo (q.step rest) % b != 0)) := by
  have hb : 0 < b := Nat.zero_lt_of_lt h.rest_lt
  have hpart : 0 ≤ (rest : ℚ) / b := by positivity
  have hrest : rest ≠ 0 := by
    rintro rfl
    refine hover ?_
    simpa [extend] using Nat.lt_of_not_le hlimit
  have hfits : (q.extend rest b (q.step rest)).digits / 10 + 1 < limit := by
    have hnew := h.digits_extend_lt (q.step rest)
    have hbillion : tenTo (q.step rest) ≤ 1000000000 := Nat.pow_le_pow_right (by decide) (q.step_le_nine rest)
    have hdigits : (q.extend rest b (q.step rest)).digits =
        q.digits * tenTo (q.step rest) + rest * tenTo (q.step rest) / b := rfl
    rw [hdigits]
    unfold limit at hlimit ⊢
    omega
  refine Quotient.carry_finishes (h.worth.nonneg hpart) (Nat.mod_lt _ hb) (worth_extend hb (q.step_le rest) h.worth)
    (Nat.not_lt.1 hover) hfits (fun hne => by simp [hne]) fun hroom hzero => ?_
  rw [hzero, bne_self_eq_false, Bool.or_false]
  exact ⟨fun hwide => h.halfGoesUp_of_isWide hrest hstep hwide hroom, fun hup => (isWide_iff b).2 hup.1⟩

end InProgress

/-- The division rounds the exact quotient. -/
theorem divide_finishes {b start rest : ℕ} {y : ℚ} {q : Quotient} (h : InProgress b start y rest q) :
    Finishes (HalfGoesUp b start y) y (divide b rest q) := by
  induction rest, q using divide.induct b with
  | case1 rest q hend =>
    rw [divide, if_pos hend]
    have hworth := h.worth
    rw [hend.1, Nat.cast_zero, zero_div] at hworth
    exact hworth.finishes hend.2 h.digits_lt
  | case2 rest q hend hshort =>
    rw [divide, if_neg hend, if_pos hshort]
    exact h.bound_le_of_short hshort
  | case3 rest q hend hshort hstep =>
    rw [divide, if_neg hend, if_neg hshort, if_pos hstep]
    exact h.roundLast_finishes hend hshort hstep
  | case4 rest q hend hshort hstep hlimit =>
    rw [divide, if_neg hend, if_neg hshort, if_neg hstep, if_pos hlimit]
    exact h.bound_le_of_limit_le hend hlimit
  | case5 rest q hend hshort hstep hlimit hfits ih =>
    rw [divide, if_neg hend, if_neg hshort, if_neg hstep, if_neg hlimit, if_pos hfits]
    exact ih (h.next hstep hfits)
  | case6 rest q hend hshort hstep hlimit hover =>
    rw [divide, if_neg hend, if_neg hshort, if_neg hstep, if_neg hlimit, if_neg hover]
    exact h.carry_finishes hstep hlimit hover

/-! ## Trailing zeros -/

/-- What removing zeros leaves as it is. -/
structure Kept (q r : Quotient) : Prop where
  digits_le : r.digits ≤ q.digits
  room_le : q.room ≤ 28 → r.room ≤ 28
  worth : (r.digits : ℚ) * 10 ^ r.room = q.digits * 10 ^ q.room

theorem Kept.refl (q : Quotient) : Kept q q := ⟨Nat.le_refl _, id, rfl⟩

theorem Kept.trans {q r s : Quotient} (h : Kept q r) (h' : Kept r s) : Kept q s :=
  ⟨Nat.le_trans h'.digits_le h.digits_le, fun hroom => h'.room_le (h.room_le hroom), h'.worth.trans h.worth⟩

theorem dropZeros_kept (k : ℕ) (q : Quotient) : Kept q (q.dropZeros k) := by
  unfold dropZeros
  split
  next h =>
    obtain ⟨hscale, hzeros⟩ := h
    refine ⟨Nat.div_le_self _ _, fun hroom => ?_, ?_⟩
    · unfold scale maxScale at hscale
      dsimp only
      omega
    · have hdigits : ((q.digits / tenTo k * tenTo k : ℕ) : ℚ) = q.digits := by
        rw [Nat.div_mul_cancel (Nat.dvd_of_mod_eq_zero hzeros)]
      rw [Nat.cast_mul, cast_tenTo] at hdigits
      dsimp only
      rw [pow_add, mul_left_comm, mul_comm, hdigits]
  next => exact .refl q

theorem dropEights_kept (times : ℕ) (q : Quotient) : Kept q (dropEights times q) := by
  induction times generalizing q with
  | zero => exact .refl q
  | succ times ih =>
    unfold dropEights
    split
    next => exact (dropZeros_kept 8 q).trans (ih _)
    next => exact .refl q

theorem trim_kept (q : Quotient) : Kept q q.trim := by
  unfold trim
  split
  next =>
    exact (((dropEights_kept _ q).trans (dropZeros_kept 4 _)).trans (dropZeros_kept 2 _)).trans (dropZeros_kept 1 _)
  next => exact .refl q

theorem Finishes.map_trim {halfUp : ℕ → Prop} {y : ℚ} {result : Option Quotient} (h : Finishes halfUp y result) :
    Finishes halfUp y (result.map trim) := by
  cases result with
  | none => exact h
  | some q =>
    obtain ⟨hdigits, hroom, hrounded⟩ := h
    have hkept := trim_kept q
    refine ⟨Nat.lt_of_le_of_lt hkept.digits_le hdigits, hkept.room_le hroom, ?_⟩
    rwa [hkept.worth]

end Quotient

/-! ## The quotient of two decimals -/

/-- The exact quotient, in places of the digits that are divided. -/
theorem inProgress_start {a b : Decimal} (hb : b.isZero = false) :
    Quotient.InProgress b.mantissa (maxScale + b.scale - a.scale) |a.value / b.value| (a.mantissa % b.mantissa)
      ⟨a.mantissa / b.mantissa, maxScale + b.scale - a.scale, false⟩ := by
  have hpos : 0 < b.mantissa := by
    refine Nat.pos_of_ne_zero fun hzero => ?_
    simp [isZero, hzero] at hb
  refine ⟨Nat.mod_lt _ hpos, Nat.lt_of_le_of_lt (Nat.div_le_self _ _) a.mantissa_lt, Nat.le_refl _, ?_, fun _ => .inl ?_⟩
  · obtain ⟨j, hj⟩ := Nat.exists_eq_add_of_le a.scale_le
    have hroom : maxScale + b.scale - a.scale = j + b.scale := by omega
    have h28 : (10 : ℚ) ^ 28 = 10 ^ a.scale * 10 ^ j := by
      rw [← pow_add, ← hj]
      rfl
    unfold Quotient.Worth
    dsimp only
    rw [← natCast_div_add_mod _ hpos, hroom, abs_div, abs_value, abs_value, magnitude, magnitude, h28, pow_add]
    field_simp
  · rw [Nat.sub_self]

theorem div_answers {a b : Decimal} (hb : b.isZero = false) :
    Answers (Quotient.HalfGoesUp b.mantissa (maxScale + b.scale - a.scale) |a.value / b.value|) (a.value / b.value)
      (a.div b) := by
  unfold div
  by_cases ha : a.isZero = true
  · rw [if_pos ha]
    refine .of_value ?_
    rw [value_zero, (value_eq_zero_iff a).2 ha, zero_div]
  · rw [if_neg ha]
    have hfinishes := (Quotient.divide_finishes (inProgress_start (a := a) hb)).map_trim
    revert hfinishes
    cases Quotient.divide b.mantissa (a.mantissa % b.mantissa) _ with
    | none => exact id
    | some q =>
      rintro ⟨hdigits, hroom, hrounded⟩
      have hparts : q.trim.digits < limit ∧ q.trim.scale ≤ maxScale := ⟨hdigits, Nat.sub_le _ _⟩
      have hsign : a.value / b.value = withSign (a.negative != b.negative) |a.value / b.value| := by
        rw [abs_div, abs_value, abs_value, ← withSign_div, ← value_eq, ← value_eq]
      dsimp only
      rw [ofParts?, dif_pos hparts]
      refine @Answers.map_unsignZero _ _ (some _) ?_
      rw [hsign, abs_withSign, abs_abs]
      refine Approximates.of_rounded (abs_nonneg _) rfl ?_
      rwa [Quotient.digits_mul_pow_div _ hroom] at hrounded

end Calculator.Decimal
