import Calculator.Operator
import Calculator.Proofs.Arithmetic
import Calculator.Proofs.Division

/-!
# Applying an operator

Which of its three results the application of an operator has, and that a decimal is the exact result rounded to the
most places (`apply_classified`). A half goes to even but for some quotients by divisors of more than 64 bits
(`wide_quotient_not_half_even`).
-/

namespace Calculator.Operator

/-- The exact result of the operator. -/
def exact (op : Operator) (x y : ℚ) : ℚ :=
  match op with
  | sub => x - y
  | add => x + y
  | div => x / y
  | mul => x * y

/-- Where a half goes up in a result of `t` places: in some quotients by divisors of more than 64 bits. -/
def HalfGoesUp (op : Operator) (a b : Decimal) (t : ℕ) : Prop :=
  op = div ∧ Decimal.Quotient.HalfGoesUp b.mantissa (28 + b.scale - a.scale) |a.value / b.value| t

theorem not_halfGoesUp {op : Operator} (h : op ≠ div) (a b : Decimal) : op.HalfGoesUp a b = fun _ => False :=
  funext fun _ => eq_false fun hup => h hup.1

theorem div_halfGoesUp (a b : Decimal) :
    div.HalfGoesUp a b = Decimal.Quotient.HalfGoesUp b.mantissa (28 + b.scale - a.scale) |a.value / b.value| :=
  funext fun _ => propext (and_iff_right rfl)

/-- Where no division by zero is an error, the exact result is rounded, or found to be beyond the bound. -/
theorem exists_answers {op : Operator} {a b : Decimal} (h : ¬(op = div ∧ b.value = 0)) :
    ∃ result, Decimal.Answers (op.HalfGoesUp a b) (op.exact a.value b.value) result ∧
      op.apply a b = match result with
        | some d => .ok d
        | none => .error .numericOverflow := by
  rw [Decimal.value_eq_zero_iff] at h
  unfold apply
  rw [if_neg h]
  cases op with
  | sub =>
    rw [not_halfGoesUp (by decide)]
    exact ⟨a.sub b, Decimal.sub_answers a b, rfl⟩
  | add =>
    rw [not_halfGoesUp (by decide)]
    exact ⟨a.add b, Decimal.add_answers a b, rfl⟩
  | div =>
    rw [div_halfGoesUp]
    have hb : b.isZero = false := Bool.eq_false_iff.2 fun hzero => h ⟨rfl, hzero⟩
    exact ⟨a.div b, Decimal.div_answers hb, rfl⟩
  | mul =>
    rw [not_halfGoesUp (by decide)]
    exact ⟨a.mul b, Decimal.mul_answers a b, rfl⟩

/-- The results of an operator. A division by a zero, whatever its sign and places, is an error. Otherwise the operator
overflows just if the exact result is beyond the bound, and else its magnitude is that of the exact result rounded to
the most places, with the sign of the exact result unless it is zero; and a result that some decimal has is exact. -/
theorem apply_classified (op : Operator) (a b : Decimal) :
    (op.apply a b = .error .divideByZero ↔ op = div ∧ b.value = 0) ∧
    (¬(op = div ∧ b.value = 0) →
      (op.apply a b = .error .numericOverflow ↔ 2 ^ 96 - 1 / 2 ≤ |op.exact a.value b.value|) ∧
      (|op.exact a.value b.value| < 2 ^ 96 - 1 / 2 → ∃ d, op.apply a b = .ok d ∧
        d.mantissa ≤ 2 ^ 96 - 1 ∧ d.scale ≤ 28 ∧
        Rounded (op.HalfGoesUp a b) |op.exact a.value b.value| |d.value| ∧
        (d.value ≠ 0 → (d.value < 0 ↔ op.exact a.value b.value < 0)) ∧
        ∀ e : Decimal, e.value = op.exact a.value b.value → d.value = e.value)) := by
  by_cases hzero : op = div ∧ b.value = 0
  · refine ⟨⟨fun _ => hzero, fun _ => ?_⟩, fun hnot => absurd hzero hnot⟩
    rw [Decimal.value_eq_zero_iff] at hzero
    unfold apply
    rw [if_pos hzero]
  · obtain ⟨result, hanswers, happly⟩ := exists_answers hzero
    rw [happly]
    cases result with
    | none =>
      exact ⟨⟨nofun, fun h => absurd h hzero⟩, fun _ => ⟨⟨fun _ => hanswers, fun _ => rfl⟩,
        fun hlt => absurd hlt (not_lt.2 hanswers)⟩⟩
    | some d =>
      obtain ⟨t, n, hplaces, -, -⟩ := hanswers.rounded
      have hlt := hplaces.lt_bound (abs_nonneg _)
      have hmantissa : d.mantissa ≤ 2 ^ 96 - 1 := Nat.le_sub_one_of_lt d.mantissa_lt
      refine ⟨⟨nofun, fun h => absurd h hzero⟩, fun _ => ⟨⟨nofun, fun hle => absurd hlt (not_lt.2 hle)⟩,
        fun _ => ⟨d, rfl, hmantissa, d.scale_le, hanswers.rounded, hanswers.sign, fun e he => ?_⟩⟩⟩
      rw [hanswers.eq_of_value he, he]

/-- Two thirds, with a sign. -/
theorem apply_classified_thirds :
    ∃ a b d : Decimal, b.value ≠ 0 ∧ div.apply a b = .ok d ∧ Rounded (div.HalfGoesUp a b) (2 / 3) |d.value| ∧
      (d.value ≠ 0 → d.value < 0) := by
  let a : Decimal := ⟨true, 2, 0, by decide, by decide⟩
  let b : Decimal := ⟨false, 3, 0, by decide, by decide⟩
  have ha : a.value = -2 := by norm_num [a, Decimal.value, Decimal.signed]
  have hb : b.value = 3 := by norm_num [b, Decimal.value, Decimal.signed]
  have hx : div.exact a.value b.value = -(2 / 3) := by norm_num [exact, ha, hb]
  have habs : |(-(2 / 3) : ℚ)| = 2 / 3 := by norm_num
  have hresult := (apply_classified div a b).2 (by norm_num [hb])
  rw [hx, habs] at hresult
  obtain ⟨d, hd, -, -, hrounded, hsign, -⟩ := hresult.2 (by norm_num)
  exact ⟨a, b, d, by norm_num [hb], hd, hrounded, fun hz => (hsign hz).2 (by norm_num)⟩

/-- The half in the 25th place goes up, away from an even digit. -/
theorem wide_quotient_not_half_even :
    ∃ a b d : Decimal, div.apply a b = .ok d ∧
      |div.exact a.value b.value| = 79228162514264337593543953525 / 10 ^ 25 ∧
      |d.value| = 7922816251426433759354395353 / 10 ^ 24 ∧
      ¬Rounded (fun _ => False) |div.exact a.value b.value| |d.value| := by
  let a : Decimal := ⟨false, 15845632502852867518708790705, 20, by decide, by decide⟩
  let b : Decimal := ⟨false, 2000000000000000000000, 17, by decide, by decide⟩
  let d : Decimal := ⟨false, 7922816251426433759354395353, 24, by decide, by decide⟩
  have happly : div.apply a b = .ok d := by decide +kernel
  have hx : |div.exact a.value b.value| = 79228162514264337593543953525 / 10 ^ 25 := by
    norm_num [exact, a, b, Decimal.value, Decimal.signed]
  have hd : |d.value| = 7922816251426433759354395353 / 10 ^ 24 := by norm_num [d, Decimal.value, Decimal.signed]
  refine ⟨a, b, d, happly, hx, hd, ?_⟩
  rw [hx, hd]
  rintro ⟨t, n, hplaces, hnear, hn⟩
  have hmost : MostPlaces (79228162514264337593543953525 / 10 ^ 25 : ℚ) 24 :=
    mostPlaces_of_next (by positivity) (by decide) (by norm_num [Decimal.bound]) (.inr (by norm_num [Decimal.bound]))
  obtain rfl : t = 24 := hplaces.unique hmost
  have hn' : n = 7922816251426433759354395353 := by
    have hcast : (n : ℚ) = 7922816251426433759354395353 := by
      field_simp at hn
      exact hn.symm
    exact_mod_cast hcast
  rw [hn'] at hnear
  have heven := hnear.even_of_half id (by norm_num)
  exact absurd heven (by decide)

end Calculator.Operator
