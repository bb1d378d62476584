import Calculator.Decimal.Basic

/-!
# Quotients

Long division with up to nine new digits a round. It ends when nothing is left over and no place is
missing, or when no further digit fits; then the last digit is rounded half to even. A digit too many
that a round has found is taken back with rounding too; there a divisor of more than 64 bits counts as
leaving something over even if it divides without a rest, so that a half goes up. If a rest was ever
left over, trailing zeros are removed: eight at a time, then four, two and one at most once each, so
that some zeros may stay.
-/

namespace Calculator.Decimal

/-- A quotient in progress: the digits found, how many places more there may be, and whether a rest
was ever left over. -/
structure Quotient where
  digits : Nat
  room : Nat
  inexact : Bool
deriving DecidableEq, Repr

namespace Quotient

/-- How many of the digits stand after the point; while `room` is above 28, digits in front of the
point are still missing. -/
def scale (q : Quotient) : Nat := maxScale - q.room

/-! ## Digits beyond the limit -/

/-- Takes the last digit back from digits beyond the limit, half to even, but up if more than the
half is left over. Without a digit after the point there is none to take back. -/
def carry (q : Quotient) (more : Bool) : Option Quotient :=
  if maxScale ≤ q.room then none
  else if 5 < q.digits % 10 || (q.digits % 10 == 5 && (more || q.digits / 10 % 2 == 1)) then
    some { q with digits := q.digits / 10 + 1, room := q.room + 1 }
  else some { q with digits := q.digits / 10, room := q.room + 1 }

def settle (q : Quotient) (more : Bool) : Option Quotient :=
  if q.digits < limit then some q else q.carry more

/-- Rounds the last digit half to even, where `rest / b` of it is left over. -/
def roundLast (q : Quotient) (rest b : Nat) : Option Quotient :=
  if b < 2 * rest || (2 * rest == b && q.digits % 2 == 1) then
    settle { q with digits := q.digits + 1, inexact := true } true
  else some { q with inexact := true }

/-! ## Rounds -/

/-- The most further digits, up to `k`, that leave `digits` below the limit. -/
def growth (digits : Nat) : Nat → Nat
  | 0 => 0
  | k + 1 => if digits * tenTo (k + 1) < limit then k + 1 else growth digits k

theorem growth_le (digits k : Nat) : growth digits k ≤ k := by
  induction k with
  | zero => simp [growth]
  | succ k ih =>
    unfold growth
    split <;> omega

/-- How many digits the next round finds: with nothing left over the zeros missing in front of the
point, otherwise as many as fit, and never more than nine. -/
def step (q : Quotient) (rest : Nat) : Nat :=
  if rest = 0 then min 9 (q.room - maxScale) else growth q.digits (min 9 q.room)

theorem step_le (q : Quotient) (rest : Nat) : q.step rest ≤ q.room := by
  have h := growth_le q.digits (min 9 q.room)
  unfold step
  split <;> omega

/-- The quotient after a round of `k` digits that divides `rest` by `b`. -/
def extend (q : Quotient) (rest b k : Nat) : Quotient :=
  { digits := q.digits * tenTo k + rest * tenTo k / b
    room := q.room - k
    inexact := q.inexact || rest != 0 }

/-- A divisor of more than 64 bits. -/
def isWide (b : Nat) : Bool := 18446744073709551616 ≤ b

/-- Divides by `b` until the end, with `rest` left over so far. -/
def divide (b rest : Nat) (q : Quotient) : Option Quotient :=
  if rest = 0 ∧ q.room ≤ maxScale then some q
  else if q.step rest < 9 ∧ maxScale + q.step rest < q.room then none
  else if q.step rest = 0 then q.roundLast rest b
  else if limit ≤ q.digits * tenTo (q.step rest) then none
  else if (q.extend rest b (q.step rest)).digits < limit then
    divide b (rest * tenTo (q.step rest) % b) (q.extend rest b (q.step rest))
  else (q.extend rest b (q.step rest)).carry (isWide b || rest * tenTo (q.step rest) % b != 0)
termination_by q.room
decreasing_by
  have := q.step_le rest
  simp only [extend]
  omega

/-! ## Trailing zeros -/

/-- Removes `k` zeros at the end of the places, if they are there. -/
def dropZeros (k : Nat) (q : Quotient) : Quotient :=
  if k ≤ q.scale ∧ q.digits % tenTo k = 0 then { q with digits := q.digits / tenTo k, room := q.room + k }
  else q

/-- Removes eight zeros again and again, as long as the digits are a multiple of 2 to the power 32
too. -/
def dropEights : Nat → Quotient → Quotient
  | 0, q => q
  | times + 1, q =>
    if q.digits % 4294967296 = 0 ∧ 8 ≤ q.scale ∧ q.digits % tenTo 8 = 0 then dropEights times (q.dropZeros 8)
    else q

/-- Removes the zeros of a quotient with a rest. -/
def trim (q : Quotient) : Quotient :=
  if q.inexact then (((dropEights (q.scale / 8) q).dropZeros 4).dropZeros 2).dropZeros 1 else q

end Quotient

/-- `checked_div` by a decimal that is not zero. -/
def div (a b : Decimal) : Option Decimal :=
  if a.isZero then some zero
  else
    match Quotient.divide b.mantissa (a.mantissa % b.mantissa)
        ⟨a.mantissa / b.mantissa, maxScale + b.scale - a.scale, false⟩ with
    | none => none
    | some q => (ofParts? (a.negative != b.negative) q.trim.digits q.trim.scale).map unsignZero

end Calculator.Decimal
