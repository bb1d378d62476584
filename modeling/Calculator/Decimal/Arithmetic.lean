import Calculator.Decimal.Basic

/-!
# Sum, difference and product

Each is exact and then rounded once, half to even, to the most places for which its digits fit a decimal. None is
given if the result does not fit even without places.
-/

namespace Calculator

/-! ## Rounding -/

/-- Whether `n / d` is rounded up, half to even: the rest is above one half, or is one half and the
whole part is odd. -/
def roundsUp (n d : Nat) : Bool := d < 2 * (n % d) || (2 * (n % d) == d && n / d % 2 == 1)

/-- The whole number nearest to `n / d`, of two the even one. -/
def roundHalfEven (n d : Nat) : Nat := if roundsUp n d then n / d + 1 else n / d

namespace Decimal

/-- The magnitude `m / 10 ^ s` with at most `places` places, of which it drops one after the other
until the digits fit. -/
def fitAt (negative : Bool) (m s : Nat) : Nat → Option Decimal
  | 0 => ofParts? negative (roundHalfEven m (tenTo s)) 0
  | places + 1 =>
    match ofParts? negative (roundHalfEven m (tenTo (s - (places + 1)))) (places + 1) with
    | some d => some d
    | none => fitAt negative m s places

/-- The magnitude `m / 10 ^ s` with all its places, or with as many as fit. -/
def fit (negative : Bool) (m s : Nat) : Option Decimal := fitAt negative m s (min s maxScale)

/-! ## Sum and difference -/

/-- The exact sum at the larger of the two scales. -/
def exactSum (a b : Decimal) : Int :=
  a.signed * tenTo (max a.scale b.scale - a.scale) + b.signed * tenTo (max a.scale b.scale - b.scale)

/-- `checked_add`. A zero leaves the other number as it is. -/
def add (a b : Decimal) : Option Decimal :=
  if a.isZero then some b
  else if b.isZero then some a
  else fit (exactSum a b < 0) (exactSum a b).natAbs (max a.scale b.scale)

/-- `checked_sub`: the sum with the opposite number, but a zero that is taken from zero stays as it is. -/
def sub (a b : Decimal) : Option Decimal :=
  if a.isZero && b.isZero then some b else add a b.neg

/-! ## Product -/

/-- Mantissas below this number, which is 2 to the power 32, are short. -/
def shortLimit : Nat := 4294967296

def bothShort (a b : Decimal) : Bool := a.mantissa < shortLimit && b.mantissa < shortLimit

/-- `checked_mul`. Short factors of more than 47 places together give a plain zero; a product that rounds to
zero loses its sign only if the factors are short. -/
def mul (a b : Decimal) : Option Decimal :=
  if a.isZero || b.isZero then some zero
  else if bothShort a b && 47 < a.scale + b.scale then some zero
  else
    let product := fit (a.negative != b.negative) (a.mantissa * b.mantissa) (a.scale + b.scale)
    if bothShort a b then product.map unsignZero else product

end Decimal

end Calculator
