/-!
# Decimals

A decimal is a signed whole number below 2 to the power 96 together with the number of its digits
that stand after the point, at most 28. Decimals of one value may differ in their trailing zeros, and
zero may carry a sign.
-/

namespace Calculator

def tenTo (k : Nat) : Nat := Nat.pow 10 k

theorem tenTo_pos (k : Nat) : 0 < tenTo k := Nat.pow_pos (by decide)

theorem tenTo_succ (k : Nat) : tenTo (k + 1) = 10 * tenTo k := Nat.pow_succ'

namespace Decimal

/-- Two to the power 96. -/
def limit : Nat := 79228162514264337593543950336

def maxScale : Nat := 28

end Decimal

/-- The number `mantissa / 10 ^ scale`, with a minus sign if it is `negative`. -/
structure Decimal where
  negative : Bool
  mantissa : Nat
  scale : Nat
  mantissa_lt : mantissa < Decimal.limit
  scale_le : scale ≤ Decimal.maxScale
deriving DecidableEq, Repr

namespace Decimal

/-- The decimal of these parts, if they are within the bounds. -/
def ofParts? (negative : Bool) (mantissa scale : Nat) : Option Decimal :=
  if h : mantissa < limit ∧ scale ≤ maxScale then some ⟨negative, mantissa, scale, h.1, h.2⟩ else none

def zero : Decimal := ⟨false, 0, 0, by decide, by decide⟩

/-- `is_zero`, whatever the sign and the scale. -/
def isZero (d : Decimal) : Bool := d.mantissa == 0

def neg (d : Decimal) : Decimal := { d with negative := !d.negative }

/-- The same digits, without a sign if they are all zero. -/
def unsignZero (d : Decimal) : Decimal := { d with negative := d.negative && !d.isZero }

/-- The mantissa with the sign. -/
def signed (d : Decimal) : Int := if d.negative then -(d.mantissa : Int) else d.mantissa

theorem ofParts?_eq_some_iff {negative : Bool} {m s : Nat} {d : Decimal} :
    ofParts? negative m s = some d ↔ d.negative = negative ∧ d.mantissa = m ∧ d.scale = s := by
  constructor
  · intro h
    unfold ofParts? at h
    split at h
    · cases h; exact ⟨rfl, rfl, rfl⟩
    · cases h
  · rintro ⟨rfl, rfl, rfl⟩
    simp [ofParts?, d.mantissa_lt, d.scale_le]

theorem ofParts?_eq_none_iff {negative : Bool} {m s : Nat} :
    ofParts? negative m s = none ↔ limit ≤ m ∨ maxScale < s := by
  unfold ofParts?
  split <;> simp <;> omega

end Decimal

end Calculator
