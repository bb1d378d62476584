import Calculator.Decimal.Basic
import Calculator.Text.Blank

/-!
# Numerals

A numeral is an optional sign and digits with at most one point among them, at least one digit in
all. Reading it as a decimal takes one fraction digit after the other as long as they fit; the first
that does not fit rounds the ones before it, half up.
-/

namespace Calculator

def digitValue? (c : Char) : Option Nat := if '0' ≤ c ∧ c ≤ '9' then some (c.toNat - '0'.toNat) else none

/-- A written number: its sign and the digits before and after the point. -/
structure Numeral where
  negative : Bool
  whole : List Nat
  fraction : List Nat
deriving DecidableEq, Repr

/-! ## Reading a text as a numeral -/

namespace Numeral

def digits? (text : Text) : Option (List Nat) := text.mapM digitValue?

/-- One part of digits, or two with a point between them. -/
def unsigned? (negative : Bool) (text : Text) : Option Numeral :=
  match digits? (text.takeWhile (· != '.')), digits? ((text.dropWhile (· != '.')).drop 1) with
  | some whole, some fraction => if whole ++ fraction = [] then none else some ⟨negative, whole, fraction⟩
  | _, _ => none

/-- The numeral of a text that passes `is_decimal_syntax`. -/
def ofText? : Text → Option Numeral
  | '+' :: text => unsigned? false text
  | '-' :: text => unsigned? true text
  | text => unsigned? false text

/-! ## The decimal of a numeral -/

/-- The number that digits write after the digits of `n`. -/
def digitsValue (n : Nat) (digits : List Nat) : Nat := digits.foldl (fun n d => 10 * n + d) n

/-- Adds one to the last of the digits `m`, of which `s` stand after the point. Beyond the limit one
place is given up. -/
def roundUp (m s : Nat) : Option (Nat × Nat) :=
  if m + 1 < Decimal.limit then some (m + 1, s)
  else if s = 0 then none
  else some ((m + 1 + 4) / 10, s - 1)

/-- Takes fraction digits behind the digits `m`, of which `s` stand after the point. -/
def takeFraction (m s : Nat) : List Nat → Option (Nat × Nat)
  | [] => some (m, s)
  | d :: later =>
    if s < Decimal.maxScale ∧ 10 * m + d < Decimal.limit then takeFraction (10 * m + d) (s + 1) later
    else if 5 ≤ d then roundUp m s
    else some (m, s)

/-- `Decimal::from_str` on the text of a numeral. There is no decimal if the value, rounded, is beyond the
limit. -/
def toDecimal? (n : Numeral) : Option Decimal :=
  if digitsValue 0 n.whole < Decimal.limit then
    match takeFraction (digitsValue 0 n.whole) 0 n.fraction with
    | none => none
    | some (m, s) => (Decimal.ofParts? n.negative m s).map Decimal.unsignZero
  else none

end Numeral

/-! ## Writing a decimal -/

namespace Decimal

/-- The last `k` digits of a number, zeros in front. -/
def lastDigits : Nat → Nat → Text
  | 0, _ => []
  | k + 1, n => lastDigits k (n / 10) ++ [Nat.digitChar (n % 10)]

/-- The sign, the whole part without needless zeros, and every place, trailing zeros included. -/
def text (d : Decimal) : Text :=
  (if d.negative then ['-'] else []) ++ Nat.toDigits 10 (d.mantissa / tenTo d.scale) ++
    if d.scale = 0 then [] else '.' :: lastDigits d.scale d.mantissa

theorem length_lastDigits (k n : Nat) : (lastDigits k n).length = k := by
  induction k generalizing n with
  | zero => rfl
  | succ k ih => simp [lastDigits, ih]

end Decimal

end Calculator
