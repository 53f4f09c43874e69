import RuleAudit.Text.Basic
import RuleAudit.Decimal.Shortest

/-!
Numbers of JSON documents: how a numeral becomes an integer of 64 bits or a floating-point number,
and how such a number is written.
-/

namespace RuleAudit.Json

/-- An integer from `-2 ^ 63` to `2 ^ 64 - 1`, or a finite floating-point number. -/
inductive Number
  | int (value : Int)
  | float (value : Binary64)
deriving DecidableEq, Repr

namespace Number

/-! ### From the parts of a numeral -/

/-- Appends digits to a significand while it stays below `2 ^ 64`; also the number of digits that
found no place. -/
def appendDigits (significand : Nat) : Text → Nat × Nat
  | [] => (significand, 0)
  | c :: rest =>
    let next := 10 * significand + Text.digitValue c
    if next < 2 ^ 64 then appendDigits next rest else (significand, rest.length + 1)

/-- Divides by `10 ^ k`, in steps of at most `10 ^ 308`. -/
def scaleDown (x : Binary64) (k : Nat) : Binary64 :=
  if k ≤ 308 then x.div (Binary64.pow10 k)
  else if x.isZero then x
  else scaleDown (x.div (Binary64.pow10 308)) (k - 308)
termination_by k

/-- The significand, rounded, times or divided by a rounded power of ten; nothing if that is
beyond the greatest finite number. -/
def scaled? (significand : Nat) (exponent : Int) : Option Binary64 :=
  let x := Binary64.ofNat significand
  if exponent < 0 then some (scaleDown x exponent.natAbs)
  else if x.isZero then some x
  else if 308 < exponent then none
  else
    let y := x.mul (Binary64.pow10 exponent.natAbs)
    if y.isFinite then some y else none

/-- The parts of a numeral: sign, digits before the point, digits after it, sign and digits of the
exponent. -/
structure Numeral where
  negative : Bool
  whole : Text
  fraction : Option Text
  exponent : Option (Bool × Text)

/-- The floating-point number of a numeral, if it is finite. An exponent that leaves 32 bits makes
the number zero, or too great unless its digits are all zero. -/
def Numeral.float? (n : Numeral) : Option Binary64 :=
  let (whole, surplus) := appendDigits 0 n.whole
  let fraction := n.fraction.getD []
  let (significand, unused) := appendDigits whole fraction
  let base : Int := surplus - (fraction.length - unused : Nat)
  let magnitude : Option Binary64 :=
    match n.exponent with
    | none => scaled? significand base
    | some (negative, digits) =>
      let e := Text.digitsValue digits
      if 2 ^ 31 ≤ e then
        if significand ≠ 0 ∧ !negative then none else some (Binary64.zero false)
      else scaled? significand (if negative then base - e else base + e)
  magnitude.map fun x => if n.negative then x.neg else x

/-- The number of a numeral: an integer where there is neither point nor exponent and 64 bits
suffice, otherwise a floating-point number, which may be out of range. Minus zero is a
floating-point number. -/
def ofNumeral? (n : Numeral) : Option Number :=
  let value := Text.digitsValue n.whole
  if n.fraction.isNone ∧ n.exponent.isNone ∧ !n.negative ∧ value < 2 ^ 64 then
    some (.int value)
  else if n.fraction.isNone ∧ n.exponent.isNone ∧ n.negative ∧ value ≠ 0 ∧ value ≤ 2 ^ 63 then
    some (.int (-value))
  else n.float?.map .float

/-! ### Writing -/

/-- Floating-point numbers are positional from `10 ^ -5` to `10 ^ 16` and always show a point or
an exponent. -/
def floatText : Binary64 → Text
  | .finite negative m e =>
    let x := Decimal.shortest m e
    let body :=
      if -5 ≤ x.order ∧ x.order ≤ 15 then Decimal.positional ".0" x else Decimal.scientific x
    if negative then '-' :: body else body
  | .infinite negative => if negative then "-inf" else "inf"
  | .nan => "NaN"

/-- The numeral of a number. -/
def render : Number → Text
  | .int i => Text.integer i
  | .float x => floatText x

end Number

end RuleAudit.Json
