import RuleAudit.Text.Basic
import RuleAudit.Decimal.Binary64

/-!
The shortest decimal of a floating-point number: the fewest digits that read back as the number,
and of those the nearest to it. Also the two ways of writing such a decimal as a text.
-/

namespace RuleAudit

/-- The value `digits · 10 ^ exponent`. -/
structure Decimal where
  digits : Nat
  exponent : Int
deriving DecidableEq, Repr

namespace Decimal

/-! ### Digits -/

/-- The positive fraction `num / den` as one on the grid `10 ^ g`: the numerator and denominator of
`num / den / 10 ^ g`. -/
def onGrid (num den : Nat) (g : Int) : Nat × Nat :=
  if 0 ≤ g then (num, den * 10 ^ g.toNat) else (num * 10 ^ (-g).toNat, den)

/-- The exponent of the first digit of a positive fraction: the greatest `p` with
`10 ^ p ≤ num / den`. -/
def leadingExponent (num den : Nat) : Int :=
  let p : Int := (Nat.toDigits 10 num).length - (Nat.toDigits 10 den).length
  let (a, b) := onGrid num den p
  if b ≤ a then p else p - 1

/-- The four numbers `4m - down`, `4m`, `4m + 2` and the unit of the interval of reals that round to
`m · 2 ^ e`, as fractions over one denominator: low end, value, high end, denominator. -/
def interval (m : Nat) (e : Int) : Nat × Nat × Nat × Nat :=
  let down := if m = 2 ^ 52 ∧ e ≠ Binary64.minExponent then 1 else 2
  let u := e - 2
  let (k, den) := if 0 ≤ u then (2 ^ u.toNat, 1) else (1, 2 ^ (-u).toNat)
  ((4 * m - down) * k, 4 * m * k, (4 * m + 2) * k, den)

/-- The decimal with at most `count` digits nearest to a positive number, if one reads back. -/
def withDigits? (m : Nat) (e : Int) (count : Nat) : Option Decimal :=
  let (low, value, high, den) := interval m e
  let g := leadingExponent value den - ((count : Int) - 1)
  let (v, d) := onGrid value den g
  let (lo, _) := onGrid low den g
  let (hi, _) := onGrid high den g
  let below := v / d
  let closed := m % 2 = 0
  let inside (n : Nat) : Bool :=
    if closed then lo ≤ n * d && n * d ≤ hi else lo < n * d && n * d < hi
  let r := v % d
  let nearer := if 2 * r < d ∨ (2 * r = d ∧ below % 2 = 0) then below else below + 1
  let farther := if nearer = below then below + 1 else below
  if inside nearer then some ⟨nearer, g⟩
  else if inside farther then some ⟨farther, g⟩
  else none

/-- A decimal without zeros at the end of its digits. -/
def stripZeros (x : Decimal) : Decimal :=
  if x.digits ≠ 0 ∧ x.digits % 10 = 0 then stripZeros ⟨x.digits / 10, x.exponent + 1⟩ else x
termination_by x.digits
decreasing_by omega

/-- The shortest decimal that reads back as `m · 2 ^ e`; seventeen digits always do. -/
def shortest (m : Nat) (e : Int) : Decimal :=
  if m = 0 then ⟨0, 0⟩
  else
    match (List.range 17).findSome? fun n => withDigits? m e (n + 1) with
    | some x => stripZeros x
    | none => ⟨m, e⟩

/-! ### Texts -/

/-- The decimal without an exponent. `wholeMark` stands after a whole number. -/
def positional (wholeMark : Text) (x : Decimal) : Text :=
  let ds := Text.decimal x.digits
  if 0 ≤ x.exponent then ds ++ List.replicate x.exponent.toNat '0' ++ wholeMark
  else
    let places := (-x.exponent).toNat
    let padded := Text.padZeros (places + 1) ds
    padded.take (padded.length - places) ++ '.' :: padded.drop (padded.length - places)

/-- The decimal as one digit, the point with further digits if there are any, and the exponent
with its sign. -/
def scientific (x : Decimal) : Text :=
  let ds := Text.decimal x.digits
  let e : Int := x.exponent + (ds.length - 1 : Nat)
  let point : Text := if ds.length ≤ 1 then [] else '.' :: ds.drop 1
  ds.take 1 ++ point ++ 'e' :: (if e < 0 then '-' else '+') :: Text.decimal e.natAbs

/-- The exponent of the first digit. -/
def order (x : Decimal) : Int := x.exponent + ((Text.decimal x.digits).length - 1 : Nat)

end Decimal

end RuleAudit
