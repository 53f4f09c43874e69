import RuleAudit.Instances

/-!
Binary floating-point numbers of 64 bits as exact values `± m · 2 ^ e`, with rounding of a quotient
to the nearest of them and the products and quotients defined by it.
-/

namespace RuleAudit

/-- A number of the format: a finite value `± significand · 2 ^ exponent`, an infinity, or no
number. The significand has at most 53 bits, and exactly 53 unless the exponent is `-1074`. -/
inductive Binary64
  | finite (negative : Bool) (significand : Nat) (exponent : Int)
  | infinite (negative : Bool)
  | nan
deriving DecidableEq, Repr

namespace Binary64

/-- The least exponent, that of the subnormal numbers. -/
def minExponent : Int := -1074

/-- The greatest exponent of a finite number. -/
def maxExponent : Int := 971

/-- Zero of either sign. -/
def zero (negative : Bool) : Binary64 := .finite negative 0 minExponent

/-! ### Rounding -/

/-- The quotient rounded to the nearest natural number, a half to the even neighbour. -/
def roundDiv (num den : Nat) : Nat :=
  let q := num / den
  let r := num % den
  if 2 * r < den then q
  else if den < 2 * r then q + 1
  else if q % 2 = 0 then q else q + 1

/-- The natural numbers `a` and `b` with `num / den / 2 ^ e = a / b`. -/
def scale (num den : Nat) (e : Int) : Nat × Nat :=
  if 0 ≤ e then (num, den * 2 ^ e.toNat) else (num * 2 ^ (-e).toNat, den)

/-- The number nearest to `± num / den`, a half to the even significand, beyond the greatest finite
number infinity. -/
def ofRatio (negative : Bool) (num den : Nat) : Binary64 :=
  if num = 0 then zero negative
  else
    let low : Int := max minExponent ((num.log2 : Int) - (den.log2 : Int) - 53)
    let (a, b) := scale num den low
    let e := if 2 ^ 53 ≤ a / b then low + 1 else low
    let (a, b) := scale num den e
    let m := roundDiv a b
    let (m, e) := if m = 2 ^ 53 then (2 ^ 52, e + 1) else (m, e)
    if maxExponent < e then .infinite negative else .finite negative m e

/-- The number nearest to a natural number. -/
def ofNat (n : Nat) : Binary64 := ofRatio false n 1

/-- The number nearest to `± digits · 10 ^ exponent`. -/
def ofDecimal (negative : Bool) (digits : Nat) (exponent : Int) : Binary64 :=
  let size : Int := (Nat.toDigits 10 digits).length
  if digits = 0 then zero negative
  else if 400 < size + exponent then .infinite negative
  else if size + exponent < -400 then zero negative
  else if 0 ≤ exponent then ofRatio negative (digits * 10 ^ exponent.toNat) 1
  else ofRatio negative digits (10 ^ (-exponent).toNat)

/-! ### Signs and arithmetic -/

/-- The number with the opposite sign. -/
def neg : Binary64 → Binary64
  | .finite s m e => .finite (!s) m e
  | .infinite s => .infinite (!s)
  | .nan => .nan

/-- A finite number. -/
def isFinite : Binary64 → Bool
  | .finite .. => true
  | _ => false

/-- Zero of either sign. -/
def isZero : Binary64 → Bool
  | .finite _ m _ => m == 0
  | _ => false

/-- A number below zero or a zero; not a number counts as neither. -/
def isNonPositive : Binary64 → Bool
  | .finite s m _ => s || m == 0
  | .infinite s => s
  | .nan => false

/-- The rounded quotient of a number by a positive finite number. -/
def div (x y : Binary64) : Binary64 :=
  match x, y with
  | .finite s m e, .finite _ m' e' =>
    let d := e - e'
    if 0 ≤ d then ofRatio s (m * 2 ^ d.toNat) m' else ofRatio s m (m' * 2 ^ (-d).toNat)
  | x, _ => x

/-- The rounded product of two finite numbers, with the sign of the first. -/
def mul (x y : Binary64) : Binary64 :=
  match x, y with
  | .finite s m e, .finite _ m' e' =>
    let d := e + e'
    if 0 ≤ d then ofRatio s (m * m' * 2 ^ d.toNat) 1 else ofRatio s (m * m') (2 ^ (-d).toNat)
  | x, _ => x

/-- The number nearest to a power of ten. -/
def pow10 (k : Nat) : Binary64 := ofNat (10 ^ k)

end Binary64

end RuleAudit
