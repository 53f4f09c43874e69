import RuleAudit.Text.Basic

/-!
Numbers of 64 bits as people write them in settings: decimal digits after an optional plus sign.
-/

namespace RuleAudit.Numeral

/-- The digits of a numeral, without the plus sign that may stand before them. -/
def digits : Text → Text
  | '+' :: rest => rest
  | t => t

/-- The number of a numeral below `2 ^ 64`. -/
def read? (t : Text) : Option Nat :=
  let ds := digits t
  let n := Text.digitsValue ds
  if ds ≠ [] ∧ ds.all Char.isDigit ∧ n < 2 ^ 64 then some n else none

/-- The number of a numeral from `1` to `2 ^ 64 - 1`, or a message. -/
def readPositive (t : Text) : Except Text Nat :=
  match read? t with
  | none => .error ("invalid integer value '" ++ t ++ "'")
  | some 0 => .error "value must be >= 1"
  | some n => .ok n

end RuleAudit.Numeral
