import RuleAudit.Text.Basic

/-!
Numbers of runs: sixteen random bytes, of which six bits say that they are random.
-/

namespace RuleAudit.RunId

/-- A byte with two digits in base sixteen. -/
def byteText (b : UInt8) : Text := Text.padZeros 2 (Text.hex b.toNat)

/-- The bytes with the bits set that say how they came about. -/
def stamped (bytes : List UInt8) : List UInt8 :=
  bytes.mapIdx fun i b =>
    if i = 6 then b % 0x10 + 0x40 else if i = 8 then b % 0x40 + 0x80 else b

/-- The number of a run from random bytes: five groups of digits with hyphens between them. -/
def ofBytes (bytes : List UInt8) : Text :=
  let digits := (stamped bytes).flatMap byteText
  let group (start length : Nat) : Text := (digits.drop start).take length
  Text.join ['-'] [group 0 8, group 8 4, group 12 4, group 16 4, group 20 12]

end RuleAudit.RunId
