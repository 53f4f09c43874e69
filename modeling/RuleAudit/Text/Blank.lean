import RuleAudit.Text.Basic

/-!
White space as Unicode defines it, and texts without the white space at their ends.
-/

namespace RuleAudit.Text

/-- The ranges of code points with the property `White_Space`. -/
def blankRanges : List (Nat × Nat) :=
  [(0x9, 0xD), (0x20, 0x20), (0x85, 0x85), (0xA0, 0xA0), (0x1680, 0x1680), (0x2000, 0x200A),
   (0x2028, 0x2029), (0x202F, 0x202F), (0x205F, 0x205F), (0x3000, 0x3000)]

/-- A character of white space. -/
def isBlank (c : Char) : Bool := blankRanges.any fun r => r.1 ≤ c.toNat && c.toNat ≤ r.2

/-- A text without the white space at its ends. -/
def trim (t : Text) : Text := trimBoth isBlank t

/-- A text that holds nothing but white space. -/
def isAllBlank (t : Text) : Bool := t.all isBlank

end RuleAudit.Text
