/-!
Instances for the numbers and lists of this library that would otherwise be found in different
places, depending on how much algebra is imported.
-/

namespace RuleAudit

/-- Powers of natural numbers. -/
@[default_instance high]
instance natPow : Pow Nat Nat := instPowNat

/-- The number that sums of natural numbers start with. -/
instance natZero : Zero Nat := Zero.ofOfNat0

/-- Lists of characters are equal as they are found to be. -/
instance charsLawfulBEq : LawfulBEq (List Char) := inferInstance

end RuleAudit
