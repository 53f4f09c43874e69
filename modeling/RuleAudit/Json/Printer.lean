import RuleAudit.Json.Value

/-!
The texts of JSON values: on one line without blanks, and over several lines with two blanks for
every level.
-/

namespace RuleAudit.Json

/-! ### Strings -/

/-- A character inside a string: quotes, backslashes and controls are escaped, all else is copied. -/
def escapeChar (c : Char) : Text :=
  if c = '"' then "\\\""
  else if c = '\\' then "\\\\"
  else if c = '\n' then "\\n"
  else if c = '\r' then "\\r"
  else if c = '\t' then "\\t"
  else if c = '\x08' then "\\b"
  else if c = '\x0C' then "\\f"
  else if c.toNat < 0x20 then "\\u" ++ Text.padZeros 4 (Text.hex c.toNat)
  else [c]

/-- A text as a JSON string. -/
def stringText (t : Text) : Text := '"' :: (t.flatMap escapeChar ++ ['"'])

/-! ### Values -/

namespace Value

mutual
/-- The text of a value on one line. -/
def compact : Value → Text
  | .null => "null"
  | .bool true => "true"
  | .bool false => "false"
  | .number n => n.render
  | .string t => stringText t
  | .array [] => "[]"
  | .array (v :: vs) => '[' :: (compact v ++ compactItems vs)
  | .object [] => "\x7b\x7d"
  | .object ((name, v) :: ms) =>
    '\x7b' :: (stringText name ++ ':' :: (compact v ++ compactMembers ms))

/-- The items after the first, and the end of the list. -/
def compactItems : List Value → Text
  | [] => "]"
  | v :: vs => ',' :: (compact v ++ compactItems vs)

/-- The members after the first, and the end of the object. -/
def compactMembers : List (Text × Value) → Text
  | [] => "\x7d"
  | (name, v) :: ms => ',' :: (stringText name ++ ':' :: (compact v ++ compactMembers ms))
end

/-- A line break and the blanks of a level. -/
def newLine (level : Nat) : Text := '\n' :: List.replicate (2 * level) ' '

mutual
/-- The text of a value with a line for every item and member. -/
def pretty (level : Nat) : Value → Text
  | .array [] => "[]"
  | .array (v :: vs) => '[' :: (newLine (level + 1) ++ pretty (level + 1) v ++ prettyItems level vs)
  | .object [] => "\x7b\x7d"
  | .object ((name, v) :: ms) =>
    '\x7b' :: (newLine (level + 1) ++ stringText name ++ ": " ++ pretty (level + 1) v
      ++ prettyMembers level ms)
  | .null => "null"
  | .bool true => "true"
  | .bool false => "false"
  | .number n => n.render
  | .string t => stringText t

/-- The items after the first, and the end of the list. -/
def prettyItems (level : Nat) : List Value → Text
  | [] => newLine level ++ "]"
  | v :: vs => ',' :: (newLine (level + 1) ++ pretty (level + 1) v ++ prettyItems level vs)

/-- The members after the first, and the end of the object. -/
def prettyMembers (level : Nat) : List (Text × Value) → Text
  | [] => newLine level ++ "\x7d"
  | (name, v) :: ms =>
    ',' :: (newLine (level + 1) ++ stringText name ++ ": " ++ pretty (level + 1) v
      ++ prettyMembers level ms)
end

end Value

end RuleAudit.Json
