import RuleAudit.Text.Quoted
import RuleAudit.Json.Number

/-!
JSON values. The members of an object keep the order in which they are given; `Members.put` is for
objects whose members are in the order of their names.
-/

namespace RuleAudit.Json

/-- A JSON value. -/
inductive Value
  | null
  | bool (value : Bool)
  | number (value : Number)
  | string (value : Text)
  | array (items : List Value)
  | object (members : List (Text × Value))
deriving Repr

/-- Puts a member into a list whose names increase; a member of that name is replaced. -/
def putMember (name : Text) (v : Value) : List (Text × Value) → List (Text × Value)
  | [] => [(name, v)]
  | (n, w) :: rest =>
    if name < n then (name, v) :: (n, w) :: rest
    else if name = n then (n, v) :: rest
    else (n, w) :: putMember name v rest

/-- A member whose value is a string. -/
def textMember (name t : Text) : Text × Value := (name, .string t)

/-- A member whose value is a number. -/
def countMember (name : Text) (n : Nat) : Text × Value := (name, .number (.int n))

namespace Value

/-- The member of an object with a name, the first of them. -/
def member? (name : Text) : Value → Option Value
  | .object members => (members.find? (·.1 == name)).map (·.2)
  | _ => none

/-- What a value is, in words. -/
def described : Value → Text
  | .null => "null"
  | .bool true => "boolean `true`"
  | .bool false => "boolean `false`"
  | .number (.int i) => "integer `" ++ Text.integer i ++ "`"
  | .number (.float x) => "floating point `" ++ Number.floatText x ++ "`"
  | .string t => "string " ++ Text.quoted t
  | .array _ => "sequence"
  | .object _ => "map"

/-- The message about a value of the wrong kind. -/
def typeMessage (v : Value) (expected : Text) : Text :=
  "invalid type: " ++ v.described ++ ", expected " ++ expected

end Value

end RuleAudit.Json
