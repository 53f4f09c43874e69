import RuleAudit.Json.Value

/-!
Values as data of a known shape: texts, lists, maps, and records that come as objects or as lists of
their fields. A wrong shape is told in words.
-/

namespace RuleAudit.Json

/-- A decoder gives what a value stands for, or a message. -/
abbrev Decoder (α : Type) := Value → Except Text α

namespace Decoder

/-- A string. -/
def text : Decoder Text
  | .string t => pure t
  | v => throw (v.typeMessage "a string")

/-- A list whose items all decode; the first that does not is told. -/
def list (item : Decoder α) : Decoder (List α)
  | .array vs => vs.mapM item
  | v => throw (v.typeMessage "a sequence")

/-- An object whose members are all strings. -/
def textMap : Decoder (List (Text × Text))
  | .object ms => ms.mapM fun (name, v) => do return (name, ← text v)
  | v => throw (v.typeMessage "a map")

/-- A field of a record `α`: its name, whether it must be there, and how its value changes the
record. -/
structure Field (α : Type) where
  name : Text
  required : Bool
  set : Value → α → Except Text α

/-- Sets the fields that the members name, in the order of the members; others are ignored. -/
def setMembers (fields : List (Field α)) (members : List (Text × Value)) (start : α) :
    Except Text α :=
  members.foldlM
    (fun a (name, v) =>
      match fields.find? (·.name == name) with
      | some field => field.set v a
      | none => pure a) start

/-- Sets the fields by their position in a list of `count` items. -/
def setItems (record : Text) (total count : Nat) :
    List (Field α) → List Value → α → Except Text α
  | [], [], a => pure a
  | [], _ :: _, _ =>
    throw ("invalid length " ++ Text.decimal count ++ ", expected fewer elements in array")
  | field :: fields, [], a =>
    if field.required then
      throw ("invalid length " ++ Text.decimal count ++ ", expected struct " ++ record ++ " with "
        ++ Text.decimal total ++ (if total = 1 then " element" else " elements"))
    else setItems record total count fields [] a
  | field :: fields, v :: vs, a => do setItems record total count fields vs (← field.set v a)

/-- The message about a field that must be there. -/
def missingField (name : Text) : Text := "missing field `" ++ name ++ "`"

/-- A record, from an object that names its fields or a list that has them in order. -/
def record (name : Text) (fields : List (Field α)) (start : α) : Decoder α
  | .object ms => do
    let a ← setMembers fields ms start
    match fields.find? fun f => f.required && !ms.any (·.1 == f.name) with
    | some f => throw (missingField f.name)
    | none => pure a
  | .array vs => setItems name fields.length vs.length fields vs start
  | v => throw (v.typeMessage ("struct " ++ name))

end Decoder

end RuleAudit.Json
