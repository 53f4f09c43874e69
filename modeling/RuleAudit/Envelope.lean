import RuleAudit.Error
import RuleAudit.Json.Decode
import RuleAudit.Json.Tree

/-!
The envelope in which the server wraps every answer: a word for success, the data, or the kind and
the text of an error. A reply is accepted only if its code, its envelope and its data are all right.
-/

namespace RuleAudit

open Json (Tree Value Decoder)

/-- The envelope of an answer. -/
structure Envelope where
  status : Text
  data : Option Value
  errorType : Option Text
  error : Option Text

/-! ### Reading -/

namespace Json.Tree

/-- The value of a tree as far as its kind goes: lists and objects are taken to be empty. -/
def shape : Tree → Except Json.Error Value
  | .array .. => pure (.array [])
  | .object .. => pure (.object [])
  | t => t.value maxDepth

/-- A string, and of anything else its kind. -/
def text (t : Tree) : Except Json.Error Text := do
  match ← t.shape with
  | .string s => pure s
  | v => throw (.data (v.typeMessage "a string"))

/-- A null stands for nothing. -/
def optional (read : Tree → Except Json.Error α) : Tree → Except Json.Error (Option α)
  | .null => pure none
  | t => do return some (← read t)

end Json.Tree

namespace Envelope

/-- A field of the envelope: its name, and how its value changes the envelope. -/
structure Field where
  name : Text
  set : Tree → Envelope → Except Json.Error Envelope

/-- The fields, in order. The data are one level inside the envelope. -/
def fields : List Field :=
  [⟨"status", fun t e => do return { e with status := ← t.text }⟩,
   ⟨"data", fun t e => do return { e with data := ← t.optional (Tree.value (Tree.maxDepth - 1)) }⟩,
   ⟨"errorType", fun t e => do return { e with errorType := ← t.optional Tree.text }⟩,
   ⟨"error", fun t e => do return { e with error := ← t.optional Tree.text }⟩]

/-- An envelope of which nothing is known. -/
def blank : Envelope := ⟨[], none, none, none⟩

/-- Sets the fields that the members name; `seen` are those that have been set. Other members are
passed over. -/
def setMembers (seen : List Text) (e : Envelope) :
    List (Option Text × Tree) → Except Json.Error (List Text × Envelope)
  | [] => pure (seen, e)
  | (none, _) :: _ => throw .malformed
  | (some name, t) :: rest =>
    match fields.find? (·.name == name) with
    | none => do
      t.skip
      setMembers seen e rest
    | some field => do
      if name ∈ seen then throw (.data ("duplicate field `" ++ name ++ "`"))
      setMembers (name :: seen) (← field.set t e) rest

/-- Sets the fields in their order; gives the items that are too many, too. -/
def setItems (e : Envelope) : List Field → List Tree → Except Json.Error (List Tree × Envelope)
  | field :: fields, t :: rest => do setItems (← field.set t e) fields rest
  | _, rest => pure (rest, e)

/-- A list or object that is whole. -/
def closed : Option Json.Fault → Except Json.Error Unit
  | none => pure ()
  | some f => throw f.reading

/-- The envelope of a tree, an object or a list of the fields. Only the status must be there. -/
def ofTree : Tree → Except Json.Error Envelope
  | .object members stop => do
    let (seen, e) ← setMembers [] blank members
    closed stop
    if ("status" : Text) ∈ seen then pure e
    else throw (.data (Decoder.missingField "status"))
  | .array items stop => do
    let (unused, e) ← setItems blank fields items
    if unused ≠ [] then throw .malformed
    closed stop
    if items = [] then
      throw (.data "invalid length 0, expected struct ApiEnvelope with 4 elements")
    pure e
  | t => do throw (.data ((← t.shape).typeMessage "struct ApiEnvelope"))

/-- The envelope of a text that holds nothing else. -/
def read (t : Text) : Except Json.Error Envelope := do
  let document := Tree.read t
  let e ← ofTree document.root
  if document.trailing then throw .malformed
  pure e

/-! ### Accepting a reply -/

/-- The codes of success. -/
def isSuccess (code : Nat) : Bool := 200 ≤ code && code < 300

/-- The message about a code that tells nothing else. -/
def unexpectedStatus (code : Nat) : Error :=
  .backend ("unexpected status " ++ Text.decimal code)

/-- The error that an envelope without success reports. -/
def reported (code : Nat) (e : Envelope) : Error :=
  .backend (e.errorType.getD "unknown" ++ ": " ++ e.error.getD "no error message" ++ " (status "
    ++ Text.decimal code ++ ")")

/-- The data of a reply with a code and a body. An envelope that reports an error is believed
whatever the code, and a body that is no envelope is a fault of the server only if the code is one
of success. -/
def accept [Wording] (decode : Decoder α) (code : Nat) (body : Text) : Except Error α :=
  match read body with
  | .error e =>
    if isSuccess code then .error (.json (Wording.json body e))
    else .error (unexpectedStatus code)
  | .ok e =>
    if e.status ≠ ("success" : Text) then .error (reported code e)
    else if !isSuccess code then .error (unexpectedStatus code)
    else
      match e.data with
      | none => .error (.backend "response is missing data")
      | some v => (decode v).mapError .json

end Envelope

end RuleAudit
