import RuleAudit.Yaml.Node

/-!
Nodes as data of a known shape: texts, lists and records. Aliases stand for the nodes that they
name, but only so many of them may be followed in one document.
-/

namespace RuleAudit.Yaml

/-- A reader gives what a node of a document stands for, if it has the right shape. The state is the
number of aliases that may still be followed. -/
abbrev Reader (α : Type) := Document → Node → StateT Nat Option α

namespace Reader

/-- The number of aliases that may be followed for each event of a document. -/
def aliasesPerEvent : Nat := 100

/-- Reads the root of a document; an empty document is like an empty scalar. -/
def run (read : Reader α) (d : Document) : Option α :=
  ((read d (d.root.getD .empty)).run (aliasesPerEvent * d.eventCount)).map (·.1)

/-- The node itself, or the one that it is an alias of. -/
def follow : Reader Node := fun d n =>
  match n with
  | .alias id => do
    let left ← get
    if left = 0 then failure
    set (left - 1)
    d.target? id
  | n => pure n

/-- A scalar, whatever its text looks like. -/
def text : Reader Text := fun d n => do
  match ← follow d n with
  | .scalar _ t _ => pure t
  | _ => failure

/-- The words for nothing. -/
def nullWords : List Text := [['~'], "null", "Null", "NULL"]

/-- The tag of a scalar that must be a word for nothing. -/
def nullTag : Text := "tag:yaml.org,2002:null"

/-- Whether a scalar stands for a text or for nothing. Only a plain one can stand for nothing. -/
def isPresent (p : Properties) (t : Text) (isPlain : Bool) : Option Bool :=
  if !isPlain then some true
  else
    match p.tag with
    | none => some (t ≠ [] && !(t ∈ nullWords))
    | some tag =>
      if tag ≠ nullTag then some true else if t ∈ nullWords then some false else none

/-- A scalar that may stand for nothing. -/
def optionalText : Reader (Option Text) := fun d n => do
  match ← follow d n with
  | .scalar p t isPlain => if ← isPresent p t isPlain then pure (some t) else pure none
  | _ => failure

/-- A sequence whose items are read in order. A plain scalar without characters is an empty one. -/
def list (item : Reader α) : Reader (List α) := fun d n => do
  match ← follow d n with
  | .sequence _ items => items.mapM (item d)
  | .scalar _ [] true => pure []
  | _ => failure

/-- A field of a record `α`: its name, and how its value changes the record. -/
structure Field (α : Type) where
  name : Text
  set : Document → Node → α → StateT Nat Option α

/-- Sets the fields that the entries name; `seen` are those that have been set, and none is set
twice. Other entries are passed over. -/
def setFields (fields : List (Field α)) (d : Document) (seen : List Text) (a : α) :
    List (Node × Node) → StateT Nat Option (List Text × α)
  | [] => pure (seen, a)
  | (k, v) :: rest => do
    let name ← text d k
    match fields.find? (·.name == name) with
    | none => setFields fields d seen a rest
    | some field =>
      if name ∈ seen then failure
      setFields fields d (name :: seen) (← field.set d v a) rest

/-- A mapping as a record, in which the `required` fields must be set. A plain scalar without
characters is an empty mapping. -/
def record (fields : List (Field α)) (required : List Text) (start : α) : Reader α := fun d n => do
  let entries ←
    match ← follow d n with
    | .mapping _ entries => pure entries
    | .scalar _ [] true => pure []
    | _ => failure
  let (seen, a) ← setFields fields d [] start entries
  if required.all (· ∈ seen) then pure a else failure

end Reader

end RuleAudit.Yaml
