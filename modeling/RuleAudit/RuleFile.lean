import RuleAudit.Error
import RuleAudit.Listing
import RuleAudit.Yaml.Decode

/-!
Rule files: groups of rules in YAML. A rule records a series or raises an alert, each under a name
of its own; one that does neither is passed over.
-/

namespace RuleAudit

/-! ### The contents of a file -/

/-- A rule of a file. -/
structure RuleEntry where
  record : Option Text
  alert : Option Text
  expr : Text
deriving DecidableEq, Repr

namespace RuleEntry

/-- What a rule does, and its name. One that both records and alerts is taken to record. -/
def role? (e : RuleEntry) : Option (RuleKind × Text) :=
  match e.record, e.alert with
  | some name, _ => some (.recording, name)
  | none, some name => some (.alerting, name)
  | none, none => none

end RuleEntry

/-- A group of a file. -/
structure EntryGroup where
  name : Text
  entries : List RuleEntry
deriving DecidableEq, Repr

/-- A rule file. -/
structure RuleFile where
  groups : List EntryGroup
deriving DecidableEq, Repr

/-! ### Reading -/

open Yaml (Reader)

/-- A rule; each of its fields may be missing. -/
def RuleEntry.reader : Reader RuleEntry :=
  Reader.record
    [⟨"record", fun d n e => do return { e with record := ← Reader.optionalText d n }⟩,
     ⟨"alert", fun d n e => do return { e with alert := ← Reader.optionalText d n }⟩,
     ⟨"expr", fun d n e => do return { e with expr := ← Reader.text d n }⟩]
    [] ⟨none, none, []⟩

/-- A group; only the name must be there. -/
def EntryGroup.reader : Reader EntryGroup :=
  Reader.record
    [⟨"name", fun d n g => do return { g with name := ← Reader.text d n }⟩,
     ⟨"rules", fun d n g => do return { g with entries := ← Reader.list RuleEntry.reader d n }⟩]
    ["name"] ⟨[], []⟩

namespace RuleFile

/-- The contents of a file; there may be no groups. -/
def reader : Reader RuleFile :=
  Reader.record
    [⟨"groups", fun d n _ => do return ⟨← Reader.list EntryGroup.reader d n⟩⟩] [] ⟨[]⟩

/-- Reads the text of a file. -/
def read [Wording] (t : Text) : Except Error RuleFile :=
  match Yaml.Document.read? t >>= reader.run with
  | some f => .ok f
  | none => .error (.yaml (Wording.yaml t))

/-! ### The queries of a file -/

/-- The query of a rule in a group of the file with the given path. -/
def queryOf? (path : Text) (g : EntryGroup) (e : RuleEntry) : Option RuleQuery :=
  e.role?.map fun (kind, name) => ⟨path, g.name, name, kind, e.expr⟩

/-- The queries of a file, in order. -/
def queries (path : Text) (f : RuleFile) : List RuleQuery :=
  f.groups.flatMap fun g => g.entries.filterMap (queryOf? path g)

/-- The queries of the text of a file. -/
def readQueries [Wording] (path t : Text) : Except Error (List RuleQuery) := do
  return (← read t).queries path

/-! ### Several files -/

/-- A message that a file cannot be read. -/
def unreadable (path reason : Text) : Error :=
  .io ("failed to read rule file " ++ path ++ ": " ++ reason)

/-- The text of a file from its bytes, or why it has none. -/
def decode (path : Text) (contents : Except Text (List UInt8)) : Except Error Text :=
  match contents with
  | .error reason => .error (unreadable path reason)
  | .ok bytes =>
    match Text.Utf8.decode? bytes with
    | some t => .ok t
    | none => .error (unreadable path "stream did not contain valid UTF-8")

/-- The queries of several files, in order; the first file that cannot be read ends the reading. The
bytes of a file, or why it has none, come from `contents`. -/
def readAll [Wording] [Monad m] (contents : Text → m (Except Text (List UInt8))) :
    List Text → m (Except Error (List RuleQuery))
  | [] => return .ok []
  | path :: rest => do
    match decode path (← contents path) >>= readQueries path with
    | .error e => return .error e
    | .ok qs =>
      match ← readAll contents rest with
      | .error e => return .error e
      | .ok more => return .ok (qs ++ more)

end RuleFile

end RuleAudit
