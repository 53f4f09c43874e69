import RuleAudit.Json.Decode

/-!
The rules that a server has loaded: groups of rules, how they are written in JSON, and the queries
that they hold, in order.
-/

namespace RuleAudit

/-! ### Rules and groups -/

/-- What a rule does with its query. Rules of another kind have none that could be audited. -/
inductive RuleKind
  | recording
  | alerting
  | other
deriving DecidableEq, Repr

namespace RuleKind

/-- The word for a kind. -/
def word : RuleKind → Text
  | recording => "recording"
  | alerting => "alerting"
  | other => "other"

/-- The kind that a word names; every unknown word names another kind. -/
def ofWord (t : Text) : RuleKind :=
  if t = recording.word then recording else if t = alerting.word then alerting else other

/-- Recording and alerting rules carry a query. -/
def carriesQuery : RuleKind → Bool
  | other => false
  | _ => true

theorem ofWord_word (k : RuleKind) : ofWord k.word = k := by cases k <;> decide

end RuleKind

/-- A rule of the listing. -/
structure Rule where
  kind : RuleKind
  name : Text
  query : Text
deriving DecidableEq, Repr

/-- Rules that the server evaluates together, and the file that they come from. -/
structure RuleGroup where
  name : Text
  file : Text
  rules : List Rule
deriving DecidableEq, Repr

/-! ### Reading -/

open Json (Value Decoder textMember)

/-- A kind is a word, or an object whose only member is named by the word and is null. -/
def RuleKind.decode : Decoder RuleKind
  | .string t => pure (ofWord t)
  | .object [(word, .null)] => pure (ofWord word)
  | .object [(_, v)] => throw (v.typeMessage "unit")
  | .object _ => .error "invalid value: map, expected map with a single key"
  | v => throw (v.typeMessage "string or map")

/-- The fields of a rule; only the kind must be there. -/
def Rule.fields : List (Decoder.Field Rule) :=
  [⟨"type", true, fun v r => do return { r with kind := ← RuleKind.decode v }⟩,
   ⟨"name", false, fun v r => do return { r with name := ← Decoder.text v }⟩,
   ⟨"query", false, fun v r => do return { r with query := ← Decoder.text v }⟩]

def Rule.decode : Decoder Rule := Decoder.record "Rule" Rule.fields ⟨.other, [], []⟩

/-- The fields of a group; only the name must be there. -/
def RuleGroup.fields : List (Decoder.Field RuleGroup) :=
  [⟨"name", true, fun v g => do return { g with name := ← Decoder.text v }⟩,
   ⟨"file", false, fun v g => do return { g with file := ← Decoder.text v }⟩,
   ⟨"rules", false, fun v g => do return { g with rules := ← Decoder.list Rule.decode v }⟩]

def RuleGroup.decode : Decoder RuleGroup := Decoder.record "RuleGroup" RuleGroup.fields ⟨[], [], []⟩

namespace Listing

/-- The groups of a listing, which are its only field. -/
def decode : Decoder (List RuleGroup) :=
  Decoder.record "RulesData"
    [⟨"groups", false, fun v _ => Decoder.list RuleGroup.decode v⟩] []

end Listing

/-! ### Writing -/

/-- A rule as an object with all its members. -/
def Rule.toJson (r : Rule) : Value :=
  .object [textMember "type" r.kind.word, textMember "name" r.name, textMember "query" r.query]

/-- A group as an object with all its members. -/
def RuleGroup.toJson (g : RuleGroup) : Value :=
  .object [textMember "name" g.name, textMember "file" g.file,
    ("rules", .array (g.rules.map Rule.toJson))]

/-! ### The queries of a listing -/

/-- A query to be audited, with the rule and the group that it belongs to and the file that these
come from. -/
structure RuleQuery where
  file : Text
  group : Text
  rule : Text
  kind : RuleKind
  query : Text
deriving DecidableEq, Repr

namespace RuleGroup

/-- The query of a rule of the group. -/
def queryOf (g : RuleGroup) (r : Rule) : RuleQuery := ⟨g.file, g.name, r.name, r.kind, r.query⟩

/-- The queries of a group, in the order of its rules. -/
def queries (g : RuleGroup) : List RuleQuery :=
  (g.rules.filter (·.kind.carriesQuery)).map g.queryOf

/-- The names of the rules without a query, each with the name of the group. -/
def passedOver (g : RuleGroup) : List (Text × Text) :=
  (g.rules.filter (!·.kind.carriesQuery)).map fun r => (r.name, g.name)

end RuleGroup

namespace Listing

/-- The queries of all groups, in order. -/
def flatten (gs : List RuleGroup) : List RuleQuery := gs.flatMap RuleGroup.queries

/-- The rules without a query, in order. -/
def passedOver (gs : List RuleGroup) : List (Text × Text) := gs.flatMap RuleGroup.passedOver

end Listing

end RuleAudit
