import RuleAudit.Json.Token
import RuleAudit.Text.Quoted

/-!
What can go wrong in an audit: the cause, its code, its message, and the chain of messages from an
error to its innermost cause. What a reader or a connection says of its failures is kept as it is
said.
-/

namespace RuleAudit

/-- Why a request has no reply: in words, and in words the causes behind that, from the nearest to
the innermost. -/
structure Outage where
  message : Text
  causes : List Text
deriving DecidableEq, Repr, Inhabited

/-- A failure. Two kinds of it have another failure as their cause. -/
inductive Error
  /-- The configuration is missing something or is invalid. -/
  | config (message : Text)
  /-- The server answered, and not with what was asked for. -/
  | backend (message : Text)
  /-- The rules could not be listed. -/
  | listRules (source : Error)
  /-- It could not be found out whether a metric exists. -/
  | metricLookup (metric : Text) (source : Error)
  /-- The text of a rule is no query. -/
  | parse (query : Text) (message : Text)
  /-- A file could not be read, or the results could not be written. -/
  | io (message : Text)
  /-- A text is not the JSON that it should be. -/
  | json (message : Text)
  /-- A text is no rule file. -/
  | yaml (message : Text)
  /-- The server could not be reached. -/
  | http (outage : Outage)
deriving DecidableEq, Repr, Inhabited

namespace Error

/-- The code of a failure, for programs. -/
def code : Error → Text
  | config _ => "CONFIG_ERROR"
  | backend _ => "BACKEND_ERROR"
  | listRules _ => "LIST_RULES_FAILED"
  | metricLookup _ _ => "METRIC_LOOKUP_FAILED"
  | parse _ _ => "PARSE_ERROR"
  | io _ => "IO_ERROR"
  | json _ => "JSON_ERROR"
  | yaml _ => "YAML_ERROR"
  | http _ => "HTTP_ERROR"

/-- The message of a failure, for people. It ends with the message of its cause. -/
def message : Error → Text
  | config m => "invalid configuration: " ++ m
  | backend m => "backend request failed: " ++ m
  | listRules source => "failed to list rules: " ++ source.message
  | metricLookup metric source =>
    "failed to get metric " ++ Text.quoted metric ++ ": " ++ source.message
  | parse query m => "failed to parse rule " ++ Text.quoted query ++ ": " ++ m
  | io m => m
  | json m => m
  | yaml m => m
  | http o => o.message

/-- The cause of a failure, if that is a failure of its own. -/
def source? : Error → Option Error
  | listRules source => some source
  | metricLookup _ source => some source
  | _ => none

/-- The messages of all causes, from the nearest to the innermost. -/
def chain : Error → List Text
  | listRules source => source.message :: source.chain
  | metricLookup _ source => source.message :: source.chain
  | http o => o.causes
  | _ => []

/-- The metric that a failed lookup was about. -/
def metric? : Error → Option Text
  | metricLookup metric _ => some metric
  | _ => none

/-- The line that a program prints before it gives up: the message, then the messages of all
causes, which repeats them. -/
def fatalLine (e : Error) : Text := "error: " ++ Text.join ": " (e.message :: e.chain)

end Error

/-! ### The words of readers -/

/-- The words in which the readers of documents say why they refuse a text. -/
class Wording where
  /-- Why a text is not the JSON that it should be; this is what is wrong with it. -/
  json : Text → Json.Error → Text
  /-- Why a text is no rule file. -/
  yaml : Text → Text

/-- Words that name what is wrong, and no place in the text. -/
@[reducible] def Wording.plain : Wording where
  json _ fault :=
    match fault with
    | .malformed => "malformed JSON"
    | .truncated => "unexpected end of JSON"
    | .data m => m
  yaml _ := "malformed rule file"

namespace Plain

scoped instance : Wording := .plain

end Plain

end RuleAudit
