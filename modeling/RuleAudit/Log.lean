import RuleAudit.Text.Quoted

/-!
What an audit notes down about its own progress.
-/

namespace RuleAudit

/-- A note, named for what happened. -/
inductive LogRecord
  /-- The configuration is complete; the audit is about to start. -/
  | checking (url : Text)
  /-- A request is about to be sent. -/
  | request (url : Text) (parameters : List (Text × Text))
  /-- A rule of a group has no query. -/
  | passedOver (rule group : Text)
  /-- The verdict about a metric was known. -/
  | known (metric : Text) (found : Bool)
  /-- The server has this many series of a metric. -/
  | matched (metric : Text) (count : Nat)
  /-- An audit has come to its end. -/
  | audited (validated listed missing diagnostics lookups : Nat)
  /-- An output line is lost. -/
  | lineLost (reason : Text)
deriving DecidableEq, Repr

namespace LogRecord

/-- How much a note matters. -/
inductive Level
  | debug
  | info
  | warn
deriving DecidableEq, Repr

/-- The word for a level. -/
def Level.word : Level → Text
  | debug => "DEBUG"
  | info => "INFO"
  | warn => "WARN"

def level : LogRecord → Level
  | checking _ => .info
  | request _ _ => .debug
  | passedOver _ _ => .debug
  | known _ _ => .debug
  | matched _ _ => .debug
  | audited .. => .info
  | lineLost _ => .warn

/-- Parameters as a list of quoted pairs. -/
def parametersText (ps : List (Text × Text)) : Text :=
  let pair (p : Text × Text) : Text := "(" ++ Text.quoted p.1 ++ ", " ++ Text.quoted p.2 ++ ")"
  "[" ++ Text.join ", " (ps.map pair) ++ "]"

def message : LogRecord → Text
  | checking url => "checking rules against " ++ url
  | request url ps => "GET " ++ url ++ " " ++ parametersText ps
  | passedOver rule group =>
    "skipping rule " ++ Text.quoted rule ++ " in group " ++ Text.quoted group
      ++ ": unsupported kind"
  | known metric found =>
    "cache hit for " ++ Text.quoted metric ++ ": exists=" ++ (if found then "true" else "false")
  | matched metric count =>
    Text.quoted metric ++ " matched " ++ Text.decimal count ++ " series"
  | audited validated listed missing diagnostics lookups =>
    "validated " ++ Text.decimal validated ++ "/" ++ Text.decimal listed ++ " rules: "
      ++ Text.decimal missing ++ " missing metrics, " ++ Text.decimal diagnostics
      ++ " diagnostics, " ++ Text.decimal lookups ++ " backend lookups"
  | lineLost reason => "failed to write output line: " ++ reason

/-- The level and the message. -/
def line (r : LogRecord) : Text := r.level.word ++ " " ++ r.message

end LogRecord

end RuleAudit
