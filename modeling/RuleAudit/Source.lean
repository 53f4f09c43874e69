import RuleAudit.Backend
import RuleAudit.Log
import RuleAudit.RuleFile

/-!
Where the queries of an audit come from: the rules that the server has loaded, or rule files.
-/

namespace RuleAudit

/-- A source of queries. -/
inductive Source
  | server
  | files (paths : List Text)
deriving DecidableEq, Repr

namespace Source

/-- The files, if there are any, and else the server. -/
def ofPaths : List Text → Source
  | [] => server
  | paths => files paths

section

variable {m : Type → Type} [Monad m]

/-- The queries of the rules that a server has loaded. Rules without a query are noted. -/
def ofServer (b : Backend m) (note : LogRecord → m Unit) : m (Except Error (List RuleQuery)) := do
  match ← b.ruleGroups with
  | .error e => return .error (.listRules e)
  | .ok gs =>
    (Listing.passedOver gs).forM fun (rule, group) => note (.passedOver rule group)
    return .ok (Listing.flatten gs)

/-- The queries of a source; `contents` gives the bytes of a file. -/
def queries [Wording] (b : Backend m) (note : LogRecord → m Unit)
    (contents : Text → m (Except Text (List UInt8))) : Source → m (Except Error (List RuleQuery))
  | server => ofServer b note
  | files paths => RuleFile.readAll contents paths

end

end Source

end RuleAudit
