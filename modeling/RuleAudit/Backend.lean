import RuleAudit.Error
import RuleAudit.Instant
import RuleAudit.Listing

/-!
The server as an audit sees it: it can be asked for its rules and for the series that match a
selector. Each answer comes in a monad `m`, so that it may depend on what was asked before.
-/

namespace RuleAudit

/-- A series is known by its labels, each with its value. -/
abbrev Series := List (Text × Text)

/-- What can be asked of a server. -/
structure Backend (m : Type → Type) where
  /-- The rules that the server has loaded. -/
  ruleGroups : m (Except Error (List RuleGroup))
  /-- The series that match a selector and have samples in a stretch of time. -/
  series : Text → TimeRange → m (Except Error (List Series))

end RuleAudit
