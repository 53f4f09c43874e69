import RuleAudit.Arguments
import RuleAudit.Audit
import RuleAudit.Client
import RuleAudit.Json.Printer
import RuleAudit.Source

/-!
The whole program between its arguments and its exit code. All that it needs from outside is
gathered in one structure over a monad, so the same program runs against a real system and against a
model of one.
-/

namespace RuleAudit

/-- What the program needs from outside. -/
structure System (m : Type → Type) where
  /-- The value of a variable of the environment. -/
  environment : Text → Option Text
  /-- Sends a request and follows what sends it elsewhere, so that the reply is the last of several
  if the server redirects; or says why there is no reply. -/
  send : Request → m (Except Outage Reply)
  /-- The bytes of a file, or in words why it has none. -/
  contents : Text → m (Except Text (List UInt8))
  now : m Instant
  /-- A number for a run, which no other run has. -/
  newRunId : m Text
  note : LogRecord → m Unit
  /-- Writes messages; gives in words why they are lost. -/
  writeMessage : Text → m (Option Text)
  /-- Writes results; gives in words why they are lost. -/
  writeResult : Text → m (Option Text)

namespace Program

/-- The overrides on a command line. -/
def overrides (a : Arguments) : Overrides := ⟨a.url, a.bearerToken, a.timeoutMs⟩

/-- The configuration of a run. -/
def configure [Url.Idna] (environment : Text → Option Text) (a : Arguments) :
    Except Error Client := do
  Client.ofConfig (← Config.resolveIn environment (overrides a))

/-- The text of a report. -/
def reportText (r : Report) : Text := r.toJson.pretty 0 ++ ['\n']

section

variable {m : Type → Type} [Url.Idna] [Wording] [Monad m] (s : System m)

/-- Writes the line about an event; a lost line is noted. -/
def tell (e : Event) : m Unit := do
  match ← s.writeMessage (e.line ++ ['\n']) with
  | none => return ()
  | some reason => s.note (.lineLost reason)

/-- What an audit needs, with a client for the server. -/
def surroundings (c : Client) : Surroundings m where
  backend := c.backend ⟨s.send, s.note⟩
  now := s.now
  note := s.note
  tell := tell s

/-- Writes a report if one is wanted. -/
def writeReport (a : Arguments) (r : Report) : m (Except Error Unit) := do
  if a.json then
    match ← s.writeResult (reportText r) with
    | none => return .ok ()
    | some reason => return .error (.io reason)
  else return .ok ()

/-- Runs the audit that the arguments ask for, with a client for the server. -/
def audit (a : Arguments) (c : Client) : m (Except Error Status) := do
  let near := surroundings s c
  let runId ← s.newRunId
  let startedAt ← s.now
  let source := Source.ofPaths a.ruleFiles
  let queries := source.queries near.backend s.note s.contents
  match (← Audit.run near queries (.ofVerdicts .empty)).1 with
  | .error e => return .error e
  | .ok results =>
    let finishedAt ← s.now
    let report : Report := ⟨runId, startedAt.renderExact, finishedAt.renderExact, results⟩
    match ← writeReport s a report with
    | .error e => return .error e
    | .ok () => return .ok results.status

/-- Runs what the arguments ask for. -/
def run (a : Arguments) : m (Except Error Status) := do
  match configure s.environment a with
  | .error e => return .error e
  | .ok c =>
    s.note (.checking c.config.baseUrl.render)
    audit s a c

/-- Runs what the arguments ask for, and gives the exit code. A program that cannot say why it gives
up ends in another way. -/
def execute (a : Arguments) : m Nat := do
  match ← run s a with
  | .ok status => return status.exitCode
  | .error e =>
    match ← s.writeMessage (e.fatalLine ++ ['\n']) with
    | none => return Status.fatalExitCode
    | some _ => return Status.speechlessExitCode

end

end Program

end RuleAudit
