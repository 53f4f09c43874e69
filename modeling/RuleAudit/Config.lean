import RuleAudit.Error
import RuleAudit.Numeral
import RuleAudit.Text.Blank
import RuleAudit.Url.Basic

/-!
The configuration of an audit: the address of the server, the token that proves who asks, and the
time that a request may take. Each setting comes from the command line or else from the environment.
-/

namespace RuleAudit

/-- Settings given on the command line. -/
structure Overrides where
  url : Option Text
  bearerToken : Option Text
  timeoutMs : Option Nat
deriving DecidableEq, Repr

/-- A complete configuration. -/
structure Config where
  baseUrl : Url
  bearerToken : Option Text
  timeoutMs : Nat
deriving DecidableEq, Repr

namespace Config

/-! ### Names and defaults -/

def urlVariable : Text := "RULELINT_URL"
def tokenVariable : Text := "RULELINT_BEARER_TOKEN"
def timeoutVariable : Text := "RULELINT_TIMEOUT_MS"

/-- The time of a request if nothing else is said, in milliseconds. -/
def defaultTimeoutMs : Nat := 10000

/-! ### Single settings -/

/-- The address of a server: one of the web, blanks at its ends aside. -/
def readUrl [Url.Idna] (raw : Text) : Except Error Url :=
  match Url.read (Text.trim raw) with
  | .error e =>
    .error (.config ("invalid backend URL " ++ Text.quoted raw ++ ": " ++ e.message))
  | .ok (.other scheme) => .error (.config ("unsupported backend URL scheme: " ++ scheme))
  | .ok (.web u) => .ok u

/-- The time of a request in the environment. -/
def readTimeout (raw : Text) : Except Error Nat :=
  match Numeral.read? (Text.trim raw) with
  | some n => .ok n
  | none => .error (.config ("invalid " ++ timeoutVariable ++ ": " ++ raw))

/-- A value of the environment as it counts: without the blanks at its ends, and not empty. -/
def cleanValue? (raw : Text) : Option Text := (some (Text.trim raw)).filter (· ≠ [])

/-! ### The whole configuration -/

/-- The configuration from the command line and a look-up for the rest. A blank address or token
counts as not given. -/
def resolve [Url.Idna] (overrides : Overrides) (lookup : Text → Option Text) :
    Except Error Config := do
  let raw ←
    match (overrides.url.map Text.trim).filter (· ≠ []) <|> lookup urlVariable with
    | some raw => pure raw
    | none =>
      .error (.config ("missing backend URL (pass --url or set " ++ urlVariable ++ ")"))
  let baseUrl ← readUrl raw
  let bearerToken := overrides.bearerToken.filter (!Text.isAllBlank ·) <|> lookup tokenVariable
  let timeoutMs ←
    match overrides.timeoutMs with
    | some n => pure n
    | none =>
      match lookup timeoutVariable with
      | some raw => readTimeout raw
      | none => pure defaultTimeoutMs
  if timeoutMs = 0 then .error (.config "backend timeout must be at least 1ms")
  return ⟨baseUrl, bearerToken, timeoutMs⟩

/-- The configuration from the command line and the values of the environment. -/
def resolveIn [Url.Idna] (environment : Text → Option Text) (overrides : Overrides) :
    Except Error Config :=
  resolve overrides fun name => environment name >>= cleanValue?

/-- The configuration with nothing but an address. -/
def ofUrl [Url.Idna] (raw : Text) : Except Error Config := do
  return ⟨← readUrl raw, none, defaultTimeoutMs⟩

/-! ### Addresses of requests -/

/-- A text without the slashes at its start. -/
def trimStartSlashes (t : Text) : Text := t.dropWhile (· == '/')

/-- A text without the slashes at its end. -/
def trimEndSlashes (t : Text) : Text := Text.trimEnd (· == '/') t

/-- A path joined to the address of the server, with one slash between them. -/
def endpoint (c : Config) (path : Text) : Text :=
  trimEndSlashes c.baseUrl.render ++ '/' :: trimStartSlashes path

/-! ### Descriptions -/

/-- The configuration in words, without its token. -/
def describe (c : Config) : Text :=
  "BackendConfig \x7b base_url: " ++ Text.quoted c.baseUrl.render ++ ", bearer_token: "
    ++ (if c.bearerToken.isSome then "Some(\"<redacted>\")" else "None") ++ ", timeout_ms: "
    ++ Text.decimal c.timeoutMs ++ " \x7d"

end Config

end RuleAudit
