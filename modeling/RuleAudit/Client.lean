import RuleAudit.Backend
import RuleAudit.Config
import RuleAudit.Envelope
import RuleAudit.Log
import RuleAudit.Lookup
import RuleAudit.Text.Base64
import RuleAudit.Text.Form

/-!
The server over HTTP: which requests are sent for a question, and what a reply says. Sending is left
to the surroundings, in a monad `m`.
-/

namespace RuleAudit

/-! ### Requests and replies -/

/-- A request for the contents of an address, and the time that it may take. -/
structure Request where
  url : Url
  authorization : Option Text
  timeoutMs : Nat
deriving DecidableEq, Repr

namespace Request

/-- What the request line names: path and query, without the fragment. -/
def target (r : Request) : Text := r.url.path ++ Url.marked '?' r.url.query

end Request

/-- A reply: its code and the bytes of its body. -/
structure Reply where
  code : Nat
  body : List UInt8
deriving DecidableEq, Repr

namespace Reply

/-- The codes of replies that have no body, whatever bytes follow them. -/
def bodiless : List Nat := [204, 304]

/-- The body as a text; bytes that are no text become U+FFFD. -/
def text (r : Reply) : Text :=
  if r.code ∈ bodiless then [] else Text.Utf8.decodeLenient r.body

end Reply

/-! ### Addresses with parameters, and who asks -/

namespace Url

/-- An address with parameters after those of its query. Without any, an empty query is left out. -/
def withParameters (u : Url) (ps : List (Text × Text)) : Url :=
  let before := u.query.getD []
  let added := Text.Form.encodePairs ps
  let query :=
    if before = [] then added else if added = [] then before else before ++ '&' :: added
  { u with query := if query = [] then none else some query }

/-- User name and password as they are meant, joined with a colon, if there are any that are
texts. -/
def credentials? (u : Url) : Option Text := do
  let plain (t : Text) : Option Text := Text.Utf8.decode? (Text.Percent.decode t)
  let user ← plain u.user
  let password := u.password.bind plain
  if user = [] ∧ password = none then none
  else some (user ++ ':' :: password.getD [])

end Url

/-! ### The client -/

/-- A byte that may stand in a header: no control but the tab. -/
def isHeaderByte (b : UInt8) : Bool := (0x20 ≤ b && b != 0x7F) || b == 0x09

/-- A text that may stand in a header. -/
def isHeaderText (t : Text) : Bool := (Text.Utf8.encode t).all isHeaderByte

/-- A client of a server: a configuration whose token may stand in a header. -/
structure Client where
  config : Config
  token_isHeaderText : config.bearerToken.all isHeaderText = true

namespace Client

/-- The client with a configuration, unless its token is not fit for a header. -/
def ofConfig (c : Config) : Except Error Client :=
  if h : c.bearerToken.all isHeaderText = true then .ok ⟨c, h⟩
  else .error (.config "invalid bearer token: failed to parse header value")

/-- The client in words, without its token. -/
def describe (c : Client) : Text :=
  "PrometheusClient \x7b base_url: " ++ Text.quoted c.config.baseUrl.render ++ ", .. \x7d"

/-- User name and password as they prove who asks. -/
def basic (credentials : Text) : Text :=
  "Basic " ++ Text.Base64.encode (Text.Utf8.encode credentials)

/-- What proves who asks: the user of the address, or else the token. -/
def authorization (c : Client) (u : Url) : Option Text :=
  match u.credentials? with
  | some credentials => some (basic credentials)
  | none => c.config.bearerToken.map ("Bearer " ++ ·)

/-- The request for a path of the server. The joined address is read anew, so a path behind a query
or a fragment becomes a part of that. -/
def request? [Url.Idna] (c : Client) (path : Text) (ps : List (Text × Text)) : Option Request :=
  match Url.read (c.config.endpoint path) with
  | .ok (.web u) => some ⟨u.withParameters ps, c.authorization u, c.config.timeoutMs⟩
  | _ => none

/-- Why there is no request for a path: the joined address is none of the web. -/
def unaddressed [Url.Idna] (c : Client) (path : Text) : Outage :=
  match Url.read (c.config.endpoint path) with
  | .error e => ⟨"builder error", [e.message]⟩
  | .ok _ =>
    ⟨"builder error for url (" ++ c.config.endpoint path ++ ")", ["URL scheme is not allowed"]⟩

/-- What a client needs from its surroundings. -/
structure Wire (m : Type → Type) where
  /-- Sends a request and follows what sends it elsewhere, so that the reply is the last of several
  if the server redirects; or says why there is no reply. -/
  send : Request → m (Except Outage Reply)
  note : LogRecord → m Unit

/-- Asks for the data under a path. -/
def ask [Url.Idna] [Wording] [Monad m] (c : Client) (w : Wire m) (decode : Json.Decoder α)
    (path : Text) (ps : List (Text × Text)) : m (Except Error α) := do
  w.note (.request (c.config.endpoint path) ps)
  match c.request? path ps with
  | none => return .error (.http (c.unaddressed path))
  | some r =>
    match ← w.send r with
    | .error outage => return .error (.http outage)
    | .ok reply => return Envelope.accept decode reply.code reply.text

/-- The path of the listing. -/
def rulesPath : Text := "api/v1/rules"

/-- The path of the series. -/
def seriesPath : Text := "api/v1/series"

/-- The server that a client stands for. -/
def backend [Url.Idna] [Wording] [Monad m] (c : Client) (w : Wire m) : Backend m where
  ruleGroups := c.ask w Listing.decode rulesPath []
  series selector range :=
    c.ask w (Json.Decoder.list Json.Decoder.textMap) seriesPath (Lookup.parameters selector range)

end Client

end RuleAudit
