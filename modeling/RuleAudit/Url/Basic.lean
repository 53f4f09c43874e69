import RuleAudit.Url.Host

/-!
Addresses of the web: their parts, how they are written, and how they are read from a text. Texts
with another scheme are told apart from texts that are no address at all.
-/

namespace RuleAudit

/-- An address of the web. User name, password, path segments, query and fragment are in their
encoded form, and the port is absent if it is the one of the scheme. -/
structure Url where
  secure : Bool
  user : Text
  password : Option Text
  host : Url.Host
  port : Option Nat
  segments : List Text
  query : Option Text
  fragment : Option Text
deriving DecidableEq, Repr

namespace Url

/-! ### Writing -/

/-- The name of the scheme. -/
def scheme (u : Url) : Text := if u.secure then "https" else "http"

/-- The port that the scheme stands for. -/
def schemePort (secure : Bool) : Nat := if secure then 443 else 80

/-- User name and password with the sign that ends them, if there are any. -/
def userText (u : Url) : Text :=
  match u.password with
  | some p => u.user ++ ':' :: (p ++ ['@'])
  | none => if u.user = [] then [] else u.user ++ ['@']

/-- The path: every segment has a slash before it. -/
def path (u : Url) : Text := u.segments.flatMap ('/' :: ·)

/-- A part with the mark that begins it, if there is one. -/
def marked (mark : Char) : Option Text → Text
  | some t => mark :: t
  | none => []

/-- The host, and the port if it is not that of the scheme. -/
def hostText (u : Url) : Text := u.host.render ++ marked ':' (u.port.map Text.decimal)

/-- The text of an address. -/
def render (u : Url) : Text :=
  u.scheme ++ "://" ++ u.userText ++ u.hostText ++ u.path ++ marked '?' u.query
    ++ marked '#' u.fragment

/-! ### Reading the parts -/

/-- A scheme. The special ones have the rules of the web; in files the host is optional. -/
inductive Scheme
  | web (secure : Bool)
  | special (name : Text)
  | file
  | other (name : Text)
deriving DecidableEq, Repr

namespace Scheme

/-- The scheme of a name in small letters. -/
def ofName (t : Text) : Scheme :=
  if t = ("http" : Text) then web false
  else if t = ("https" : Text) then web true
  else if t = ("ws" : Text) ∨ t = ("wss" : Text) ∨ t = ("ftp" : Text) then special t
  else if t = ("file" : Text) then file
  else other t

/-- The name of a scheme. -/
def name : Scheme → Text
  | web secure => if secure then "https" else "http"
  | special t => t
  | file => "file"
  | other t => t

/-- A backslash counts as a slash. -/
def isSpecial : Scheme → Bool
  | other _ => false
  | _ => true

end Scheme

/-- A sign that ends the part with the host. -/
def endsHost (s : Scheme) (c : Char) : Bool :=
  c == '/' || c == '?' || c == '#' || (s.isSpecial && c == '\\')

/-- The scheme before the first colon, and what follows. -/
def readScheme? (t : Text) : Option (Scheme × Text) :=
  let name := t.takeWhile fun c => c.isAlphanum || c == '+' || c == '-' || c == '.'
  match t.drop name.length with
  | ':' :: rest =>
    if name.head?.any Char.isAlpha then some (.ofName (Text.lower name), rest) else none
  | _ => none

/-- Cuts at the last `@` of a text. -/
def cutLastAt (t : Text) : Option (Text × Text) :=
  match t.reverse.dropWhile (· != '@') with
  | [] => none
  | _ :: before => some (before.reverse, (t.reverse.takeWhile (· != '@')).reverse)

/-- User name and password before the last `@` of a part with a host, the password without its colon
and absent if it is empty; and the rest of the part. -/
def readUser (authority : Text) : Text × Option Text × Text :=
  match cutLastAt authority with
  | none => ([], none, authority)
  | some (info, rest) =>
    let encode := Text.Percent.encode Text.Percent.isUserSpecial
    let (user, password) := Text.cut ':' info
    (encode user, (password.filter (· ≠ [])).map encode, rest)

/-- The host and what follows it: a colon inside brackets does not end the host. -/
def cutHost (bracketed : Bool) : Text → Text × Text
  | [] => ([], [])
  | c :: rest =>
    if c = ':' ∧ !bracketed then ([], c :: rest)
    else
      let bracketed := if c = '[' then true else if c = ']' then false else bracketed
      let (host, rest) := cutHost bracketed rest
      (c :: host, rest)

/-- The port behind a colon, up to a backslash; there may be none, and one that is too great is no
port. -/
def readPort (t : Text) : Except Error (Option Nat) :=
  let ds := t.takeWhile (· != '\\')
  if ds.all Char.isDigit ∧ Text.digitsValue ds < 65536 then
    .ok (if ds = [] then none else some (Text.digitsValue ds))
  else .error .badPort

/-- The parts of an address between the slashes and the path. -/
structure Authority where
  user : Text
  password : Option Text
  host : Host
  port : Option Nat

/-- Reads the part with the host, which has been cut off before the path. -/
def readAuthority [Idna] (s : Scheme) (t : Text) : Except Error Authority := do
  let (user, password, rest) := readUser t
  let (hostText, portText) := cutHost false rest
  if s.isSpecial ∧ hostText = [] then .error .emptyHost
  let host ← if s.isSpecial then Host.read hostText else Host.readOpaque hostText
  if hostText = [] ∧ (portText ≠ [] ∨ user ≠ [] ∨ password.isSome) then .error .emptyHost
  let port ← readPort (portText.drop 1)
  return ⟨user, password, host, port⟩

/-! ### Paths -/

/-- A segment that stands for the segment before it. -/
def isDoubleDot (t : Text) : Bool :=
  Text.lower t ∈ ([['.', '.'], "%2e.", ".%2e", "%2e%2e"] : List Text)

/-- A segment that stands for nothing. -/
def isSingleDot (t : Text) : Bool := Text.lower t ∈ ([['.'], "%2e"] : List Text)

/-- A segment that names a drive: a letter and a colon. It is never taken back. -/
def isDrive : Text → Bool
  | [c, d] => c.isAlpha && (d == ':' || d == '|')
  | _ => false

/-- The segments without their last, unless that is a drive. `done` is in reverse. -/
def takeBack (done : List Text) : List Text :=
  match done with
  | [] => []
  | t :: rest => if isDrive t then t :: rest else rest

/-- The segments of a path after those of `done`, without the ones that stand for others. Where the
last segment is such a one, the path ends with a slash. -/
def resolve (done : List Text) : List Text → List Text
  | [] => done.reverse
  | [t] =>
    if isDoubleDot t then ([] :: takeBack done).reverse
    else if isSingleDot t then ([] :: done).reverse
    else (t :: done).reverse
  | t :: rest =>
    if isDoubleDot t then resolve (takeBack done) rest
    else if isSingleDot t then resolve done rest
    else resolve (t :: done) rest

/-- The segments of a path as it is written; backslashes count as slashes. -/
def readPath (t : Text) : List Text :=
  let slashed := t.map fun c => if c = '\\' then '/' else c
  let inner := match slashed with
    | '/' :: rest => rest
    | t => t
  resolve [] ((Text.split '/' inner).map (Text.Percent.encode Text.Percent.isPathSpecial))

/-! ### Whole addresses -/

/-- What a text is: an address of the web, or an address with another scheme. -/
inductive Reading
  | web (u : Url)
  | other (scheme : Text)
deriving DecidableEq, Repr

/-- Reads what follows the slashes in an address of the web. -/
def readWeb [Idna] (secure : Bool) (t : Text) : Except Error Url := do
  let s := Scheme.web secure
  let a ← readAuthority s (t.takeWhile (!endsHost s ·))
  let rest := t.dropWhile (!endsHost s ·)
  let (rest, fragment) := Text.cut '#' rest
  let (path, query) := Text.cut '?' rest
  return { secure
           user := a.user
           password := a.password
           host := a.host
           port := a.port.filter (· ≠ schemePort secure)
           segments := readPath path
           query := query.map (Text.Percent.encode Text.Percent.isQuerySpecial)
           fragment := fragment.map (Text.Percent.encode Text.Percent.isFragmentSpecial) }

/-- Checks an address with another scheme. An `@` by itself is no host, unless nothing at all comes
after it. -/
def checkOther [Idna] (s : Scheme) (t : Text) : Except Error Unit := do
  match s with
  | .web _ => pure ()
  | .special _ =>
    let rest := t.dropWhile fun c => c == '/' || c == '\\'
    let _ ← readAuthority s (rest.takeWhile (!endsHost s ·))
  | .file =>
    let isSlash (c : Char) : Bool := c == '/' || c == '\\'
    match t with
    | a :: b :: rest =>
      let host := rest.takeWhile (!endsHost s ·)
      if isSlash a ∧ isSlash b ∧ host ≠ [] ∧ !isDrive host then
        let _ ← Host.read host
    | _ => pure ()
  | .other _ =>
    match t with
    | '/' :: '/' :: rest =>
      let authority := rest.takeWhile (!endsHost s ·)
      if authority = ['@'] ∧ rest ≠ ['@'] then .error .emptyHost
      let _ ← readAuthority s authority
    | _ => pure ()

/-- A text without the controls and blanks at its ends and the tabs and line breaks in it. -/
def clean (t : Text) : Text :=
  (Text.trimBoth (fun c => c.toNat ≤ 0x20) t).filter
    fun c => !(c == '\t' || c == '\n' || c == '\r')

/-- Reads a text as an address. -/
def read [Idna] (t : Text) : Except Error Reading :=
  match readScheme? (clean t) with
  | none => .error .relative
  | some (.web secure, rest) => do
    return .web (← readWeb secure (rest.dropWhile fun c => c == '/' || c == '\\'))
  | some (s, rest) => do
    checkOther s rest
    return .other s.name

end Url

end RuleAudit
