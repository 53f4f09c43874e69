import RuleAudit.Client

/-!
Requests and replies as they pass over a connection that is closed behind the reply.
-/

namespace RuleAudit

/-! ### Requests -/

namespace Request

/-- A line of a head. -/
def line (t : Text) : Text := t ++ "\r\n"

/-- The headers of a request, each with its value. -/
def headers (r : Request) : List (Text × Text) :=
  ("host", r.url.hostText) :: ("accept", "*/*")
    :: r.authorization.toList.map fun t => (("authorization" : Text), t)

/-- The head of a request, which has no body. -/
def head (r : Request) : Text :=
  line ("GET " ++ r.target ++ " HTTP/1.0")
    ++ r.headers.flatMap (fun (name, value) => line (name ++ ": " ++ value)) ++ line []

/-- The bytes of a request. -/
def toBytes (r : Request) : List UInt8 := Text.Utf8.encode r.head

end Request

/-! ### Replies -/

namespace Reply

/-- The lines of a head, its bytes taken for characters, and what follows the empty line behind it.
`line` is the part of the first line that has been read, in reverse. -/
def cutHead (line : Text) : List UInt8 → Option (List Text × List UInt8)
  | 0x0D :: 0x0A :: rest =>
    if line = [] then some ([], rest)
    else (cutHead [] rest).map fun (lines, body) => (line.reverse :: lines, body)
  | b :: rest => cutHead (Char.ofNat b.toNat :: line) rest
  | [] => none

/-- The code in the first line of a head. -/
def code? (t : Text) : Option Nat :=
  match Text.split ' ' t with
  | version :: code :: _ =>
    if Text.after? "HTTP/1." version ≠ none ∧ code.length = 3 ∧ code.all Char.isDigit then
      some (Text.digitsValue code)
    else none
  | _ => none

/-- The length that the lines of a head announce. -/
def announced? (lines : List Text) : Option Nat :=
  lines.findSome? fun l =>
    let (name, value) := Text.cut ':' l
    if Text.lower name = ("content-length" : Text) then Numeral.read? (Text.trim (value.getD []))
    else none

/-- The reply that the bytes of a connection hold. A body that is shorter than announced is none. -/
def ofBytes? (bytes : List UInt8) : Option Reply := do
  let (lines, body) ← cutHead [] bytes
  let code ← lines.head?.bind code?
  match announced? lines.tail with
  | none => some ⟨code, body⟩
  | some n =>
    if code ∈ bodiless then some ⟨code, []⟩
    else if body.length < n then none
    else some ⟨code, body.take n⟩

end Reply

end RuleAudit
