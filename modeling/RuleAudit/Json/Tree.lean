import RuleAudit.Json.Token
import RuleAudit.Json.Value

/-!
A JSON text as a tree, as far as it goes: where the text is at fault, the tree holds the fault. So
one who walks the tree in order meets the same things, in the same order, as one who reads the text
from the left, and a fault behind a part of the wrong shape is not met at all.
-/

namespace RuleAudit.Json

/-- A tree with its faults. `stop` says that a list broke off where a comma or its end should
stand. -/
inductive Tree
  | null
  | bool (value : Bool)
  | number (value : Option Number)
  | string (value : Option Text)
  | array (items : List Tree) (stop : Option Fault)
  | object (members : List (Option Text × Tree)) (stop : Option Fault)
  | broken (fault : Fault)

/-- The tree of a text, and whether something stands behind it. -/
structure Document where
  root : Tree
  trailing : Bool

namespace Tree

/-! ### Building -/

/-- A list or object whose end has not come, its parts in reverse. -/
inductive Frame
  | array (items : List Tree)
  | object (members : List (Option Text × Tree)) (name : Option Text)

/-- What may stand next. -/
inductive Wanted
  | value
  | firstItem
  | firstName
  | name
  | colon
  | next

namespace Frame

/-- A part is complete. -/
def plug (t : Tree) : Frame → Frame
  | .array items => .array (t :: items)
  | .object members name => .object ((name, t) :: members) none

/-- The name of the coming member is known. -/
def withName (name : Option Text) : Frame → Frame
  | .array items => .array items
  | .object members _ => .object members name

/-- The list or object ends here. -/
def close (stop : Option Fault) : Frame → Tree
  | .array items => .array items.reverse stop
  | .object members _ => .object members.reverse stop

end Frame

/-- The whole tree, when the text ends in a part of it. -/
def unwind (fault : Fault) (t : Tree) (frames : List Frame) : Tree :=
  frames.foldl (fun t frame => (frame.plug t).close (some fault)) t

/-- The whole tree, when the text goes wrong behind the given frames: where a value is wanted, the
fault stands in its place, elsewhere the innermost list breaks off. -/
def breakOff (fault : Fault) (wanted : Wanted) (frames : List Frame) : Tree :=
  match wanted, frames with
  | .value, frames | .colon, frames => unwind fault (.broken fault) frames
  | _, [] => .broken fault
  | _, frame :: frames => unwind fault (frame.close (some fault)) frames

/-- The fault of finding the given token where it may not stand. -/
def misplaced (wanted : Wanted) (token : Token) : Fault :=
  match wanted, token with
  | .value, .broken f | .value, .brokenString f | .firstItem, .broken f
  | .firstItem, .brokenString f | .firstName, .brokenString f | .name, .brokenString f => f
  | _, _ => .malformed

/-- The tree of a single token that is a value. -/
def scalar? : Token → Option Tree
  | .null => some .null
  | .bool b => some (.bool b)
  | .number n => some (.number n)
  | .string s => some (.string s)
  | _ => none

/-- What a token makes of the frames around it. -/
inductive Move
  /-- The whole tree is complete. -/
  | done (t : Tree)
  | goOn (frames : List Frame) (wanted : Wanted)
  /-- The token may not stand here. -/
  | wrong

/-- A value is complete. -/
def complete (t : Tree) : List Frame → Move
  | [] => .done t
  | frame :: frames => .goOn (frame.plug t :: frames) .next

/-- The innermost list or object is complete. -/
def closeFrame : List Frame → Move
  | [] => .wrong
  | frame :: frames => complete (frame.close none) frames

/-- A token that begins a value, or is one. -/
def beginValue (frames : List Frame) : Token → Move
  | .beginArray => .goOn (.array [] :: frames) .firstItem
  | .beginObject => .goOn (.object [] none :: frames) .firstName
  | token =>
    match scalar? token with
    | some t => complete t frames
    | none => .wrong

/-- Takes a token inside the given frames. -/
def move (frames : List Frame) (wanted : Wanted) (token : Token) : Move :=
  match wanted, token, frames with
  | .firstItem, .endArray, _ => closeFrame frames
  | .value, token, _ | .firstItem, token, _ => beginValue frames token
  | .firstName, .endObject, _ => closeFrame frames
  | .firstName, .string s, frame :: frames | .name, .string s, frame :: frames =>
    .goOn (frame.withName s :: frames) .colon
  | .colon, .colon, _ => .goOn frames .value
  | .next, .comma, .array _ :: _ => .goOn frames .value
  | .next, .comma, .object .. :: _ => .goOn frames .name
  | .next, .endArray, .array _ :: _ => closeFrame frames
  | .next, .endObject, .object .. :: _ => closeFrame frames
  | _, _, _ => .wrong

/-- Builds the tree of the tokens inside the given frames. -/
def build (frames : List Frame) (wanted : Wanted) : List Token → Document
  | [] => ⟨breakOff .truncated wanted frames, false⟩
  | token :: rest =>
    match move frames wanted token with
    | .done t => ⟨t, !rest.isEmpty⟩
    | .goOn frames wanted => build frames wanted rest
    | .wrong => ⟨breakOff (misplaced wanted token) wanted frames, false⟩

/-- The tree of a text. -/
def read (t : Text) : Document := build [] .value (tokens t)

/-! ### Values -/

/-- The greatest number of lists and objects around a value that is read. -/
def maxDepth : Nat := 127

mutual
/-- The fault that one meets who passes over a tree. -/
def skip : Tree → Except Error Unit
  | .array items stop => do
    skipItems items
    throwStop stop
  | .object members stop => do
    skipMembers members
    throwStop stop
  | .broken f => throw f.skipping
  | _ => pure ()

def skipItems : List Tree → Except Error Unit
  | [] => pure ()
  | t :: rest => do
    t.skip
    skipItems rest

def skipMembers : List (Option Text × Tree) → Except Error Unit
  | [] => pure ()
  | (_, t) :: rest => do
    t.skip
    skipMembers rest

/-- A list that broke off. -/
def throwStop : Option Fault → Except Error Unit
  | none => pure ()
  | some f => throw f.skipping
end

mutual
/-- The value of a tree with at most `depth` lists and objects inside each other. Of the members of
one name the last counts, and the members are in the order of their names. -/
def value (depth : Nat) : Tree → Except Error Value
  | .null => pure .null
  | .bool b => pure (.bool b)
  | .number none => throw .malformed
  | .number (some n) => pure (.number n)
  | .string none => throw .malformed
  | .string (some s) => pure (.string s)
  | .array items stop => do
    if depth = 0 then throw .malformed
    let vs ← itemValues (depth - 1) items
    match stop with
    | none => pure (.array vs)
    | some f => throw f.reading
  | .object members stop => do
    if depth = 0 then throw .malformed
    let ms ← memberValues (depth - 1) [] members
    match stop with
    | none => pure (.object ms)
    | some f => throw f.reading
  | .broken f => throw f.reading

def itemValues (depth : Nat) : List Tree → Except Error (List Value)
  | [] => pure []
  | t :: rest => do
    let v ← t.value depth
    let vs ← itemValues depth rest
    pure (v :: vs)

def memberValues (depth : Nat) (done : List (Text × Value)) :
    List (Option Text × Tree) → Except Error (List (Text × Value))
  | [] => pure done
  | (none, _) :: _ => throw .malformed
  | (some name, t) :: rest => do
    let v ← t.value depth
    memberValues depth (putMember name v done) rest
end

end Tree

/-- Reads a text that is one JSON value. -/
def Value.read (t : Text) : Except Error Value := do
  let document := Tree.read t
  let v ← document.root.value Tree.maxDepth
  if document.trailing then throw .malformed
  pure v

end RuleAudit.Json
