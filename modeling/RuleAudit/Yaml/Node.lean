import RuleAudit.Yaml.Lexer

/-!
The nodes of a YAML document: scalars, sequences and mappings, and aliases of them. A node is found
from the tokens; where nothing stands, an empty plain scalar is meant.
-/

namespace RuleAudit.Yaml

/-! ### Nodes -/

/-- What may stand before a node. -/
structure Properties where
  anchor : Option Nat
  tag : Option Text
deriving DecidableEq, Repr

/-- No properties. -/
def Properties.none : Properties := ⟨.none, .none⟩

/-- A node of a document. -/
inductive Node
  | alias (id : Nat)
  | scalar (properties : Properties) (text : Text) (isPlain : Bool)
  | sequence (properties : Properties) (items : List Node)
  | mapping (properties : Properties) (entries : List (Node × Node))

namespace Node

/-- The scalar that is meant where nothing stands. -/
def empty : Node := .scalar .none [] true

/-! ### Properties -/

/-- The shorthands of tags that need not be declared. -/
def commonShorthands : List (Text × Text) := [(['!'], ['!']), ("!!", "tag:yaml.org,2002:")]

/-- The tag with a handle; the handle must be known, unless there is none. -/
def tag? (shorthands : List (Text × Text)) (handle rest : Text) : Option Text :=
  if handle = [] then some rest else (shorthands.lookup handle).map (· ++ rest)

/-- The properties before a node: an anchor and a tag, in either order. -/
def properties (shorthands : List (Text × Text)) : List Token → Option (Properties × List Token)
  | .anchor id :: .tag h t :: rest => (tag? shorthands h t).map fun tag => (⟨some id, tag⟩, rest)
  | .tag h t :: .anchor id :: rest => (tag? shorthands h t).map fun tag => (⟨some id, tag⟩, rest)
  | .anchor id :: rest => some (⟨some id, .none⟩, rest)
  | .tag h t :: rest => (tag? shorthands h t).map fun tag => (⟨.none, tag⟩, rest)
  | rest => some (.none, rest)

/-- The properties of a scalar that is there: an exclamation mark by itself is no tag. -/
def scalarProperties (p : Properties) : Properties := { p with tag := p.tag.filter (· ≠ ['!']) }

/-! ### From tokens to nodes -/

section

variable (shorthands : List (Text × Text))

mutual
/-- The node at the start of the tokens. `block`: it may be a block. `bare`: it may be a sequence
that is not set in. Every call takes a step of `fuel`. -/
def ofTokens (fuel : Nat) (block bare : Bool) (ts : List Token) : Option (Node × List Token) :=
  match fuel with
  | 0 => none
  | fuel + 1 =>
    match ts with
    | .alias id :: rest => some (.alias id, rest)
    | ts => do
      let (p, rest) ← properties shorthands ts
      let nothing := if p = .none then none else some (.scalar p [] true, rest)
      match rest with
      | .scalar t isPlain :: rest => some (.scalar (scalarProperties p) t isPlain, rest)
      | .flowSequence :: rest => do
        let (items, rest) ← flowItems fuel [] rest
        some (.sequence p items, rest)
      | .flowMapping :: rest => do
        let (entries, rest) ← flowEntries fuel [] rest
        some (.mapping p entries, rest)
      | .entry :: _ =>
        if bare then do
          let (items, rest) ← bareItems fuel [] rest
          some (.sequence p items, rest)
        else nothing
      | .blockSequence :: rest =>
        if block then do
          let (items, rest) ← blockItems fuel [] rest
          some (.sequence p items, rest)
        else nothing
      | .blockMapping :: rest =>
        if block then do
          let (entries, rest) ← blockEntries fuel [] rest
          some (.mapping p entries, rest)
        else nothing
      | _ => nothing

/-- The items of a block sequence behind those of `done`, which is in reverse, up to its end. -/
def blockItems (fuel : Nat) (done : List Node) (ts : List Token) :
    Option (List Node × List Token) :=
  match fuel with
  | 0 => none
  | fuel + 1 =>
    match ts with
    | .blockEnd :: rest => some (done.reverse, rest)
    | .entry :: rest => do
      let (n, rest) ←
        match rest with
        | .entry :: _ | .blockEnd :: _ => pure (empty, rest)
        | _ => ofTokens fuel true false rest
      blockItems fuel (n :: done) rest
    | _ => none

/-- The items of a sequence that is not set in; it ends where no hyphen comes next. -/
def bareItems (fuel : Nat) (done : List Node) (ts : List Token) :
    Option (List Node × List Token) :=
  match fuel with
  | 0 => none
  | fuel + 1 =>
    match ts with
    | .entry :: rest => do
      let (n, rest) ←
        match rest with
        | .entry :: _ | .key :: _ | .value :: _ | .blockEnd :: _ => pure (empty, rest)
        | _ => ofTokens fuel true false rest
      bareItems fuel (n :: done) rest
    | ts => some (done.reverse, ts)

/-- The entries of a block mapping up to its end. -/
def blockEntries (fuel : Nat) (done : List (Node × Node)) (ts : List Token) :
    Option (List (Node × Node) × List Token) :=
  match fuel with
  | 0 => none
  | fuel + 1 =>
    match ts with
    | .blockEnd :: rest => some (done.reverse, rest)
    | .key :: rest => do
      let (k, rest) ← blockPart fuel rest
      let (v, rest) ←
        match rest with
        | .value :: rest => blockPart fuel rest
        | rest => pure (empty, rest)
      blockEntries fuel ((k, v) :: done) rest
    | _ => none

/-- A key or a value of a block mapping. -/
def blockPart (fuel : Nat) (ts : List Token) : Option (Node × List Token) :=
  match fuel with
  | 0 => none
  | fuel + 1 =>
    match ts with
    | .key :: _ | .value :: _ | .blockEnd :: _ => some (empty, ts)
    | _ => ofTokens fuel true true ts

/-- The items of a sequence in brackets up to its end. A key and a value by themselves are a mapping
with one entry; where the key is missing, the token in its place is lost. -/
def flowItems (fuel : Nat) (done : List Node) (ts : List Token) :
    Option (List Node × List Token) :=
  match fuel with
  | 0 => none
  | fuel + 1 => do
    let ts ←
      match done, ts with
      | [], ts => pure ts
      | _, .flowSequenceEnd :: rest => pure (.flowSequenceEnd :: rest)
      | _, .comma :: rest => pure rest
      | _, _ => none
    match ts with
    | .flowSequenceEnd :: rest => some (done.reverse, rest)
    | .key :: rest => do
      let (k, rest) ←
        match rest with
        | .value :: rest | .comma :: rest | .flowSequenceEnd :: rest => pure (empty, rest)
        | rest => ofTokens fuel false false rest
      let (v, rest) ← flowValue fuel .flowSequenceEnd rest
      flowItems fuel (.mapping .none [(k, v)] :: done) rest
    | ts => do
      let (n, rest) ← ofTokens fuel false false ts
      flowItems fuel (n :: done) rest

/-- The entries of a mapping in braces up to its end. -/
def flowEntries (fuel : Nat) (done : List (Node × Node)) (ts : List Token) :
    Option (List (Node × Node) × List Token) :=
  match fuel with
  | 0 => none
  | fuel + 1 => do
    let ts ←
      match done, ts with
      | [], ts => pure ts
      | _, .flowMappingEnd :: rest => pure (.flowMappingEnd :: rest)
      | _, .comma :: rest => pure rest
      | _, _ => none
    match ts with
    | .flowMappingEnd :: rest => some (done.reverse, rest)
    | .key :: rest => do
      let (k, rest) ←
        match rest with
        | .value :: _ | .comma :: _ | .flowMappingEnd :: _ => pure (empty, rest)
        | rest => ofTokens fuel false false rest
      let (v, rest) ← flowValue fuel .flowMappingEnd rest
      flowEntries fuel ((k, v) :: done) rest
    | ts => do
      let (k, rest) ← ofTokens fuel false false ts
      flowEntries fuel ((k, empty) :: done) rest

/-- The value behind a key inside brackets or braces, which end with the given token. -/
def flowValue (fuel : Nat) (last : Token) (ts : List Token) : Option (Node × List Token) :=
  match fuel with
  | 0 => none
  | fuel + 1 =>
    match ts with
    | .value :: rest =>
      if rest.head?.any (fun t => t == .comma || t == last) then some (empty, rest)
      else ofTokens fuel false false rest
    | ts => some (empty, ts)
end

end

/-! ### Nodes of a document -/

mutual
/-- The number of events in which a node would be told: one for a scalar or an alias, and one for
each end of a sequence or mapping. -/
def eventCount : Node → Nat
  | .alias _ => 1
  | .scalar .. => 1
  | .sequence _ items => itemEvents items + 2
  | .mapping _ entries => entryEvents entries + 2

def itemEvents : List Node → Nat
  | [] => 0
  | n :: rest => n.eventCount + itemEvents rest

def entryEvents : List (Node × Node) → Nat
  | [] => 0
  | (k, v) :: rest => k.eventCount + v.eventCount + entryEvents rest
end

/-- The node with its anchor, if it has one. -/
def ifAnchored (p : Properties) (n : Node) : List (Nat × Node) :=
  p.anchor.toList.map fun id => (id, n)

mutual
/-- The anchored nodes of a node, in the order of their beginnings. -/
def anchored : Node → List (Nat × Node)
  | .alias _ => []
  | .scalar p t isPlain => ifAnchored p (.scalar p t isPlain)
  | .sequence p items => ifAnchored p (.sequence p items) ++ anchoredItems items
  | .mapping p entries => ifAnchored p (.mapping p entries) ++ anchoredEntries entries

def anchoredItems : List Node → List (Nat × Node)
  | [] => []
  | n :: rest => n.anchored ++ anchoredItems rest

def anchoredEntries : List (Node × Node) → List (Nat × Node)
  | [] => []
  | (k, v) :: rest => k.anchored ++ v.anchored ++ anchoredEntries rest
end

end Node

/-! ### Documents -/

/-- A document: its node, unless there is none at all. -/
structure Document where
  root : Option Node

namespace Document

/-- The directives before a document: the shorthands that they declare, and the rest. At most one
tells the version, which must be one that is known. -/
def directives (hasVersion : Bool) (shorthands : List (Text × Text)) :
    List Token → Option (List (Text × Text) × List Token)
  | .version major minor :: rest =>
    if hasVersion ∨ major ≠ 1 ∨ (minor ≠ 1 ∧ minor ≠ 2) then none
    else directives true shorthands rest
  | .tagShorthand handle start :: rest =>
    if shorthands.any (·.1 == handle) then none
    else directives hasVersion ((handle, start) :: shorthands) rest
  | rest => some (shorthands, rest)

/-- The node behind the mark that begins a document. -/
def content (shorthands : List (Text × Text)) (fuel : Nat) (ts : List Token) :
    Option (Node × List Token) :=
  match ts with
  | [] | .version .. :: _ | .tagShorthand .. :: _ | .documentStart :: _ | .documentEnd :: _ =>
    some (.empty, ts)
  | ts => Node.ofTokens shorthands fuel true false ts

/-- The document of all tokens. There must not be a second one. -/
def ofTokens? (ts : List Token) : Option Document := do
  let fuel := 4 * ts.length + 4
  let (shorthands, rest) ← directives false [] ts
  let known := shorthands ++ Node.commonShorthands
  let hasDirectives := rest.length < ts.length
  match rest with
  | [] => if hasDirectives then none else some ⟨none⟩
  | first :: inner =>
    let (n, rest) ←
      if first = .documentStart then content known fuel inner
      else if hasDirectives then none
      else Node.ofTokens known fuel true false rest
    if rest.all (· == .documentEnd) then some ⟨some n⟩ else none

/-- The document of a text. -/
def read? (t : Text) : Option Document := tokens? t >>= ofTokens?

/-- The number of events in which a document would be told. -/
def eventCount (d : Document) : Nat := d.root.elim 1 Node.eventCount

/-- The node that an alias stands for: of those with its number the one that begins last. -/
def target? (d : Document) (id : Nat) : Option Node := do
  let root ← d.root
  root.anchored.reverse.lookup id

end Document

end RuleAudit.Yaml
