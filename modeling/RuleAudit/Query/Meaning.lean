import RuleAudit.Query.Expr
import RuleAudit.Query.Lexer

/-!
The meaning of phrases: each phrase becomes an expression, or a message tells why it means nothing.
Of several faults the innermost and leftmost is told, but for the phrases that mean nothing in
themselves.
-/

namespace RuleAudit.Query

/-! ### Small phrases -/

/-- A label must begin like a name and have no colon. -/
def checkLabels (ls : Labels) : Except Text Unit :=
  match ls.find? fun l => !(l.head?.elim false isNameStart && l.all isLabelChar) with
  | some l => .error (l ++ " is not valid label in grouping opts")
  | none => .ok ()

def Grouping.labels : Grouping → Labels
  | .by ls => ls
  | .without ls => ls

def Matching.labels : Matching → Labels
  | .on ls => ls
  | .ignoring ls => ls

def ManySide.labels : ManySide → Labels
  | .left ls => ls
  | .right ls => ls

/-- A matcher that compares with a pattern needs one. -/
def MatcherPhrase.meaning : MatcherPhrase → Except Text Matcher
  | .proper label op value =>
    let m : Matcher := ⟨label, op, value⟩
    match op with
    | .equal | .notEqual => .ok m
    | .pattern | .notPattern =>
      if (Pattern.ofValue? value).isSome then .ok m else .error ("illegal regex for " ++ value)
  | .doubled second =>
    .error ("unexpected '" ++ second.mark ++ "' in label matching, expected string")
  | .unquoted value =>
    .error ("unexpected identifier '" ++ value ++ "' in label matching, expected string")
  | .bare label =>
    .error ("invalid label matcher, expected label matching operator after '" ++ label ++ "'")

def Matchers.meaning : Matchers → Except Text (List Matcher)
  | .list ms => ms.mapM MatcherPhrase.meaning
  | .onlyComma => .error "unexpected ',' in label matching, expected identifier or right_brace"

/-- A series without the label passes the matcher. -/
def Matcher.acceptsEmpty (m : Matcher) : Bool :=
  match m.op with
  | .equal => m.value == []
  | .notEqual => m.value != []
  | .pattern => (Pattern.ofValue? m.value).any Pattern.matchesEmpty
  | .notPattern => !(Pattern.ofValue? m.value).any Pattern.matchesEmpty

/-- The label that holds the name of a series. -/
def nameLabel : Text := "__name__"

/-- A selector has one name at most, and asks for something. -/
def Selector.check (s : Selector) : Except Text Expr :=
  match s.name with
  | some name =>
    match s.matchers.find? (·.label == nameLabel) with
    | some m =>
      .error ("metric name must not be set twice: '" ++ name ++ "' or '" ++ m.value ++ "'")
    | none => .ok (.vector s)
  | none =>
    if s.matchers.all Matcher.acceptsEmpty then
      .error "vector selector must contain at least one non-empty matcher"
    else .ok (.vector s)

/-! ### Places in time -/

/-- Moves an expression by milliseconds. Only selectors and subqueries can be moved, and only once. -/
def Expr.moveBy (ms : Int) (e : Expr) : Except Text Expr :=
  let moved (p : Placement) (f : Placement → Expr) : Except Text Expr :=
    match p.offset with
    | none => .ok (f { p with offset := some ms })
    | some _ => .error "offset may not be set multiple times"
  match e with
  | .vector s => moved s.placement fun p => .vector { s with placement := p }
  | .matrix s range => moved s.placement fun p => .matrix { s with placement := p } range
  | .subquery body range step p => moved p (.subquery body range step)
  | _ => .error "offset modifier must be preceded by an vector selector or matrix selector or a subquery"

/-- Moves an expression to a time. Only selectors and subqueries can be moved, and only once. -/
def Expr.moveTo (time : AtTime) (e : Expr) : Except Text Expr :=
  let moved (p : Placement) (f : Placement → Expr) : Except Text Expr :=
    match p.time with
    | none => .ok (f { p with time := some time })
    | some _ => .error "@ <timestamp> may not be set multiple times"
  match e with
  | .vector s => moved s.placement fun p => .vector { s with placement := p }
  | .matrix s range => moved s.placement fun p => .matrix { s with placement := p } range
  | .subquery body range step p => moved p (.subquery body range step)
  | _ => .error "@ modifier must be preceded by an vector selector or matrix selector or a subquery"

/-- The milliseconds of an offset. -/
def offsetValue (negative : Bool) (t : Text) : Except Text Int := do
  let ms ← durationValue t
  return if negative then -(ms : Int) else ms

/-- The time behind an at sign, which is finite. -/
def TimePhrase.meaning : TimePhrase → Except Text AtTime
  | .number negative t => do
    let x ← numberValue t
    if x.isFinite then return .instant negative x
    else
      .error ("timestamp out of bounds for @ modifier: "
        ++ numberText (if negative then x.neg else x))
  | .rangeStart => .ok .rangeStart
  | .rangeEnd => .ok .rangeEnd

/-- The message about a flaw. -/
def Flaw.message : Flaw → Text
  | .offsetNumber t =>
    match numberValue t with
    | .ok x => "unexpected number '" ++ numberText x ++ "' in offset, expected duration"
    | .error message => message
  | .offsetMissing => "unexpected end of input in offset, expected duration"
  | .timeDuration t => "unexpected duration '" ++ t ++ "' in @, expected timestamp"
  | .timeMissing => "unexpected end of input in @, expected timestamp"
  | .rangeMissing => "missing unit character in duration"

/-! ### Operators -/

/-- What the sign of an expression may stand before. -/
def signFault : Text := "unary expression only allowed on expressions of type scalar or vector, got"

/-- The expression with the opposite sign. -/
def Expr.negated (e : Expr) : Except Text Expr :=
  match e with
  | .string _ => .error (signFault ++ ": string")
  | .matrix .. => .error (signFault ++ ": matrix")
  | .number x => .ok (.number x.neg)
  | e =>
    match e.type with
    | .scalar | .vector => .ok (.negate e)
    | t => .error (signFault ++ ' ' :: t.word)

/-- A range of an expression, which must be a selector that is not moved. -/
def Expr.overRange (range : Nat) : Expr → Except Text Expr
  | .vector s =>
    if s.placement.offset.isSome then .error "no offset modifiers allowed before range"
    else if s.placement.time.isSome then .error "no @ modifiers allowed before range"
    else .ok (.matrix s range)
  | _ => .error "ranges only allowed for vector selectors"

/-- A subquery of an expression, which must be a vector. -/
def Expr.subqueryOf (range : Nat) (step : Option Nat) (e : Expr) : Except Text Expr :=
  if e.type = .vector then .ok (.subquery e range step .unmoved)
  else .error ("subquery is only allowed on vector, got " ++ e.type.word ++ " instead")

/-- The labels that must agree and the labels of the many side; one that is among both is a fault. -/
def Modifier.meaning : Modifier → Except Text (Bool × Option (Matching × Option ManySide))
  | .standard bool none => .ok (bool, none)
  | .standard bool (some (m, side)) => do
    checkLabels m.labels
    match side with
    | none => pure ()
    | some s => checkLabels s.labels
    return (bool, some (m, side))
  | .unmatched (.left _) => .error "unexpected <group_left>"
  | .unmatched (.right _) => .error "unexpected <group_right>"

/-- An operator between two expressions, if it can stand there. -/
def Expr.combine (op : BinaryOp) (bool : Bool) (matching : Option (Matching × Option ManySide))
    (left right : Expr) : Except Text Expr := do
  let scalars := left.type = .scalar ∧ right.type = .scalar
  let vectors := left.type = .vector ∧ right.type = .vector
  let instant (t : ValueType) : Bool := t == .scalar || t == .vector
  if bool ∧ !op.isComparison then
    .error "bool modifier can only be used on comparison operators"
  if op.isComparison ∧ scalars ∧ !bool then
    .error "comparisons between scalars must use BOOL modifier"
  match matching with
  | some (.on ls, some side) =>
    match ls.find? (· ∈ side.labels) with
    | some l => .error ("label '" ++ l ++ "' must not occur in ON and GROUP clause at once")
    | none => pure ()
  | _ => pure ()
  if op.isSetOperator then
    if left.type = .scalar ∨ right.type = .scalar then
      .error ("set operator '" ++ op.word ++ "' not allowed in binary scalar expression")
    match matching with
    | some (_, some _) =>
      if vectors then .error ("no grouping allowed for '" ++ op.word ++ "' operation")
    | _ => pure ()
  if !instant left.type ∨ !instant right.type then
    .error "binary expression must contain only scalar and instant vector types"
  match matching with
  | some (m, _) =>
    if m.labels ≠ [] ∧ ¬vectors then .error "vector matching only allowed between vectors"
  | none => pure ()
  return .binary op bool matching left right

/-! ### Aggregations and calls -/

/-- The type of the parameter of an aggregator that has one. -/
def Aggregator.parameter? : Aggregator → Option ValueType
  | .countValues => some .string
  | .topk | .bottomk | .quantile => some .scalar
  | _ => none

/-- The message about a part of an aggregation that has the wrong type. -/
def expectType (expected : ValueType) (e : Expr) : Except Text Unit :=
  if e.type = expected then .ok ()
  else
    .error ("expected type " ++ expected.word ++ " in aggregation expression, got " ++ e.type.word)

/-- An aggregation of its last argument, a vector; some aggregators have a parameter before it. -/
def Expr.aggregateOf (op : Aggregator) (grouping : Option Grouping) (args : List Expr) :
    Except Text Expr := do
  let wrongCount (n : Nat) : Except Text Expr :=
    .error ("wrong number of arguments for aggregate expression provided, expected "
      ++ Text.decimal n ++ ", got " ++ Text.decimal args.length)
  match op.parameter?, args with
  | _, [] => .error ("no arguments for aggregate expression '" ++ op.word ++ "' provided")
  | none, [body] =>
    expectType .vector body
    return .aggregate op grouping none body
  | none, _ => wrongCount 1
  | some t, [parameter, body] =>
    expectType .vector body
    expectType t parameter
    return .aggregate op grouping (some parameter) body
  | some _, _ => wrongCount 2

/-- Numbers at which a function is not defined; with them the type of its argument does not
matter. -/
def undefinedAt (f : Function) (args : List Expr) : Bool :=
  match args with
  | [.number x] =>
    if f.name = ("exp" : Text) then !x.isFinite
    else if f.name = ("ln" : Text) ∨ f.name = ("log2" : Text) ∨ f.name = ("log10" : Text) then
      !x.isFinite || x.isNonPositive
    else false
  | _ => false

/-- The first argument of the wrong type is told. -/
def checkArgs (f : Function) (place : Nat) : List Expr → Except Text Unit
  | [] => .ok ()
  | e :: es =>
    match f.argType place with
    | some t =>
      if e.type = t then checkArgs f (place + 1) es
      else
        .error ("expected type " ++ t.word ++ " in call to function '" ++ f.name ++ "', got "
          ++ e.type.word)
    | none => checkArgs f (place + 1) es

/-- A call of a function, with the right number of arguments of the right types. -/
def Expr.callOf (f : Function) (args : List Expr) : Except Text Expr := do
  match f.countFault? args.length with
  | some message => .error message
  | none => pure ()
  if !undefinedAt f args then checkArgs f 0 args
  return .call f args

/-! ### Phrases -/

namespace Phrase

/-- The message about a comma with nothing behind it. -/
def surplusFault : Text := "trailing commas not allowed in function call args"

mutual
/-- The expression of a phrase. -/
def meaning : Phrase → Except Text Expr
  | aggregate op grouping args surplus => do
    match grouping with
    | none => pure ()
    | some g => checkLabels g.labels
    if surplus then .error surplusFault
    Expr.aggregateOf op grouping (← meanings args)
  | call name args surplus => do
    match Function.ofName? name with
    | none => .error ("unknown function with name '" ++ name ++ "'")
    | some f =>
      if surplus then .error surplusFault
      Expr.callOf f (← meanings args)
  | binary op modifier left right => do
    let l ← left.meaning
    let (bool, matching) ← modifier.meaning
    let r ← right.meaning
    Expr.combine op bool matching l r
  | paren body => do return .paren (← body.meaning)
  | plus body => body.meaning
  | minus body => do (← body.meaning).negated
  | number t => do return .number (← numberValue t)
  | string t => .ok (.string t)
  | vector name matchers => do
    let ms ← match matchers with
      | none => pure []
      | some ms => ms.meaning
    Selector.check ⟨name, ms, .unmoved⟩
  | matrix body range => do
    let e ← body.meaning
    e.overRange (← durationValue range)
  | subquery body range step => do
    let e ← body.meaning
    let r ← durationValue range
    let s ← step.mapM durationValue
    e.subqueryOf r s
  | offset body negative duration => do
    let e ← body.meaning
    e.moveBy (← offsetValue negative duration)
  | atTime body time => do
    let e ← body.meaning
    e.moveTo (← time.meaning)
  | flawed _ flaw => .error flaw.message

/-- The expressions of phrases, the first fault from the left being told. -/
def meanings : List Phrase → Except Text (List Expr)
  | [] => .ok []
  | p :: ps => do
    let e ← p.meaning
    let es ← meanings ps
    return e :: es
end

end Phrase

/-! ### Queries -/

/-- The expression of a query, or a message. Faults in the tokens are told first, then the tokens
must make a phrase, and the phrase must mean something. -/
def parse (t : Text) : Except Text Expr := do
  let ts ← tokens t
  if ts = [.stop] then .error "no expression found in input"
  else
    match Phrase.ofTokens? ts with
    | none => .error "invalid promql query"
    | some p => p.meaning

end RuleAudit.Query
