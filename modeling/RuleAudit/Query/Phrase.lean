import RuleAudit.Query.Token

/-!
The phrases of a query: how its tokens belong together. Some phrases can be told apart but mean
nothing, such as an offset without a duration; they have a place here, so that their faults can be
told in words. All other faults are told alike.
-/

namespace RuleAudit.Query

/-! ### Phrases -/

/-- Labels in parentheses, each as it is spelt. -/
abbrev Labels := List Text

/-- The labels by which an aggregation groups, or those that it leaves out. -/
inductive Grouping
  | by (labels : Labels)
  | without (labels : Labels)
deriving DecidableEq, Repr

/-- The side of a match that may have many series, with further labels to be kept. -/
inductive ManySide
  | left (labels : Labels)
  | right (labels : Labels)
deriving DecidableEq, Repr

/-- The labels that must agree when series are matched. -/
inductive Matching
  | on (labels : Labels)
  | ignoring (labels : Labels)
deriving DecidableEq, Repr

/-- What may stand between an operator and its right side. -/
inductive Modifier
  | standard (bool : Bool) (matching : Option (Matching × Option ManySide))
  /-- A many side without labels that must agree. -/
  | unmatched (side : ManySide)
deriving DecidableEq, Repr

/-- One matcher in braces. -/
inductive MatcherPhrase
  | proper (label : Text) (op : MatchOp) (value : Text)
  /-- Two ways to match in a row. -/
  | doubled (second : MatchOp)
  /-- A name where a string should stand. -/
  | unquoted (value : Text)
  /-- A label by itself. -/
  | bare (label : Text)
deriving DecidableEq, Repr

/-- The inside of braces. -/
inductive Matchers
  | list (matchers : List MatcherPhrase)
  /-- Nothing but a comma. -/
  | onlyComma
deriving DecidableEq, Repr

/-- A time behind an at sign. -/
inductive TimePhrase
  | number (negative : Bool) (text : Text)
  | rangeStart
  | rangeEnd
deriving DecidableEq, Repr

/-- What makes a phrase mean nothing, whatever stands before it. -/
inductive Flaw
  /-- A number where a duration should stand. -/
  | offsetNumber (text : Text)
  | offsetMissing
  /-- A duration where a time should stand. -/
  | timeDuration (text : Text)
  | timeMissing
  /-- Brackets without a duration. -/
  | rangeMissing
deriving DecidableEq, Repr

/-- A phrase. `surplus` says that a comma in the arguments has nothing behind it. -/
inductive Phrase
  | aggregate (op : Aggregator) (grouping : Option Grouping) (args : List Phrase) (surplus : Bool)
  | call (name : Text) (args : List Phrase) (surplus : Bool)
  | binary (op : BinaryOp) (modifier : Modifier) (left right : Phrase)
  | paren (body : Phrase)
  | plus (body : Phrase)
  | minus (body : Phrase)
  | number (text : Text)
  | string (text : Text)
  | vector (name : Option Text) (matchers : Option Matchers)
  | matrix (body : Phrase) (range : Text)
  | subquery (body : Phrase) (range : Text) (step : Option Text)
  | offset (body : Phrase) (negative : Bool) (duration : Text)
  | atTime (body : Phrase) (time : TimePhrase)
  | flawed (body : Phrase) (flaw : Flaw)

namespace Phrase

/-! ### Labels and matchers -/

/-- The spelling of a token that may be a label. -/
def label? : Token → Option Text
  | .name t => some t
  | .colonName t => some t
  | .keyword _ t => some t
  | _ => none

/-- The spelling of a token that may be the name of a metric. -/
def metric? : Token → Option Text
  | .name t => some t
  | .colonName t => some t
  | .keyword (.operator .inter) t => some t
  | .keyword (.operator .union) t => some t
  | .keyword (.operator .diff) t => some t
  | .keyword (.aggregator _) t => some t
  | .keyword .offset t => some t
  | .keyword .groupBy t => some t
  | .keyword .groupWithout t => some t
  | .keyword .rangeStart t => some t
  | .keyword .rangeEnd t => some t
  | _ => none

/-- The labels up to the closing parenthesis; a comma may stand before it. -/
def labels : List Token → Option (Labels × List Token)
  | t :: .rightParen :: rest => (label? t).map fun l => ([l], rest)
  | t :: .comma :: .rightParen :: rest => (label? t).map fun l => ([l], rest)
  | t :: .comma :: rest => do
    let l ← label? t
    let (ls, rest) ← labels rest
    some (l :: ls, rest)
  | _ => none

/-- Labels in parentheses, perhaps none. -/
def labelList : List Token → Option (Labels × List Token)
  | .leftParen :: .rightParen :: rest => some ([], rest)
  | .leftParen :: rest => labels rest
  | _ => none

/-- The way to match of a token. -/
def matchOp? : Token → Option MatchOp
  | .matching op => some op
  | .operator .notEqual => some .notEqual
  | _ => none

/-- One matcher. -/
def matcher : List Token → Option (MatcherPhrase × List Token)
  | .name label :: t :: rest =>
    match matchOp? t with
    | none => some (.bare label, t :: rest)
    | some op =>
      match rest with
      | .string value :: rest => some (.proper label op value, rest)
      | .name value :: rest => some (.unquoted value, rest)
      | t :: rest =>
        match matchOp? t with
        | none => none
        | some second =>
          match rest with
          | .string _ :: rest => some (.doubled second, rest)
          | .name _ :: rest => some (.doubled second, rest)
          | rest => some (.doubled second, rest)
      | [] => none
  | _ => none

theorem matcher_length {ts rest : List Token} {m : MatcherPhrase} (h : matcher ts = some (m, rest)) :
    rest.length < ts.length := by
  unfold matcher at h
  split at h
  · split at h
    · simp only [Option.some.injEq, Prod.mk.injEq] at h
      simp [← h.2]
    split at h
    · simp only [Option.some.injEq, Prod.mk.injEq] at h
      simp [← h.2]
      omega
    · simp only [Option.some.injEq, Prod.mk.injEq] at h
      simp [← h.2]
      omega
    · split at h
      · simp at h
      split at h <;>
      · simp only [Option.some.injEq, Prod.mk.injEq] at h
        simp [← h.2]
        omega
    · simp at h
  · simp at h

/-- The matchers up to the closing brace, with a comma or the word `or` between neighbours; a comma
may stand before the brace. -/
def matcherList (ts : List Token) : Option (List MatcherPhrase × List Token) :=
  match _h : matcher ts with
  | none => none
  | some (m, .rightBrace :: rest) => some ([m], rest)
  | some (m, .comma :: .rightBrace :: rest) => some ([m], rest)
  | some (m, .comma :: rest) => (matcherList rest).map fun (ms, rest) => (m :: ms, rest)
  | some (m, .keyword (.operator .union) _ :: rest) =>
    (matcherList rest).map fun (ms, rest) => (m :: ms, rest)
  | some _ => none
termination_by ts.length
decreasing_by
  all_goals
    have := matcher_length _h
    simp only [List.length_cons] at this
    omega

/-- The matchers behind an opening brace. -/
def matchers : List Token → Option (Matchers × List Token)
  | .rightBrace :: rest => some (.list [], rest)
  | .comma :: .rightBrace :: rest => some (.onlyComma, rest)
  | ts => (matcherList ts).map fun (ms, rest) => (.list ms, rest)

/-- A selector of series that begins with a name or a brace. -/
def selector : List Token → Option (Phrase × List Token)
  | .leftBrace :: rest => (matchers rest).map fun (ms, rest) => (.vector none (some ms), rest)
  | t :: rest => do
    let name ← metric? t
    match rest with
    | .leftBrace :: rest =>
      (matchers rest).map fun (ms, rest) => (.vector (some name) (some ms), rest)
    | rest => some (.vector (some name) none, rest)
  | [] => none

/-! ### Modifiers -/

/-- What follows `by` or `without`, if one of them comes next. -/
def grouping : List Token → Option (Option Grouping × List Token)
  | .keyword .groupBy _ :: rest => (labelList rest).map fun (ls, rest) => (some (.by ls), rest)
  | .keyword .groupWithout _ :: rest =>
    (labelList rest).map fun (ls, rest) => (some (.without ls), rest)
  | rest => some (none, rest)

/-- The side that may have many series, perhaps with labels. -/
def manySide : List Token → Option (Option ManySide × List Token)
  | .keyword .groupLeft _ :: .leftParen :: rest =>
    (labelList (.leftParen :: rest)).map fun (ls, rest) => (some (.left ls), rest)
  | .keyword .groupLeft _ :: rest => some (some (.left []), rest)
  | .keyword .groupRight _ :: .leftParen :: rest =>
    (labelList (.leftParen :: rest)).map fun (ls, rest) => (some (.right ls), rest)
  | .keyword .groupRight _ :: rest => some (some (.right []), rest)
  | rest => some (none, rest)

/-- The labels that must agree, if they come next. -/
def matching : List Token → Option (Option (Matching × Option ManySide) × List Token)
  | .keyword .matchOn _ :: rest => do
    let (ls, rest) ← labelList rest
    let (side, rest) ← manySide rest
    some (some (.on ls, side), rest)
  | .keyword .matchIgnoring _ :: rest => do
    let (ls, rest) ← labelList rest
    let (side, rest) ← manySide rest
    some (some (.ignoring ls, side), rest)
  | rest => some (none, rest)

/-- What may stand behind an operator. -/
def modifier : List Token → Option (Modifier × List Token)
  | .keyword .bool _ :: rest => (matching rest).map fun (m, rest) => (.standard true m, rest)
  | .keyword .groupLeft _ :: rest =>
    (labelList rest).map fun (ls, rest) => (.unmatched (.left ls), rest)
  | .keyword .groupRight _ :: rest =>
    (labelList rest).map fun (ls, rest) => (.unmatched (.right ls), rest)
  | rest => (matching rest).map fun (m, rest) => (.standard false m, rest)

/-- The operator of a token. -/
def binaryOp? : Token → Option BinaryOp
  | .operator op => some op
  | .keyword (.operator op) _ => some op
  | _ => none

/-- The phrase with the offset that follows it. -/
def withOffset (body : Phrase) : List Token → Option (Phrase × List Token)
  | .duration t :: rest => some (.offset body false t, rest)
  | .operator .add :: .duration t :: rest => some (.offset body false t, rest)
  | .operator .sub :: .duration t :: rest => some (.offset body true t, rest)
  | .number t :: rest => some (.flawed body (.offsetNumber t), rest)
  | .stop :: rest => some (.flawed body .offsetMissing, rest)
  | _ => none

/-- The phrase with the time that follows it. -/
def withTime (body : Phrase) : List Token → Option (Phrase × List Token)
  | .number t :: rest => some (.atTime body (.number false t), rest)
  | .operator .add :: .number t :: rest => some (.atTime body (.number false t), rest)
  | .operator .sub :: .number t :: rest => some (.atTime body (.number true t), rest)
  | .keyword .rangeStart _ :: .leftParen :: .rightParen :: rest =>
    some (.atTime body .rangeStart, rest)
  | .keyword .rangeEnd _ :: .leftParen :: .rightParen :: rest => some (.atTime body .rangeEnd, rest)
  | .duration t :: rest => some (.flawed body (.timeDuration t), rest)
  | .stop :: rest => some (.flawed body .timeMissing, rest)
  | _ => none

/-- The phrase with the brackets that follow it. -/
def withBrackets (body : Phrase) : List Token → Option (Phrase × List Token)
  | .rightBracket :: rest => some (.flawed body .rangeMissing, rest)
  | .duration t :: .rightBracket :: rest => some (.matrix body t, rest)
  | .duration t :: .colon :: .rightBracket :: rest => some (.subquery body t none, rest)
  | .duration t :: .colon :: .duration s :: .rightBracket :: rest =>
    some (.subquery body t (some s), rest)
  | _ => none

/-! ### Whole phrases -/

/-- What binds a phrase more strongly than any operator: an offset, a time or brackets behind it.
Nothing if none of them comes next, and nothing inside if it is not complete. -/
def extend (body : Phrase) : List Token → Option (Option (Phrase × List Token))
  | .keyword .offset _ :: rest => some (withOffset body rest)
  | .at :: rest => some (withTime body rest)
  | .leftBracket :: rest => some (withBrackets body rest)
  | _ => none

mutual
/-- A phrase with operators of at least the given strength. Every call takes a step of `fuel`. -/
def expr (fuel : Nat) (least : Nat) (ts : List Token) : Option (Phrase × List Token) :=
  match fuel with
  | 0 => none
  | fuel + 1 => do
    let (left, rest) ← operand fuel ts
    climb fuel least left rest

/-- The phrase at the start of the tokens, without what may follow it. The sign before a phrase
binds like a product. -/
def operand (fuel : Nat) (ts : List Token) : Option (Phrase × List Token) :=
  match fuel with
  | 0 => none
  | fuel + 1 =>
    match ts with
    | .operator .add :: rest => (expr fuel BinaryOp.pow.strength rest).map fun (p, r) => (.plus p, r)
    | .operator .sub :: rest =>
      (expr fuel BinaryOp.pow.strength rest).map fun (p, r) => (.minus p, r)
    | .number t :: rest => some (.number t, rest)
    | .string t :: rest => some (.string t, rest)
    | .leftParen :: rest => do
      let (p, rest) ← expr fuel 0 rest
      match rest with
      | .rightParen :: rest => some (.paren p, rest)
      | _ => none
    | .name t :: .leftParen :: rest => do
      let (args, surplus, rest) ← arguments fuel rest
      some (.call t args surplus, rest)
    | .keyword (.aggregator op) word :: rest =>
      match rest with
      | .leftParen :: rest => do
        let (args, surplus, rest) ← arguments fuel rest
        let (g, rest) ← grouping rest
        some (.aggregate op g args surplus, rest)
      | .keyword .groupBy _ :: _ | .keyword .groupWithout _ :: _ => do
        let (g, rest) ← grouping rest
        match rest with
        | .leftParen :: rest =>
          let (args, surplus, rest) ← arguments fuel rest
          some (.aggregate op g args surplus, rest)
        | _ => none
      | rest => selector (.keyword (.aggregator op) word :: rest)
    | ts => selector ts

/-- The rest of a phrase behind its left part. -/
def climb (fuel : Nat) (least : Nat) (left : Phrase) (ts : List Token) :
    Option (Phrase × List Token) :=
  match fuel with
  | 0 => none
  | fuel + 1 =>
    match extend left ts with
    | some none => none
    | some (some (left, rest)) => climb fuel least left rest
    | none =>
      match ts with
      | [] => some (left, [])
      | t :: rest =>
        match binaryOp? t with
        | none => some (left, t :: rest)
        | some op =>
          if op.strength < least then some (left, t :: rest)
          else do
            let (m, rest) ← modifier rest
            let (right, rest) ← expr fuel op.rightStrength rest
            climb fuel least (.binary op m left right) rest

/-- Arguments up to the closing parenthesis, from behind the opening one. -/
def arguments (fuel : Nat) (ts : List Token) : Option (List Phrase × Bool × List Token) :=
  match fuel with
  | 0 => none
  | fuel + 1 =>
    match ts with
    | .rightParen :: rest => some ([], false, rest)
    | ts => do
      let (p, rest) ← expr fuel 0 ts
      moreArguments fuel [p] false rest

/-- Further arguments behind those of `done`, which is in reverse. -/
def moreArguments (fuel : Nat) (done : List Phrase) (surplus : Bool) (ts : List Token) :
    Option (List Phrase × Bool × List Token) :=
  match fuel with
  | 0 => none
  | fuel + 1 =>
    match ts with
    | .rightParen :: rest => some (done.reverse, surplus, rest)
    | .comma :: .comma :: rest => moreArguments fuel done true (.comma :: rest)
    | .comma :: .rightParen :: rest => some (done.reverse, true, rest)
    | .comma :: rest => do
      let (p, rest) ← expr fuel 0 rest
      moreArguments fuel (p :: done) surplus rest
    | _ => none
end

/-- The phrase of all tokens; nothing but the mark of the end may follow it. -/
def ofTokens? (ts : List Token) : Option Phrase :=
  match expr (4 * ts.length + 4) 0 ts with
  | some (p, []) => some p
  | some (p, [.stop]) => some p
  | _ => none

end Phrase

end RuleAudit.Query
