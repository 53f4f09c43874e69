import RuleAudit.Numeral

/-!
The command line: its options and their values, read from the left. The first thing that is wrong,
or that asks for something else than an audit, ends the reading.
-/

namespace RuleAudit

/-- What a command line asks for. -/
structure Arguments where
  url : Option Text
  ruleFiles : List Text
  bearerToken : Option Text
  timeoutMs : Option Nat
  json : Bool
deriving DecidableEq, Repr

namespace Arguments

/-- No arguments. -/
def none : Arguments := ⟨.none, [], .none, .none, false⟩

/-! ### Stops -/

/-- Why the reading ends before an audit. -/
inductive Stop
  | help
  | version
  /-- A word is no option and no value. -/
  | unknown
  /-- An option has no value. -/
  | missingValue
  /-- A switch has a value. -/
  | unwantedValue
  /-- An option that may be given once is given again. -/
  | repeated
  /-- A value is not what the option needs. -/
  | badValue (message : Text)
deriving DecidableEq, Repr

/-- The exit code of a program that stops so. -/
def Stop.exitCode : Stop → Nat
  | help => 0
  | version => 0
  | _ => 2

/-! ### Words -/

/-- An option with a value. -/
inductive Setting
  | url
  | ruleFile
  | bearerToken
  | timeout
deriving DecidableEq, Repr

/-- An option without a value. -/
inductive Switch
  | json
  | help
  | version
deriving DecidableEq, Repr

/-- The name of an option, without its hyphens. -/
def Setting.name : Setting → Text
  | url => "url"
  | ruleFile => "rules-file"
  | bearerToken => "bearer-token"
  | timeout => "timeout-ms"

/-- The name of a switch, without its hyphens. -/
def Switch.name : Switch → Text
  | json => "json"
  | help => "help"
  | version => "version"

/-- The option with a name. -/
def Setting.ofName? (t : Text) : Option Setting :=
  [url, ruleFile, bearerToken, timeout].find? (·.name == t)

/-- The switch with a name. -/
def Switch.ofName? (t : Text) : Option Switch := [json, help, version].find? (·.name == t)

/-- The switch that a letter stands for. -/
def Switch.ofLetter? (c : Char) : Option Switch :=
  if c = 'h' then some help else if c = 'V' then some version else .none

/-- What a word of the command line looks like. -/
inductive Word
  /-- Two hyphens, behind which there are no options. -/
  | divider
  | setting (s : Setting) (value : Option Text)
  | switch (s : Switch) (value : Option Text)
  /-- It looks like an option, and is none. -/
  | stranger
  | plain (t : Text)
deriving DecidableEq, Repr

namespace Word

/-- The word of a name and a value behind two hyphens. -/
def ofName (name : Text) (value : Option Text) : Word :=
  match Setting.ofName? name, Switch.ofName? name with
  | some s, _ => setting s value
  | .none, some s => switch s value
  | .none, .none => stranger

/-- A hyphen by itself is no option. -/
def ofText : Text → Word
  | ['-', '-'] => divider
  | '-' :: '-' :: t => ofName (Text.cut '=' t).1 (Text.cut '=' t).2
  | '-' :: c :: _ => (Switch.ofLetter? c).elim stranger fun s => switch s .none
  | t => plain t

end Word

/-! ### Reading -/

/-- Gives a setting its value. -/
def set (a : Arguments) : Setting → Option Text → Except Stop Arguments
  | _, .none => .error .missingValue
  | .url, some t => if a.url.isSome then .error .repeated else .ok { a with url := some t }
  | .ruleFile, some t =>
    if t = [] then .error .missingValue else .ok { a with ruleFiles := a.ruleFiles ++ [t] }
  | .bearerToken, some t =>
    if a.bearerToken.isSome then .error .repeated else .ok { a with bearerToken := some t }
  | .timeout, some t =>
    if a.timeoutMs.isSome then .error .repeated
    else
      match Numeral.readPositive t with
      | .ok n => .ok { a with timeoutMs := some n }
      | .error message => .error (.badValue message)

/-- Turns a switch. -/
def turn (a : Arguments) : Switch → Except Stop Arguments
  | .json => if a.json then .error .repeated else .ok { a with json := true }
  | .help => .error .help
  | .version => .error .version

/-- The setting that was named last, with its value if that has come. -/
abbrev Pending := Option (Setting × Option Text)

/-- Gives the last setting its value. -/
def settle (a : Arguments) : Pending → Except Stop Arguments
  | .none => .ok a
  | some (s, value) => a.set s value

/-- Reads the rest of a command line. A setting is given its value when the next option comes, or at
the end; so a wrong value is not told if the word behind it is unknown. -/
def readFrom (a : Arguments) (pending : Pending) : List Text → Except Stop Arguments
  | [] => a.settle pending
  | word :: rest =>
    match Word.ofText word with
    | .divider => if rest = [] then a.settle pending else .error .unknown
    | .stranger => .error .unknown
    | .setting s .none => do readFrom (← a.settle pending) (some (s, .none)) rest
    | .setting s (some value) => do
      readFrom (← (← a.settle pending).set s (some value)) .none rest
    | .switch _ (some _) => .error .unwantedValue
    | .switch s .none => do readFrom (← (← a.settle pending).turn s) .none rest
    | .plain t =>
      match pending with
      | some (s, .none) => readFrom a (some (s, some t)) rest
      | _ => .error .unknown

/-- Reads a command line. -/
def read (words : List Text) : Except Stop Arguments := readFrom none .none words

end Arguments

end RuleAudit
