import RuleAudit.Text.Basic
import RuleAudit.Decimal.Shortest

/-!
The values of the numbers and durations of a query.
-/

namespace RuleAudit.Query

/-! ### Numbers -/

/-- The value of digits in a base, if there are digits and the value is below `2 ^ 63`. -/
def wordValue? (base : Nat) (digits : Text) : Option Nat :=
  let value := digits.foldlM (fun n c =>
    match Text.hexDigit? c with
    | some d => if d < base then some (base * n + d) else none
    | none => none) 0
  if digits = [] then none else value.filter (· < 2 ^ 63)

/-- The value of a decimal numeral: digits with a point among or around them, and perhaps an
exponent. -/
def decimalValue? (t : Text) : Option Binary64 :=
  let whole := t.takeWhile Char.isDigit
  let rest := t.dropWhile Char.isDigit
  let (fraction, rest) : Text × Text :=
    match rest with
    | '.' :: rest => (rest.takeWhile Char.isDigit, rest.dropWhile Char.isDigit)
    | rest => ([], rest)
  let digits := whole ++ fraction
  let scaled (e : Int) : Binary64 :=
    Binary64.ofDecimal false (Text.digitsValue digits) (e - fraction.length)
  if digits = [] then none
  else
    match rest with
    | [] => some (scaled 0)
    | 'e' :: '-' :: ds =>
      if ds ≠ [] ∧ ds.all Char.isDigit then some (scaled (-(Text.digitsValue ds : Int))) else none
    | 'e' :: rest =>
      let ds := match rest with
        | '+' :: ds => ds
        | ds => ds
      if ds ≠ [] ∧ ds.all Char.isDigit then some (scaled (Text.digitsValue ds)) else none
    | _ => none

/-- A numeral in base eight: it begins with a zero, and nothing in it speaks against. -/
def isOctal (t : Text) : Bool :=
  t.head? == some '0' && t != ['0'] && !t.any (fun c => c == '.' || c == '8' || c == '9')

/-- The value of a number as it stands in a query, or a message. -/
def numberValue (t : Text) : Except Text Binary64 :=
  let u := Text.lower t
  let whole (value : Option Nat) : Except Text Binary64 :=
    match value with
    | some n => .ok (Binary64.ofNat n)
    | none => .error ("ParseFloatError. " ++ t ++ " can't be parsed into i64")
  if u = ("inf" : Text) then .ok (.infinite false)
  else if u = ("nan" : Text) then .ok .nan
  else if 'x' ∈ u then whole (wordValue? 16 (u.drop 2))
  else if isOctal u then whole (wordValue? 8 u)
  else
    match decimalValue? u with
    | some x => .ok x
    | none => .error ("ParseFloatError. " ++ t ++ " can't be parsed into f64")

/-- A number in a message: always positional. -/
def numberText : Binary64 → Text
  | .finite negative m e =>
    let body := Decimal.positional [] (Decimal.shortest m e)
    if negative then '-' :: body else body
  | .infinite negative => if negative then "-inf" else "inf"
  | .nan => "NaN"

/-! ### Durations -/

/-- The units in the order in which they may stand, each with its length in milliseconds. -/
def units : List (Text × Nat) :=
  [("y", 31536000000), ("w", 604800000), ("d", 86400000), ("h", 3600000), ("m", 60000),
   ("s", 1000), ("ms", 1)]

/-- The milliseconds of numbers with units, the units in order and none of them twice. Numbers from
`2 ^ 32` on count as zero. -/
def unitsValue? (allowed : List (Text × Nat)) (t : Text) : Option Nat :=
  if t = [] then some 0
  else
    let ds := t.takeWhile Char.isDigit
    let rest := t.dropWhile Char.isDigit
    let unit := rest.takeWhile (!Char.isDigit ·)
    match allowed with
    | [] => none
    | (name, length) :: later =>
      if ds = [] then none
      else if unit = name then
        let n := Text.digitsValue ds
        (unitsValue? later (rest.dropWhile (!Char.isDigit ·))).map
          ((if n < 2 ^ 32 then n * length else 0) + ·)
      else unitsValue? later t
termination_by allowed.length

/-- The milliseconds of a duration, or a message. -/
def durationValue (t : Text) : Except Text Nat :=
  match unitsValue? units t with
  | none => .error ("not a valid duration string: " ++ t)
  | some 0 => .error "duration must be greater than 0"
  | some n => .ok n

end RuleAudit.Query
