import RuleAudit.Text.Percent

/-!
Form encoding of parameters: names and values in which only letters, digits and four marks stand
for themselves and a plus sign stands for a space, with `=` between name and value and `&` between
pairs. Also the reading of such a text.
-/

namespace RuleAudit.Text.Form

/-- A character that stands for itself. -/
def isPlain (c : Char) : Bool := c.isAlphanum || c ∈ ['*', '-', '.', '_']

/-- A name or value in encoded form. -/
def encode (t : Text) : Text :=
  t.flatMap fun c => if isPlain c then [c] else if c = ' ' then ['+'] else Percent.encodeChar c

/-- A pair in encoded form. -/
def encodePair (p : Text × Text) : Text := encode p.1 ++ '=' :: encode p.2

/-- Pairs in encoded form. -/
def encodePairs (ps : List (Text × Text)) : Text := join "&" (ps.map encodePair)

/-- The name or value of an encoded form. Bytes that are no text become U+FFFD. -/
def decode (t : Text) : Text :=
  Utf8.decodeLenient (Percent.decode (t.map fun c => if c = '+' then ' ' else c))

/-- The pair of an encoded form; without an equals sign the value is empty. -/
def decodePair (t : Text) : Text × Text :=
  let (name, value) := cut '=' t
  (decode name, decode (value.getD []))

/-- The pairs of an encoded form; empty pieces are no pairs. -/
def decodePairs (t : Text) : List (Text × Text) :=
  ((split '&' t).filter (· ≠ [])).map decodePair

end RuleAudit.Text.Form
