import RuleAudit.Text.Printable
import RuleAudit.Text.Extender

/-!
Quoted texts, as messages show them: every character of the text can be told from its quoted form,
and no quote, line break or invisible character stands in it bare.
-/

namespace RuleAudit.Text.Quoted

/-- The escape that names a character by its code point. -/
def codePoint (c : Char) : Text := "\\u\x7b" ++ hex c.toNat ++ "\x7d"

/-- The quoted form of one character, between marks of the kind `mark`. -/
def encodeChar (mark c : Char) : Text :=
  if c = '\x00' then "\\0"
  else if c = '\t' then "\\t"
  else if c = '\r' then "\\r"
  else if c = '\n' then "\\n"
  else if c = '\\' then "\\\\"
  else if c = mark then ['\\', mark]
  else if isExtender c then codePoint c
  else if isPrintable c then [c]
  else codePoint c

/-- The inside of a quoted text. -/
def encode (t : Text) : Text := t.flatMap (encodeChar '"')

end Quoted

/-- A text between double quotes, with its special characters escaped. -/
def quoted (t : Text) : Text := '"' :: (Quoted.encode t ++ ['"'])

/-- A character between single quotes, escaped where it is special. -/
def quotedChar (c : Char) : Text := '\x27' :: (Quoted.encodeChar '\x27' c ++ ['\x27'])

end RuleAudit.Text
