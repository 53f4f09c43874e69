import RuleAudit.Instances

/-!
Texts as lists of Unicode characters, with the few ways of cutting and joining them that the
formats of this library share.
-/

namespace RuleAudit

/-- A text is the list of its characters. -/
abbrev Text := List Char

/-- A string literal stands for the list of its characters. -/
instance coeChars : Coe String (List Char) := ⟨String.toList⟩

namespace Text

/-! ### Numerals -/

/-- The decimal numeral of a natural number, without leading zeros. -/
def decimal (n : Nat) : Text := Nat.toDigits 10 n

/-- The decimal numeral of an integer, with a minus sign below zero. -/
def integer (i : Int) : Text := if i < 0 then '-' :: decimal i.natAbs else decimal i.natAbs

/-- The numeral of a natural number in base sixteen, in lower case and without leading zeros. -/
def hex (n : Nat) : Text := Nat.toDigits 16 n

/-- Zeros put in front of a text until it has at least the given length. -/
def padZeros (width : Nat) (t : Text) : Text := List.replicate (width - t.length) '0' ++ t

/-- The decimal numeral of a number with at least the given number of digits. -/
def decimalPadded (width n : Nat) : Text := padZeros width (decimal n)

/-- The value of a decimal digit, of another character `0`. -/
def digitValue (c : Char) : Nat := if c.isDigit then c.toNat - '0'.toNat else 0

/-- The value of a list of decimal digits. -/
def digitsValue (t : Text) : Nat := t.foldl (fun n c => 10 * n + digitValue c) 0

/-- The value of a digit in base sixteen, in either case. -/
def hexDigit? (c : Char) : Option Nat :=
  if c.isDigit then some (c.toNat - '0'.toNat)
  else if 'a' ≤ c ∧ c ≤ 'f' then some (c.toNat - 'a'.toNat + 10)
  else if 'A' ≤ c ∧ c ≤ 'F' then some (c.toNat - 'A'.toNat + 10)
  else none

/-- The value of a list of digits in base sixteen, if all of them are digits. -/
def hexValue? (t : Text) : Option Nat :=
  t.foldlM (fun n c => (hexDigit? c).map (16 * n + ·)) 0

/-! ### Cutting and joining -/

/-- The pieces of a text joined with a separator between neighbours. -/
def join (separator : Text) : List Text → Text
  | [] => []
  | [t] => t
  | t :: rest => t ++ separator ++ join separator rest

/-- The pieces between the occurrences of a character. There is always at least one piece. -/
def split (c : Char) : Text → List Text
  | [] => [[]]
  | d :: rest =>
    if d = c then [] :: split c rest
    else match split c rest with
      | [] => [[d]]
      | piece :: pieces => (d :: piece) :: pieces

/-- The words of lines in which single blanks stand between words. -/
def words (lines : List Text) : List Text := lines.flatMap (split ' ')

/-- The part before the first occurrence of a character, and the part after it if it occurs. -/
def cut (c : Char) (t : Text) : Text × Option Text :=
  match t.dropWhile (· != c) with
  | [] => (t, none)
  | _ :: rest => (t.takeWhile (· != c), some rest)

/-- What follows `start` in a text that begins with it. -/
def after? (start : Text) (t : Text) : Option Text :=
  if start.isPrefixOf t then some (t.drop start.length) else none

/-- A text without the characters at its end that satisfy `p`. -/
def trimEnd (p : Char → Bool) (t : Text) : Text := (t.reverse.dropWhile p).reverse

/-- A text without the characters at both ends that satisfy `p`. -/
def trimBoth (p : Char → Bool) (t : Text) : Text := trimEnd p (t.dropWhile p)

/-- A text with its ASCII letters in lower case. -/
def lower (t : Text) : Text := t.map Char.toLower

/-! ### Sets of texts in order -/

/-- Puts a text into a strictly increasing list, unless it is there already. -/
def insertSorted (t : Text) : List Text → List Text
  | [] => [t]
  | u :: rest =>
    if t < u then t :: u :: rest
    else if t = u then u :: rest
    else u :: insertSorted t rest

/-- The distinct texts of a list, in increasing order of their code points. -/
def sortedSet (ts : List Text) : List Text := ts.foldr insertSorted []

end Text

end RuleAudit
