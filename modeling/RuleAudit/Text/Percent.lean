import RuleAudit.Text.Utf8

/-!
Percent encoding: characters that may not stand in a part of an address are written as the bytes of
their encoding, each as a percent sign and two digits. Which characters these are depends on the
part.
-/

namespace RuleAudit.Text.Percent

/-- A digit in base sixteen, in upper case. -/
def digit (n : Nat) : Char :=
  if n < 10 then Char.ofNat ('0'.toNat + n) else Char.ofNat ('A'.toNat + (n - 10))

/-- A byte as a percent sign and two digits. -/
def encodeByte (b : UInt8) : Text := ['%', digit (b.toNat / 16), digit (b.toNat % 16)]

/-- A character as the encoded bytes of its UTF-8 form. -/
def encodeChar (c : Char) : Text := (Utf8.encodeChar c).flatMap encodeByte

/-- A text with the characters encoded that satisfy `p`. -/
def encode (p : Char → Bool) (t : Text) : Text :=
  t.flatMap fun c => if p c then encodeChar c else [c]

/-- The bytes of a text in which every percent sign before two digits stands for a byte. -/
def decode : Text → List UInt8
  | [] => []
  | '%' :: a :: b :: rest =>
    match hexDigit? a, hexDigit? b with
    | some high, some low => (16 * high + low).toUInt8 :: decode rest
    | _, _ => 0x25 :: decode (a :: b :: rest)
  | c :: rest => Utf8.encodeChar c ++ decode rest

/-! ### Sets of characters -/

/-- Controls, and all characters outside ASCII. -/
def isControl (c : Char) : Bool := c.toNat < 0x20 || 0x7F ≤ c.toNat

/-- Characters that may not stand in a fragment. -/
def isFragmentSpecial (c : Char) : Bool :=
  isControl c || c ∈ [' ', '"', '<', '>', '\x60']

/-- Characters that may not stand in a path. -/
def isPathSpecial (c : Char) : Bool :=
  isFragmentSpecial c || c ∈ ['#', '?', '\x7b', '\x7d']

/-- Characters that may not stand in a user name or password. -/
def isUserSpecial (c : Char) : Bool :=
  isPathSpecial c || c ∈ ['/', ':', ';', '=', '@', '[', '\\', ']', '^', '|']

/-- Characters that may not stand in the query of an address of the web. -/
def isQuerySpecial (c : Char) : Bool :=
  isControl c || c ∈ [' ', '"', '#', '<', '>', '\x27']

end RuleAudit.Text.Percent
