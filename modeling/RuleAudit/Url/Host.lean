import RuleAudit.Text.Percent

/-!
The hosts of addresses: names, addresses of 32 bits and addresses of 128 bits, how they are read
and how they are written.
-/

namespace RuleAudit.Url

/-- Why a text is no address. -/
inductive Error
  | relative
  | emptyHost
  | badPort
  | badIpv4
  | badIpv6
  | badName
  | badNameCharacter
deriving DecidableEq, Repr

/-- What is wrong, in words. -/
def Error.message : Error → Text
  | relative => "relative URL without a base"
  | emptyHost => "empty host"
  | badPort => "invalid port number"
  | badIpv4 => "invalid IPv4 address"
  | badIpv6 => "invalid IPv6 address"
  | badName => "invalid international domain name"
  | badNameCharacter => "invalid domain character"

/-! ### Names beyond ASCII -/

/-- How a name with other characters than those of ASCII is written in ASCII, and which names in
ASCII are such forms. -/
class Idna where
  /-- The form of a name, if it has one. -/
  toAscii? : Text → Option Text
  /-- A form has no capital letters. -/
  lower_form : ∀ {t u : Text}, toAscii? t = some u → Text.lower u = u
  /-- A form is its own form. -/
  toAscii?_form : ∀ {t u : Text}, toAscii? t = some u → toAscii? u = some u

theorem toLower_of_not_upper {c : Char} (h : ¬ (65 ≤ c.toNat ∧ c.toNat ≤ 90)) : c.toLower = c :=
  dif_neg h

theorem toLower_toLower (c : Char) : c.toLower.toLower = c.toLower := by
  by_cases h : c.val ≥ 'A'.val ∧ c.val ≤ 'Z'.val
  · have hlow : 65 ≤ c.toNat := h.1
    have hhigh : c.toNat ≤ 90 := h.2
    have hval : c.toLower.val = c.val + ('a'.val - 'A'.val) := congrArg Char.val (dif_pos h)
    have hup : c.toLower.toNat = (c.toNat + 32) % 2 ^ 32 :=
      (congrArg UInt32.toNat hval).trans (UInt32.toNat_add ..)
    exact toLower_of_not_upper (by omega)
  · have hc : c.toLower = c := dif_neg h
    rw [hc, hc]

theorem lower_lower (t : Text) : Text.lower (Text.lower t) = Text.lower t := by
  rw [Text.lower, Text.lower, List.map_map]
  exact List.map_congr_left fun c _ => toLower_toLower c

/-- Names in ASCII are forms as they are, also those that are marked as forms, and other names have
none. -/
@[reducible] def Idna.plain : Idna where
  toAscii? t := if (Text.lower t).all (·.toNat < 0x80) then some (Text.lower t) else none
  lower_form {t u} h := by
    split at h
    · cases h
      exact lower_lower t
    · cases h
  toAscii?_form {t u} h := by
    split at h
    · next hascii =>
      cases h
      rw [lower_lower, if_pos hascii]
    · cases h

/-- A host. An address of 128 bits is given by its eight pieces. -/
inductive Host
  | name (text : Text)
  | ipv4 (address : Nat)
  | ipv6 (pieces : List Nat)
deriving DecidableEq, Repr

namespace Host

/-! ### Addresses of 32 bits -/

/-- A part of an address of 32 bits as it may be written: base ten, base eight after `0`, base
sixteen after `0x`, where nothing after the mark is zero. -/
def partValue? : Text → Option Nat
  | [] => none
  | '0' :: 'x' :: ds | '0' :: 'X' :: ds => Text.hexValue? ds
  | '0' :: d :: ds =>
    if (d :: ds).all fun c => '0' ≤ c && c ≤ '7' then
      some ((d :: ds).foldl (fun n c => 8 * n + Text.digitValue c) 0)
    else none
  | ds => if ds.all Char.isDigit then some (Text.digitsValue ds) else none

/-- The parts of a name between its dots, without an empty one at the end. -/
def nameParts (t : Text) : List Text :=
  let parts := Text.split '.' t
  if parts.getLast? = some [] then parts.dropLast else parts

/-- The last part of the name is a number, so that the name can only be an address. -/
def endsInNumber (t : Text) : Bool :=
  match (nameParts t).getLast? with
  | none => false
  | some last => (last ≠ [] && last.all Char.isDigit) || (partValue? last).isSome

/-- The address of the values of its parts: each part but the last is a byte, and the last fills
what remains. -/
def ofParts? (values : List Nat) : Option Nat :=
  match values.reverse with
  | [] => none
  | last :: before =>
    let bytes := before.reverse
    if 4 < values.length ∨ bytes.any (255 < ·) ∨ 256 ^ (5 - values.length) ≤ last then none
    else some (bytes.foldl (fun n b => 256 * n + b) 0 * 256 ^ (5 - values.length) + last)

/-- The address of 32 bits that a name is. -/
def readIpv4? (t : Text) : Option Nat := (nameParts t).mapM partValue? >>= ofParts?

/-- The four bytes with dots. -/
def ipv4Text (n : Nat) : Text :=
  Text.join "." ([n / 16777216, n / 65536 % 256, n / 256 % 256, n % 256].map Text.decimal)

/-! ### Addresses of 128 bits -/

/-- A byte in base ten without leading zeros. -/
def byteValue? (t : Text) : Option Nat :=
  let n := Text.digitsValue t
  if t ≠ [] ∧ t.all Char.isDigit ∧ (t.head? ≠ some '0' ∨ t = ['0']) ∧ n < 256 then some n else none

/-- The two pieces of four bytes with dots. -/
def dottedPieces? (t : Text) : Option (List Nat) :=
  match (Text.split '.' t).mapM byteValue? with
  | some [a, b, c, d] => some [256 * a + b, 256 * c + d]
  | _ => none

/-- A piece of one to four digits in base sixteen. -/
def pieceValue? (t : Text) : Option Nat :=
  if t ≠ [] ∧ t.length ≤ 4 then Text.hexValue? t else none

/-- The values of pieces; the last may be four bytes with dots if `dotted`. -/
def pieceValues? (dotted : Bool) : List Text → Option (List Nat)
  | [] => some []
  | [t] =>
    if dotted ∧ '.' ∈ t then dottedPieces? t else (pieceValue? t).map ([·])
  | t :: ts => do
    let v ← pieceValue? t
    let vs ← pieceValues? dotted ts
    some (v :: vs)

/-- The pieces of a text with colons between them; an empty text has none. -/
def pieces? (dotted : Bool) (t : Text) : Option (List Nat) :=
  if t = [] then some [] else pieceValues? dotted (Text.split ':' t)

/-- The parts before and after the first double colon. -/
def cutDoubleColon : Text → Option (Text × Text)
  | ':' :: ':' :: rest => some ([], rest)
  | c :: rest => (cutDoubleColon rest).map fun (a, b) => (c :: a, b)
  | [] => none

/-- The eight pieces of an address; a double colon stands for one zero piece at least. -/
def readIpv6? (t : Text) : Option (List Nat) :=
  match cutDoubleColon t with
  | none => do
    let ps ← pieces? true t
    if ps.length = 8 then some ps else none
  | some (a, b) => do
    let before ← pieces? false a
    let after ← pieces? true b
    if before.length + after.length ≤ 7 then
      some (before ++ List.replicate (8 - before.length - after.length) 0 ++ after)
    else none

/-- The length of the run of zeros at the start of a list. -/
def zeroRun (ps : List Nat) : Nat := (ps.takeWhile (· == 0)).length

/-- The place and the length of the longest run of zeros, the first of several. -/
def longestZeroRun (ps : List Nat) : Nat × Nat :=
  (List.range ps.length).foldl
    (fun best i =>
      let n := zeroRun (ps.drop i)
      if best.2 < n then (i, n) else best) (0, 0)

/-- The pieces in base sixteen, with a double colon for the longest run of two zeros or more. -/
def ipv6Text (ps : List Nat) : Text :=
  let (start, length) := longestZeroRun ps
  let plain (ps : List Nat) : Text := Text.join ":" (ps.map Text.hex)
  if length < 2 then plain ps else plain (ps.take start) ++ "::" ++ plain (ps.drop (start + length))

/-- A character that may not stand in the name of a host of the web. -/
def isForbidden (c : Char) : Bool :=
  c.toNat ≤ 0x20 || 0x7F ≤ c.toNat
    || c ∈ ['#', '%', '/', ':', '<', '>', '?', '@', '[', '\\', ']', '^', '|']

/-- Reads an address in brackets. -/
def readBracketed (t : Text) : Except Error Host :=
  if t.getLast? ≠ some ']' then .error .badIpv6
  else
    match readIpv6? (t.drop 1).dropLast with
    | some ps => .ok (.ipv6 ps)
    | none => .error .badIpv6

/-- A name in small letters of which no part has other characters than those of ASCII, or is marked
as a form of such a part. -/
def isPlain (t : Text) : Bool :=
  t.all (·.toNat < 0x80) && (Text.split '.' t).all (!("xn--" : Text).isPrefixOf ·)

/-- The form of a name in ASCII, if it has one. -/
def form? [Idna] (t : Text) : Option Text :=
  if isPlain (Text.lower t) then some (Text.lower t) else Idna.toAscii? t

/-- Reads a host of the web: percent signs are decoded, and names are brought into their form in
ASCII. -/
def read [Idna] (t : Text) : Except Error Host :=
  if t.head? = some '[' then readBracketed t
  else
    match Text.Utf8.decode? (Text.Percent.decode t) with
    | none => .error .badName
    | some decoded =>
      match form? decoded with
      | none => .error .badName
      | some form =>
        if form.any isForbidden then .error .badName
        else if form = [] then .error .emptyHost
        else if endsInNumber form then
          match readIpv4? form with
          | some n => .ok (.ipv4 n)
          | none => .error .badIpv4
        else .ok (.name form)

/-- Reads a host of another kind of address, whose name is not looked into. -/
def readOpaque (t : Text) : Except Error Host :=
  if t.head? = some '[' then readBracketed t
  else if t.any fun c => c ∈ ['\x00', '\t', '\n', '\r', ' ', '#', '/', ':', '<', '>', '?', '@', '[',
      '\\', ']', '^', '|'] then .error .badNameCharacter
  else .ok (.name (Text.Percent.encode Text.Percent.isControl t))

/-- The text of a host. -/
def render : Host → Text
  | .name t => t
  | .ipv4 n => ipv4Text n
  | .ipv6 ps => '[' :: (ipv6Text ps ++ [']'])

end Host

end RuleAudit.Url

namespace RuleAudit.Plain

scoped instance : Url.Idna := .plain

end RuleAudit.Plain
