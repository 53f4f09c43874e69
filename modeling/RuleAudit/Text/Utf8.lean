import RuleAudit.Text.Basic

/-!
UTF-8: the bytes of a text, the strict reading that accepts exactly the encodings of texts, and
the lenient reading that puts U+FFFD where a byte sequence is broken.
-/

namespace RuleAudit.Text.Utf8

/-! ### Writing -/

/-- The bytes of one character. -/
def encodeChar (c : Char) : List UInt8 :=
  let n := c.toNat
  if n < 0x80 then [n.toUInt8]
  else if n < 0x800 then [(0xC0 + n / 0x40).toUInt8, (0x80 + n % 0x40).toUInt8]
  else if n < 0x10000 then
    [(0xE0 + n / 0x1000).toUInt8, (0x80 + n / 0x40 % 0x40).toUInt8, (0x80 + n % 0x40).toUInt8]
  else
    [(0xF0 + n / 0x40000).toUInt8, (0x80 + n / 0x1000 % 0x40).toUInt8,
     (0x80 + n / 0x40 % 0x40).toUInt8, (0x80 + n % 0x40).toUInt8]

/-- The bytes of a text. -/
def encode (t : Text) : List UInt8 := t.flatMap encodeChar

/-- The number of bytes of a text. -/
def size (t : Text) : Nat := (encode t).length

/-! ### Reading -/

/-- A byte that continues a character: `10xxxxxx`. -/
def isTail (b : UInt8) : Bool := 0x80 ≤ b && b ≤ 0xBF

/-- The six low bits of a continuation byte. -/
def tailBits (b : UInt8) : Nat := b.toNat - 0x80

/-- What the first bytes of a sequence hold. -/
inductive Step
  /-- A whole character and the bytes after it. -/
  | char (c : Char) (rest : List UInt8)
  /-- A broken sequence of the given number of bytes, the longest start of a character. -/
  | broken (length : Nat)

/-- The least and the greatest second byte after the lead byte of three or four bytes: the bounds
keep out overlong forms, surrogates and numbers above U+10FFFF. -/
def secondBounds (lead : UInt8) : UInt8 × UInt8 :=
  if lead == 0xE0 then (0xA0, 0xBF)
  else if lead == 0xED then (0x80, 0x9F)
  else if lead == 0xF0 then (0x90, 0xBF)
  else if lead == 0xF4 then (0x80, 0x8F)
  else (0x80, 0xBF)

/-- Reads one character after its lead byte. -/
def step (lead : UInt8) (rest : List UInt8) : Step :=
  if lead < 0x80 then .char (Char.ofNat lead.toNat) rest
  else if 0xC2 ≤ lead && lead ≤ 0xDF then
    match rest with
    | b :: rest => if isTail b then
        .char (Char.ofNat ((lead.toNat - 0xC0) * 0x40 + tailBits b)) rest else .broken 1
    | [] => .broken 1
  else if 0xE0 ≤ lead && lead ≤ 0xEF then
    match rest with
    | b :: rest =>
      let (low, high) := secondBounds lead
      if low ≤ b && b ≤ high then
        match rest with
        | c :: rest => if isTail c then
            .char (Char.ofNat ((lead.toNat - 0xE0) * 0x1000 + tailBits b * 0x40 + tailBits c)) rest
            else .broken 2
        | [] => .broken 2
      else .broken 1
    | [] => .broken 1
  else if 0xF0 ≤ lead && lead ≤ 0xF4 then
    match rest with
    | b :: rest =>
      let (low, high) := secondBounds lead
      if low ≤ b && b ≤ high then
        match rest with
        | c :: rest => if isTail c then
            match rest with
            | d :: rest => if isTail d then
                .char (Char.ofNat ((lead.toNat - 0xF0) * 0x40000 + tailBits b * 0x1000
                  + tailBits c * 0x40 + tailBits d)) rest
                else .broken 3
            | [] => .broken 3
            else .broken 2
        | [] => .broken 2
      else .broken 1
    | [] => .broken 1
  else .broken 1

theorem step_rest_length {lead : UInt8} {bytes rest : List UInt8} {c : Char}
    (h : step lead bytes = .char c rest) : rest.length ≤ bytes.length := by
  unfold step at h
  repeat' split at h
  all_goals first
    | (injection h with _ hr; subst hr; simp; done)
    | (injection h with _ hr; subst hr; simp; omega)
    | simp_all

/-- The text whose encoding the bytes are, if there is one. -/
def decode? : List UInt8 → Option Text
  | [] => some []
  | b :: bytes =>
    match _h : step b bytes with
    | .char c rest => (decode? rest).map (c :: ·)
    | .broken _ => none
termination_by bytes => bytes.length
decreasing_by
  have := step_rest_length _h
  simp only [List.length_cons]
  omega

/-- The text of some bytes, with U+FFFD for every broken sequence. -/
def decodeLenient : List UInt8 → Text
  | [] => []
  | b :: bytes =>
    match _h : step b bytes with
    | .char c rest => c :: decodeLenient rest
    | .broken n => '\uFFFD' :: decodeLenient (bytes.drop (n - 1))
termination_by bytes => bytes.length
decreasing_by
  · have := step_rest_length _h
    simp only [List.length_cons]
    omega
  · simp only [List.length_cons, List.length_drop]
    omega

end RuleAudit.Text.Utf8
