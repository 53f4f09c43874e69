import RuleAudit.Text.Utf8
import RuleAudit.Json.Number

/-!
The tokens of a JSON text. A text that breaks off or goes wrong has tokens too: those before the
fault, and at the end the fault itself.
-/

namespace RuleAudit.Json

/-- Why a text is no JSON document of the wanted kind. -/
inductive Error
  /-- The text has a character where none like it may stand. -/
  | malformed
  /-- The text ends too early. -/
  | truncated
  /-- The document is well formed, and its shape is not the wanted one. -/
  | data (message : Text)
deriving DecidableEq, Repr

/-- What is wrong at a place, for one who reads the value there and for one who skips it: a reader
notices broken surrogates, and tells a numeral that ends too early. -/
structure Fault where
  reading : Error
  skipping : Error
deriving DecidableEq, Repr

namespace Fault

/-- The same fault for a reader and a skipper. -/
def both (e : Error) : Fault := ⟨e, e⟩

def malformed : Fault := both .malformed
def truncated : Fault := both .truncated

end Fault

/-- A token. A string is absent if it holds half a surrogate pair, a number if it is out of
range; such tokens can be skipped but not read. -/
inductive Token
  | beginObject
  | endObject
  | beginArray
  | endArray
  | colon
  | comma
  | null
  | bool (value : Bool)
  | number (value : Option Number)
  | string (value : Option Text)
  /-- The end of the tokens: a string that goes wrong. -/
  | brokenString (fault : Fault)
  /-- The end of the tokens: anything else that goes wrong. -/
  | broken (fault : Fault)
deriving DecidableEq, Repr

/-- One token and the text after it; no text is left after a fault. -/
structure Lexeme where
  token : Token
  rest : Text

/-- The blanks between tokens. -/
def isSpace (c : Char) : Bool := c == ' ' || c == '\n' || c == '\t' || c == '\r'

/-! ### Strings -/

/-- What a reader has of a string: its characters in reverse and a leading surrogate that waits
for its partner, or the first fault. -/
inductive Held
  | chars (reversed : Text) (leading : Option Nat)
  | failed

namespace Held

/-- Takes a character that no escape names. -/
def push (c : Char) : Held → Held
  | .chars cs none => .chars (c :: cs) none
  | _ => .failed

/-- Takes a unit of sixteen bits. -/
def pushUnit (n : Nat) : Held → Held
  | .chars cs none =>
    if 0xD800 ≤ n ∧ n < 0xDC00 then .chars cs (some n)
    else if 0xDC00 ≤ n ∧ n < 0xE000 then .failed
    else .chars (Char.ofNat n :: cs) none
  | .chars cs (some lead) =>
    if 0xDC00 ≤ n ∧ n < 0xE000 then
      .chars (Char.ofNat (0x10000 + (lead - 0xD800) * 0x400 + (n - 0xDC00)) :: cs) none
    else .failed
  | .failed => .failed

/-- The characters, if they are all whole. -/
def text? : Held → Option Text
  | .chars cs none => some cs.reverse
  | _ => none

/-- A fault that ends the string, unless the reader has met one before. -/
def fault (e : Error) : Held → Fault
  | .failed => ⟨.malformed, e⟩
  | _ => .both e

end Held

/-- The character of an escape of one letter. -/
def escapeLetter? (c : Char) : Option Char :=
  if c = '"' ∨ c = '\\' ∨ c = '/' then some c
  else if c = 'b' then some '\x08'
  else if c = 'f' then some '\x0C'
  else if c = 'n' then some '\n'
  else if c = 'r' then some '\r'
  else if c = 't' then some '\t'
  else none

/-- Reads a string from behind its opening quote. -/
def lexString (held : Held) : Text → Lexeme
  | [] => ⟨.brokenString (held.fault .truncated), []⟩
  | '\\' :: [] => ⟨.brokenString (held.fault .truncated), []⟩
  | '\\' :: 'u' :: a :: b :: c :: d :: rest =>
    match Text.hexValue? [a, b, c, d] with
    | some n => lexString (held.pushUnit n) rest
    | none => ⟨.brokenString (held.fault .malformed), []⟩
  | '\\' :: 'u' :: rest =>
    if 4 ≤ Text.Utf8.size rest then ⟨.brokenString (held.fault .malformed), []⟩
    else ⟨.brokenString (held.fault .truncated), []⟩
  | '\\' :: c :: rest =>
    match escapeLetter? c with
    | some e => lexString (held.push e) rest
    | none => ⟨.brokenString (held.fault .malformed), []⟩
  | '"' :: rest =>
    ⟨.string held.text?, rest⟩
  | c :: rest =>
    if c.toNat < 0x20 then ⟨.brokenString (held.fault .malformed), []⟩
    else lexString (held.push c) rest

/-! ### Numbers and words -/

/-- A numeral that lacks a digit before the given text. -/
def digitMissing (rest : Text) : Lexeme :=
  ⟨.broken ⟨if rest = [] then .truncated else .malformed, .malformed⟩, []⟩

/-- Reads the exponent of a numeral and finishes the numeral. -/
def lexExponent (n : Number.Numeral) (t : Text) : Lexeme :=
  match t with
  | 'e' :: rest | 'E' :: rest =>
    let (negative, rest) : Bool × Text :=
      match rest with
      | '-' :: rest => (true, rest)
      | '+' :: rest => (false, rest)
      | rest => (false, rest)
    let digits := rest.takeWhile Char.isDigit
    let after := rest.dropWhile Char.isDigit
    if digits = [] then digitMissing after
    else ⟨.number (Number.ofNumeral? { n with exponent := some (negative, digits) }), after⟩
  | rest => ⟨.number (Number.ofNumeral? n), rest⟩

/-- Reads a numeral from behind its sign. -/
def lexNumber (negative : Bool) (t : Text) : Lexeme :=
  let whole := t.takeWhile Char.isDigit
  let rest := t.dropWhile Char.isDigit
  if whole = [] then digitMissing rest
  else if 1 < whole.length ∧ whole.head? = some '0' then ⟨.broken .malformed, []⟩
  else
    match rest with
    | '.' :: rest =>
      let fraction := rest.takeWhile Char.isDigit
      let after := rest.dropWhile Char.isDigit
      if fraction = [] then digitMissing after
      else lexExponent ⟨negative, whole, some fraction, none⟩ after
    | rest => lexExponent ⟨negative, whole, none, none⟩ rest

/-- Reads the rest of a word after its first letter. -/
def lexWord (token : Token) (word : Text) (t : Text) : Lexeme :=
  match Text.after? word t with
  | some rest => ⟨token, rest⟩
  | none => if t.isPrefixOf word then ⟨.broken .truncated, []⟩ else ⟨.broken .malformed, []⟩

/-- The token of a punctuation mark. -/
def punctuation? (c : Char) : Option Token :=
  if c = '\x7b' then some .beginObject
  else if c = '\x7d' then some .endObject
  else if c = '[' then some .beginArray
  else if c = ']' then some .endArray
  else if c = ':' then some .colon
  else if c = ',' then some .comma
  else none

/-- Reads the token that begins with the given character. -/
def lex (c : Char) (rest : Text) : Lexeme :=
  match punctuation? c with
  | some token => ⟨token, rest⟩
  | none =>
    if c = '"' then lexString (.chars [] none) rest
    else if c = 'n' then lexWord .null "ull" rest
    else if c = 't' then lexWord (.bool true) "rue" rest
    else if c = 'f' then lexWord (.bool false) "alse" rest
    else if c = '-' then lexNumber true rest
    else if c.isDigit then lexNumber false (c :: rest)
    else ⟨.broken .malformed, []⟩

/-! ### Every token leaves less text -/

theorem lexString_rest_length (held : Held) (t : Text) :
    (lexString held t).rest.length ≤ t.length := by
  fun_induction lexString held t <;> simp_all <;> omega

theorem dropWhile_length_le (p : Char → Bool) (t : Text) : (t.dropWhile p).length ≤ t.length :=
  (List.dropWhile_sublist p).length_le

theorem lexExponent_rest_length (n : Number.Numeral) (t : Text) :
    (lexExponent n t).rest.length ≤ t.length := by
  unfold lexExponent digitMissing
  split
  · rename_i rest
    have h (r : Text) := dropWhile_length_le Char.isDigit r
    rcases rest with _ | ⟨c, r⟩
    · simp
    · dsimp only
      split <;> split <;> simp_all <;> grind
  · rename_i rest
    have h (r : Text) := dropWhile_length_le Char.isDigit r
    rcases rest with _ | ⟨c, r⟩
    · simp
    · dsimp only
      split <;> split <;> simp_all <;> grind
  · simp

theorem lexNumber_rest_length (negative : Bool) (t : Text) :
    (lexNumber negative t).rest.length ≤ (t.dropWhile Char.isDigit).length := by
  unfold lexNumber
  dsimp only
  split
  · simp [digitMissing]
  · split
    · simp
    · split
      · rename_i rest heq
        rw [heq]
        simp only [List.length_cons]
        have h2 := dropWhile_length_le Char.isDigit rest
        split
        · simp [digitMissing]
        · have h3 := lexExponent_rest_length
            ⟨negative, t.takeWhile Char.isDigit, some (rest.takeWhile Char.isDigit), none⟩
            (rest.dropWhile Char.isDigit)
          omega
      · exact lexExponent_rest_length ⟨negative, t.takeWhile Char.isDigit, none, none⟩
          (t.dropWhile Char.isDigit)

theorem lexWord_rest_length (token : Token) (word t : Text) :
    (lexWord token word t).rest.length ≤ t.length := by
  unfold lexWord Text.after?
  split
  · rename_i rest h
    split at h
    · simp only [Option.some.injEq] at h
      rw [← h]
      simp
    · simp at h
  · split <;> simp

theorem lex_rest_length (c : Char) (rest : Text) : (lex c rest).rest.length ≤ rest.length := by
  unfold lex
  split
  · simp
  · split
    · exact lexString_rest_length _ _
    split
    · exact lexWord_rest_length _ _ _
    split
    · exact lexWord_rest_length _ _ _
    split
    · exact lexWord_rest_length _ _ _
    split
    · exact Nat.le_trans (lexNumber_rest_length true rest) (dropWhile_length_le _ _)
    split
    · rename_i h
      have h1 := lexNumber_rest_length false (c :: rest)
      rw [List.dropWhile_cons_of_pos h] at h1
      exact Nat.le_trans h1 (dropWhile_length_le _ _)
    · simp

/-! ### The tokens of a text -/

/-- The tokens of a text, up to its first fault. -/
def tokens (t : Text) : List Token :=
  match _h : t.dropWhile isSpace with
  | [] => []
  | c :: rest =>
    let lexeme := lex c rest
    lexeme.token :: tokens lexeme.rest
termination_by t.length
decreasing_by
  have h1 := dropWhile_length_le isSpace t
  rw [_h, List.length_cons] at h1
  have h2 := lex_rest_length c rest
  omega

end RuleAudit.Json
