import Mathlib.Algebra.Group.Int.Defs
import RuleAudit.Json.Printer
import RuleAudit.Json.Token
import RuleAudit.Proofs.Text.Cutting
import RuleAudit.Proofs.Text.Numeral

/-!
# The tokens of a printed value

* `Value.Fits`: a value whose numbers are integers of 64 bits, with so many lists and objects inside
  each other at most;
* `lexString_escaped`: a string is read as the text that was written, whatever its characters;
* `Value.tokens_pretty`: what is printed for such a value has the tokens of the value.
-/

namespace RuleAudit.Json

/-! ### Values that can be read back -/

/-- The numbers of a value are integers of 64 bits, and not more than `depth` of its lists and
objects stand inside each other. -/
inductive Value.Fits : Nat → Value → Prop
  | null {depth : Nat} : Fits depth .null
  | bool {depth : Nat} (b : Bool) : Fits depth (.bool b)
  | number {depth : Nat} {i : Int} (hlow : -2 ^ 63 ≤ i) (hhigh : i < 2 ^ 64) :
    Fits depth (.number (.int i))
  | string {depth : Nat} (t : Text) : Fits depth (.string t)
  | array {depth : Nat} {vs : List Value} (h : ∀ v ∈ vs, Fits depth v) :
    Fits (depth + 1) (.array vs)
  | object {depth : Nat} {ms : List (Text × Value)} (h : ∀ m ∈ ms, Fits depth m.2) :
    Fits (depth + 1) (.object ms)

/-! ### Strings -/

theorem lexString_unit {held : Held} {digits rest : Text} {n : Nat} (hlength : digits.length = 4)
    (hvalue : Text.hexValue? digits = some n) :
    lexString held ('\\' :: 'u' :: (digits ++ rest)) = lexString (held.pushUnit n) rest := by
  match digits, hlength with
  | [a, b, c, d], _ =>
    change lexString held ('\\' :: 'u' :: a :: b :: c :: d :: rest) = _
    rw [lexString, hvalue]

theorem lexString_plain {held : Held} {c : Char} (hquote : c ≠ '"') (hslash : c ≠ '\\')
    (hlow : ¬ c.toNat < 0x20) (rest : Text) :
    lexString held (c :: rest) = lexString (held.push c) rest := by
  rw [lexString, if_neg hlow] <;> simp_all

/-- An escaped character is read as the character. -/
theorem lexString_escapeChar (c : Char) (held rest : Text) :
    lexString (.chars held none) (escapeChar c ++ rest) = lexString (.chars (c :: held) none) rest := by
  by_cases hletter : c = '"' ∨ c = '\\' ∨ c = '\n' ∨ c = '\r' ∨ c = '\t' ∨ c = '\x08' ∨ c = '\x0C'
  · rcases hletter with rfl | rfl | rfl | rfl | rfl | rfl | rfl <;> rfl
  · simp only [not_or] at hletter
    obtain ⟨hquote, hslash, hline, hreturn, htab, hback, hfeed⟩ := hletter
    simp only [escapeChar, if_neg hquote, if_neg hslash, if_neg hline, if_neg hreturn, if_neg htab,
      if_neg hback, if_neg hfeed]
    split
    next hlow =>
      have hlength : (Text.padZeros 4 (Text.hex c.toNat)).length = 4 :=
        Text.length_padZeros (Text.hex_length_le (by decide) (by omega))
      have hvalue : Text.hexValue? (Text.padZeros 4 (Text.hex c.toNat)) = some c.toNat := by
        rw [Text.hexValue?_padZeros, Text.hexValue?_hex]
      have hpush : (Held.chars held none).pushUnit c.toNat = .chars (c :: held) none := by
        simp only [Held.pushUnit, Char.ofNat_toNat]
        rw [if_neg (by omega), if_neg (by omega)]
      have hunit := @lexString_unit (.chars held none) _ rest _ hlength hvalue
      rw [hpush] at hunit
      rw [← hunit, List.append_assoc]
      rfl
    next hhigh =>
      rw [List.singleton_append, lexString_plain hquote hslash hhigh]
      rfl

theorem lexString_escaped (t held rest : Text) :
    lexString (.chars held none) (t.flatMap escapeChar ++ '"' :: rest) =
      ⟨.string (some (held.reverse ++ t)), rest⟩ := by
  induction t generalizing held with
  | nil =>
    rw [List.append_nil]
    rfl
  | cons c t ih =>
    rw [List.flatMap_cons, List.append_assoc, lexString_escapeChar, ih, List.reverse_cons,
      List.append_assoc]
    rfl

/-! ### Numbers -/

/-- No character that goes on a numeral stands at the head of a text. -/
def EndsNumeral (rest : Text) : Prop :=
  ∀ c ∈ rest.head?, c.isDigit = false ∧ c ≠ '.' ∧ c ≠ 'e' ∧ c ≠ 'E'

section

variable {rest : Text} {n : Nat} {negative : Bool} {x : Number}

theorem lexExponent_of_ends (h : EndsNumeral rest) (numeral : Number.Numeral) :
    lexExponent numeral rest = ⟨.number (Number.ofNumeral? numeral), rest⟩ := by
  unfold lexExponent
  split
  · exact absurd rfl (h _ rfl).2.2.1
  · exact absurd rfl (h _ rfl).2.2.2
  · rfl

theorem lexNumber_decimal (h : EndsNumeral rest)
    (hx : Number.ofNumeral? ⟨negative, Text.decimal n, none, none⟩ = some x) :
    lexNumber negative (Text.decimal n ++ rest) = ⟨.number (some x), rest⟩ := by
  have hdigits : ∀ c ∈ Text.decimal n, c.isDigit = true := fun _ => Text.isDigit_of_mem_decimal
  have hhead : ∀ c ∈ rest.head?, c.isDigit = false := fun c hc => (h c hc).1
  have hzero : ¬ (1 < (Text.decimal n).length ∧ (Text.decimal n).head? = some '0') := by
    rintro ⟨hlength, hhead⟩
    by_cases hn : n = 0
    · subst hn
      exact absurd hlength (by decide)
    · exact Text.head?_decimal hn hhead
  rw [lexNumber]
  simp only [Text.takeWhile_append_of_head hdigits hhead, Text.dropWhile_append_of_head hdigits hhead,
    if_neg (Text.decimal_ne_nil n), if_neg hzero]
  split
  · exact absurd rfl (h _ rfl).2.1
  · rw [lexExponent_of_ends h, hx]

theorem ofNumeral?_decimal (h : n < 2 ^ 64) :
    Number.ofNumeral? ⟨false, Text.decimal n, none, none⟩ = some (.int n) := by
  simp only [Number.ofNumeral?, Text.digitsValue_decimal]
  rw [if_pos ⟨rfl, rfl, rfl, h⟩]

theorem ofNumeral?_minus (hpos : n ≠ 0) (h : n ≤ 2 ^ 63) :
    Number.ofNumeral? ⟨true, Text.decimal n, none, none⟩ = some (.int (-n)) := by
  unfold Number.ofNumeral?
  dsimp only
  rw [Text.digitsValue_decimal, if_neg (by simp), if_pos ⟨rfl, rfl, rfl, hpos, h⟩]

end

/-! ### Tokens one by one -/

theorem tokens_space (c : Char) (h : isSpace c = true) (rest : Text) :
    tokens (c :: rest) = tokens rest := by
  rw [tokens.eq_def (c :: rest), tokens.eq_def rest, List.dropWhile_cons_of_pos h]

theorem tokens_cons (c : Char) (h : isSpace c = false) (rest : Text) :
    tokens (c :: rest) = (lex c rest).token :: tokens (lex c rest).rest := by
  rw [tokens.eq_def, List.dropWhile_cons_of_neg (by simp [h])]

theorem tokens_newLine (level : Nat) (rest : Text) :
    tokens (Value.newLine level ++ rest) = tokens rest := by
  rw [Value.newLine, List.cons_append, tokens_space _ rfl]
  induction 2 * level with
  | zero => rfl
  | succ k ih => rw [List.replicate_succ, List.cons_append, tokens_space _ rfl, ih]

theorem tokens_stringText (t rest : Text) :
    tokens (stringText t ++ rest) = .string (some t) :: tokens rest := by
  have hlex : lex '"' (t.flatMap escapeChar ++ '"' :: rest) = ⟨.string (some t), rest⟩ :=
    lexString_escaped t [] rest
  rw [stringText, List.cons_append, tokens_cons _ rfl, List.append_assoc]
  change (lex '"' (t.flatMap escapeChar ++ '"' :: rest)).token ::
    tokens (lex '"' (t.flatMap escapeChar ++ '"' :: rest)).rest = _
  rw [hlex]

theorem ne_of_isDigit {c d : Char} (hc : c.isDigit = true) (hd : d.isDigit = false) : c ≠ d := by
  rintro rfl
  rw [hc] at hd
  cases hd

theorem isSpace_of_isDigit {c : Char} (h : c.isDigit = true) : isSpace c = false := by
  simp [isSpace, ne_of_isDigit h]

theorem lex_digit {c : Char} (h : c.isDigit = true) (rest : Text) :
    lex c rest = lexNumber false (c :: rest) := by
  simp [lex, punctuation?, ne_of_isDigit h, h]

theorem tokens_integer {i : Int} (hlow : -2 ^ 63 ≤ i) (hhigh : i < 2 ^ 64) {rest : Text}
    (h : EndsNumeral rest) :
    tokens (Text.integer i ++ rest) = .number (some (.int i)) :: tokens rest := by
  rw [Text.integer]
  split
  next hneg =>
    have hlex : lex '-' (Text.decimal i.natAbs ++ rest) = ⟨.number (some (.int i)), rest⟩ := by
      have hi : i = -(i.natAbs : Int) := by omega
      refine lexNumber_decimal h ?_
      rw [ofNumeral?_minus (by omega) (by omega), ← hi]
    rw [List.cons_append, tokens_cons _ rfl, hlex]
  next hpos =>
    have hi : i = (i.natAbs : Int) := by omega
    cases hdigits : Text.decimal i.natAbs with
    | nil => exact absurd hdigits (Text.decimal_ne_nil _)
    | cons c digits =>
      have hc : c.isDigit = true := by
        have hmem : c ∈ Text.decimal i.natAbs := hdigits ▸ List.mem_cons_self
        exact Text.isDigit_of_mem_decimal hmem
      have hlex : lex c (digits ++ rest) = ⟨.number (some (.int i)), rest⟩ := by
        rw [lex_digit hc, ← List.cons_append, ← hdigits]
        refine lexNumber_decimal h ?_
        rw [ofNumeral?_decimal (by omega), ← hi]
      rw [List.cons_append, tokens_cons _ (isSpace_of_isDigit hc), hlex]

/-! ### The tokens of a value -/

namespace Value

mutual
/-- The tokens that a value is made of. -/
def tokens : Value → List Token
  | .null => [.null]
  | .bool b => [.bool b]
  | .number n => [.number (some n)]
  | .string t => [.string (some t)]
  | .array [] => [.beginArray, .endArray]
  | .array (v :: vs) => .beginArray :: (v.tokens ++ itemTokens vs)
  | .object [] => [.beginObject, .endObject]
  | .object ((name, v) :: ms) =>
    .beginObject :: .string (some name) :: .colon :: (v.tokens ++ memberTokens ms)

/-- The tokens of the items after the first, and of the end of the list. -/
def itemTokens : List Value → List Token
  | [] => [.endArray]
  | v :: vs => .comma :: (v.tokens ++ itemTokens vs)

/-- The tokens of the members after the first, and of the end of the object. -/
def memberTokens : List (Text × Value) → List Token
  | [] => [.endObject]
  | (name, v) :: ms => .comma :: .string (some name) :: .colon :: (v.tokens ++ memberTokens ms)
end

theorem endsNumeral_prettyItems (level : Nat) (vs : List Value) (rest : Text) :
    EndsNumeral (prettyItems level vs ++ rest) := by
  cases vs <;> intro c hc <;> cases hc <;> decide

theorem endsNumeral_prettyMembers (level : Nat) (ms : List (Text × Value)) (rest : Text) :
    EndsNumeral (prettyMembers level ms ++ rest) := by
  cases ms <;> intro c hc <;> cases hc <;> decide

/-- A name, the colon and the blank behind it. -/
theorem tokens_name (name rest : Text) :
    Json.tokens (stringText name ++ ':' :: ' ' :: rest) =
      .string (some name) :: .colon :: Json.tokens rest := by
  rw [tokens_stringText, tokens_cons _ rfl]
  exact congrArg (.string (some name) :: .colon :: ·) (tokens_space ' ' rfl rest)

section

variable {level : Nat} {v : Value} {rest : Text}

/-- An item on a line of its own, and what comes behind it. -/
theorem tokens_item {vs : List Value}
    (hitem : ∀ after, EndsNumeral after →
      Json.tokens (v.pretty (level + 1) ++ after) = v.tokens ++ Json.tokens after)
    (hitems : Json.tokens (prettyItems level vs ++ rest) = itemTokens vs ++ Json.tokens rest) :
    Json.tokens (newLine (level + 1) ++ v.pretty (level + 1) ++ prettyItems level vs ++ rest) =
      v.tokens ++ itemTokens vs ++ Json.tokens rest := by
  rw [List.append_assoc, List.append_assoc, tokens_newLine,
    hitem _ (endsNumeral_prettyItems level vs rest), hitems, List.append_assoc]

/-- A member on a line of its own, and what comes behind it. -/
theorem tokens_member {name : Text} {ms : List (Text × Value)}
    (hmember : ∀ after, EndsNumeral after →
      Json.tokens (v.pretty (level + 1) ++ after) = v.tokens ++ Json.tokens after)
    (hmembers : Json.tokens (prettyMembers level ms ++ rest) = memberTokens ms ++ Json.tokens rest) :
    Json.tokens (newLine (level + 1) ++ stringText name ++ ": " ++ v.pretty (level + 1)
        ++ prettyMembers level ms ++ rest) =
      .string (some name) :: .colon :: (v.tokens ++ memberTokens ms) ++ Json.tokens rest := by
  simp only [List.append_assoc, tokens_newLine]
  rw [show (": " : Text) = [':', ' '] from rfl]
  simp only [List.cons_append, List.nil_append, tokens_name]
  rw [hmember _ (endsNumeral_prettyMembers level ms rest), hmembers, List.append_assoc]

end

mutual
/-- **What is printed for a value has the tokens of the value.** -/
theorem tokens_pretty {depth level : Nat} {rest : Text} : ∀ {v : Value}, v.Fits depth →
    EndsNumeral rest → Json.tokens (v.pretty level ++ rest) = v.tokens ++ Json.tokens rest
  | .null, _, _ => tokens_cons 'n' rfl ("ull" ++ rest)
  | .bool true, _, _ => tokens_cons 't' rfl ("rue" ++ rest)
  | .bool false, _, _ => tokens_cons 'f' rfl ("alse" ++ rest)
  | .number _, .number hlow hhigh, hrest => tokens_integer hlow hhigh hrest
  | .string t, _, _ => tokens_stringText t rest
  | .array [], _, _ => by
    rw [pretty]
    change Json.tokens ('[' :: ']' :: rest) = .beginArray :: .endArray :: Json.tokens rest
    rw [tokens_cons _ rfl]
    exact congrArg (.beginArray :: ·) (tokens_cons ']' rfl rest)
  | .array (v :: vs), .array h, _ => by
    obtain ⟨hv, hvs⟩ := List.forall_mem_cons.1 h
    rw [pretty, List.cons_append, tokens_cons _ rfl]
    exact congrArg (.beginArray :: ·)
      (tokens_item (fun _ => tokens_pretty hv) (tokens_prettyItems hvs))
  | .object [], _, _ => by
    rw [pretty]
    change Json.tokens ('\x7b' :: '\x7d' :: rest) = .beginObject :: .endObject :: Json.tokens rest
    rw [tokens_cons _ rfl]
    exact congrArg (.beginObject :: ·) (tokens_cons '\x7d' rfl rest)
  | .object ((name, v) :: ms), .object h, _ => by
    obtain ⟨hv, hms⟩ := List.forall_mem_cons.1 h
    rw [pretty, List.cons_append, tokens_cons _ rfl]
    exact congrArg (.beginObject :: ·)
      (tokens_member (fun _ => tokens_pretty hv) (tokens_prettyMembers hms))

theorem tokens_prettyItems {depth level : Nat} {rest : Text} : ∀ {vs : List Value},
    (∀ v ∈ vs, v.Fits depth) →
      Json.tokens (prettyItems level vs ++ rest) = itemTokens vs ++ Json.tokens rest
  | [], _ => by
    rw [prettyItems, List.append_assoc, tokens_newLine]
    exact tokens_cons ']' rfl rest
  | v :: vs, h => by
    obtain ⟨hv, hvs⟩ := List.forall_mem_cons.1 h
    rw [prettyItems, List.cons_append, tokens_cons _ rfl]
    exact congrArg (.comma :: ·)
      (tokens_item (fun _ => tokens_pretty hv) (tokens_prettyItems hvs))

theorem tokens_prettyMembers {depth level : Nat} {rest : Text} : ∀ {ms : List (Text × Value)},
    (∀ m ∈ ms, m.2.Fits depth) →
      Json.tokens (prettyMembers level ms ++ rest) = memberTokens ms ++ Json.tokens rest
  | [], _ => by
    rw [prettyMembers, List.append_assoc, tokens_newLine]
    exact tokens_cons '\x7d' rfl rest
  | (name, v) :: ms, h => by
    obtain ⟨hv, hms⟩ := List.forall_mem_cons.1 h
    rw [prettyMembers, List.cons_append, tokens_cons _ rfl]
    exact congrArg (.comma :: ·)
      (tokens_member (fun _ => tokens_pretty hv) (tokens_prettyMembers hms))
end

end Value

end RuleAudit.Json
