import RuleAudit.Lookup
import RuleAudit.Proofs.Text.Utf8
import RuleAudit.Query.Literal
import RuleAudit.Query.Meaning

/-!
# The selector of a metric, read back

A selector holds its metric between double quotes. By the rules for texts in double quotes, this one
ends where the selector ends it, and it stands for the metric and for nothing else.

* `Query.Quotation.read?`: where a text in double quotes ends;
* `Query.Quotation.unescape?`: what it stands for;
* `Lookup.selector_quotes`: a selector is one matcher, whose value is the metric.
-/

namespace RuleAudit

open Text

/-! ### Texts in double quotes -/

namespace Query.Quotation

/-- The inside of a text in double quotes, from behind the opening quote, and what follows the
closing one. A backslash takes the next character with it, the first other quote is the closing one,
and before that no line may end. -/
def cut? : Text → Option (Text × Text)
  | [] => none
  | '\\' :: [] => none
  | '\\' :: c :: rest =>
    if c = '\n' then none else (cut? rest).map fun x => ('\\' :: c :: x.1, x.2)
  | c :: rest =>
    if c = '"' then some ([], rest)
    else if c = '\n' then none
    else (cut? rest).map fun x => (c :: x.1, x.2)

/-- The inside of a text in double quotes, from its opening quote, and what follows it. -/
def read? : Text → Option (Text × Text)
  | '"' :: rest => cut? rest
  | _ => none

/-- The letters and marks that stand for one character behind a backslash. -/
def letters : List (Char × Char) :=
  [('a', '\x07'), ('b', '\x08'), ('f', '\x0C'), ('n', '\n'), ('r', '\r'), ('t', '\t'), ('v', '\x0B'),
   ('\\', '\\'), ('"', '"')]

/-- The byte with a number. -/
def byte? (n : Nat) : Option (List UInt8) := if n < 256 then some [n.toUInt8] else none

/-- The bytes of the character with a number. -/
def character? (n : Nat) : Option (List UInt8) :=
  if n.isValidChar then some (Utf8.encodeChar (Char.ofNat n)) else none

/-- What as many digits stand for as a numeral has, and what follows them. -/
def numeral? (base count : Nat) (value : Nat → Option (List UInt8)) (t : Text) :
    Option (List UInt8 × Text) :=
  if t.length < count then none
  else (wordValue? base (t.take count) >>= value).map fun bytes => (bytes, t.drop count)

/-- The bytes that an escape stands for, from behind its backslash, and what follows it. -/
def escape? : Text → Option (List UInt8 × Text)
  | [] => none
  | c :: rest =>
    match letters.lookup c with
    | some d => some (Utf8.encodeChar d, rest)
    | none =>
      if c = 'x' then numeral? 16 2 byte? rest
      else if c = 'u' then numeral? 16 4 character? rest
      else if c = 'U' then numeral? 16 8 character? rest
      else numeral? 8 3 byte? (c :: rest)

theorem numeral?_rest_length {base count : Nat} {value : Nat → Option (List UInt8)} {t rest : Text}
    {bytes : List UInt8} (hcount : 0 < count)
    (h : numeral? base count value t = some (bytes, rest)) : rest.length < t.length := by
  unfold numeral? at h
  split at h
  · cases h
  next hlong =>
    obtain ⟨bytes', -, heq⟩ := Option.map_eq_some_iff.1 h
    obtain ⟨-, rfl⟩ := Prod.mk.inj heq
    rw [List.length_drop]
    omega

theorem escape?_rest_length {t rest : Text} {bytes : List UInt8}
    (h : escape? t = some (bytes, rest)) : rest.length < t.length := by
  cases t with
  | nil => cases h
  | cons c t =>
    rw [List.length_cons]
    simp only [escape?] at h
    split at h
    · obtain ⟨-, rfl⟩ := Prod.mk.inj (Option.some.inj h)
      omega
    split at h
    · exact Nat.lt_succ_of_lt (numeral?_rest_length (by omega) h)
    split at h
    · exact Nat.lt_succ_of_lt (numeral?_rest_length (by omega) h)
    split at h
    · exact Nat.lt_succ_of_lt (numeral?_rest_length (by omega) h)
    · exact numeral?_rest_length (by omega) h

/-- The bytes that the inside of a text in double quotes stands for, if all its escapes stand for
something. -/
def bytes? : Text → Option (List UInt8)
  | [] => some []
  | c :: rest =>
    if c = '\\' then
      match _h : escape? rest with
      | none => none
      | some (bytes, rest) => (bytes? rest).map (bytes ++ ·)
    else (bytes? rest).map (Utf8.encodeChar c ++ ·)
termination_by t => t.length
decreasing_by
  · have := escape?_rest_length _h
    simp only [List.length_cons]
    omega
  · simp

/-- The text that the inside of a text in double quotes stands for. -/
def unescape? (t : Text) : Option Text := bytes? t >>= Utf8.decode?

theorem bytes?_escape {t rest : Text} {bytes : List UInt8} (h : escape? t = some (bytes, rest)) :
    bytes? ('\\' :: t) = (bytes? rest).map (bytes ++ ·) := by
  rw [bytes?, if_pos rfl]
  split
  next hnone => cases hnone.symm.trans h
  next hsome =>
    cases hsome.symm.trans h
    rfl

theorem bytes?_of_ne {c : Char} (h : c ≠ '\\') (rest : Text) :
    bytes? (c :: rest) = (bytes? rest).map (Utf8.encodeChar c ++ ·) := by
  rw [bytes?, if_neg h]

end Query.Quotation

theorem Query.tokensFrom_of_step {mode : Mode} {parens : Nat} {c : Char} {rest : Text} {s : Step}
    (h : step mode parens c rest = .ok s) :
    tokensFrom mode parens (c :: rest) =
      (tokensFrom s.mode s.parens s.rest).map (s.token.toList ++ ·) := by
  rw [tokensFrom]
  split
  next hfault => cases hfault.symm.trans h
  next hs =>
    cases hs.symm.trans h
    rfl

/-! ### Escaped characters -/

namespace Lookup

open Query Quotation

/-- A character is escaped by a backslash and one more character, which is not the end of a line and
stands for the character; or it is left as it is, and is no quote, backslash or end of a line. -/
theorem escapeChar_cases (c : Char) :
    (∃ d, escapeChar c = ['\\', d] ∧ letters.lookup d = some c ∧ d ≠ '\n' ∧
        (d = '"' ∨ isEscape d = true)) ∨
      (escapeChar c = [c] ∧ c ≠ '\\' ∧ c ≠ '"' ∧ c ≠ '\n') := by
  unfold escapeChar
  by_cases hslash : c = '\\'
  · subst hslash
    exact .inl ⟨'\\', rfl, rfl, by decide, .inr (by decide)⟩
  by_cases hquote : c = '"'
  · subst hquote
    exact .inl ⟨'"', rfl, rfl, by decide, .inl rfl⟩
  by_cases hline : c = '\n'
  · subst hline
    exact .inl ⟨'n', rfl, rfl, by decide, .inr (by decide)⟩
  · rw [if_neg hslash, if_neg hquote, if_neg hline]
    exact .inr ⟨rfl, hslash, hquote, hline⟩

/-- An escaped text goes on up to the quote that is put behind it. -/
theorem cut?_escaped (t rest : Text) :
    cut? (t.flatMap escapeChar ++ '"' :: rest) = some (t.flatMap escapeChar, rest) := by
  induction t with
  | nil => rfl
  | cons c t ih =>
    rw [List.flatMap_cons, List.append_assoc]
    obtain ⟨d, hc, -, hline, -⟩ | ⟨hc, hslash, hquote, hline⟩ := escapeChar_cases c
    · simp [hc, cut?, hline, ih]
    · simp [hc, cut?, hslash, hquote, hline, ih]

/-- An escaped text stands for the text. -/
theorem bytes?_escaped (t : Text) : bytes? (t.flatMap escapeChar) = some (Utf8.encode t) := by
  induction t with
  | nil =>
    rw [List.flatMap_nil, bytes?]
    rfl
  | cons c t ih =>
    rw [List.flatMap_cons]
    obtain ⟨d, hc, hd, -, -⟩ | ⟨hc, hslash, -, -⟩ := escapeChar_cases c
    · have hescape : escape? (d :: t.flatMap escapeChar) =
          some (Utf8.encodeChar c, t.flatMap escapeChar) := by
        rw [escape?, hd]
      rw [hc, List.cons_append, List.singleton_append, bytes?_escape hescape, ih]
      rfl
    · rw [hc, List.singleton_append, bytes?_of_ne hslash, ih]
      rfl

theorem unescape?_escaped (t : Text) : unescape? (t.flatMap escapeChar) = some t := by
  rw [unescape?, bytes?_escaped]
  exact Utf8.decode?_encode t

/-- In a query, too, an escaped text goes on up to the quote that is put behind it. -/
theorem lexString_escaped (t rest : Text) :
    lexString '"' (t.flatMap escapeChar ++ '"' :: rest) = .ok (t.flatMap escapeChar, rest) := by
  induction t with
  | nil => rfl
  | cons c t ih =>
    rw [List.flatMap_cons, List.append_assoc]
    obtain ⟨d, hc, -, -, hd⟩ | ⟨hc, hslash, hquote, -⟩ := escapeChar_cases c
    · simp [hc, lexString, hd, ih, bind, Except.bind, pure, Except.pure]
    · simp [hc, lexString, hslash, hquote, ih, bind, Except.bind, pure, Except.pure]

/-! ### Selectors -/

theorem selector_eq (metric : Text) :
    selector metric = "\x7b__name__=" ++ '"' :: (metric.flatMap escapeChar ++ "\"\x7d") :=
  List.append_assoc _ _ _

theorem selector_inj {metric other : Text} : selector other = selector metric ↔ other = metric := by
  constructor
  · intro h
    rw [selector_eq, selector_eq] at h
    have hescaped : other.flatMap escapeChar = metric.flatMap escapeChar := by simpa using h
    have hself := unescape?_escaped other
    rw [hescaped, unescape?_escaped] at hself
    exact (Option.some.inj hself).symm
  · rintro rfl
    rfl

/-- As a query, a selector has the tokens of one matcher in braces. -/
theorem tokens_selector (metric : Text) :
    tokens (selector metric) = .ok [.leftBrace, .name nameLabel, .matching .equal,
      .string (metric.flatMap escapeChar), .rightBrace, .stop] := by
  let body := metric.flatMap escapeChar
  let tail := '"' :: (body ++ "\"\x7d")
  have hbrace : step .plain 0 '\x7b' ('_' :: ("_name__=" ++ tail)) =
      .ok ⟨some .leftBrace, .braces, 0, '_' :: ("_name__=" ++ tail)⟩ := rfl
  have hname : step .braces 0 '_' ("_name__=" ++ tail) =
      .ok ⟨some (.name nameLabel), .braces, 0, '=' :: tail⟩ := rfl
  have hequal : step .braces 0 '=' tail = .ok ⟨some (.matching .equal), .braces, 0, tail⟩ := rfl
  have hstring : step .braces 0 '"' (body ++ "\"\x7d") =
      .ok ⟨some (.string body), .braces, 0, ['\x7d']⟩ := by
    have hlex : lexString '"' (body ++ "\"\x7d") = .ok (body, ['\x7d']) :=
      lexString_escaped metric ['\x7d']
    change Except.map _ (Except.map _ (lexString '"' (body ++ "\"\x7d"))) = _
    rw [hlex]
    rfl
  have hclosing : step .braces 0 '\x7d' [] = .ok ⟨some .rightBrace, .plain, 0, []⟩ := rfl
  rw [selector_eq]
  change tokensFrom .plain 0 ('\x7b' :: '_' :: ("_name__=" ++ tail)) = _
  rw [tokensFrom_of_step hbrace, tokensFrom_of_step hname, tokensFrom_of_step hequal,
    tokensFrom_of_step hstring, tokensFrom_of_step hclosing, tokensFrom]
  rfl

/-- **A selector asks for its metric and for nothing else.** Between its braces it has a text in
double quotes, which ends at the quote before the closing brace and stands for the metric. The
selector is made up of a single matcher, and different metrics have different selectors. -/
theorem selector_quotes (metric : Text) :
    ∃ body, selector metric = "\x7b__name__=" ++ '"' :: (body ++ "\"\x7d") ∧
      read? ('"' :: (body ++ "\"\x7d")) = some (body, ['\x7d']) ∧
      unescape? body = some metric ∧
      tokens (selector metric) =
        .ok [.leftBrace, .name nameLabel, .matching .equal, .string body, .rightBrace, .stop] ∧
      ∀ other, selector other = selector metric ↔ other = metric :=
  ⟨metric.flatMap escapeChar, selector_eq metric, cut?_escaped metric "\x7d",
    unescape?_escaped metric, tokens_selector metric, fun _ => selector_inj⟩

end Lookup

end RuleAudit
