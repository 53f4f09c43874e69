import RuleAudit.Proofs.Text.Cutting
import RuleAudit.Proofs.Text.Numeral
import RuleAudit.Text.Quoted

/-!
# Quoted texts, read back

Behind a backslash stands the name of a character: a letter or sign, or its code point in braces.
The first quote that is no such name closes the text.

* `Text.Quoted.encodeChar_cases`: the two forms of a character between quotes;
* `Text.Quoted.read?`: what a quoted text stands for, and what follows it;
* `Text.Quoted.read?_quoted`: a text is had again from its quoted form, whatever follows.
-/

namespace RuleAudit.Text.Quoted

/-! ### Names of characters -/

/-- The letters and signs that stand behind a backslash for one character. -/
def names : List (Char × Char) :=
  [('0', '\x00'), ('t', '\t'), ('r', '\r'), ('n', '\n'), ('\\', '\\'), ('"', '"')]

/-- The character of a code point in base sixteen. -/
def ofCodePoint? (digits : Text) : Option Char :=
  (hexValue? digits).bind fun n => if n.isValidChar then some (Char.ofNat n) else none

/-- The character of a code point that stands in braces, and what follows it. -/
def braced? : Text → Option (Char × Text)
  | '\x7b' :: rest =>
    match cut '\x7d' rest with
    | (digits, some rest) => (ofCodePoint? digits).map fun c => (c, rest)
    | (_, none) => none
  | _ => none

/-- The character that is named behind a backslash, and what follows its name. -/
def name? : Text → Option (Char × Text)
  | [] => none
  | c :: rest => if c = 'u' then braced? rest else (names.lookup c).map fun d => (d, rest)

theorem ofCodePoint?_hex (c : Char) : ofCodePoint? (hex c.toNat) = some c := by
  have hvalid : c.toNat.isValidChar := c.valid
  rw [ofCodePoint?, hexValue?_hex, Option.bind_some, if_pos hvalid, Char.ofNat_toNat]

/-- A code point in braces ends at the brace that closes it. -/
theorem braced?_hex (c : Char) (rest : Text) :
    braced? ('\x7b' :: (hex c.toNat ++ '\x7d' :: rest)) = some (c, rest) := by
  have hbrace : '\x7d' ∉ hex c.toNat := notMem_hex rfl _
  rw [braced?, cut_append hbrace]
  simp only [ofCodePoint?_hex, Option.map_some]

/-- A character between quotes is named behind a backslash, or it stands as it is and is neither a
backslash nor a quote. -/
theorem encodeChar_cases (c : Char) :
    (∃ name, encodeChar '"' c = '\\' :: name ∧ ∀ rest, name? (name ++ rest) = some (c, rest)) ∨
      (encodeChar '"' c = [c] ∧ c ≠ '\\' ∧ c ≠ '"') := by
  have hcode : ∀ rest, name? ("u\x7b" ++ hex c.toNat ++ "\x7d" ++ rest) = some (c, rest) := by
    intro rest
    have htext : ("u\x7b" ++ hex c.toNat ++ "\x7d" ++ rest : Text) =
        'u' :: '\x7b' :: (hex c.toNat ++ '\x7d' :: rest) := by
      simp
    rw [htext, name?, if_pos rfl, braced?_hex]
  unfold encodeChar
  split_ifs with hnull htab hreturn hline hslash hquote hextender hprintable
  · exact .inl ⟨['0'], rfl, fun _ => by rw [hnull]; rfl⟩
  · exact .inl ⟨['t'], rfl, fun _ => by rw [htab]; rfl⟩
  · exact .inl ⟨['r'], rfl, fun _ => by rw [hreturn]; rfl⟩
  · exact .inl ⟨['n'], rfl, fun _ => by rw [hline]; rfl⟩
  · exact .inl ⟨['\\'], rfl, fun _ => by rw [hslash]; rfl⟩
  · exact .inl ⟨['"'], rfl, fun _ => by rw [hquote]; rfl⟩
  · exact .inl ⟨_, rfl, hcode⟩
  · exact .inr ⟨rfl, hslash, hquote⟩
  · exact .inl ⟨_, rfl, hcode⟩

/-! ### Up to the closing quote -/

theorem braced?_rest_length {t rest : Text} {c : Char} (h : braced? t = some (c, rest)) :
    rest.length < t.length := by
  unfold braced? at h
  split at h
  next tail =>
    split at h
    next digits rest' hcut =>
      obtain ⟨d, -, heq⟩ := Option.map_eq_some_iff.1 h
      obtain ⟨-, rfl⟩ := Prod.mk.inj heq
      have hshort := cut_rest_length hcut
      rw [List.length_cons]
      omega
    next => cases h
  next => cases h

theorem name?_rest_length {t rest : Text} {c : Char} (h : name? t = some (c, rest)) :
    rest.length < t.length := by
  cases t with
  | nil => cases h
  | cons d t =>
    rw [List.length_cons]
    rw [name?] at h
    split at h
    · exact Nat.lt_succ_of_lt (braced?_rest_length h)
    · obtain ⟨e, -, heq⟩ := Option.map_eq_some_iff.1 h
      obtain ⟨-, rfl⟩ := Prod.mk.inj heq
      exact Nat.lt_succ_self _

/-- The text that is quoted, from behind its opening quote, and what follows the closing one. -/
def inside? : Text → Option (Text × Text)
  | [] => none
  | c :: rest =>
    if c = '"' then some ([], rest)
    else if c = '\\' then
      match _h : name? rest with
      | none => none
      | some (d, rest) => (inside? rest).map fun x => (d :: x.1, x.2)
    else (inside? rest).map fun x => (c :: x.1, x.2)
termination_by t => t.length
decreasing_by
  · have hshort := name?_rest_length _h
    simp only [List.length_cons]
    omega
  · simp

theorem inside?_quote (rest : Text) : inside? ('"' :: rest) = some ([], rest) := by
  rw [inside?, if_pos rfl]

theorem inside?_name {t rest : Text} {c : Char} (h : name? t = some (c, rest)) :
    inside? ('\\' :: t) = (inside? rest).map fun x => (c :: x.1, x.2) := by
  rw [inside?, if_neg (by decide), if_pos rfl]
  split
  next hnone => cases hnone.symm.trans h
  next hsome =>
    cases hsome.symm.trans h
    rfl

theorem inside?_of_ne {c : Char} (hslash : c ≠ '\\') (hquote : c ≠ '"') (rest : Text) :
    inside? (c :: rest) = (inside? rest).map fun x => (c :: x.1, x.2) := by
  rw [inside?, if_neg hquote, if_neg hslash]

theorem inside?_encode (t rest : Text) : inside? (encode t ++ '"' :: rest) = some (t, rest) := by
  induction t with
  | nil => exact inside?_quote rest
  | cons c t ih =>
    have hsplit : encode (c :: t) ++ '"' :: rest =
        encodeChar '"' c ++ (encode t ++ '"' :: rest) := by
      rw [encode, List.flatMap_cons, List.append_assoc]
      rfl
    rw [hsplit]
    obtain ⟨name, hc, hname⟩ | ⟨hc, hslash, hquote⟩ := encodeChar_cases c
    · rw [hc, List.cons_append, inside?_name (hname _), ih, Option.map_some]
    · rw [hc, List.singleton_append, inside?_of_ne hslash hquote, ih, Option.map_some]

/-- The text that is quoted, from its opening quote, and what follows the closing one. -/
def read? : Text → Option (Text × Text)
  | '"' :: rest => inside? rest
  | _ => none

/-- **A text is had again from its quoted form**, which ends at its own closing quote, whatever
stands in the text or behind the quote. -/
theorem read?_quoted (t rest : Text) : read? (quoted t ++ rest) = some (t, rest) := by
  have hopen : quoted t ++ rest = '"' :: (encode t ++ '"' :: rest) := by
    rw [quoted, List.cons_append, List.append_assoc, List.singleton_append]
  rw [hopen, read?, inside?_encode]

end RuleAudit.Text.Quoted
