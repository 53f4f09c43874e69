import RuleAudit.Text.Quoted
import RuleAudit.Query.Token

/-!
The tokens of a query. Inside braces and inside brackets other tokens are found than elsewhere, so
the text is read in one of three modes. The first fault ends the reading and is told in words.
-/

namespace RuleAudit.Query

/-! ### Pieces of a text -/

/-- A way to cut a text in two: the start that is wanted, and the rest. -/
abbrev Cut := Text → Text × Text

namespace Cut

/-- Wants nothing. -/
def nothing : Cut := fun t => ([], t)

/-- Wants the first character if it satisfies `p`. -/
def one (p : Char → Bool) : Cut
  | [] => ([], [])
  | c :: rest => if p c then ([c], rest) else ([], c :: rest)

/-- Wants the longest start whose characters satisfy `p`. -/
def run (p : Char → Bool) : Cut := fun t => (t.takeWhile p, t.dropWhile p)

/-- Cuts the rest again, in a way that may depend on the first piece, and joins the two pieces. -/
def andThen (a : Cut) (b : Text → Cut) : Cut := fun t =>
  let (taken, rest) := a t
  let (more, rest) := b taken rest
  (taken ++ more, rest)

/-- The two parts make up the text. -/
def Sound (a : Cut) : Prop := ∀ t, (a t).1 ++ (a t).2 = t

theorem nothing_sound : Sound nothing := fun _ => rfl

theorem one_sound (p : Char → Bool) : Sound (one p) := by
  intro t
  cases t with
  | nil => rfl
  | cons c rest => simp only [one]; split <;> rfl

theorem run_sound (p : Char → Bool) : Sound (run p) := fun _ => List.takeWhile_append_dropWhile

theorem andThen_sound {a : Cut} {b : Text → Cut} (ha : Sound a) (hb : ∀ x, Sound (b x)) :
    Sound (andThen a b) := by
  intro t
  simp only [andThen, List.append_assoc, hb _ _, ha t]

theorem Sound.suffix {a : Cut} (h : Sound a) (t : Text) : (a t).2 <:+ t := ⟨(a t).1, h t⟩

end Cut

/-! ### Numbers and durations -/

/-- A digit in base sixteen. -/
def isHexDigit (c : Char) : Bool := (Text.hexDigit? c).isSome

/-- The exponent of a number. -/
def cutExponent : Cut :=
  Cut.andThen (Cut.one fun c => c == 'e' || c == 'E') fun e =>
    if e = [] then Cut.nothing
    else Cut.andThen (Cut.one fun c => c == '+' || c == '-') fun _ => Cut.run Char.isDigit

/-- The point of a number with the digits after it. -/
def cutFraction (digit : Char → Bool) : Cut :=
  Cut.andThen (Cut.one (· == '.')) fun point => if point = [] then Cut.nothing else Cut.run digit

/-- What looks like a number after its first character: digits with a point and an exponent, or
digits in base sixteen after `0x`. -/
def cutNumber (c : Char) : Cut :=
  if c = '.' then Cut.andThen (Cut.run Char.isDigit) fun _ => cutExponent
  else
    Cut.andThen (if c = '0' then Cut.one fun x => x == 'x' || x == 'X' else Cut.nothing) fun mark =>
      let digit := if mark = [] then Char.isDigit else isHexDigit
      Cut.andThen (Cut.run digit) fun _ => Cut.andThen (cutFraction digit) fun _ => cutExponent

/-- A letter that may follow the first number of a duration. -/
def isFirstUnit (c : Char) : Bool := c ∈ ['s', 'm', 'h', 'd', 'w', 'y']

/-- A letter that may follow a later number of a duration. -/
def isLaterUnit (c : Char) : Bool := c ∈ ['s', 'm', 'h', 'd', 'w']

/-- Further numbers of a duration with their units: the part that was read, whether it is right so
far, and the rest. -/
def cutLaterUnits (t : Text) : Text × Bool × Text :=
  match t.takeWhile Char.isDigit with
  | [] => ([], !(t.head?.elim false isLabelChar), t)
  | d :: ds =>
    match _h : t.dropWhile Char.isDigit with
    | c :: rest =>
      if isLaterUnit c then
        let unit := Cut.one (· == 's') rest
        let (taken, right, rest) := cutLaterUnits unit.2
        (d :: ds ++ c :: unit.1 ++ taken, right, rest)
      else (d :: ds, false, c :: rest)
    | [] => (d :: ds, false, [])
termination_by t.length
decreasing_by
  have h1 := congrArg List.length (List.takeWhile_append_dropWhile (p := Char.isDigit) (l := t))
  have h2 := ((Cut.one_sound (· == 's')).suffix rest).length_le
  rw [_h, List.length_append, List.length_cons] at h1
  omega

/-- The rest of a duration after its first number. -/
def cutUnits : Text → Text × Bool × Text
  | [] => ([], false, [])
  | c :: rest =>
    if isFirstUnit c then
      let (s, rest) := Cut.one (· == 's') rest
      let (taken, right, rest) := cutLaterUnits rest
      (c :: s ++ taken, right, rest)
    else ([], false, c :: rest)

/-- Reads a duration; the message about a wrong one shows it up to the character where it went
wrong. -/
def lexDuration (fault : Text) (number rest : Text) : Except Text (Token × Text) :=
  let (units, right, rest) := cutUnits rest
  if right then .ok (.duration (number ++ units), rest)
  else .error (fault ++ number ++ units ++ rest.take 1)

/-- Reads a number or a duration that begins with the given character. -/
def lexNumber (c : Char) (rest : Text) : Except Text (Token × Text) :=
  let (number, rest) := cutNumber c rest
  if rest.head?.elim true fun d => !isNameStart d && d != '.' then
    .ok (.number (c :: number), rest)
  else lexDuration "bad number or duration syntax: " (c :: number) rest

/-! ### Strings and names -/

/-- A character that may follow a backslash in a string, besides the quote. -/
def isEscape (c : Char) : Bool :=
  c ∈ ['a', 'b', 'f', 'n', 'r', 't', 'v', '\\', '0', '1', '2', '3', '4', '5', '6', '7', 'x', 'u',
    'U']

/-- Reads a string from behind its opening quote, and gives what stands before the closing one. -/
def lexString (quote : Char) : Text → Except Text (Text × Text)
  | [] => .error ("unterminated quoted string " ++ [quote])
  | '\\' :: [] => .error "escape sequence not terminated"
  | '\\' :: c :: rest =>
    if c = quote ∨ isEscape c then do
      let (body, rest) ← lexString quote rest
      pure ('\\' :: c :: body, rest)
    else .error ("unknown escape sequence '" ++ c :: "'")
  | c :: rest =>
    if c = quote then pure ([], rest)
    else do
      let (body, rest) ← lexString quote rest
      pure (c :: body, rest)

/-- The token of a word. -/
def wordToken (t : Text) : Token :=
  if isNumberWord t then .number t
  else
    match Keyword.ofWord? t with
    | some k => .keyword k t
    | none => if t.any (· == ':') then .colonName t else .name t

/-! ### Modes -/

/-- Where a text is read: elsewhere, inside braces, or inside brackets. -/
inductive Mode
  | plain
  | braces
  /-- `fresh`: nothing has been read since the bracket; `colon`: the colon has been read. -/
  | brackets (fresh colon : Bool)
deriving DecidableEq, Repr

/-- What the reading of one piece gives: a token, unless the piece is blank, and the mode, the
number of open parentheses and the text for the next piece. -/
structure Step where
  token : Option Token
  mode : Mode
  parens : Nat
  rest : Text

/-- A message that ends with a character between quotes. -/
def about (message : Text) (c : Char) : Text := message ++ '\x27' :: c :: "'"

/-- The marks that are tokens by themselves. -/
def mark? (c : Char) : Option Token :=
  if c = '@' then some .at
  else if c = ',' then some .comma
  else if c = '*' then some (.operator .mul)
  else if c = '/' then some (.operator .div)
  else if c = '%' then some (.operator .mod)
  else if c = '+' then some (.operator .add)
  else if c = '-' then some (.operator .sub)
  else if c = '^' then some (.operator .pow)
  else none

/-- Reads a mark that a second character may change. -/
def lexMark (c : Char) (rest : Text) : Except Text (Token × Text) :=
  match c, rest with
  | '=', '=' :: rest => .ok (.operator .equal, rest)
  | '=', '~' :: _ => .error "unexpected character after '=': '~'"
  | '=', rest => .ok (.matching .equal, rest)
  | '!', '=' :: rest => .ok (.operator .notEqual, rest)
  | '!', d :: _ => .error (about "unexpected character after '!': " d)
  | '!', [] => .error "'!' can not be at the end"
  | '<', '=' :: rest => .ok (.operator .lessEqual, rest)
  | '<', rest => .ok (.operator .less, rest)
  | '>', '=' :: rest => .ok (.operator .greaterEqual, rest)
  | '>', rest => .ok (.operator .greater, rest)
  | '.', d :: _ => .error (about "unexpected character after '.': " d)
  | '.', [] => .error "unexpected character: '.'"
  | '\x7d', _ => .error "unexpected right brace '\x7d'"
  | ']', _ => .error "unexpected right bracket ']'"
  | c, _ => .error ("unexpected character: " ++ Text.quotedChar c)

/-- A quotation mark. -/
def isQuote (c : Char) : Bool := c == '"' || c == '\x27' || c == '\x60'

/-- Reads a token outside braces and brackets. -/
def lexPlain (c : Char) (rest : Text) : Except Text (Token × Text) :=
  match mark? c with
  | some t => .ok (t, rest)
  | none =>
    if c.isDigit ∨ (c = '.' ∧ rest.head?.elim false Char.isDigit) then lexNumber c rest
    else if isNameStart c ∨ c = ':' then
      let (word, rest) := Cut.run isMetricChar rest
      .ok (wordToken (c :: word), rest)
    else if isQuote c then (lexString c rest).map fun (body, rest) => (.string body, rest)
    else lexMark c rest

/-- Reads a piece outside braces and brackets. -/
def stepPlain (parens : Nat) (c : Char) (rest : Text) : Except Text Step :=
  if isSpace c then .ok ⟨none, .plain, parens, rest⟩
  else if c = '#' then .ok ⟨none, .plain, parens, rest.dropWhile (!isLineEnd ·)⟩
  else if c = '(' then .ok ⟨some .leftParen, .plain, parens + 1, rest⟩
  else if c = ')' then
    if parens = 0 then .error "unexpected right parenthesis ')'"
    else .ok ⟨some .rightParen, .plain, parens - 1, rest⟩
  else if c = '\x7b' then .ok ⟨some .leftBrace, .braces, parens, rest⟩
  else if c = '[' then .ok ⟨some .leftBracket, .brackets true false, parens, rest⟩
  else (lexPlain c rest).map fun (t, rest) => ⟨some t, .plain, parens, rest⟩

/-- The word between two matchers, which a space must follow. -/
def joiner? (c : Char) : Text → Option (Token × Text)
  | d :: ' ' :: rest =>
    if (c = 'o' ∨ c = 'O') ∧ (d = 'r' ∨ d = 'R') then
      some (.keyword (.operator .union) [c, d], ' ' :: rest)
    else none
  | _ => none

/-- Reads a mark inside braces. -/
def lexBraceMark (c : Char) (rest : Text) : Except Text (Token × Text) :=
  match c, rest with
  | ',', rest => .ok (.comma, rest)
  | '=', '~' :: rest => .ok (.matching .pattern, rest)
  | '=', rest => .ok (.matching .equal, rest)
  | '!', '~' :: rest => .ok (.matching .notPattern, rest)
  | '!', '=' :: rest => .ok (.operator .notEqual, rest)
  | '!', d :: _ => .error (about "unexpected character after '!' inside braces: " d)
  | '!', [] => .error "'!' can not be at the end"
  | '\x7b', _ => .error "unexpected left brace '\x7b' inside braces"
  | c, _ => .error (about "unexpected character inside braces: " c)

/-- Reads a token inside braces. -/
def lexBraces (c : Char) (rest : Text) : Except Text (Token × Text) :=
  if isNameStart c then
    match joiner? c rest with
    | some found => .ok found
    | none =>
      let (word, rest) := Cut.run isLabelChar rest
      .ok (.name (c :: word), rest)
  else if isQuote c then (lexString c rest).map fun (body, rest) => (.string body, rest)
  else lexBraceMark c rest

/-- Reads a piece inside braces. -/
def stepBraces (parens : Nat) (c : Char) (rest : Text) : Except Text Step :=
  if isSpace c then .ok ⟨none, .braces, parens, rest⟩
  else if c = '#' then .ok ⟨none, .braces, parens, rest.dropWhile (!isLineEnd ·)⟩
  else if c = '\x7d' then .ok ⟨some .rightBrace, .plain, parens, rest⟩
  else (lexBraces c rest).map fun (t, rest) => ⟨some t, .braces, parens, rest⟩

/-- Reads a piece inside brackets. -/
def stepBrackets (fresh colon : Bool) (parens : Nat) (c : Char) (rest : Text) : Except Text Step :=
  if isSpace c then .ok ⟨none, .brackets false colon, parens, rest⟩
  else if c = ':' then
    if colon then .error "unexpected second colon(:) in brackets"
    else if fresh then .error "expect duration before first colon(:) in brackets"
    else .ok ⟨some .colon, .brackets false true, parens, rest⟩
  else if c.isDigit then
    let (number, rest) := cutNumber c rest
    (lexDuration "bad duration syntax: " (c :: number) rest).map fun (t, rest) =>
      ⟨some t, .brackets false colon, parens, rest⟩
  else if c = ']' then .ok ⟨some .rightBracket, .plain, parens, rest⟩
  else if c = '[' then .error "unexpected left brace '[' inside brackets"
  else .error (about "unexpected character inside brackets: " c)

/-- Reads the piece that begins with a character. -/
def step (mode : Mode) (parens : Nat) (c : Char) (rest : Text) : Except Text Step :=
  match mode with
  | .plain => stepPlain parens c rest
  | .braces => stepBraces parens c rest
  | .brackets fresh colon => stepBrackets fresh colon parens c rest

/-- The tokens at the end of the text. -/
def finish (mode : Mode) (parens : Nat) : Except Text (List Token) :=
  match mode with
  | .plain => if parens = 0 then .ok [.stop] else .error "unclosed left parenthesis"
  | .braces => .error "unexpected end of input inside braces"
  | .brackets .. => .error "unexpected end of input inside brackets"

/-! ### Every piece leaves less text -/

theorem cutExponent_sound : cutExponent.Sound := by
  refine Cut.andThen_sound (Cut.one_sound _) fun e => ?_
  split
  · exact Cut.nothing_sound
  · exact Cut.andThen_sound (Cut.one_sound _) fun _ => Cut.run_sound _

theorem cutFraction_sound (digit : Char → Bool) : (cutFraction digit).Sound := by
  refine Cut.andThen_sound (Cut.one_sound _) fun point => ?_
  split
  · exact Cut.nothing_sound
  · exact Cut.run_sound _

theorem cutNumber_sound (c : Char) : (cutNumber c).Sound := by
  unfold cutNumber
  split
  · exact Cut.andThen_sound (Cut.run_sound _) fun _ => cutExponent_sound
  · refine Cut.andThen_sound ?_ fun mark => ?_
    · split
      · exact Cut.one_sound _
      · exact Cut.nothing_sound
    · exact Cut.andThen_sound (Cut.run_sound _) fun _ =>
        Cut.andThen_sound (cutFraction_sound _) fun _ => cutExponent_sound

theorem dropWhile_suffix_of_cons {p : Char → Bool} {t rest : Text} {c : Char}
    (h : t.dropWhile p = c :: rest) : rest <:+ t :=
  List.IsSuffix.trans (h ▸ List.suffix_cons c rest) (List.dropWhile_suffix p)

theorem cutLaterUnits_suffix (t : Text) : (cutLaterUnits t).2.2 <:+ t := by
  fun_induction cutLaterUnits t with
  | case1 t h => exact List.suffix_refl t
  | case2 t d ds h c rest h2 hc unit taken right rest' heq ih =>
    rw [heq] at ih
    exact ih.trans (((Cut.one_sound _).suffix rest).trans (dropWhile_suffix_of_cons h2))
  | case3 t d ds h c rest h2 hc => exact h2 ▸ List.dropWhile_suffix _
  | case4 t d ds h h2 => exact List.nil_suffix

theorem cutUnits_suffix (t : Text) : (cutUnits t).2.2 <:+ t := by
  unfold cutUnits
  split
  · exact List.nil_suffix
  · rename_i c rest
    split
    · exact (cutLaterUnits_suffix _).trans
        (((Cut.one_sound _).suffix rest).trans (List.suffix_cons c rest))
    · exact List.suffix_refl _

theorem lexDuration_suffix {fault number rest rest' : Text} {t : Token}
    (h : lexDuration fault number rest = .ok (t, rest')) : rest' <:+ rest := by
  unfold lexDuration at h
  dsimp only at h
  split at h
  · simp only [Except.ok.injEq, Prod.mk.injEq] at h
    exact h.2 ▸ cutUnits_suffix rest
  · simp at h

theorem lexNumber_suffix {c : Char} {rest rest' : Text} {t : Token}
    (h : lexNumber c rest = .ok (t, rest')) : rest' <:+ rest := by
  unfold lexNumber at h
  dsimp only at h
  have hs := (cutNumber_sound c).suffix rest
  split at h
  · simp only [Except.ok.injEq, Prod.mk.injEq] at h
    exact h.2 ▸ hs
  · exact (lexDuration_suffix h).trans hs

theorem lexString_suffix {quote : Char} {t body rest : Text}
    (h : lexString quote t = .ok (body, rest)) : rest <:+ t := by
  fun_induction lexString quote t generalizing body rest with
  | case1 => simp at h
  | case2 => simp at h
  | case3 c r hc ih =>
    cases hr : lexString quote r with
    | error e => simp [hr, bind, Except.bind] at h
    | ok x =>
      simp only [hr, bind, Except.bind, pure, Except.pure, Except.ok.injEq, Prod.mk.injEq] at h
      exact h.2 ▸ (ih hr).trans ((List.suffix_cons c r).trans (List.suffix_cons _ _))
  | case4 => simp at h
  | case5 r _ _ =>
    simp only [pure, Except.pure, Except.ok.injEq, Prod.mk.injEq] at h
    exact h.2 ▸ List.suffix_cons _ _
  | case6 c r _ _ hc ih =>
    cases hr : lexString quote r with
    | error e => simp [hr, bind, Except.bind] at h
    | ok x =>
      simp only [hr, bind, Except.bind, pure, Except.pure, Except.ok.injEq, Prod.mk.injEq] at h
      exact h.2 ▸ (ih hr).trans (List.suffix_cons _ _)

theorem lexMark_suffix {c : Char} {rest rest' : Text} {t : Token}
    (h : lexMark c rest = .ok (t, rest')) : rest' <:+ rest := by
  unfold lexMark at h
  split at h <;> simp_all

theorem quotedString_suffix {c : Char} {rest rest' : Text} {t : Token}
    (h : (lexString c rest).map (fun x => (Token.string x.1, x.2)) = .ok (t, rest')) :
    rest' <:+ rest := by
  cases hr : lexString c rest with
  | error e => simp [hr, Except.map] at h
  | ok x =>
    simp only [hr, Except.map, Except.ok.injEq, Prod.mk.injEq] at h
    exact h.2 ▸ lexString_suffix hr

theorem lexPlain_suffix {c : Char} {rest rest' : Text} {t : Token}
    (h : lexPlain c rest = .ok (t, rest')) : rest' <:+ rest := by
  unfold lexPlain at h
  split at h
  · simp only [Except.ok.injEq, Prod.mk.injEq] at h
    exact h.2 ▸ List.suffix_refl _
  split at h
  · exact lexNumber_suffix h
  split at h
  · simp only [Except.ok.injEq, Prod.mk.injEq] at h
    exact h.2 ▸ (Cut.run_sound isMetricChar).suffix rest
  split at h
  · exact quotedString_suffix h
  · exact lexMark_suffix h

theorem joiner?_suffix {c : Char} {rest rest' : Text} {t : Token}
    (h : joiner? c rest = some (t, rest')) : rest' <:+ rest := by
  unfold joiner? at h
  split at h
  · split at h
    · simp only [Option.some.injEq, Prod.mk.injEq] at h
      exact h.2 ▸ List.suffix_cons _ _
    · simp at h
  · simp at h

theorem lexBraceMark_suffix {c : Char} {rest rest' : Text} {t : Token}
    (h : lexBraceMark c rest = .ok (t, rest')) : rest' <:+ rest := by
  unfold lexBraceMark at h
  split at h <;> simp_all

theorem lexBraces_suffix {c : Char} {rest rest' : Text} {t : Token}
    (h : lexBraces c rest = .ok (t, rest')) : rest' <:+ rest := by
  unfold lexBraces at h
  split at h
  · split at h
    · rename_i found hj
      simp only [Except.ok.injEq] at h
      exact joiner?_suffix (h ▸ hj)
    · simp only [Except.ok.injEq, Prod.mk.injEq] at h
      exact h.2 ▸ (Cut.run_sound isLabelChar).suffix rest
  split at h
  · exact quotedString_suffix h
  · exact lexBraceMark_suffix h

/-- A result that is built from a token and the text after it leaves that text. -/
theorem rest_of_map {r : Except Text (Token × Text)} {f : Token × Text → Step} {s : Step}
    {t : Text} (hf : ∀ x, (f x).rest = x.2) (h : r.map f = .ok s)
    (hr : ∀ x, r = .ok x → x.2 <:+ t) : s.rest <:+ t := by
  cases r with
  | error e => simp [Except.map] at h
  | ok x =>
    simp only [Except.map, Except.ok.injEq] at h
    rw [← h, hf x]
    exact hr x rfl

theorem step_suffix {mode : Mode} {parens : Nat} {c : Char} {rest : Text} {s : Step}
    (h : step mode parens c rest = .ok s) : s.rest <:+ rest := by
  have refl {m : Mode} {t : Option Token} {n : Nat}
      (h : Except.ok (ε := Text) (Step.mk t m n rest) = .ok s) : s.rest <:+ rest := by
    simp only [Except.ok.injEq] at h
    exact h ▸ List.suffix_refl _
  have comment {m : Mode} (h : Except.ok (ε := Text)
      (Step.mk none m parens (rest.dropWhile (!isLineEnd ·))) = .ok s) : s.rest <:+ rest := by
    simp only [Except.ok.injEq] at h
    exact h ▸ List.dropWhile_suffix _
  unfold step at h
  split at h
  · unfold stepPlain at h
    split at h
    · exact refl h
    split at h
    · exact comment h
    split at h
    · exact refl h
    split at h
    · split at h
      · simp at h
      · exact refl h
    split at h
    · exact refl h
    split at h
    · exact refl h
    · exact rest_of_map (fun _ => rfl) h fun _ hx => lexPlain_suffix hx
  · unfold stepBraces at h
    split at h
    · exact refl h
    split at h
    · exact comment h
    split at h
    · exact refl h
    · exact rest_of_map (fun _ => rfl) h fun _ hx => lexBraces_suffix hx
  · unfold stepBrackets at h
    split at h
    · exact refl h
    split at h
    · split at h
      · simp at h
      split at h
      · simp at h
      · exact refl h
    split at h
    · exact rest_of_map (fun _ => rfl) h fun _ hx =>
        (lexDuration_suffix hx).trans ((cutNumber_sound c).suffix rest)
    split at h
    · exact refl h
    split at h <;> simp at h

/-! ### The tokens of a query -/

/-- The tokens of a text that is read in the given mode with the given number of open
parentheses. -/
def tokensFrom (mode : Mode) (parens : Nat) : Text → Except Text (List Token)
  | [] => finish mode parens
  | c :: rest =>
    match _h : step mode parens c rest with
    | .error e => .error e
    | .ok s => (tokensFrom s.mode s.parens s.rest).map (s.token.toList ++ ·)
termination_by t => t.length
decreasing_by
  have := (step_suffix _h).length_le
  simp only [List.length_cons]
  omega

/-- The tokens of a query, with a mark at their end, or what is wrong with the text. -/
def tokens (t : Text) : Except Text (List Token) := tokensFrom .plain 0 t

end RuleAudit.Query
