import RuleAudit.Proofs.Endpoint
import RuleAudit.Proofs.Text.Trimming

/-!
# Where the settings of a run come from

Each setting comes from its flag, or else from its variable, or else from its default, and whatever
the others are like.

* `Config.urlText`, `Config.token`, `Config.Timeout`: the settings that count;
* `Config.resolveIn_eq_ok`, `Config.resolveIn_eq_error`: when they make a configuration, and which;
* `Config.resolveIn_apart`: what hides a variable, and what every configuration is like;
* `Config.flag_like_variable`: flags against variables of the same texts.
-/

namespace RuleAudit

namespace Config

/-! ### The settings that count -/

section

variable (environment : Text → Option Text) (o : Overrides)

/-- The value of a variable as it counts: without the blanks at its ends, and not empty. -/
def found (name : Text) : Option Text := environment name >>= cleanValue?

/-- The text of the address. -/
def urlText : Option Text := o.url >>= cleanValue? <|> found environment urlVariable

/-- The token. A flag is taken as it is, unless it is blank. -/
def token : Option Text :=
  o.bearerToken.filter (!Text.isAllBlank ·) <|> found environment tokenVariable

/-- The time of a request, in milliseconds. -/
inductive Timeout : Nat → Prop
  | flag {n : Nat} (h : o.timeoutMs = some n) : Timeout n
  | ofVariable {raw : Text} {n : Nat} (h : o.timeoutMs = none)
    (hraw : found environment timeoutVariable = some raw) (hn : Numeral.Denotes raw n)
    (hlt : n < 2 ^ 64) : Timeout n
  | byDefault (h : o.timeoutMs = none) (hraw : found environment timeoutVariable = none) :
    Timeout defaultTimeoutMs

/-- There is no address, or what is there is no address of the web. -/
def LacksUrl [Url.Idna] : Prop :=
  urlText environment o = none ∨
    ∃ raw, urlText environment o = some raw ∧ ∀ u, Url.read (Text.trim raw) ≠ .ok (.web u)

/-- The time is zero, or comes from a variable that is no numeral, or one of zero, or of a number
with more than 64 bits. -/
def LacksTimeout : Prop :=
  o.timeoutMs = some 0 ∨
    o.timeoutMs = none ∧ ∃ raw, found environment timeoutVariable = some raw ∧
      ∀ n, Numeral.Denotes raw n → n = 0 ∨ 2 ^ 64 ≤ n

end

/-! ### Single settings -/

theorem cleanValue?_eq_some {raw t : Text} :
    cleanValue? raw = some t ↔ Text.trim raw = t ∧ Text.isAllBlank raw = false := by
  rw [← Bool.not_eq_true, ← Text.trim_eq_nil_iff, cleanValue?, Option.filter_some]
  constructor
  · intro h
    split at h
    next hne =>
      cases h
      exact ⟨rfl, by simpa using hne⟩
    next => cases h
  · rintro ⟨rfl, hne⟩
    exact if_pos (by simpa using hne)

theorem cleanValue?_eq_none {raw : Text} :
    cleanValue? raw = none ↔ Text.isAllBlank raw = true := by
  rw [← Text.trim_eq_nil_iff, cleanValue?, Option.filter_some]
  split
  next h => exact iff_of_false (Option.some_ne_none _) (by simpa using h)
  next h => exact iff_of_true rfl (by simpa using h)

section

variable {environment environment' : Text → Option Text} {o o' : Overrides}

theorem found_eq_some {name t : Text} : found environment name = some t ↔
    ∃ raw, environment name = some raw ∧ Text.trim raw = t ∧ Text.isAllBlank raw = false := by
  rw [found, Option.bind_eq_bind, Option.bind_eq_some_iff]
  simp only [cleanValue?_eq_some]

theorem trim_of_found {name t : Text} (h : found environment name = some t) : Text.trim t = t := by
  obtain ⟨raw, -, rfl, -⟩ := found_eq_some.1 h
  exact Text.trim_trim raw

theorem isAllBlank_of_found {name t : Text} (h : found environment name = some t) :
    Text.isAllBlank t = false := by
  obtain ⟨raw, -, rfl, hblank⟩ := found_eq_some.1 h
  rwa [Text.isAllBlank_trim]

theorem isAllBlank_of_token {t : Text} (h : token environment o = some t) :
    Text.isAllBlank t = false := by
  unfold token at h
  cases hflag : o.bearerToken.filter (!Text.isAllBlank ·) with
  | some t' =>
    rw [hflag] at h
    cases h
    simpa using (Option.filter_eq_some_iff.1 hflag).2
  | none =>
    rw [hflag] at h
    exact isAllBlank_of_found h

theorem readUrl_eq_ok [Url.Idna] {raw : Text} {u : Url} :
    readUrl raw = .ok u ↔ Url.read (Text.trim raw) = .ok (.web u) := by
  unfold readUrl
  rcases Url.read (Text.trim raw) with e | v | scheme <;> simp

theorem timeout_eq_ok {n : Nat} :
    timeout o (found environment) = .ok n ↔ Timeout environment o n := by
  unfold timeout
  constructor
  · intro h
    split at h
    next hflag =>
      cases h
      exact .flag hflag
    next hflag =>
      split at h
      next raw hraw =>
        rw [readTimeout, trim_of_found hraw] at h
        split at h
        next n hread =>
          cases h
          obtain ⟨hn, hlt⟩ := Numeral.read?_eq_some.1 hread
          exact .ofVariable hflag hraw hn hlt
        next => cases h
      next hraw =>
        cases h
        exact .byDefault hflag hraw
  · rintro (hflag | ⟨hflag, hraw, hn, hlt⟩ | ⟨hflag, hraw⟩)
    · rw [hflag]
    · simp only [hflag, hraw, readTimeout, trim_of_found hraw, Numeral.read?_eq_some.2 ⟨hn, hlt⟩]
    · simp only [hflag, hraw]

theorem Timeout.lt {n : Nat} (h : Timeout environment o n)
    (hflag : ∀ n, o.timeoutMs = some n → n < 2 ^ 64) : n < 2 ^ 64 := by
  cases h with
  | flag h => exact hflag n h
  | ofVariable _ _ _ hlt => exact hlt
  | byDefault => decide

theorem lacksUrl_iff [Url.Idna] :
    LacksUrl environment o ↔
      ¬∃ raw u, urlText environment o = some raw ∧ Url.read (Text.trim raw) = .ok (.web u) := by
  rw [LacksUrl]
  cases urlText environment o <;> simp

theorem lacksTimeout_iff :
    LacksTimeout environment o ↔ ¬∃ n, Timeout environment o n ∧ n ≠ 0 := by
  constructor
  · rintro (hzero | ⟨hnone, raw, hraw, hall⟩) ⟨n, htimeout, hn⟩
    · cases htimeout with
      | flag h => exact hn (Option.some.inj (h.symm.trans hzero))
      | ofVariable h => cases hzero.symm.trans h
      | byDefault h => cases hzero.symm.trans h
    · cases htimeout with
      | flag h => cases hnone.symm.trans h
      | ofVariable _ hraw' hdenotes hlt =>
        cases hraw.symm.trans hraw'
        have hbad := hall n hdenotes
        omega
      | byDefault _ hraw' => cases hraw.symm.trans hraw'
  · intro h
    cases hflag : o.timeoutMs with
    | some n =>
      left
      by_contra hn
      exact h ⟨n, .flag hflag, fun hzero => hn (by rw [hflag, hzero])⟩
    | none =>
      right
      cases hraw : found environment timeoutVariable with
      | none => exact absurd ⟨_, .byDefault hflag hraw, by decide⟩ h
      | some raw =>
        refine ⟨hflag, raw, rfl, fun n hn => ?_⟩
        by_contra hnot
        exact h ⟨n, .ofVariable hflag hraw hn (by omega), by omega⟩

/-! ### Resolving them -/

theorem source_eq_ok {raw : Text} :
    source o (found environment) = .ok raw ↔ urlText environment o = some raw := by
  have htext : ((o.url.map Text.trim).filter (· ≠ []) <|> found environment urlVariable) =
      urlText environment o := by
    unfold urlText
    cases o.url <;> rfl
  rw [source, htext]
  cases urlText environment o <;> simp

theorem resolveIn_eq [Url.Idna] : resolveIn environment o = (do
    let u ← source o (found environment) >>= readUrl
    let n ← timeout o (found environment)
    if n = 0 then .error (.config "backend timeout must be at least 1ms")
    else .ok ⟨u, token environment o, n⟩) :=
  resolve_eq o (found environment)

/-- The result depends on nothing but the settings that count. -/
theorem resolveIn_congr [Url.Idna]
    (hurl : source o (found environment) = source o' (found environment'))
    (htoken : token environment o = token environment' o')
    (htimeout : timeout o (found environment) = timeout o' (found environment')) :
    resolveIn environment o = resolveIn environment' o' := by
  rw [resolveIn_eq, resolveIn_eq, hurl, htoken, htimeout]

/-- **Which configuration the settings make.** -/
theorem resolveIn_eq_ok [Url.Idna] {c : Config} :
    resolveIn environment o = .ok c ↔
      (∃ raw, urlText environment o = some raw ∧
        Url.read (Text.trim raw) = .ok (.web c.baseUrl)) ∧
      c.bearerToken = token environment o ∧ Timeout environment o c.timeoutMs ∧
      c.timeoutMs ≠ 0 := by
  simp only [resolveIn_eq, except_bind_eq_ok, source_eq_ok, readUrl_eq_ok, timeout_eq_ok,
    ite_error_eq_ok]
  constructor
  · rintro ⟨u, hurl, n, htimeout, hn, h⟩
    cases h
    exact ⟨hurl, rfl, htimeout, hn⟩
  · rintro ⟨hurl, htoken, htimeout, hn⟩
    exact ⟨_, hurl, _, htimeout, hn, by rw [← htoken]⟩

theorem source_error {e : Error} {lookup : Text → Option Text} (h : source o lookup = .error e) :
    ∃ m, e = .config m := by
  unfold source at h
  split at h <;> cases h
  exact ⟨_, rfl⟩

theorem readUrl_error [Url.Idna] {e : Error} {raw : Text} (h : readUrl raw = .error e) :
    ∃ m, e = .config m := by
  unfold readUrl at h
  split at h <;> cases h <;> exact ⟨_, rfl⟩

theorem timeout_error {e : Error} {lookup : Text → Option Text} (h : timeout o lookup = .error e) :
    ∃ m, e = .config m := by
  unfold timeout readTimeout at h
  split at h
  · cases h
  · split at h
    · split at h <;> cases h
      exact ⟨_, rfl⟩
    · cases h

/-- Settings that make no configuration fail as such. -/
theorem resolveIn_eq_error [Url.Idna] {e : Error} (h : resolveIn environment o = .error e) :
    ∃ m, e = .config m := by
  rw [resolveIn_eq] at h
  obtain hurl | ⟨u, -, h⟩ := except_bind_eq_error.1 h
  · obtain hsource | ⟨raw, -, hread⟩ := except_bind_eq_error.1 hurl
    · exact source_error hsource
    · exact readUrl_error hread
  · obtain htimeout | ⟨n, -, h⟩ := except_bind_eq_error.1 h
    · exact timeout_error htimeout
    · split at h <;> cases h
      exact ⟨_, rfl⟩

/-- What a configuration is like: it has an address of the web with a host, leaves some time for a
request, and has a token only if that is not blank. -/
structure IsFit [Url.Idna] (c : Config) : Prop where
  scheme : c.baseUrl.scheme = "http" ∨ c.baseUrl.scheme = "https"
  host : c.baseUrl.host.render ≠ []
  url : c.baseUrl.Sound
  timeout : 1 ≤ c.timeoutMs
  token : ∀ t, c.bearerToken = some t → ∃ ch ∈ t, Text.isBlank ch = false

theorem isFit_of_resolveIn [Url.Idna] {c : Config} (h : resolveIn environment o = .ok c) :
    c.IsFit := by
  obtain ⟨⟨raw, -, hread⟩, htoken, -, htime⟩ := resolveIn_eq_ok.1 h
  have hsound := Url.read_sound hread
  refine ⟨?_, Url.render_ne_nil hsound.host, hsound, by omega, fun t ht => ?_⟩
  · rw [Url.scheme]
    split
    · exact .inr rfl
    · exact .inl rfl
  · have hblank := isAllBlank_of_token (htoken.symm.trans ht)
    simpa [Text.isAllBlank] using hblank

end

/-! ### What is lacking -/

section

variable {environment : Text → Option Text} {o : Overrides}

theorem resolveIn_of_lacking [Url.Idna] (h : LacksUrl environment o ∨ LacksTimeout environment o) :
    ∃ m, resolveIn environment o = .error (.config m) := by
  cases hresult : resolveIn environment o with
  | error e =>
    obtain ⟨m, rfl⟩ := resolveIn_eq_error hresult
    exact ⟨m, rfl⟩
  | ok c =>
    obtain ⟨⟨raw, hraw, hread⟩, -, htimeout, hn⟩ := resolveIn_eq_ok.1 hresult
    rcases h with h | h
    · exact absurd ⟨raw, c.baseUrl, hraw, hread⟩ (lacksUrl_iff.1 h)
    · exact absurd ⟨_, htimeout, hn⟩ (lacksTimeout_iff.1 h)

theorem resolveIn_of_not_lacking [Url.Idna]
    (h : ¬(LacksUrl environment o ∨ LacksTimeout environment o)) :
    ∃ c, resolveIn environment o = .ok c := by
  rw [not_or, lacksUrl_iff, lacksTimeout_iff, not_not, not_not] at h
  obtain ⟨⟨raw, u, hraw, hread⟩, n, htimeout, hn⟩ := h
  exact ⟨⟨u, token environment o, n⟩, resolveIn_eq_ok.2 ⟨⟨raw, hraw, hread⟩, rfl, htimeout, hn⟩⟩

/-! ### Flags before variables -/

theorem source_of_flag {u : Text} (hflag : o.url = some u) (hu : Text.isAllBlank u = false)
    (lookup : Text → Option Text) : source o lookup = .ok (Text.trim u) := by
  have hclean : (o.url.map Text.trim).filter (· ≠ []) = some (Text.trim u) := by
    rw [hflag]
    exact cleanValue?_eq_some.2 ⟨rfl, hu⟩
  rw [source, hclean]
  rfl

theorem source_of_blank {u : Text} (hu : Text.isAllBlank u = true) (t : Option Text)
    (n : Option Nat) (lookup : Text → Option Text) :
    source ⟨some u, t, n⟩ lookup = source ⟨none, t, n⟩ lookup := by
  have hclean : ((some u).map Text.trim).filter (· ≠ []) = none := cleanValue?_eq_none.2 hu
  rw [source, source, hclean]
  rfl

theorem token_of_flag {t : Text} (hflag : o.bearerToken = some t) (ht : Text.isAllBlank t = false) :
    token environment o = some t := by
  rw [token, hflag, Option.filter_some, if_pos (by rw [ht]; rfl)]
  rfl

theorem token_of_blank {t : Text} (ht : Text.isAllBlank t = true) (u : Option Text)
    (n : Option Nat) : token environment ⟨u, some t, n⟩ = token environment ⟨u, none, n⟩ := by
  rw [token, token, Option.filter_some, if_neg (by rw [ht]; decide)]
  rfl

theorem timeout_of_flag {n : Nat} (hflag : o.timeoutMs = some n) (lookup : Text → Option Text) :
    timeout o lookup = .ok n := by
  rw [timeout, hflag]

section

variable {environment' : Text → Option Text}

theorem source_congr (h : environment urlVariable = environment' urlVariable) :
    source o (found environment) = source o (found environment') := by
  rw [source, source, found, found, h]

theorem token_congr (h : environment tokenVariable = environment' tokenVariable) :
    token environment o = token environment' o := by
  rw [token, token, found, found, h]

theorem timeout_congr (h : environment timeoutVariable = environment' timeoutVariable) :
    timeout o (found environment) = timeout o (found environment') := by
  rw [timeout, timeout, found, found, h]

end

/-- The variables that are looked at. -/
def consulted : List Text := [urlVariable, tokenVariable, timeoutVariable]

/-- The overrides hide a variable: whatever it is set to, if it is set at all, the result is that of
the other variables. -/
def Hides [Url.Idna] (o : Overrides) (name : Text) : Prop :=
  ∀ environment environment' : Text → Option Text,
    (∀ other ∈ consulted, other ≠ name → environment other = environment' other) →
      resolveIn environment o = resolveIn environment' o

theorem hides_url [Url.Idna] {u : Text} (hflag : o.url = some u) (hu : Text.isAllBlank u = false) :
    Hides o urlVariable := by
  intro environment environment' h
  refine resolveIn_congr ?_ (token_congr ?_) (timeout_congr ?_)
  · rw [source_of_flag hflag hu, source_of_flag hflag hu]
  · exact h tokenVariable (by simp [consulted]) (by decide)
  · exact h timeoutVariable (by simp [consulted]) (by decide)

theorem hides_token [Url.Idna] {t : Text} (hflag : o.bearerToken = some t)
    (ht : Text.isAllBlank t = false) : Hides o tokenVariable := by
  intro environment environment' h
  refine resolveIn_congr (source_congr ?_) ?_ (timeout_congr ?_)
  · exact h urlVariable (by simp [consulted]) (by decide)
  · rw [token_of_flag hflag ht, token_of_flag hflag ht]
  · exact h timeoutVariable (by simp [consulted]) (by decide)

theorem hides_timeout [Url.Idna] {n : Nat} (hflag : o.timeoutMs = some n) :
    Hides o timeoutVariable := by
  intro environment environment' h
  refine resolveIn_congr (source_congr ?_) (token_congr ?_) ?_
  · exact h urlVariable (by simp [consulted]) (by decide)
  · exact h tokenVariable (by simp [consulted]) (by decide)
  · rw [timeout_of_flag hflag, timeout_of_flag hflag]

/-- **Every setting stands by itself**: an address or a token that is given as a flag and is not
blank hides its variable, and so does a time that is given; a blank flag is like none. What comes
out is a configuration that is fit for use, and it comes out exactly if an address and a time are
not lacking; otherwise the settings are told to be wrong. -/
theorem resolveIn_apart [Url.Idna] (environment : Text → Option Text) (o : Overrides) :
    (∀ u, o.url = some u → Text.isAllBlank u = false → Hides o urlVariable) ∧
    (∀ t, o.bearerToken = some t → Text.isAllBlank t = false → Hides o tokenVariable) ∧
    (∀ n, o.timeoutMs = some n → Hides o timeoutVariable) ∧
    (∀ u, Text.isAllBlank u = true →
      resolveIn environment { o with url := some u } =
        resolveIn environment { o with url := none }) ∧
    (∀ t, Text.isAllBlank t = true →
      resolveIn environment { o with bearerToken := some t } =
        resolveIn environment { o with bearerToken := none }) ∧
    (∀ c, resolveIn environment o = .ok c →
      c.IsFit ∧ ((∀ n, o.timeoutMs = some n → n < 2 ^ 64) → c.timeoutMs < 2 ^ 64)) ∧
    (LacksUrl environment o ∨ LacksTimeout environment o →
      ∃ e, resolveIn environment o = .error e ∧ e.code = "CONFIG_ERROR") ∧
    (¬(LacksUrl environment o ∨ LacksTimeout environment o) →
      ∃ c, resolveIn environment o = .ok c) := by
  refine ⟨fun _ => hides_url, fun _ => hides_token, fun _ => hides_timeout, fun u hu => ?_,
    fun t ht => ?_, fun c hc => ⟨isFit_of_resolveIn hc, fun hflag => ?_⟩, fun h => ?_,
    resolveIn_of_not_lacking⟩
  · exact resolveIn_congr (source_of_blank hu _ _ _) rfl rfl
  · exact resolveIn_congr rfl (token_of_blank ht _ _) rfl
  · exact (resolveIn_eq_ok.1 hc).2.2.1.lt hflag
  · obtain ⟨m, hm⟩ := resolveIn_of_lacking h
    exact ⟨_, hm, rfl⟩

end

/-! ### Flags and variables of the same texts -/

/-- The variables that are looked at are set so. -/
structure Variables (environment : Text → Option Text) (url token timeout : Option Text) : Prop where
  url : environment urlVariable = url
  token : environment tokenVariable = token
  timeout : environment timeoutVariable = timeout

/-- The configuration with the token in the place of its own, if it has one. -/
def withToken (t : Text) (c : Config) : Config :=
  { c with bearerToken := c.bearerToken.map fun _ => t }

theorem isBlank_of_isDigit {c : Char} (h : c.isDigit = true) : Text.isBlank c = false := by
  have hrange := Url.Host.isDigit_toNat h
  simp [Text.isBlank, Text.blankRanges]
  omega

theorem cleanValue?_decimal (n : Nat) : cleanValue? (Text.decimal n) = some (Text.decimal n) := by
  have htrim : Text.trim (Text.decimal n) = Text.decimal n :=
    Text.trim_of_notBlank fun c hc => isBlank_of_isDigit (Text.isDigit_of_mem_decimal hc)
  refine cleanValue?_eq_some.2 ⟨htrim, ?_⟩
  rw [← Bool.not_eq_true, ← Text.trim_eq_nil_iff, htrim]
  exact Text.decimal_ne_nil n

section

variable {environment environment' : Text → Option Text} {u t : Text} {n : Nat}

theorem found_of_some {name raw : Text} (h : environment name = some raw) :
    found environment name = cleanValue? raw := by
  rw [found, h]
  rfl

theorem found_of_none {name : Text} (h : environment name = none) :
    found environment name = none := by
  rw [found, h]
  rfl

/-- The token of a flag is that of a variable of the same text, but for the blanks at its ends. -/
theorem token_flag_eq (h : environment tokenVariable = none)
    (h' : environment' tokenVariable = some t) (u u' : Option Text) (n n' : Option Nat) :
    token environment ⟨u, some t, n⟩ = (token environment' ⟨u', none, n'⟩).map fun _ => t := by
  have hvariable : token environment' ⟨u', none, n'⟩ = cleanValue? t := found_of_some h'
  rw [hvariable]
  cases ht : Text.isAllBlank t with
  | true =>
    rw [token_of_blank ht, cleanValue?_eq_none.2 ht]
    exact found_of_none h
  | false =>
    rw [token_of_flag rfl ht, cleanValue?_eq_some.2 ⟨rfl, ht⟩]
    rfl

theorem timeout_variable_eq (h : environment timeoutVariable = some (Text.decimal n))
    (hlt : n < 2 ^ 64) (u t : Option Text) :
    timeout ⟨u, t, none⟩ (found environment) = .ok n := by
  have hfound : found environment timeoutVariable = some (Text.decimal n) :=
    (found_of_some h).trans (cleanValue?_decimal n)
  exact timeout_eq_ok.2 (.ofVariable rfl hfound (Numeral.denotes_decimal n) hlt)

theorem source_flag_eq (h : environment urlVariable = none)
    (h' : environment' urlVariable = some u) (t t' : Option Text) (n n' : Option Nat) :
    source ⟨some u, t, n⟩ (found environment) = source ⟨none, t', n'⟩ (found environment') := by
  have hflag : ((some u).map Text.trim).filter (· ≠ []) = cleanValue? u := rfl
  rw [source, source, hflag, found_of_none h, found_of_some h']
  cases cleanValue? u <;> rfl

/-- When variables alone make a configuration. -/
theorem resolveIn_variables [Url.Idna]
    (h : Variables environment (some u) (some t) (some (Text.decimal n))) (hlt : n < 2 ^ 64) :
    (∃ c, resolveIn environment ⟨none, none, none⟩ = .ok c) ↔
      n ≠ 0 ∧ ∃ v, Url.read (Text.trim u) = .ok (.web v) := by
  have hurl : urlText environment ⟨none, none, none⟩ = cleanValue? u := found_of_some h.url
  have htimeout := timeout_eq_ok.1 (timeout_variable_eq h.timeout hlt none none)
  constructor
  · rintro ⟨c, hc⟩
    obtain ⟨⟨raw, hraw, hread⟩, -, htime, hn⟩ := resolveIn_eq_ok.1 hc
    obtain ⟨rfl, -⟩ := cleanValue?_eq_some.1 (hurl.symm.trans hraw)
    have hsame := Except.ok.inj ((timeout_eq_ok.2 htime).symm.trans (timeout_eq_ok.2 htimeout))
    rw [Text.trim_trim] at hread
    exact ⟨hsame ▸ hn, _, hread⟩
  · rintro ⟨hn, v, hread⟩
    have hblank : Text.isAllBlank u = false := by
      rw [← Bool.not_eq_true, ← Text.trim_eq_nil_iff]
      intro hnil
      rw [hnil] at hread
      cases hread
    refine ⟨⟨v, token environment ⟨none, none, none⟩, n⟩, resolveIn_eq_ok.2
      ⟨⟨Text.trim u, ?_, ?_⟩, rfl, htimeout, hn⟩⟩
    · exact hurl.trans (cleanValue?_eq_some.2 ⟨rfl, hblank⟩)
    · rw [Text.trim_trim]
      exact hread

/-- **Flags are like variables of the same texts, but for blanks at the ends of the token**, which
are taken from a variable and not from a flag. So the two results are the same exactly if the token
has none, or is nothing else, or if there is no result but an error. -/
theorem flag_like_variable [Url.Idna] (hlt : n < 2 ^ 64) (h : Variables environment none none none)
    (h' : Variables environment' (some u) (some t) (some (Text.decimal n))) :
    resolveIn environment ⟨some u, some t, some n⟩ =
      (resolveIn environment' ⟨none, none, none⟩).map (withToken t) ∧
    (∀ c, resolveIn environment' ⟨none, none, none⟩ = .ok c → c.bearerToken = cleanValue? t) ∧
    (resolveIn environment ⟨some u, some t, some n⟩ = resolveIn environment' ⟨none, none, none⟩ ↔
      Text.trim t = t ∨ Text.isAllBlank t = true ∨
        ¬(n ≠ 0 ∧ ∃ v, Url.read (Text.trim u) = .ok (.web v))) := by
  have hmap : resolveIn environment ⟨some u, some t, some n⟩ =
      (resolveIn environment' ⟨none, none, none⟩).map (withToken t) := by
    rw [resolveIn_eq, resolveIn_eq, source_flag_eq h.url h'.url (some t) none (some n) none,
      timeout_variable_eq h'.timeout hlt, timeout_of_flag rfl,
      token_flag_eq h.token h'.token (some u) none (some n) none]
    rcases source ⟨none, none, none⟩ (found environment') >>= readUrl with e | v
    · rfl
    · cases n <;> rfl
  have htoken : ∀ c, resolveIn environment' ⟨none, none, none⟩ = .ok c →
      c.bearerToken = cleanValue? t := by
    intro c hc
    rw [(resolveIn_eq_ok.1 hc).2.1]
    exact found_of_some h'.token
  refine ⟨hmap, htoken, ?_⟩
  rw [hmap, ← resolveIn_variables h' hlt]
  cases hresult : resolveIn environment' ⟨none, none, none⟩ with
  | error e =>
    refine iff_of_true rfl (.inr (.inr ?_))
    rintro ⟨c, hc⟩
    cases hc
  | ok c =>
    have hsame : (Except.ok c : Except Error Config).map (withToken t) = .ok c ↔
        cleanValue? t = none ∨ cleanValue? t = some t := by
      rw [← htoken c hresult]
      rcases c with ⟨v, _ | t', n'⟩ <;> simp [Except.map, withToken, eq_comm]
    rw [hsame, cleanValue?_eq_none, cleanValue?_eq_some]
    cases Text.isAllBlank t <;> simp

end

open Plain in
theorem flag_like_variable_padded :
    ∃ environment environment' : Text → Option Text,
      Variables environment none none none ∧
      Variables environment' (some " http://h\t") (some "a") (some (Text.decimal 5)) ∧
      resolveIn environment ⟨some " http://h\t", some "a", some 5⟩ =
        resolveIn environment' ⟨none, none, none⟩ := by
  let environment' : Text → Option Text := fun name =>
    if name = urlVariable then some " http://h\t"
    else if name = tokenVariable then some "a" else some (Text.decimal 5)
  have h : Variables (fun _ => none) none none none := ⟨rfl, rfl, rfl⟩
  have h' : Variables environment' (some " http://h\t") (some "a") (some (Text.decimal 5)) :=
    ⟨by decide, by decide, by decide⟩
  exact ⟨_, _, h, h', (flag_like_variable (by decide) h h').2.2.2 (.inl (by decide))⟩

open Plain in
/-- **A token keeps the blanks of its flag**, and loses those of its variable. -/
theorem flag_keeps_blanks :
    ∃ environment environment' : Text → Option Text,
      Variables environment none none none ∧
      Variables environment' (some "http://h") (some " a") (some (Text.decimal 5)) ∧
      (resolveIn environment ⟨some "http://h", some " a", some 5⟩).map (·.bearerToken) =
        .ok (some " a") ∧
      (resolveIn environment' ⟨none, none, none⟩).map (·.bearerToken) = .ok (some "a") := by
  let environment' : Text → Option Text := fun name =>
    if name = urlVariable then some "http://h"
    else if name = tokenVariable then some " a" else some (Text.decimal 5)
  refine ⟨fun _ => none, environment', ⟨rfl, rfl, rfl⟩, ⟨?_, ?_, ?_⟩, ?_, ?_⟩
  · decide
  · decide
  · decide
  · decide +kernel
  · decide +kernel

end Config

end RuleAudit
