import RuleAudit.Proofs.Settings
import RuleAudit.Proofs.Text.Numeral

/-!
# The time of a request

The time that a request may take is a number from `1` to `2 ^ 64 - 1`, written in decimal digits. A
flag and a variable take the same texts for it, though the flag refuses zero at once and the
variable only when the configuration is complete.

* `Numeral.readPositive_eq_ok`: the texts that a flag takes, and for which number;
* `Config.Follows`: a result has the time that a flag would have taken from a text;
* `Config.timeout_exact`: what a flag takes, and that a variable takes the same.
-/

namespace RuleAudit

/-! ### What a flag takes -/

namespace Numeral

variable {t : Text} {n : Nat}

theorem readPositive_eq_ok_iff_read? : readPositive t = .ok n ↔ read? t = some n ∧ n ≠ 0 := by
  unfold readPositive
  rcases read? t with _ | _ | m
  · simp
  · simp only [Option.some.injEq, reduceCtorEq, false_iff, not_and, not_not]
    exact Eq.symm
  · constructor
    · intro h
      cases h
      exact ⟨rfl, Nat.succ_ne_zero m⟩
    · rintro ⟨h, -⟩
      cases h
      rfl

/-- **A flag takes the numerals of positive numbers of 64 bits**, each for the number that it
denotes. -/
theorem readPositive_eq_ok : readPositive t = .ok n ↔ Denotes t n ∧ 1 ≤ n ∧ n < 2 ^ 64 := by
  rw [readPositive_eq_ok_iff_read?, read?_eq_some]
  constructor
  · rintro ⟨⟨hdenotes, hlt⟩, hn⟩
    exact ⟨hdenotes, by omega, hlt⟩
  · rintro ⟨hdenotes, hn, hlt⟩
    exact ⟨⟨hdenotes, hlt⟩, by omega⟩

theorem readPositive_of_not_denotes (h : ∀ n, Denotes t n → n = 0 ∨ 2 ^ 64 ≤ n) :
    ∃ message, readPositive t = .error message := by
  cases hread : readPositive t with
  | error message => exact ⟨message, rfl⟩
  | ok n =>
    obtain ⟨hdenotes, hn, hlt⟩ := readPositive_eq_ok.1 hread
    have hout := h n hdenotes
    omega

end Numeral

/-! ### What a variable takes -/

namespace Config

/-- The result has the time that a flag would have taken from the text without the blanks at its
ends; if a flag would have taken none, the settings are told to be wrong. -/
structure Follows (result : Except Error Config) (raw : Text) : Prop where
  time : ∀ n, (∃ c, result = .ok c ∧ c.timeoutMs = n) ↔
    Numeral.readPositive (Text.trim raw) = .ok n
  refused : (∀ n, Numeral.readPositive (Text.trim raw) ≠ .ok n) →
    ∃ e, result = .error e ∧ e.code = "CONFIG_ERROR"

section

variable {o : Overrides} {lookup : Text → Option Text} {raw : Text} {u : Url} {n : Nat}

theorem readTimeout_eq_ok : readTimeout raw = .ok n ↔ Numeral.read? (Text.trim raw) = some n := by
  unfold readTimeout
  cases Numeral.read? (Text.trim raw) <;> simp

theorem timeout_of_lookup (hflag : o.timeoutMs = none) (hraw : lookup timeoutVariable = some raw) :
    timeout o lookup = readTimeout raw := by
  unfold timeout
  rw [hflag, hraw]

/-- If the address is right, the settings are wrong for their time alone. -/
theorem resolve_cases [Url.Idna] (hurl : source o lookup >>= readUrl = .ok u) :
    (∃ c n, timeout o lookup = .ok n ∧ n ≠ 0 ∧ resolve o lookup = .ok c ∧ c.timeoutMs = n) ∨
      (∀ n, timeout o lookup = .ok n → n = 0) ∧ ∃ m, resolve o lookup = .error (.config m) := by
  rw [resolve_eq, hurl]
  cases htimeout : timeout o lookup with
  | error e =>
    obtain ⟨m, rfl⟩ := timeout_error htimeout
    right
    refine ⟨fun n hn => ?_, m, rfl⟩
    cases hn
  | ok n =>
    by_cases hn : n = 0
    · subst hn
      right
      refine ⟨fun n hn => ?_, _, rfl⟩
      cases hn
      rfl
    · left
      exact ⟨_, n, rfl, hn, if_neg hn, rfl⟩

theorem follows_resolve [Url.Idna] (hflag : o.timeoutMs = none)
    (hraw : lookup timeoutVariable = some raw) (hurl : source o lookup >>= readUrl = .ok u) :
    Follows (resolve o lookup) raw := by
  have htaken : ∀ n, Numeral.readPositive (Text.trim raw) = .ok n ↔
      timeout o lookup = .ok n ∧ n ≠ 0 := by
    intro n
    rw [timeout_of_lookup hflag hraw, readTimeout_eq_ok, Numeral.readPositive_eq_ok_iff_read?]
  obtain ⟨c, n, htimeout, hn, hc, htime⟩ | ⟨hzero, m, hm⟩ := resolve_cases hurl
  · refine ⟨fun k => ?_, fun hnone => absurd ((htaken n).2 ⟨htimeout, hn⟩) (hnone n)⟩
    rw [htaken, htimeout, hc]
    constructor
    · rintro ⟨_, ⟨⟩, rfl⟩
      rw [htime]
      exact ⟨rfl, hn⟩
    · rintro ⟨hk, -⟩
      cases hk
      exact ⟨c, rfl, htime⟩
  · refine ⟨fun k => ?_, fun _ => ⟨_, hm, rfl⟩⟩
    rw [htaken, hm]
    constructor
    · rintro ⟨c, hc, -⟩
      cases hc
    · rintro ⟨hk, hne⟩
      exact absurd (hzero k hk) hne

/-- A variable that is not blank is looked up without the blanks at its ends. -/
theorem follows_resolveIn [Url.Idna] {environment : Text → Option Text} (hflag : o.timeoutMs = none)
    (hraw : environment timeoutVariable = some raw) (hblank : Text.isAllBlank raw = false)
    (hurl : ¬ LacksUrl environment o) : Follows (resolveIn environment o) raw := by
  rw [lacksUrl_iff, not_not] at hurl
  obtain ⟨text, u, htext, hread⟩ := hurl
  have hsource : source o (found environment) >>= readUrl = .ok u :=
    except_bind_eq_ok.2 ⟨text, source_eq_ok.2 htext, readUrl_eq_ok.2 hread⟩
  have hfound : found environment timeoutVariable = some (Text.trim raw) :=
    found_eq_some.2 ⟨raw, hraw, rfl, hblank⟩
  obtain ⟨htime, hrefused⟩ := follows_resolve hflag hfound hsource
  rw [Text.trim_trim] at htime hrefused
  exact ⟨htime, hrefused⟩

end

/-- **Which times are taken**: a flag takes the numerals of positive numbers of 64 bits, that is
their plain numerals with zeros and a plus sign in front or not, and refuses all other texts. A
variable that is not blank is taken or refused like the flag, if there is an address and the flag is
not given; and so is the text that any other look-up gives. -/
theorem timeout_exact [Url.Idna] :
    (∀ t n, Numeral.readPositive t = .ok n ↔ Numeral.Denotes t n ∧ 1 ≤ n ∧ n ≤ 2 ^ 64 - 1) ∧
    (∀ t n, Numeral.Denotes t n ↔ ∃ sign ∈ ([[], ['+']] : List Text), ∃ k,
      t = sign ++ (List.replicate k '0' ++ Text.decimal n)) ∧
    (∀ t, (∀ n, Numeral.Denotes t n → n = 0 ∨ 2 ^ 64 ≤ n) →
      ∃ message, Numeral.readPositive t = .error message) ∧
    (∀ environment o raw, o.timeoutMs = none → environment timeoutVariable = some raw →
      Text.isAllBlank raw = false → ¬ LacksUrl environment o →
        Follows (resolveIn environment o) raw) ∧
    (∀ lookup o raw u, o.timeoutMs = none → lookup timeoutVariable = some raw →
      source o lookup >>= readUrl = .ok u → Follows (resolve o lookup) raw) := by
  refine ⟨fun t n => ?_, fun _ _ => Numeral.denotes_iff_zeros,
    fun _ => Numeral.readPositive_of_not_denotes, fun _ _ _ => follows_resolveIn,
    fun _ _ _ _ => follows_resolve⟩
  rw [Numeral.readPositive_eq_ok]
  have hlimit : n < 2 ^ 64 ↔ n ≤ 2 ^ 64 - 1 := by omega
  rw [hlimit]

open Plain in
/-- The greatest time with all that may stand around it, and one more than that. -/
theorem timeout_exact_limit :
    let o : Overrides := ⟨some "http://h", none, none⟩
    let greatest : Text → Option Text := fun name =>
      if name = timeoutVariable then some "\t+0018446744073709551615 " else none
    let beyond : Text → Option Text := fun name =>
      if name = timeoutVariable then some "18446744073709551616" else none
    ¬ LacksUrl greatest o ∧ ¬ LacksUrl beyond o ∧
      (∃ c, resolveIn greatest o = .ok c ∧ c.timeoutMs = 18446744073709551615) ∧
      (∃ c, resolve o greatest = .ok c ∧ c.timeoutMs = 18446744073709551615) ∧
      ∃ e, resolveIn beyond o = .error e ∧ e.code = "CONFIG_ERROR" := by
  intro o greatest beyond
  obtain ⟨htaken, hzeros, hrefused, hvariable, hlookup⟩ := timeout_exact
  let u : Url := ⟨false, [], none, .name "h", none, [[]], none, none⟩
  have hread : Url.read (Text.trim "http://h") = .ok (.web u) := by decide +kernel
  have hurl : ∀ environment, ¬ LacksUrl environment o := by
    intro environment
    rw [lacksUrl_iff, not_not]
    exact ⟨"http://h", u, by rfl, hread⟩
  have hgreatest : Numeral.readPositive (Text.trim "\t+0018446744073709551615 ") =
      .ok 18446744073709551615 := by
    have htrim : Text.trim "\t+0018446744073709551615 " = "+0018446744073709551615" := by decide
    rw [htrim, htaken, hzeros]
    exact ⟨⟨['+'], by simp, 2, by decide⟩, by decide, by decide⟩
  have hbeyond : ∃ message, Numeral.readPositive (Text.trim "18446744073709551616") =
      .error message := by
    have htrim : Text.trim "18446744073709551616" = Text.decimal (2 ^ 64) := by decide
    rw [htrim]
    refine hrefused _ fun n hn => .inr ?_
    rw [hn.unique (Numeral.denotes_decimal _)]
  obtain ⟨message, hbeyond⟩ := hbeyond
  have hfollows : Follows (resolveIn beyond o) "18446744073709551616" :=
    hvariable beyond o _ rfl rfl (by decide) (hurl beyond)
  refine ⟨hurl greatest, hurl beyond, ?_, ?_, hfollows.refused fun n hn => ?_⟩
  · exact ((hvariable greatest o _ rfl rfl (by decide) (hurl greatest)).time _).2 hgreatest
  · exact ((hlookup greatest o _ u rfl rfl (by decide +kernel)).time _).2 hgreatest
  · cases hbeyond.symm.trans hn

end Config

end RuleAudit
