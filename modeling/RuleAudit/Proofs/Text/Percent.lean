import RuleAudit.Proofs.Text.Utf8
import RuleAudit.Text.Percent

/-!
Percent encoding leaves nothing that has to be encoded, and changes nothing else.

* `Percent.encode_plain`: an encoded text has none of the characters that are encoded;
* `Percent.encode_of_plain`: a text without such characters stays as it is;
* `Percent.decode_of_notMem`: a text without percent signs stands for its own bytes.
-/

namespace RuleAudit.Text.Percent

/-! ### Encoding -/

/-- Where the characters that satisfy `p` may not stand, those that stand for bytes may, and neither
controls nor blanks do. -/
structure Guards (p : Char → Bool) : Prop where
  percent : p '%' = false
  digit : ∀ n < 16, p (digit n) = false
  low : ∀ c, c.toNat ≤ 0x20 → p c = true

theorem Guards.toNat {p : Char → Bool} (hp : Guards p) {c : Char} (h : p c = false) :
    0x20 < c.toNat := by
  refine Nat.lt_of_not_le fun hlow => ?_
  exact absurd (h.symm.trans (hp.low c hlow)) Bool.false_ne_true

theorem encodeByte_plain {p : Char → Bool} (hp : Guards p) (b : UInt8) :
    ∀ c ∈ encodeByte b, p c = false := by
  have hb : b.toNat < 256 := b.toNat_lt
  simp only [encodeByte, List.forall_mem_cons]
  exact ⟨hp.percent, hp.digit _ (by omega), hp.digit _ (by omega), by simp⟩

/-- An encoded text has none of the characters that are encoded. -/
theorem encode_plain {p : Char → Bool} (hp : Guards p) (t : Text) :
    ∀ c ∈ encode p t, p c = false := by
  intro c hc
  obtain ⟨d, -, hd⟩ := List.mem_flatMap.1 hc
  split at hd
  next =>
    obtain ⟨b, -, hb⟩ := List.mem_flatMap.1 hd
    exact encodeByte_plain hp b c hb
  next hplain =>
    obtain rfl := List.mem_singleton.1 hd
    exact Bool.eq_false_iff.2 hplain

/-- A text without such characters stays as it is. -/
theorem encode_of_plain {p : Char → Bool} {t : Text} (h : ∀ c ∈ t, p c = false) :
    encode p t = t := by
  induction t with
  | nil => rfl
  | cons c rest ih =>
    obtain ⟨hc, hrest⟩ := List.forall_mem_cons.1 h
    rw [encode] at ih
    rw [encode, List.flatMap_cons, ih hrest, hc]
    rfl

theorem encode_ne_nil {p : Char → Bool} {t : Text} (h : t ≠ []) : encode p t ≠ [] := by
  cases t with
  | nil => exact absurd rfl h
  | cons c rest =>
    rw [encode, List.flatMap_cons]
    intro hnil
    have hfirst := (List.append_eq_nil_iff.1 hnil).1
    split at hfirst
    next =>
      obtain ⟨lead, tail, hc, -⟩ := Utf8.step_encodeChar c []
      rw [encodeChar, hc] at hfirst
      cases hfirst
    next => cases hfirst

/-- Encoding brings nothing into a text but percent signs and digits. -/
theorem mem_of_mem_encode {p : Char → Bool} {t : Text} {d : Char} (h : d ∈ encode p t)
    (hpercent : d ≠ '%') (hdigit : ∀ n < 16, d ≠ digit n) : d ∈ t := by
  obtain ⟨c, hc, hd⟩ := List.mem_flatMap.1 h
  split at hd
  next =>
    obtain ⟨b, -, hb⟩ := List.mem_flatMap.1 hd
    have hlt : b.toNat < 256 := b.toNat_lt
    simp only [encodeByte, List.mem_cons, List.not_mem_nil, or_false] at hb
    rcases hb with hb | hb | hb
    · exact absurd hb hpercent
    · exact absurd hb (hdigit _ (by omega))
    · exact absurd hb (hdigit _ (by omega))
  next =>
    obtain rfl := List.mem_singleton.1 hd
    exact hc

theorem isControl_or_eq_blank {c : Char} (h : c.toNat ≤ 0x20) : isControl c = true ∨ c = ' ' := by
  by_cases hblank : c.toNat = ' '.toNat
  · exact .inr (Char.toNat_inj.1 hblank)
  · have hvalue : ' '.toNat = 0x20 := rfl
    simp only [isControl, Bool.or_eq_true, decide_eq_true_eq]
    omega

theorem isFragmentSpecial_guards : Guards isFragmentSpecial where
  percent := by decide
  digit := by decide
  low c h := by
    obtain h | rfl := isControl_or_eq_blank h
    · simp [isFragmentSpecial, h]
    · decide

theorem isPathSpecial_guards : Guards isPathSpecial where
  percent := by decide
  digit := by decide
  low c h := by simp [isPathSpecial, isFragmentSpecial_guards.low c h]

theorem isUserSpecial_guards : Guards isUserSpecial where
  percent := by decide
  digit := by decide
  low c h := by simp [isUserSpecial, isPathSpecial_guards.low c h]

theorem isQuerySpecial_guards : Guards isQuerySpecial where
  percent := by decide
  digit := by decide
  low c h := by
    obtain h | rfl := isControl_or_eq_blank h
    · simp [isQuerySpecial, h]
    · decide

/-! ### Decoding -/

theorem decode_cons_of_ne {c : Char} (h : c ≠ '%') (rest : Text) :
    decode (c :: rest) = Utf8.encodeChar c ++ decode rest := by
  rw [decode]
  rintro _ _ _ rfl
  exact absurd rfl h

/-- A text without percent signs stands for its own bytes. -/
theorem decode_of_notMem {t : Text} (h : '%' ∉ t) : decode t = Utf8.encode t := by
  induction t with
  | nil => rfl
  | cons c rest ih =>
    rw [List.mem_cons, not_or] at h
    rw [decode_cons_of_ne (Ne.symm h.1), ih h.2]
    rfl

end RuleAudit.Text.Percent
