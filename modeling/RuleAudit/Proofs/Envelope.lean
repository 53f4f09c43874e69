import RuleAudit.Backend
import RuleAudit.Envelope

/-!
What it takes for a reply to be accepted, and which data are a list of series.
-/

namespace RuleAudit

/-! ### Steps that succeed -/

theorem except_bind_eq_ok {ε α β : Type} {p : Except ε α} {f : α → Except ε β} {b : β} :
    p >>= f = .ok b ↔ ∃ a, p = .ok a ∧ f a = .ok b := by
  cases p with
  | error e =>
    refine ⟨fun h => (nomatch h), ?_⟩
    rintro ⟨a, h, -⟩
    nomatch h
  | ok a =>
    refine ⟨fun h => ⟨a, rfl, h⟩, ?_⟩
    rintro ⟨a', h, hb⟩
    cases h
    exact hb

theorem except_bind_eq_error {ε α β : Type} {p : Except ε α} {f : α → Except ε β} {e : ε} :
    p >>= f = .error e ↔ p = .error e ∨ ∃ a, p = .ok a ∧ f a = .error e := by
  cases p with
  | error e' =>
    constructor
    · intro h
      cases h
      exact .inl rfl
    · rintro (h | ⟨a, h, -⟩) <;> cases h
      rfl
  | ok a =>
    constructor
    · intro h
      exact .inr ⟨a, rfl, h⟩
    · rintro (h | ⟨a', h, hf⟩) <;> cases h
      exact hf

theorem except_mapError_eq_ok {ε ε' α : Type} {p : Except ε α} {f : ε → ε'} {a : α} :
    p.mapError f = .ok a ↔ p = .ok a := by
  cases p with
  | error e => exact ⟨fun h => (nomatch h), fun h => (nomatch h)⟩
  | ok b => exact ⟨fun h => congrArg Except.ok (Except.ok.inj h), fun h =>
      congrArg Except.ok (Except.ok.inj h)⟩

theorem ite_error_eq_ok {ε α : Type} {c : Prop} [Decidable c] {e : ε} {p : Except ε α} {a : α} :
    (if c then .error e else p) = .ok a ↔ ¬c ∧ p = .ok a := by
  split <;> simp_all

theorem except_mapM_eq_ok {ε α β : Type} {f : α → Except ε β} {g : β → α}
    (h : ∀ a b, f a = .ok b ↔ a = g b) {as : List α} :
    ∀ {bs : List β}, as.mapM f = .ok bs ↔ as = bs.map g := by
  induction as with
  | nil =>
    rintro (_ | ⟨b, bs⟩)
    · exact ⟨fun _ => rfl, fun _ => rfl⟩
    · exact ⟨fun h => (nomatch h), fun h => (nomatch h)⟩
  | cons a as ih =>
    intro bs
    rw [List.mapM_cons, except_bind_eq_ok]
    constructor
    · rintro ⟨b, hb, hrest⟩
      obtain ⟨bs', hbs, hcons⟩ := except_bind_eq_ok.1 hrest
      cases hcons
      rw [(h a b).1 hb, ih.1 hbs, List.map_cons]
    · intro hcons
      cases bs with
      | nil => nomatch hcons
      | cons b bs' =>
        obtain ⟨ha, has⟩ := List.cons.inj hcons
        refine ⟨b, (h a b).2 ha, ?_⟩
        rw [ih.2 has]
        rfl

/-! ### Accepting -/

namespace Envelope

theorem isSuccess_iff {code : Nat} : isSuccess code = true ↔ 200 ≤ code ∧ code ≤ 299 := by
  rw [isSuccess, Bool.and_eq_true, decide_eq_true_eq, decide_eq_true_eq]
  omega

/-- **What it takes for a reply to be accepted**: a code of success, an envelope that reports
success, and data that decode. -/
theorem accept_eq_ok [Wording] {α : Type} {decode : Json.Decoder α} {code : Nat} {body : Text}
    {a : α} :
    accept decode code body = .ok a ↔
      isSuccess code = true ∧ ∃ e v, read body = .ok e ∧ e.status = ("success" : Text) ∧
        e.data = some v ∧ decode v = .ok a := by
  unfold accept
  cases hread : read body with
  | error f =>
    dsimp only
    constructor
    · intro h
      split at h <;> nomatch h
    · rintro ⟨-, e, v, he, -⟩
      nomatch he
  | ok e =>
    dsimp only
    rw [ite_error_eq_ok, ite_error_eq_ok, Decidable.not_not, Bool.not_eq_true', Bool.not_eq_false]
    cases hdata : e.data with
    | none =>
      constructor
      · rintro ⟨-, -, h⟩
        nomatch h
      · rintro ⟨-, e', v, he, -, hv, -⟩
        cases he
        nomatch hdata.symm.trans hv
    | some v =>
      dsimp only
      rw [except_mapError_eq_ok]
      constructor
      · rintro ⟨hstatus, hcode, hv⟩
        exact ⟨hcode, e, v, rfl, hstatus, hdata, hv⟩
      · rintro ⟨hcode, e', v', he, hstatus, hdata', hv⟩
        cases he
        cases hdata.symm.trans hdata'
        exact ⟨hstatus, hcode, hv⟩

end Envelope

/-! ### Series -/

/-- The labels of a series as an object of strings. -/
def labelsValue (labels : Series) : Json.Value :=
  .object (labels.map fun label => (label.1, .string label.2))

/-- Series as an array of objects of strings. -/
def seriesValue (series : List Series) : Json.Value := .array (series.map labelsValue)

namespace Json.Decoder

theorem text_eq_ok {v : Value} {t : Text} : text v = .ok t ↔ v = .string t := by
  cases v with
  | string u =>
    exact ⟨fun h => congrArg Value.string (Except.ok.inj h),
      fun h => congrArg Except.ok (Value.string.inj h)⟩
  | _ => exact ⟨fun h => (nomatch h), fun h => (nomatch h)⟩

theorem textMap_eq_ok {v : Value} {labels : Series} :
    textMap v = .ok labels ↔ v = labelsValue labels := by
  cases v with
  | object ms =>
    unfold textMap labelsValue
    rw [Value.object.injEq]
    refine except_mapM_eq_ok fun a b => ?_
    obtain ⟨name, v⟩ := a
    obtain ⟨name', t⟩ := b
    rw [except_bind_eq_ok]
    constructor
    · rintro ⟨t', ht, h⟩
      cases h
      rw [text_eq_ok.1 ht]
    · intro h
      cases h
      exact ⟨t, text_eq_ok.2 rfl, rfl⟩
  | _ => exact ⟨fun h => (nomatch h), fun h => (nomatch h)⟩

/-- **Which data are a list of series**: an array of objects of strings, and nothing else. -/
theorem list_textMap_eq_ok {v : Value} {series : List Series} :
    list textMap v = .ok series ↔ v = seriesValue series := by
  cases v with
  | array vs =>
    unfold list seriesValue
    rw [Value.array.injEq]
    exact except_mapM_eq_ok fun _ _ => textMap_eq_ok
  | _ => exact ⟨fun h => (nomatch h), fun h => (nomatch h)⟩

end Json.Decoder

end RuleAudit
