import Mathlib.Data.List.Basic
import RuleAudit.Text.Basic

/-!
# Records that are filled field by field

A record is read from members with names: those that name a field set it, none is set twice, and the
others are passed over.

* `Filled`: the way of a record from one state to another, member by member;
* `Governs`: one part of the record depends on the field of one name only;
* `Filled.part_of_new`: such a part comes from the first member of that name, if there is one.
-/

namespace RuleAudit

/-! ### Looking for a field -/

section

variable {F : Type} {nameOf : F → Text} {fields : List F} {name : Text}

theorem not_isField_of_find? (h : fields.find? (nameOf · == name) = none) :
    ¬∃ field ∈ fields, nameOf field = name := by
  rintro ⟨field, hf, hn⟩
  exact List.find?_eq_none.1 h field hf (beq_iff_eq.2 hn)

theorem isField_of_find? {field : F} (h : fields.find? (nameOf · == name) = some field) :
    field ∈ fields ∧ nameOf field = name := by
  have hn : (nameOf field == name) = true := List.find?_some (p := fun f => nameOf f == name) h
  exact ⟨List.mem_of_find?_eq_some h, beq_iff_eq.1 hn⟩

end

/-! ### Filling a record -/

section

variable {V A β : Type} {IsField : Text → Prop} {sets : Text → V → A → A → Prop}

/-- The members lead from a record in which the fields of some names have been set to another. -/
inductive Filled (IsField : Text → Prop) (sets : Text → V → A → A → Prop) :
    List Text → A → List (Text × V) → List Text → A → Prop
  | done {seen : List Text} {a : A} : Filled IsField sets seen a [] seen a
  | pass {seen seen' : List Text} {a a' : A} {name : Text} {v : V} {ms : List (Text × V)}
    (hno : ¬IsField name) (rest : Filled IsField sets seen a ms seen' a') :
    Filled IsField sets seen a ((name, v) :: ms) seen' a'
  | set {seen seen' : List Text} {a a₁ a' : A} {name : Text} {v : V} {ms : List (Text × V)}
    (hnew : name ∉ seen) (hset : sets name v a a₁)
    (rest : Filled IsField sets (name :: seen) a₁ ms seen' a') :
    Filled IsField sets seen a ((name, v) :: ms) seen' a'

/-- Setting the field of that name makes the part what the member shows; setting another leaves the
part alone. -/
def Governs (sets : Text → V → A → A → Prop) (name : Text) (part : A → β) (shows : V → β → Prop) :
    Prop :=
  ∀ n v a a', sets n v a a' → if n = name then shows v (part a') else part a' = part a

namespace Governs

variable {name n : Text} {part : A → β} {shows : V → β → Prop} {v : V} {a a' : A}

theorem shown (h : Governs sets name part shows) (hset : sets name v a a') : shows v (part a') := by
  have := h name v a a' hset
  rwa [if_pos rfl] at this

theorem kept (h : Governs sets name part shows) (hne : n ≠ name) (hset : sets n v a a') :
    part a' = part a := by
  have := h n v a a' hset
  rwa [if_neg hne] at this

end Governs

namespace Filled

variable {name : Text} {part : A → β} {shows : V → β → Prop} {seen seen' : List Text} {a a' : A}
  {ms : List (Text × V)}

theorem mono {IsField' : Text → Prop} {sets' : Text → V → A → A → Prop}
    (h : Filled IsField sets seen a ms seen' a') (hfield : ∀ n, IsField' n → IsField n)
    (hsets : ∀ n v a a', sets n v a a' → sets' n v a a') :
    Filled IsField' sets' seen a ms seen' a' := by
  induction h with
  | done => exact .done
  | pass hno _ ih => exact .pass (fun hf => hno (hfield _ hf)) ih
  | set hnew hset _ ih => exact .set hnew (hsets _ _ _ _ hset) ih

/-- A field that has been set stays as it is. -/
theorem part_of_seen (h : Filled IsField sets seen a ms seen' a')
    (hg : Governs sets name part shows) (hseen : name ∈ seen) : part a' = part a ∧ name ∈ seen' := by
  induction h with
  | done => exact ⟨rfl, hseen⟩
  | pass _ _ ih => exact ih hseen
  | @set _ _ _ _ _ n _ _ hnew hset _ ih =>
    have hne : n ≠ name := by
      rintro rfl
      exact hnew hseen
    rw [← hg.kept hne hset]
    exact ih (List.mem_cons_of_mem _ hseen)

/-- **A field that has not been set is read from the first member of its name**, if there is one. -/
theorem part_of_new (h : Filled IsField sets seen a ms seen' a') (hname : IsField name)
    (hg : Governs sets name part shows) (hnew : name ∉ seen) :
    (ms.lookup name = none ∧ part a' = part a ∧ name ∉ seen') ∨
      ∃ v, ms.lookup name = some v ∧ shows v (part a') := by
  induction h with
  | done => exact .inl ⟨rfl, rfl, hnew⟩
  | @pass _ _ _ _ n v ms hno _ ih =>
    have hne : name ≠ n := by
      rintro rfl
      exact hno hname
    rw [List.lookup_cons, beq_false_of_ne hne]
    exact ih hnew
  | @set seen _ a₀ a₁ _ n v ms _ hset rest ih =>
    by_cases hn : n = name
    · subst hn
      rw [List.lookup_cons_self, (rest.part_of_seen hg (List.mem_cons_self ..)).1]
      exact .inr ⟨v, rfl, hg.shown hset⟩
    · rw [List.lookup_cons, beq_false_of_ne (Ne.symm hn), ← hg.kept hn hset]
      refine ih fun hmem => ?_
      rcases List.mem_cons.1 hmem with hmem | hmem
      · exact hn hmem.symm
      · exact hnew hmem

theorem part_eq (h : Filled IsField sets seen a ms seen' a') (hname : IsField name) {f : V → β}
    (hg : Governs sets name part fun v b => f v = b) (hnew : name ∉ seen) :
    part a' = (ms.lookup name).elim (part a) f := by
  obtain ⟨hnone, hpart, -⟩ | ⟨v, hv, hshow⟩ := h.part_of_new hname hg hnew
  · rw [hnone, hpart]
    rfl
  · rw [hv, ← hshow]
    rfl

end Filled

end

end RuleAudit
