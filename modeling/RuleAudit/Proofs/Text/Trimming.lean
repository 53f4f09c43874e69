import RuleAudit.Proofs.Text.Cutting
import RuleAudit.Text.Blank

/-!
Texts without the white space at their ends.

* `Text.trim_eq_nil_iff`: nothing is left exactly of texts of nothing but white space;
* `Text.trim_trim`: what has been trimmed stays as it is.
-/

namespace RuleAudit.Text

theorem head?_dropWhile {p : Char → Bool} {t : Text} : ∀ c ∈ (t.dropWhile p).head?, p c = false := by
  intro c hc
  have h := List.head?_dropWhile_not p t
  rw [Option.mem_def.1 hc] at h
  exact h

theorem getLast?_trimEnd {p : Char → Bool} {t : Text} :
    ∀ c ∈ (trimEnd p t).getLast?, p c = false := by
  rw [trimEnd, List.getLast?_reverse]
  exact head?_dropWhile

theorem trimEnd_eq_nil_iff {p : Char → Bool} {t : Text} :
    trimEnd p t = [] ↔ ∀ c ∈ t, p c = true := by
  rw [trimEnd, List.reverse_eq_nil_iff, List.dropWhile_eq_nil_iff]
  simp

theorem trim_eq_nil_iff {t : Text} : trim t = [] ↔ isAllBlank t = true := by
  rw [trim, trimBoth, trimEnd_eq_nil_iff, isAllBlank, List.all_eq_true]
  constructor
  · intro h
    have hnil : t.dropWhile isBlank = [] := by
      cases hdrop : t.dropWhile isBlank with
      | nil => rfl
      | cons c rest =>
        have hblank := h c (by simp [hdrop])
        have hnot : isBlank c = false := head?_dropWhile (t := t) c (by simp [hdrop])
        rw [hnot] at hblank
        cases hblank
    exact List.dropWhile_eq_nil_iff.1 hnil
  · intro h c hc
    exact h c (List.dropWhile_subset _ hc)

/-- A text that neither begins nor ends with white space is left as it is. -/
theorem trim_of_ends {t : Text} (hhead : ∀ c ∈ t.head?, isBlank c = false)
    (hlast : ∀ c ∈ t.getLast?, isBlank c = false) : trim t = t := by
  have hdrop : t.dropWhile isBlank = t := by
    cases t with
    | nil => rfl
    | cons c t => exact List.dropWhile_cons_of_neg (by simp [hhead c rfl])
  rw [trim, trimBoth, hdrop]
  exact trimEnd_of_getLast? hlast

theorem trim_of_notBlank {t : Text} (h : ∀ c ∈ t, isBlank c = false) : trim t = t :=
  trim_of_ends (fun c hc => h c (List.mem_of_mem_head? hc))
    (fun c hc => h c (List.mem_of_mem_getLast? hc))

theorem trim_trim (t : Text) : trim (trim t) = trim t := by
  refine trim_of_ends (fun c hc => ?_) getLast?_trimEnd
  -- what is trimmed at the end still begins as it did
  obtain ⟨rest, hrest⟩ := trimEnd_prefix isBlank (t.dropWhile isBlank)
  refine head?_dropWhile (t := t) c ?_
  have hhead : (trimEnd isBlank (t.dropWhile isBlank)).head? = some c := hc
  rw [← hrest, List.head?_append, hhead]
  rfl

theorem isAllBlank_trim (t : Text) : isAllBlank (trim t) = isAllBlank t := by
  rw [Bool.eq_iff_iff, ← trim_eq_nil_iff, ← trim_eq_nil_iff, trim_trim]

end RuleAudit.Text
