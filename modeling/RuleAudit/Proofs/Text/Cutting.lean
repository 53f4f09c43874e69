import Mathlib.Data.List.TakeWhile
import RuleAudit.Text.Basic

/-!
Texts are cut where they have been put together, as long as the parts are free of the sign at which
they are cut.

* `Text.cut_append`, `Text.cut_of_notMem`: at the first occurrence of a sign;
* `Text.split_join`: at all of them;
* `Text.takeWhile_append_of_head`: before a sign of some kind.
-/

namespace RuleAudit.Text

/-! ### Up to a sign -/

/-- A text is taken as long as its characters satisfy `p`, if what follows does not begin with such
a character. -/
theorem takeWhile_append_of_head {p : Char → Bool} {t rest : Text} (h : ∀ c ∈ t, p c = true)
    (hrest : ∀ c ∈ rest.head?, p c = false) : (t ++ rest).takeWhile p = t := by
  rw [List.takeWhile_append_of_pos h]
  cases rest with
  | nil => simp
  | cons c rest =>
    rw [List.takeWhile_cons_of_neg (by simp [hrest c rfl]), List.append_nil]

theorem dropWhile_append_of_head {p : Char → Bool} {t rest : Text} (h : ∀ c ∈ t, p c = true)
    (hrest : ∀ c ∈ rest.head?, p c = false) : (t ++ rest).dropWhile p = rest := by
  rw [List.dropWhile_append_of_pos h]
  cases rest with
  | nil => simp
  | cons c rest => rw [List.dropWhile_cons_of_neg (by simp [hrest c rfl])]

theorem trimEnd_append {p : Char → Bool} {a b : Text} (h : ∀ c ∈ a.getLast?, p c = false) :
    trimEnd p (a ++ b) = a ++ trimEnd p b := by
  have ha : a.reverse.dropWhile p = a.reverse := by
    rw [← List.head?_reverse] at h
    revert h
    generalize a.reverse = s
    intro h
    cases s with
    | nil => rfl
    | cons c rest => exact List.dropWhile_cons_of_neg (by simp [h c rfl])
  unfold trimEnd
  rw [List.reverse_append, List.dropWhile_append, ha]
  split
  next hnil =>
    rw [List.isEmpty_iff.1 hnil]
    simp
  next => simp

theorem trimEnd_of_getLast? {p : Char → Bool} {t : Text} (h : ∀ c ∈ t.getLast?, p c = false) :
    trimEnd p t = t := by
  have hnil := trimEnd_append h (b := [])
  simpa [trimEnd] using hnil

theorem trimEnd_append_singleton {p : Char → Bool} {c : Char} (h : p c = true) (t : Text) :
    trimEnd p (t ++ [c]) = trimEnd p t := by
  simp [trimEnd, h]

theorem trimEnd_prefix (p : Char → Bool) (t : Text) : trimEnd p t <+: t := by
  rw [trimEnd, ← List.reverse_suffix, List.reverse_reverse]
  exact List.dropWhile_suffix p

/-! ### At the first occurrence -/

theorem bne_of_notMem {c : Char} {t : Text} (h : c ∉ t) : ∀ d ∈ t, (d != c) = true := by
  intro d hd
  simp only [bne_iff_ne, ne_eq]
  rintro rfl
  exact h hd

theorem cut_append {c : Char} {a : Text} (h : c ∉ a) (b : Text) :
    cut c (a ++ c :: b) = (a, some b) := by
  have hne := bne_of_notMem h
  have hhead : ∀ d ∈ (c :: b).head?, (d != c) = false := by simp
  rw [cut, dropWhile_append_of_head hne hhead, takeWhile_append_of_head hne hhead]

theorem cut_of_notMem {c : Char} {t : Text} (h : c ∉ t) : cut c t = (t, none) := by
  have hnil : (t ++ []).dropWhile (· != c) = [] :=
    dropWhile_append_of_head (bne_of_notMem h) (by simp)
  rw [List.append_nil] at hnil
  rw [cut, hnil]

theorem cut_rest_length {c : Char} {t a rest : Text} (h : cut c t = (a, some rest)) :
    rest.length < t.length := by
  unfold cut at h
  split at h
  · cases h
  next d tail heq =>
    obtain rfl : tail = rest := Option.some.inj (Prod.mk.inj h).2
    have hle : (t.dropWhile (· != c)).length ≤ t.length := (List.dropWhile_sublist _).length_le
    rw [heq, List.length_cons] at hle
    omega

/-! ### At all occurrences -/

theorem split_of_notMem {c : Char} {t : Text} (h : c ∉ t) : split c t = [t] := by
  induction t with
  | nil => rfl
  | cons d rest ih =>
    rw [List.mem_cons, not_or] at h
    rw [split, if_neg (Ne.symm h.1), ih h.2]

theorem split_append_cons {c : Char} {a : Text} (h : c ∉ a) (b : Text) :
    split c (a ++ c :: b) = a :: split c b := by
  induction a with
  | nil => exact if_pos rfl
  | cons d rest ih =>
    rw [List.mem_cons, not_or] at h
    rw [List.cons_append, split, if_neg (Ne.symm h.1), ih h.2]

theorem split_ne_nil (c : Char) (t : Text) : split c t ≠ [] := by
  cases t with
  | nil => simp [split]
  | cons d rest =>
    rw [split]
    split
    · simp
    · split <;> simp

/-- The sign at which a text is cut stands in none of the pieces. -/
theorem notMem_of_mem_split {c : Char} {t piece : Text} (h : piece ∈ split c t) : c ∉ piece := by
  induction t generalizing piece with
  | nil =>
    obtain rfl : piece = [] := by simpa [split] using h
    simp
  | cons d rest ih =>
    rw [split] at h
    by_cases hd : d = c
    · rw [if_pos hd] at h
      rcases List.mem_cons.1 h with rfl | h
      · simp
      · exact ih h
    · rw [if_neg hd] at h
      obtain ⟨first, others, hsplit⟩ := List.exists_cons_of_ne_nil (split_ne_nil c rest)
      rw [hsplit] at h ih
      rcases List.mem_cons.1 h with rfl | h
      · have hfirst : c ∉ first := ih List.mem_cons_self
        simp [hfirst, Ne.symm hd]
      · exact ih (List.mem_cons_of_mem _ h)

/-- The pieces hold nothing but what the text holds. -/
theorem mem_of_mem_split {c d : Char} {t piece : Text} (h : piece ∈ split c t) (hd : d ∈ piece) :
    d ∈ t := by
  induction t generalizing piece with
  | nil =>
    obtain rfl : piece = [] := by simpa [split] using h
    exact hd
  | cons e rest ih =>
    rw [split] at h
    by_cases he : e = c
    · rw [if_pos he] at h
      rcases List.mem_cons.1 h with rfl | h
      · simp at hd
      · exact List.mem_cons_of_mem _ (ih h hd)
    · rw [if_neg he] at h
      obtain ⟨first, others, hsplit⟩ := List.exists_cons_of_ne_nil (split_ne_nil c rest)
      rw [hsplit] at h ih
      rcases List.mem_cons.1 h with rfl | h
      · rcases List.mem_cons.1 hd with rfl | hd
        · simp
        · exact List.mem_cons_of_mem _ (ih List.mem_cons_self hd)
      · exact List.mem_cons_of_mem _ (ih (List.mem_cons_of_mem _ h) hd)

/-- Pieces that have been joined with a sign that none of them has are found again. -/
theorem split_join {c : Char} {pieces : List Text} (hne : pieces ≠ []) (h : ∀ p ∈ pieces, c ∉ p) :
    split c (join [c] pieces) = pieces := by
  induction pieces with
  | nil => exact absurd rfl hne
  | cons p rest ih =>
    obtain ⟨hp, hrest⟩ := List.forall_mem_cons.1 h
    cases rest with
    | nil => exact split_of_notMem hp
    | cons q rest =>
      rw [join, List.append_assoc, List.singleton_append, split_append_cons hp,
        ih (List.cons_ne_nil _ _) hrest]
      simp

/-- The pieces of a text, joined again, are the text. -/
theorem join_split (c : Char) (t : Text) : join [c] (split c t) = t := by
  induction t with
  | nil => rfl
  | cons d rest ih =>
    obtain ⟨first, others, hsplit⟩ := List.exists_cons_of_ne_nil (split_ne_nil c rest)
    rw [split]
    rw [hsplit] at ih ⊢
    by_cases hd : d = c
    · rw [if_pos hd, join, ih, hd]
      · simp
      · simp
    · rw [if_neg hd, ← ih]
      cases others <;> simp [join]

/-- Without the separators, joined pieces stand one behind the other. -/
theorem filter_join {c : Char} {pieces : List Text} (h : ∀ p ∈ pieces, c ∉ p) :
    (join [c] pieces).filter (· != c) = pieces.flatten := by
  induction pieces with
  | nil => rfl
  | cons p rest ih =>
    obtain ⟨hp, hrest⟩ := List.forall_mem_cons.1 h
    have hpiece : p.filter (· != c) = p := List.filter_eq_self.2 (bne_of_notMem hp)
    cases rest with
    | nil => simp [join, hpiece]
    | cons q rest => simp [join, hpiece, ih hrest]

/-- What stands in joined pieces stands in one of them, or is the separator. -/
theorem mem_join {c d : Char} {pieces : List Text} (h : d ∈ join [c] pieces) :
    d = c ∨ ∃ p ∈ pieces, d ∈ p := by
  induction pieces with
  | nil => cases h
  | cons p rest ih =>
    cases rest with
    | nil => exact .inr ⟨p, List.mem_singleton_self p, h⟩
    | cons q rest =>
      rw [join, List.append_assoc, List.mem_append, List.singleton_append, List.mem_cons] at h
      · obtain hp | rfl | hrest := h
        · exact .inr ⟨p, List.mem_cons_self, hp⟩
        · exact .inl rfl
        · obtain rfl | ⟨r, hr, hd⟩ := ih hrest
          · exact .inl rfl
          · exact .inr ⟨r, List.mem_cons_of_mem p hr, hd⟩
      · simp

end RuleAudit.Text
