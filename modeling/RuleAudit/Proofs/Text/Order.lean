import RuleAudit.Proofs.Text.Numeral

/-!
# The order of texts

Texts are in the order of the code points of their characters. Numerals that are filled up with
zeros to the same length are in the order of their numbers.

* `Text.append_lt_append_iff`: beginnings of the same length decide first;
* `Text.compare_digitsValue`: as many digits are in the order of their values;
* `Text.padded_append_lt_iff`: what begins with numerals of the same length.
-/

namespace RuleAudit.Text

/-! ### Beginnings of the same length -/

theorem append_lt_append_iff {a b : Text} (h : a.length = b.length) (s t : Text) :
    a ++ s < b ++ t ↔ a < b ∨ a = b ∧ s < t := by
  induction a generalizing b with
  | nil =>
    obtain rfl : b = [] := List.eq_nil_of_length_eq_zero h.symm
    simp
  | cons c a ih =>
    cases b with
    | nil => simp at h
    | cons d b =>
      have hlength : a.length = b.length := Nat.succ.inj h
      simp only [List.cons_append, List.cons_lt_cons_iff, ih hlength, List.cons.injEq]
      tauto

/-! ### Digits -/

theorem digitValue_add {c : Char} (h : c.isDigit = true) : digitValue c + 48 = c.toNat := by
  have hlow : 48 ≤ c.toNat := by
    simp only [Char.isDigit, Bool.and_eq_true, decide_eq_true_eq] at h
    exact h.1
  have hzero : '0'.toNat = 48 := rfl
  rw [digitValue, if_pos h]
  omega

/-- As many digits are in the order of their values, and have the same value only if they are
the same. -/
theorem compare_digitsValue {s t : Text} (hlength : s.length = t.length)
    (hs : ∀ c ∈ s, c.isDigit = true) (ht : ∀ c ∈ t, c.isDigit = true) :
    (s < t ↔ digitsValue s < digitsValue t) ∧ (s = t ↔ digitsValue s = digitsValue t) := by
  induction s using List.reverseRecOn generalizing t with
  | nil =>
    obtain rfl : t = [] := List.eq_nil_of_length_eq_zero hlength.symm
    simp
  | append_singleton s c ih =>
    obtain rfl | ⟨t, d, rfl⟩ := List.eq_nil_or_concat' t
    · simp at hlength
    have hrest : s.length = t.length := by simpa using hlength
    have hc : c.isDigit = true := hs c (by simp)
    have hd : d.isDigit = true := ht d (by simp)
    obtain ⟨hlt, heq⟩ := ih hrest (fun e he => hs e (by simp [he])) fun e he => ht e (by simp [he])
    have hcvalue := digitValue_add hc
    have hdvalue := digitValue_add hd
    have hcsmall := digitValue_lt hc
    have hdsmall := digitValue_lt hd
    have hlast : c = d ↔ c.toNat = d.toNat := Char.toNat_inj.symm
    have horder : c < d ↔ c.toNat < d.toNat := Iff.rfl
    rw [append_lt_append_iff hrest, digitsValue_append_singleton, digitsValue_append_singleton, hlt,
      List.append_singleton_inj, heq, hlast]
    simp only [List.cons_lt_cons_iff, horder, List.lt_irrefl, and_false, or_false]
    constructor <;> omega

section

variable {width m n : Nat}

/-- **What begins with numerals of the same length is in the order of their numbers first.** -/
theorem padded_append_lt_iff (hwidth : 0 < width) (hm : m < 10 ^ width) (hn : n < 10 ^ width)
    (s t : Text) :
    decimalPadded width m ++ s < decimalPadded width n ++ t ↔ m < n ∨ m = n ∧ s < t := by
  have hlength : (decimalPadded width m).length = (decimalPadded width n).length := by
    rw [length_decimalPadded hwidth hm, length_decimalPadded hwidth hn]
  obtain ⟨hlt, heq⟩ := compare_digitsValue hlength (fun _ => isDigit_of_mem_decimalPadded)
    fun _ => isDigit_of_mem_decimalPadded
  rw [append_lt_append_iff hlength, hlt, heq, digitsValue_decimalPadded, digitsValue_decimalPadded]

end

end RuleAudit.Text
