import Mathlib.Data.List.Basic
import Mathlib.Data.List.Induction
import RuleAudit.Numeral

/-!
Numerals in base ten and base sixteen are read as what has been written.

* `Text.digitsValue_decimal`, `Text.hexValue?_hex`: the value of a numeral is the number;
* `Text.hexValue?_lt`: few digits make small numbers;
* `Numeral.read?_eq_some`: which texts are numerals of settings.
-/

namespace RuleAudit.Text

/-! ### Base ten -/

theorem decimal_ne_nil (n : Nat) : decimal n ≠ [] := Nat.toDigits_ne_nil

theorem isDigit_of_mem_decimal {n : Nat} {c : Char} (h : c ∈ decimal n) : c.isDigit = true :=
  Nat.isDigit_of_mem_toDigits (by decide) (by decide) h

theorem all_isDigit_decimal (n : Nat) : (decimal n).all Char.isDigit = true :=
  List.all_eq_true.2 fun _ h => isDigit_of_mem_decimal h

theorem digitsValue_decimal (n : Nat) : digitsValue (decimal n) = n := by
  have hvalue : digitsValue (decimal n) = Nat.ofDigitChars 10 (decimal n) 0 := by
    refine List.foldl_ext _ _ _ fun m c hc => ?_
    rw [digitValue, if_pos (isDigit_of_mem_decimal hc)]
  rw [hvalue, decimal, Nat.ofDigitChars_toDigits (by decide) (by decide)]

/-- A numeral has no zero in front. -/
theorem head?_decimal {n : Nat} (h : n ≠ 0) : (decimal n).head? ≠ some '0' := by
  induction n using Nat.strongRecOn with
  | ind n ih =>
    rw [decimal, Nat.toDigits_eq_if (by decide)]
    split
    next => simpa using h
    next =>
      rw [List.head?_append, List.head?_eq_some_head Nat.toDigits_ne_nil]
      have hrec := ih (n / 10) (by omega) (by omega)
      rwa [decimal, List.head?_eq_some_head Nat.toDigits_ne_nil] at hrec

theorem digitsValue_append_singleton (t : Text) (c : Char) :
    digitsValue (t ++ [c]) = 10 * digitsValue t + digitValue c := by
  simp [digitsValue]

/-- Zeros in front do not count. -/
theorem digitsValue_zeros (k : Nat) (t : Text) :
    digitsValue (List.replicate k '0' ++ t) = digitsValue t := by
  induction k with
  | zero => rfl
  | succ k ih =>
    have hzero : digitsValue (List.replicate (k + 1) '0' ++ t) =
        digitsValue (List.replicate k '0' ++ t) := rfl
    rw [hzero, ih]

theorem digitValue_lt {c : Char} (h : c.isDigit = true) : digitValue c < 10 := by
  rw [digitValue, if_pos h]
  simp only [Char.isDigit, Bool.and_eq_true, decide_eq_true_eq] at h
  have htop : c.toNat ≤ 57 := h.2
  have hzero : '0'.toNat = 48 := rfl
  omega

theorem digitChar_digitValue {c : Char} (h : c.isDigit = true) : (digitValue c).digitChar = c := by
  have hlt := digitValue_lt h
  apply Char.toNat_inj.1
  rw [Nat.toNat_digitChar_of_lt_ten hlt, digitValue, if_pos h]
  simp only [Char.isDigit, Bool.and_eq_true, decide_eq_true_eq] at h
  have hlow : 48 ≤ c.toNat := h.1
  have hzero : '0'.toNat = 48 := rfl
  omega

/-- A text of digits is the numeral of its value with zeros in front. -/
theorem eq_zeros_decimal {ds : Text} (hne : ds ≠ []) (hall : ∀ c ∈ ds, c.isDigit = true) :
    ∃ k, ds = List.replicate k '0' ++ decimal (digitsValue ds) := by
  induction ds using List.reverseRecOn with
  | nil => exact absurd rfl hne
  | append_singleton ds c ih =>
    have hc : c.isDigit = true := hall c (by simp)
    have hlt := digitValue_lt hc
    have hdigit : Nat.toDigits 10 (digitValue c) = [c] := by
      rw [Nat.toDigits_of_lt_base hlt, digitChar_digitValue hc]
    rw [digitsValue_append_singleton]
    by_cases hds : ds = []
    · subst hds
      have hvalue : 10 * digitsValue [] + digitValue c = digitValue c := by simp [digitsValue]
      rw [hvalue]
      exact ⟨0, hdigit.symm⟩
    obtain ⟨k, hk⟩ := ih hds fun d hd => hall d (by simp [hd])
    by_cases hzero : digitsValue ds = 0
    · -- nothing but zeros has come before, the last of them as a numeral
      refine ⟨k + 1, ?_⟩
      have hrepl : ds = List.replicate (k + 1) '0' := by
        rw [hk, hzero, List.replicate_succ']
        rfl
      rw [hzero, Nat.mul_zero, Nat.zero_add, decimal, hdigit, ← hrepl]
    · refine ⟨k, ?_⟩
      have happend := Nat.toDigits_append_toDigits (by decide : 1 < 10) (Nat.pos_of_ne_zero hzero) hlt
      rw [decimal, ← happend, hdigit, ← List.append_assoc]
      exact congrArg (· ++ [c]) hk

/-! ### Base sixteen -/

theorem hexDigit?_lt {c : Char} {d : Nat} (h : hexDigit? c = some d) : d < 16 := by
  have hle : ∀ {a b : Char}, a ≤ b → a.toNat ≤ b.toNat := fun h => h
  unfold hexDigit? at h
  split at h
  next hc =>
    have hvalue := Option.some.inj h
    simp only [Char.isDigit, Bool.and_eq_true, decide_eq_true_eq] at hc
    have htop : c.toNat ≤ 57 := hc.2
    rw [show '0'.toNat = 48 from rfl] at hvalue
    omega
  next =>
    split at h
    next hc =>
      have hvalue := Option.some.inj h
      have htop : c.toNat ≤ 102 := hle hc.2
      rw [show 'a'.toNat = 97 from rfl] at hvalue
      omega
    next =>
      split at h
      next hc =>
        have hvalue := Option.some.inj h
        have htop : c.toNat ≤ 70 := hle hc.2
        rw [show 'A'.toNat = 65 from rfl] at hvalue
        omega
      next => cases h

theorem hexDigit?_digitChar {d : Nat} (h : d < 16) : hexDigit? d.digitChar = some d := by
  revert d
  decide

/-- A step of the reading of a numeral. -/
def hexStep (n : Nat) (c : Char) : Option Nat := (hexDigit? c).map (16 * n + ·)

theorem hexValue?_eq_foldlM (t : Text) : hexValue? t = t.foldlM hexStep 0 := rfl

theorem hexValue?_hex (n : Nat) : hexValue? (hex n) = some n := by
  induction n using Nat.strongRecOn with
  | ind n ih =>
    rw [hexValue?_eq_foldlM, hex, Nat.toDigits_eq_if (by decide)]
    split
    next hn => simp [hexStep, hexDigit?_digitChar hn]
    next hn =>
      have hrec : (Nat.toDigits 16 (n / 16)).foldlM hexStep 0 = some (n / 16) :=
        ih (n / 16) (by omega)
      rw [List.foldlM_append, hrec]
      simp only [Option.bind_eq_bind, Option.bind_some, List.foldlM_cons, List.foldlM_nil, hexStep,
        hexDigit?_digitChar (show n % 16 < 16 by omega), Option.map_some]
      exact congrArg some (by omega)

/-- What can be read has digits only, and their number bounds the value. -/
theorem foldlM_hexStep {t : Text} {m n : Nat} (h : t.foldlM hexStep m = some n) :
    (∀ c ∈ t, (hexDigit? c).isSome) ∧ n < (m + 1) * 16 ^ t.length := by
  induction t generalizing m with
  | nil =>
    cases h
    simp
  | cons c rest ih =>
    rw [List.foldlM_cons, hexStep] at h
    cases hd : hexDigit? c with
    | none => simp [hd] at h
    | some d =>
      rw [hd] at h
      obtain ⟨hrest, hn⟩ := ih h
      refine ⟨List.forall_mem_cons.2 ⟨by simp [hd], hrest⟩, Nat.lt_of_lt_of_le hn ?_⟩
      have hdigit : 16 * m + d + 1 ≤ (m + 1) * 16 := by
        have := hexDigit?_lt hd
        omega
      calc (16 * m + d + 1) * 16 ^ rest.length ≤ (m + 1) * 16 * 16 ^ rest.length :=
            Nat.mul_le_mul_right _ hdigit
        _ = (m + 1) * 16 ^ (c :: rest).length := by
            rw [List.length_cons, Nat.pow_succ, Nat.mul_assoc, Nat.mul_comm 16]

theorem hexValue?_lt {t : Text} {n : Nat} (h : hexValue? t = some n) : n < 16 ^ t.length := by
  have hn := (foldlM_hexStep (hexValue?_eq_foldlM t ▸ h)).2
  rwa [Nat.zero_add, Nat.one_mul] at hn

theorem isSome_hexDigit?_of_mem_hex {n : Nat} {c : Char} (h : c ∈ hex n) :
    (hexDigit? c).isSome :=
  (foldlM_hexStep (hexValue?_eq_foldlM _ ▸ hexValue?_hex n)).1 c h

theorem notMem_hex {c : Char} (h : hexDigit? c = none) (n : Nat) : c ∉ hex n := by
  intro hmem
  have hdigit := isSome_hexDigit?_of_mem_hex hmem
  rw [h] at hdigit
  cases hdigit

theorem hex_ne_nil (n : Nat) : hex n ≠ [] := Nat.toDigits_ne_nil

theorem hex_length_le {n k : Nat} (hk : 0 < k) (h : n < 16 ^ k) : (hex n).length ≤ k :=
  (Nat.length_toDigits_le_iff (by decide) hk).2 h

/-! ### Zeros in front -/

section

variable {width n : Nat} {t : Text} {c : Char}

theorem length_padZeros (h : t.length ≤ width) : (padZeros width t).length = width := by
  rw [padZeros, List.length_append, List.length_replicate]
  omega

theorem mem_padZeros (h : c ∈ padZeros width t) : c = '0' ∨ c ∈ t :=
  (List.mem_append.1 h).imp_left List.eq_of_mem_replicate

theorem hexValue?_padZeros (width : Nat) (t : Text) :
    hexValue? (padZeros width t) = hexValue? t := by
  rw [padZeros]
  induction width - t.length with
  | zero => rfl
  | succ k ih =>
    have hzero : hexValue? (List.replicate (k + 1) '0' ++ t) =
        hexValue? (List.replicate k '0' ++ t) := rfl
    rw [hzero, ih]

theorem digitsValue_decimalPadded (width n : Nat) : digitsValue (decimalPadded width n) = n := by
  rw [decimalPadded, padZeros, digitsValue_zeros, digitsValue_decimal]

theorem decimalPadded_ne_nil (width n : Nat) : decimalPadded width n ≠ [] :=
  List.append_ne_nil_of_right_ne_nil _ (decimal_ne_nil n)

theorem isDigit_of_mem_decimalPadded (h : c ∈ decimalPadded width n) : c.isDigit = true := by
  rcases mem_padZeros h with rfl | h
  · rfl
  · exact isDigit_of_mem_decimal h

theorem notMem_decimalPadded (h : c.isDigit = false) : c ∉ decimalPadded width n := by
  intro hmem
  rw [isDigit_of_mem_decimalPadded hmem] at h
  cases h

theorem length_decimalPadded (hwidth : 0 < width) (h : n < 10 ^ width) :
    (decimalPadded width n).length = width :=
  length_padZeros ((Nat.length_toDigits_le_iff (by decide) hwidth).2 h)

end

end RuleAudit.Text

/-! ### Numerals in settings -/

namespace RuleAudit.Numeral

/-- The text is a numeral of the number: decimal digits, at least one, and a plus sign before them
or not. -/
def Denotes (t : Text) (n : Nat) : Prop :=
  ∃ ds, (t = ds ∨ t = '+' :: ds) ∧ ds ≠ [] ∧ (∀ c ∈ ds, c.isDigit = true) ∧
    Text.digitsValue ds = n

theorem digits_of_isDigit {ds : Text} (h : ∀ c ∈ ds, c.isDigit = true) : digits ds = ds := by
  cases ds with
  | nil => rfl
  | cons c ds =>
    have hne : c ≠ '+' := by
      rintro rfl
      exact absurd (h '+' (List.mem_cons_self ..)) (by decide)
    unfold digits
    split
    next heq => exact absurd (List.cons.inj heq).1 hne
    next => rfl

theorem denotes_iff {t : Text} {n : Nat} :
    Denotes t n ↔ digits t ≠ [] ∧ (digits t).all Char.isDigit = true ∧
      Text.digitsValue (digits t) = n := by
  rw [List.all_eq_true]
  constructor
  · rintro ⟨ds, rfl | rfl, hne, hall, hvalue⟩
    · rw [digits_of_isDigit hall]
      exact ⟨hne, hall, hvalue⟩
    · exact ⟨hne, hall, hvalue⟩
  · rintro ⟨hne, hall, hvalue⟩
    refine ⟨digits t, ?_, hne, hall, hvalue⟩
    unfold digits
    split
    · exact .inr rfl
    · exact .inl rfl

theorem Denotes.unique {t : Text} {m n : Nat} (hm : Denotes t m) (hn : Denotes t n) : m = n :=
  (denotes_iff.1 hm).2.2.symm.trans (denotes_iff.1 hn).2.2

/-- **Which texts are read as a number**: its numerals, if the number has 64 bits. -/
theorem read?_eq_some {t : Text} {n : Nat} : read? t = some n ↔ Denotes t n ∧ n < 2 ^ 64 := by
  rw [denotes_iff]
  unfold read?
  dsimp only
  constructor
  · intro h
    split at h
    · rename_i hcond
      cases h
      exact ⟨⟨hcond.1, hcond.2.1, rfl⟩, hcond.2.2⟩
    · cases h
  · rintro ⟨⟨hne, hall, rfl⟩, hlt⟩
    rw [if_pos ⟨hne, hall, hlt⟩]

/-- A numeral is the plain one with zeros in front, and a plus sign or not. -/
theorem denotes_iff_zeros {t : Text} {n : Nat} :
    Denotes t n ↔ ∃ sign ∈ ([[], ['+']] : List Text), ∃ k,
      t = sign ++ (List.replicate k '0' ++ Text.decimal n) := by
  constructor
  · rintro ⟨ds, hsign, hne, hall, rfl⟩
    obtain ⟨k, hk⟩ := Text.eq_zeros_decimal hne hall
    rcases hsign with rfl | rfl
    · exact ⟨[], by simp, k, hk⟩
    · exact ⟨['+'], by simp, k, congrArg ('+' :: ·) hk⟩
  · rintro ⟨sign, hsign, k, rfl⟩
    refine ⟨List.replicate k '0' ++ Text.decimal n, ?_, ?_, ?_, ?_⟩
    · simp only [List.mem_cons, List.not_mem_nil, or_false] at hsign
      rcases hsign with rfl | rfl
      · exact .inl rfl
      · exact .inr rfl
    · simp [Text.decimal_ne_nil]
    · intro c hc
      rcases List.mem_append.1 hc with hc | hc
      · rw [List.eq_of_mem_replicate hc]
        rfl
      · exact Text.isDigit_of_mem_decimal hc
    · rw [Text.digitsValue_zeros, Text.digitsValue_decimal]

theorem denotes_decimal (n : Nat) : Denotes (Text.decimal n) n :=
  ⟨_, .inl rfl, Text.decimal_ne_nil n, fun _ => Text.isDigit_of_mem_decimal,
    Text.digitsValue_decimal n⟩

end RuleAudit.Numeral
