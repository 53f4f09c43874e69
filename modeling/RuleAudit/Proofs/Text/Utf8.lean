import RuleAudit.Text.Utf8

/-!
Bytes that have been written for a text are read as that text.

* `Utf8.step_encodeChar`: the bytes of a character are read as the character;
* `Utf8.decode?_encode`: the bytes of a text are read as the text;
* `Utf8.decode?_eq_some_iff`: nothing else is read as the text.
-/

namespace RuleAudit.Text.Utf8

/-! ### Bytes as numbers -/

theorem toNat_toUInt8 {n : Nat} (h : n < 256) : n.toUInt8.toNat = n := by
  simp only [Nat.toUInt8, UInt8.toNat_ofNat']
  omega

theorem isTail_iff {b : UInt8} : isTail b = true ↔ 0x80 ≤ b.toNat ∧ b.toNat ≤ 0xBF := by
  simp [isTail, UInt8.le_iff_toNat_le]

theorem secondBounds_iff {lead b : UInt8} :
    (secondBounds lead).1 ≤ b ∧ b ≤ (secondBounds lead).2 ↔
      (if lead.toNat = 0xE0 then 0xA0 else if lead.toNat = 0xF0 then 0x90 else 0x80) ≤ b.toNat ∧
        b.toNat ≤ (if lead.toNat = 0xED then 0x9F else if lead.toNat = 0xF4 then 0x8F else 0xBF) := by
  unfold secondBounds
  simp only [beq_iff_eq, ← UInt8.toNat_inj]
  split
  · simp_all [UInt8.le_iff_toNat_le]
  · split
    · simp_all [UInt8.le_iff_toNat_le]
    · split
      · simp_all [UInt8.le_iff_toNat_le]
      · split <;> simp_all [UInt8.le_iff_toNat_le]

theorem tail_toUInt8 (n : Nat) :
    isTail (0x80 + n % 0x40).toUInt8 = true ∧ tailBits (0x80 + n % 0x40).toUInt8 = n % 0x40 := by
  have hn : (0x80 + n % 0x40).toUInt8.toNat = 0x80 + n % 0x40 := toNat_toUInt8 (by omega)
  refine ⟨isTail_iff.2 (by omega), ?_⟩
  unfold tailBits
  omega

/-! ### Characters -/

section

variable {n : Nat} (rest : List UInt8)

theorem step_one (h : n < 0x80) : step n.toUInt8 rest = .char (Char.ofNat n) rest := by
  have hn : n.toUInt8.toNat = n := toNat_toUInt8 (by omega)
  generalize n.toUInt8 = lead at hn
  subst hn
  unfold step
  rw [if_pos (UInt8.lt_iff_toNat_lt.2 h)]

theorem step_two (hlow : 0x80 ≤ n) (hhigh : n < 0x800) :
    step (0xC0 + n / 0x40).toUInt8 ((0x80 + n % 0x40).toUInt8 :: rest) =
      .char (Char.ofNat n) rest := by
  have hn : (0xC0 + n / 0x40).toUInt8.toNat = 0xC0 + n / 0x40 := toNat_toUInt8 (by omega)
  generalize (0xC0 + n / 0x40).toUInt8 = lead at hn
  have hone : ¬ lead < 0x80 := by
    simp [UInt8.lt_iff_toNat_lt]
    omega
  have htwo : (0xC2 ≤ lead && lead ≤ 0xDF) = true := by
    simp [UInt8.le_iff_toNat_le]
    omega
  obtain ⟨htail, hbits⟩ := tail_toUInt8 n
  unfold step
  rw [if_neg hone, if_pos htwo]
  dsimp only
  rw [if_pos htail, hbits, hn, show (0xC0 + n / 0x40 - 0xC0) * 0x40 + n % 0x40 = n by omega]

theorem step_three (hlow : 0x800 ≤ n) (hhigh : n < 0x10000) (hn : n < 0xD800 ∨ 0xDFFF < n) :
    step (0xE0 + n / 0x1000).toUInt8
        ((0x80 + n / 0x40 % 0x40).toUInt8 :: (0x80 + n % 0x40).toUInt8 :: rest) =
      .char (Char.ofNat n) rest := by
  have hlead : (0xE0 + n / 0x1000).toUInt8.toNat = 0xE0 + n / 0x1000 := toNat_toUInt8 (by omega)
  have hsecond : (0x80 + n / 0x40 % 0x40).toUInt8.toNat = 0x80 + n / 0x40 % 0x40 :=
    toNat_toUInt8 (by omega)
  obtain ⟨-, hbits⟩ := tail_toUInt8 (n / 0x40)
  obtain ⟨htail, hlast⟩ := tail_toUInt8 n
  generalize (0xE0 + n / 0x1000).toUInt8 = lead at hlead
  generalize (0x80 + n / 0x40 % 0x40).toUInt8 = second at hsecond hbits
  have hone : ¬ lead < 0x80 := by
    simp [UInt8.lt_iff_toNat_lt]
    omega
  have htwo : ¬ (0xC2 ≤ lead && lead ≤ 0xDF) = true := by
    simp [UInt8.le_iff_toNat_le]
    omega
  have hthree : (0xE0 ≤ lead && lead ≤ 0xEF) = true := by
    simp [UInt8.le_iff_toNat_le]
    omega
  -- the bounds leave out what two bytes can hold, and the surrogates; `n` is neither
  have hbounds : ((secondBounds lead).1 ≤ second && second ≤ (secondBounds lead).2) = true := by
    rw [Bool.and_eq_true, decide_eq_true_eq, decide_eq_true_eq, secondBounds_iff]
    grind
  have hvalue : (0xE0 + n / 0x1000 - 0xE0) * 0x1000 + n / 0x40 % 0x40 * 0x40 + n % 0x40 = n := by
    omega
  unfold step
  rw [if_neg hone, if_neg htwo, if_pos hthree]
  dsimp only
  rw [if_pos hbounds, if_pos htail, hbits, hlast, hlead, hvalue]

theorem step_four (hlow : 0x10000 ≤ n) (hhigh : n < 0x110000) :
    step (0xF0 + n / 0x40000).toUInt8
        ((0x80 + n / 0x1000 % 0x40).toUInt8 :: (0x80 + n / 0x40 % 0x40).toUInt8 ::
          (0x80 + n % 0x40).toUInt8 :: rest) =
      .char (Char.ofNat n) rest := by
  have hlead : (0xF0 + n / 0x40000).toUInt8.toNat = 0xF0 + n / 0x40000 := toNat_toUInt8 (by omega)
  have hsecond : (0x80 + n / 0x1000 % 0x40).toUInt8.toNat = 0x80 + n / 0x1000 % 0x40 :=
    toNat_toUInt8 (by omega)
  obtain ⟨-, hbits⟩ := tail_toUInt8 (n / 0x1000)
  obtain ⟨hthird, hmore⟩ := tail_toUInt8 (n / 0x40)
  obtain ⟨htail, hlast⟩ := tail_toUInt8 n
  generalize (0xF0 + n / 0x40000).toUInt8 = lead at hlead
  generalize (0x80 + n / 0x1000 % 0x40).toUInt8 = second at hsecond hbits
  have hone : ¬ lead < 0x80 := by
    simp [UInt8.lt_iff_toNat_lt]
    omega
  have htwo : ¬ (0xC2 ≤ lead && lead ≤ 0xDF) = true := by
    simp [UInt8.le_iff_toNat_le]
    omega
  have hthree : ¬ (0xE0 ≤ lead && lead ≤ 0xEF) = true := by
    simp [UInt8.le_iff_toNat_le]
    omega
  have hfour : (0xF0 ≤ lead && lead ≤ 0xF4) = true := by
    simp [UInt8.le_iff_toNat_le]
    omega
  -- the bounds leave out what three bytes can hold, and what is no character at all
  have hbounds : ((secondBounds lead).1 ≤ second && second ≤ (secondBounds lead).2) = true := by
    rw [Bool.and_eq_true, decide_eq_true_eq, decide_eq_true_eq, secondBounds_iff]
    grind
  have hvalue : (0xF0 + n / 0x40000 - 0xF0) * 0x40000 + n / 0x1000 % 0x40 * 0x1000
      + n / 0x40 % 0x40 * 0x40 + n % 0x40 = n := by
    omega
  unfold step
  rw [if_neg hone, if_neg htwo, if_neg hthree, if_pos hfour]
  dsimp only
  rw [if_pos hbounds, if_pos hthird, if_pos htail, hbits, hmore, hlast, hlead, hvalue]

end

/-- **The bytes of a character are read as the character**, and what follows them is left. -/
theorem step_encodeChar (c : Char) (rest : List UInt8) :
    ∃ lead tail, encodeChar c = lead :: tail ∧ step lead (tail ++ rest) = .char c rest := by
  have hvalid : c.toNat < 0xD800 ∨ 0xDFFF < c.toNat ∧ c.toNat < 0x110000 := c.valid
  have hc : Char.ofNat c.toNat = c := Char.ofNat_toNat c
  unfold encodeChar
  generalize c.toNat = n at hvalid hc
  subst hc
  dsimp only
  split
  next h => exact ⟨_, _, rfl, step_one rest h⟩
  next h =>
    split
    next h' => exact ⟨_, _, rfl, step_two rest (by omega) h'⟩
    next h' =>
      split
      next h'' => exact ⟨_, _, rfl, step_three rest (by omega) h'' (by omega)⟩
      next h'' => exact ⟨_, _, rfl, step_four rest (by omega) (by omega)⟩

/-! ### Texts -/

theorem decode?_encodeChar_append (c : Char) (rest : List UInt8) :
    decode? (encodeChar c ++ rest) = (decode? rest).map (c :: ·) := by
  obtain ⟨lead, tail, hc, hstep⟩ := step_encodeChar c rest
  rw [hc, List.cons_append, decode?]
  split
  next c' rest' h =>
    rw [hstep] at h
    cases h
    rfl
  next h =>
    rw [hstep] at h
    cases h

/-- **The bytes of a text are read as the text.** -/
theorem decode?_encode (t : Text) : decode? (encode t) = some t := by
  induction t with
  | nil => rw [encode, List.flatMap_nil, decode?]
  | cons c rest ih =>
    rw [encode] at ih
    rw [encode, List.flatMap_cons, decode?_encodeChar_append, ih]
    rfl

/-! ### Nothing else is read -/

theorem toUInt8_eq {n : Nat} {b : UInt8} (h : n = b.toNat) : n.toUInt8 = b := by
  subst h
  apply UInt8.toNat_inj.1
  exact toNat_toUInt8 b.toNat_lt

theorem toNat_ofNat {n : Nat} (h : n < 0xD800 ∨ 0xDFFF < n ∧ n < 0x110000) :
    (Char.ofNat n).toNat = n := by
  have hvalid : n.isValidChar := h
  rw [Char.ofNat, dif_pos hvalid]
  rfl

section

variable {lead b c d : UInt8} {n : Nat}

theorem encodeChar_one (h : lead.toNat < 0x80) : encodeChar (Char.ofNat lead.toNat) = [lead] := by
  have hn : (Char.ofNat lead.toNat).toNat = lead.toNat := toNat_ofNat (by omega)
  unfold encodeChar
  dsimp only
  rw [hn, if_pos h, toUInt8_eq rfl]

theorem encodeChar_two (hn : n = (lead.toNat - 0xC0) * 0x40 + tailBits b) (hlow : 0xC2 ≤ lead.toNat)
    (hhigh : lead.toNat ≤ 0xDF) (hb : isTail b = true) : encodeChar (Char.ofNat n) = [lead, b] := by
  rw [isTail_iff] at hb
  unfold tailBits at hn
  have hchar : (Char.ofNat n).toNat = n := toNat_ofNat (by omega)
  unfold encodeChar
  dsimp only
  rw [hchar, if_neg (by omega), if_pos (by omega), toUInt8_eq (b := lead) (by omega),
    toUInt8_eq (b := b) (by omega)]

theorem encodeChar_three (hn : n = (lead.toNat - 0xE0) * 0x1000 + tailBits b * 0x40 + tailBits c)
    (hlow : 0xE0 ≤ lead.toNat) (hhigh : lead.toNat ≤ 0xEF)
    (hb : (secondBounds lead).1 ≤ b ∧ b ≤ (secondBounds lead).2) (hc : isTail c = true) :
    encodeChar (Char.ofNat n) = [lead, b, c] := by
  rw [isTail_iff] at hc
  -- the bounds of the second byte keep the number above two bytes and off the surrogates
  have hbounds : 0x80 ≤ b.toNat ∧ b.toNat ≤ 0xBF ∧ (lead.toNat = 0xE0 → 0xA0 ≤ b.toNat) ∧
      (lead.toNat = 0xED → b.toNat ≤ 0x9F) := by
    rw [secondBounds_iff] at hb
    grind
  unfold tailBits at hn
  have hchar : (Char.ofNat n).toNat = n := toNat_ofNat (by omega)
  unfold encodeChar
  dsimp only
  rw [hchar, if_neg (by omega), if_neg (by omega), if_pos (by omega),
    toUInt8_eq (b := lead) (by omega), toUInt8_eq (b := b) (by omega),
    toUInt8_eq (b := c) (by omega)]

theorem encodeChar_four
    (hn : n = (lead.toNat - 0xF0) * 0x40000 + tailBits b * 0x1000 + tailBits c * 0x40 + tailBits d)
    (hlow : 0xF0 ≤ lead.toNat) (hhigh : lead.toNat ≤ 0xF4)
    (hb : (secondBounds lead).1 ≤ b ∧ b ≤ (secondBounds lead).2) (hc : isTail c = true)
    (hd : isTail d = true) : encodeChar (Char.ofNat n) = [lead, b, c, d] := by
  rw [isTail_iff] at hc hd
  -- the bounds of the second byte keep the number above three bytes and below what is no character
  have hbounds : 0x80 ≤ b.toNat ∧ b.toNat ≤ 0xBF ∧ (lead.toNat = 0xF0 → 0x90 ≤ b.toNat) ∧
      (lead.toNat = 0xF4 → b.toNat ≤ 0x8F) := by
    rw [secondBounds_iff] at hb
    grind
  unfold tailBits at hn
  have hchar : (Char.ofNat n).toNat = n := toNat_ofNat (by omega)
  unfold encodeChar
  dsimp only
  rw [hchar, if_neg (by omega), if_neg (by omega), if_neg (by omega),
    toUInt8_eq (b := lead) (by omega), toUInt8_eq (b := b) (by omega),
    toUInt8_eq (b := c) (by omega), toUInt8_eq (b := d) (by omega)]

end

/-- The bytes that are read as a character are those of the character. -/
theorem encodeChar_of_step {lead : UInt8} {bytes rest : List UInt8} {c : Char}
    (h : step lead bytes = .char c rest) : lead :: bytes = encodeChar c ++ rest := by
  unfold step at h
  split at h
  next hlead =>
    cases h
    rw [encodeChar_one (UInt8.lt_iff_toNat_lt.1 hlead)]
    rfl
  split at h
  next hlead =>
    simp only [Bool.and_eq_true, decide_eq_true_eq, UInt8.le_iff_toNat_le, UInt8.reduceToNat] at hlead
    split at h
    · split at h
      next htail =>
        obtain ⟨rfl, rfl⟩ := Step.char.inj h
        rw [encodeChar_two rfl hlead.1 hlead.2 htail]
        rfl
      next => cases h
    · cases h
  split at h
  next hlead =>
    simp only [Bool.and_eq_true, decide_eq_true_eq, UInt8.le_iff_toNat_le, UInt8.reduceToNat] at hlead
    split at h
    · dsimp only at h
      split at h
      next hbounds =>
        rw [Bool.and_eq_true, decide_eq_true_eq, decide_eq_true_eq] at hbounds
        split at h
        · split at h
          next htail =>
            obtain ⟨rfl, rfl⟩ := Step.char.inj h
            rw [encodeChar_three rfl hlead.1 hlead.2 hbounds htail]
            rfl
          next => cases h
        · cases h
      next => cases h
    · cases h
  split at h
  next hlead =>
    simp only [Bool.and_eq_true, decide_eq_true_eq, UInt8.le_iff_toNat_le, UInt8.reduceToNat] at hlead
    split at h
    · dsimp only at h
      split at h
      next hbounds =>
        rw [Bool.and_eq_true, decide_eq_true_eq, decide_eq_true_eq] at hbounds
        split at h
        · split at h
          next hthird =>
            split at h
            · split at h
              next hfourth =>
                obtain ⟨rfl, rfl⟩ := Step.char.inj h
                rw [encodeChar_four rfl hlead.1 hlead.2 hbounds hthird hfourth]
                rfl
              next => cases h
            · cases h
          next => cases h
        · cases h
      next => cases h
    · cases h
  next => cases h

/-- **Bytes are read as a text exactly if they are its bytes.** -/
theorem decode?_eq_some_iff {bytes : List UInt8} {t : Text} :
    decode? bytes = some t ↔ bytes = encode t := by
  constructor
  · intro h
    induction bytes using decode?.induct generalizing t with
    | case1 =>
      rw [decode?] at h
      cases h
      rfl
    | case2 b bytes c rest hstep ih =>
      rw [decode?] at h
      split at h
      next hstep' =>
        cases hstep'.symm.trans hstep
        obtain ⟨t', ht', rfl⟩ := Option.map_eq_some_iff.1 h
        rw [encodeChar_of_step hstep, ih ht']
        rfl
      next hbroken => cases hbroken.symm.trans hstep
    | case3 b bytes n hstep =>
      rw [decode?] at h
      split at h
      next hstep' => cases hstep'.symm.trans hstep
      next => cases h
  · rintro rfl
    exact decode?_encode t

end RuleAudit.Text.Utf8
