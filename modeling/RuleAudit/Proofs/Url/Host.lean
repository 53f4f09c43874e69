import RuleAudit.Proofs.Text.Cutting
import RuleAudit.Proofs.Text.Numeral
import RuleAudit.Proofs.Text.Percent
import RuleAudit.Url.Host

/-!
Hosts are read as they have been written.

* `Host.Sound`: the hosts that can be read at all;
* `Host.read_sound`: what is read is one of them;
* `Host.read_render`: the text of each of them is read as the host itself.
-/

namespace RuleAudit.Url.Host

open Text

/-! ### Characters -/

theorem isDigit_toNat {c : Char} (h : c.isDigit = true) : 48 ≤ c.toNat ∧ c.toNat ≤ 57 := by
  simp only [Char.isDigit, Bool.and_eq_true, decide_eq_true_eq] at h
  exact h

theorem hexDigit?_toNat {c : Char} (h : (hexDigit? c).isSome) :
    48 ≤ c.toNat ∧ c.toNat ≤ 57 ∨ 65 ≤ c.toNat ∧ c.toNat ≤ 70 ∨ 97 ≤ c.toNat ∧ c.toNat ≤ 102 := by
  unfold hexDigit? at h
  split at h
  next hc => exact .inl (isDigit_toNat hc)
  next =>
    split at h
    next hc => exact .inr (.inr hc)
    next =>
      split at h
      next hc => exact .inr (.inl hc)
      next => cases h

/-- What may stand in a name is none of the signs that divide an address. -/
theorem ne_of_isForbidden {c d : Char} (h : isForbidden c = false) (hd : isForbidden d = true) :
    c ≠ d := by
  rintro rfl
  exact absurd (h.symm.trans hd) Bool.false_ne_true

theorem isForbidden_of_hexDigit? {c : Char} (h : (hexDigit? c).isSome) : isForbidden c = false := by
  have hc := hexDigit?_toNat h
  have hmem : c ∉ ['#', '%', '/', ':', '<', '>', '?', '@', '[', '\\', ']', '^', '|'] := by
    intro hmem
    simp only [List.mem_cons, List.not_mem_nil, or_false] at hmem
    rcases hmem with rfl | rfl | rfl | rfl | rfl | rfl | rfl | rfl | rfl | rfl | rfl | rfl | rfl <;>
      simp at hc
  simp only [isForbidden, hmem, decide_false, Bool.or_false, Bool.or_eq_false_iff,
    decide_eq_false_iff_not]
  omega

theorem isForbidden_of_isDigit {c : Char} (h : c.isDigit = true) : isForbidden c = false := by
  refine isForbidden_of_hexDigit? ?_
  rw [hexDigit?, if_pos h]
  rfl

theorem toLower_of_isDigit {c : Char} (h : c.isDigit = true) : c.toLower = c := by
  have hc := isDigit_toNat h
  exact toLower_of_not_upper (by omega)

/-! ### Addresses of 32 bits -/

theorem foldl_bytes_lt {bytes : List Nat} (h : ∀ b ∈ bytes, b ≤ 255) (m : Nat) :
    bytes.foldl (fun n b => 256 * n + b) m < (m + 1) * 256 ^ bytes.length := by
  induction bytes generalizing m with
  | nil => simp
  | cons b rest ih =>
    obtain ⟨hb, hrest⟩ := List.forall_mem_cons.1 h
    refine Nat.lt_of_lt_of_le (ih hrest (256 * m + b)) ?_
    rw [List.length_cons, Nat.pow_succ, Nat.mul_comm (256 ^ rest.length), ← Nat.mul_assoc]
    exact Nat.mul_le_mul_right _ (by omega)

theorem ofParts?_lt {values : List Nat} {n : Nat} (h : ofParts? values = some n) : n < 2 ^ 32 := by
  unfold ofParts? at h
  split at h
  next => cases h
  next last before hrev =>
    dsimp only at h
    split at h
    next => cases h
    next hok =>
      rw [not_or, not_or] at hok
      obtain ⟨hlength, hbytes, hlast⟩ := hok
      have hcount : before.length + 1 = values.length := by
        rw [← values.length_reverse, hrev, List.length_cons]
      have hsmall : ∀ b ∈ before.reverse, b ≤ 255 := by
        simpa using hbytes
      have hsum := foldl_bytes_lt hsmall 0
      rw [List.length_reverse] at hsum
      cases h
      -- the bytes and the last part fill what four bytes hold
      calc _ < (before.reverse.foldl (fun n b => 256 * n + b) 0 + 1) * 256 ^ (5 - values.length) := by
            rw [Nat.add_mul, Nat.one_mul]
            omega
        _ ≤ 256 ^ before.length * 256 ^ (5 - values.length) := Nat.mul_le_mul_right _ (by omega)
        _ = 2 ^ 32 := by
            rw [← Nat.pow_add, show before.length + (5 - values.length) = 4 by omega]
            rfl

theorem partValue?_decimal (n : Nat) : partValue? (decimal n) = some n := by
  by_cases hn : n = 0
  · subst hn
    decide
  have hhead := head?_decimal hn
  have hdigits := all_isDigit_decimal n
  have hvalue := digitsValue_decimal n
  have hnil := decimal_ne_nil n
  revert hhead hdigits hvalue hnil
  generalize decimal n = t
  intro hhead hdigits hvalue hnil
  unfold partValue?
  split
  next => exact absurd rfl hnil
  next => simp at hhead
  next => simp at hhead
  next => simp at hhead
  next => rw [if_pos hdigits, hvalue]

theorem dot_notMem_decimal (n : Nat) : '.' ∉ decimal n := by
  intro h
  exact absurd (isDigit_of_mem_decimal h) (by decide)

/-- The four bytes of an address. -/
def bytes (n : Nat) : List Nat := [n / 16777216, n / 65536 % 256, n / 256 % 256, n % 256]

theorem split_ipv4Text (n : Nat) : Text.split '.' (ipv4Text n) = (bytes n).map decimal := by
  refine split_join (List.cons_ne_nil _ _) ?_
  intro p hp
  obtain ⟨b, -, rfl⟩ := List.mem_map.1 hp
  exact dot_notMem_decimal b

theorem nameParts_ipv4Text (n : Nat) : nameParts (ipv4Text n) = (bytes n).map decimal := by
  have hlast : ((bytes n).map decimal).getLast? ≠ some [] := by
    simp [bytes, decimal_ne_nil]
  rw [nameParts, split_ipv4Text, if_neg hlast]

theorem endsInNumber_ipv4Text (n : Nat) : endsInNumber (ipv4Text n) = true := by
  have hlast : ((bytes n).map decimal).getLast? = some (decimal (n % 256)) := rfl
  rw [endsInNumber, nameParts_ipv4Text, hlast]
  simp [decimal_ne_nil, all_isDigit_decimal]

theorem ofParts?_four {a b c d : Nat} (ha : a ≤ 255) (hb : b ≤ 255) (hc : c ≤ 255) (hd : d ≤ 255) :
    ofParts? [a, b, c, d] = some (256 * (256 * (256 * a + b) + c) + d) := by
  simp [ofParts?]
  omega

theorem readIpv4?_ipv4Text {n : Nat} (h : n < 2 ^ 32) : readIpv4? (ipv4Text n) = some n := by
  have hparts : ((bytes n).map decimal).mapM partValue? = some (bytes n) := by
    simp [bytes, partValue?_decimal]
  rw [readIpv4?, nameParts_ipv4Text, hparts]
  change ofParts? (bytes n) = some n
  rw [bytes, ofParts?_four (by omega) (by omega) (by omega) (by omega)]
  congr 1
  omega

theorem mem_ipv4Text {n : Nat} {c : Char} (h : c ∈ ipv4Text n) : c = '.' ∨ c.isDigit = true := by
  obtain h | ⟨p, hp, hc⟩ := mem_join h
  · exact .inl h
  · obtain ⟨b, -, rfl⟩ := List.mem_map.1 hp
    exact .inr (isDigit_of_mem_decimal hc)

/-! ### Addresses of 128 bits -/

theorem pieceValue?_lt {t : Text} {v : Nat} (h : pieceValue? t = some v) : v < 65536 := by
  unfold pieceValue? at h
  split at h
  next ht => exact Nat.lt_of_lt_of_le (hexValue?_lt h) (Nat.pow_le_pow_right (by decide) ht.2)
  next => cases h

theorem byteValue?_lt {t : Text} {v : Nat} (h : byteValue? t = some v) : v < 256 := by
  unfold byteValue? at h
  dsimp only at h
  split at h
  next ht =>
    cases h
    exact ht.2.2.2
  next => cases h

theorem of_mapM_eq_some {α β : Type} {f : α → Option β} {as : List α} {bs : List β}
    (h : as.mapM f = some bs) : ∀ b ∈ bs, ∃ a ∈ as, f a = some b := by
  induction as generalizing bs with
  | nil =>
    cases h
    simp
  | cons a rest ih =>
    rw [List.mapM_cons] at h
    cases ha : f a with
    | none => simp [ha] at h
    | some b =>
      cases hrest : rest.mapM f with
      | none => simp [ha, hrest] at h
      | some more =>
        simp only [ha, hrest, Option.bind_eq_bind, Option.bind_some, Option.pure_def,
          Option.some.injEq] at h
        subst h
        refine List.forall_mem_cons.2 ⟨⟨a, List.mem_cons_self, ha⟩, fun b' hb' => ?_⟩
        obtain ⟨a', ha', hf⟩ := ih hrest b' hb'
        exact ⟨a', List.mem_cons_of_mem a ha', hf⟩

theorem dottedPieces?_lt {t : Text} {ps : List Nat} (h : dottedPieces? t = some ps) :
    ∀ p ∈ ps, p < 65536 := by
  unfold dottedPieces? at h
  split at h
  next a b c d hbytes =>
    have hsmall : ∀ v ∈ [a, b, c, d], v < 256 := by
      intro v hv
      obtain ⟨_, -, hbyte⟩ := of_mapM_eq_some hbytes v hv
      exact byteValue?_lt hbyte
    cases h
    simp only [List.forall_mem_cons] at hsmall ⊢
    obtain ⟨ha, hb, hc, hd, -⟩ := hsmall
    exact ⟨by omega, by omega, by simp⟩
  next => cases h

theorem pieceValues?_lt {dotted : Bool} {ts : List Text} {ps : List Nat}
    (h : pieceValues? dotted ts = some ps) : ∀ p ∈ ps, p < 65536 := by
  induction ts generalizing ps with
  | nil =>
    cases h
    simp
  | cons t rest ih =>
    cases rest with
    | nil =>
      rw [pieceValues?] at h
      split at h
      next => exact dottedPieces?_lt h
      next =>
        obtain ⟨v, hv, rfl⟩ := Option.map_eq_some_iff.1 h
        simpa using pieceValue?_lt hv
    | cons u rest =>
      rw [pieceValues?] at h
      · simp only [Option.bind_eq_bind, Option.bind_eq_some_iff, Option.some.injEq] at h
        obtain ⟨v, hv, vs, hvs, rfl⟩ := h
        exact List.forall_mem_cons.2 ⟨pieceValue?_lt hv, ih hvs⟩
      · simp

theorem pieces?_lt {dotted : Bool} {t : Text} {ps : List Nat} (h : pieces? dotted t = some ps) :
    ∀ p ∈ ps, p < 65536 := by
  unfold pieces? at h
  split at h
  next =>
    cases h
    simp
  next => exact pieceValues?_lt h

theorem readIpv6?_sound {t : Text} {ps : List Nat} (h : readIpv6? t = some ps) :
    ps.length = 8 ∧ ∀ p ∈ ps, p < 65536 := by
  unfold readIpv6? at h
  split at h
  next =>
    simp only [Option.bind_eq_bind, Option.bind_eq_some_iff] at h
    obtain ⟨qs, hqs, hlength⟩ := h
    split at hlength
    next h8 =>
      cases hlength
      exact ⟨h8, pieces?_lt hqs⟩
    next => cases hlength
  next a b _ =>
    simp only [Option.bind_eq_bind, Option.bind_eq_some_iff] at h
    obtain ⟨before, hbefore, after, hafter, hlength⟩ := h
    split at hlength
    next h7 =>
      cases hlength
      refine ⟨by simp; omega, ?_⟩
      simp only [List.forall_mem_append, List.mem_replicate]
      exact ⟨⟨pieces?_lt hbefore, by rintro _ ⟨-, rfl⟩; decide⟩, pieces?_lt hafter⟩
    next => cases hlength

theorem pieceValue?_hex {p : Nat} (h : p < 65536) : pieceValue? (hex p) = some p := by
  rw [pieceValue?, if_pos ⟨hex_ne_nil p, hex_length_le (by decide) h⟩, hexValue?_hex]

theorem pieceValues?_hex (dotted : Bool) {ps : List Nat} (h : ∀ p ∈ ps, p < 65536) :
    pieceValues? dotted (ps.map hex) = some ps := by
  induction ps with
  | nil => rfl
  | cons p rest ih =>
    obtain ⟨hp, hrest⟩ := List.forall_mem_cons.1 h
    cases rest with
    | nil =>
      have hdot : ¬ (dotted = true ∧ '.' ∈ hex p) := fun h => notMem_hex rfl p h.2
      rw [List.map_cons, List.map_nil, pieceValues?, if_neg hdot, pieceValue?_hex hp]
      rfl
    | cons q rest =>
      rw [List.map_cons, pieceValues?, pieceValue?_hex hp, ih hrest]
      · rfl
      · simp

/-- Pieces in base sixteen with colons between them. -/
def plainText (ps : List Nat) : Text := join ":" (ps.map hex)

theorem plainText_cons_cons (p q : Nat) (rest : List Nat) :
    plainText (p :: q :: rest) = hex p ++ ':' :: plainText (q :: rest) := by
  rw [plainText, List.map_cons, List.map_cons, join]
  · simp [plainText]
  · simp

theorem plainText_eq_cons (p : Nat) (rest : List Nat) :
    ∃ c t, plainText (p :: rest) = c :: t ∧ c ≠ ':' := by
  have hcolon : ':' ∉ hex p := notMem_hex rfl p
  cases hp : hex p with
  | nil => exact absurd hp (hex_ne_nil p)
  | cons c t =>
    rw [hp, List.mem_cons, not_or] at hcolon
    cases rest with
    | nil => exact ⟨c, t, hp, Ne.symm hcolon.1⟩
    | cons q rest =>
      rw [plainText_cons_cons, hp]
      exact ⟨c, _, rfl, Ne.symm hcolon.1⟩

theorem pieces?_plainText (dotted : Bool) {ps : List Nat} (h : ∀ p ∈ ps, p < 65536) :
    pieces? dotted (plainText ps) = some ps := by
  cases ps with
  | nil => rfl
  | cons p rest =>
    obtain ⟨c, t, hcons, -⟩ := plainText_eq_cons p rest
    have hsplit : Text.split ':' (plainText (p :: rest)) = (p :: rest).map hex := by
      refine split_join (List.cons_ne_nil _ _) ?_
      intro u hu
      obtain ⟨q, -, rfl⟩ := List.mem_map.1 hu
      exact notMem_hex rfl q
    rw [pieces?, if_neg (by simp [hcons]), hsplit, pieceValues?_hex dotted h]

theorem cutDoubleColon_append {a : Text} (h : ':' ∉ a) (b : Text) :
    cutDoubleColon (a ++ b) = (cutDoubleColon b).map fun (x, y) => (a ++ x, y) := by
  induction a with
  | nil => simp
  | cons c rest ih =>
    rw [List.mem_cons, not_or] at h
    rw [List.cons_append, cutDoubleColon, ih h.2, Option.map_map]
    · rfl
    · rintro _ rfl
      exact absurd rfl h.1

theorem cutDoubleColon_colon {c : Char} (h : c ≠ ':') (t : Text) :
    cutDoubleColon (':' :: c :: t) = (cutDoubleColon (c :: t)).map fun (x, y) => (':' :: x, y) := by
  rw [cutDoubleColon]
  rintro _ _ hc
  cases hc
  exact h rfl

/-- There is no double colon in plain text. -/
theorem cutDoubleColon_plainText (ps : List Nat) (t : Text) :
    cutDoubleColon (plainText ps ++ t) =
      (cutDoubleColon t).map fun (x, y) => (plainText ps ++ x, y) := by
  induction ps with
  | nil => simp [plainText, join]
  | cons p rest ih =>
    cases rest with
    | nil => exact cutDoubleColon_append (notMem_hex rfl p) t
    | cons q rest =>
      obtain ⟨c, u, hcons, hc⟩ := plainText_eq_cons q rest
      rw [plainText_cons_cons, List.append_assoc, cutDoubleColon_append (notMem_hex rfl p)]
      rw [hcons] at ih ⊢
      rw [List.cons_append, List.cons_append, cutDoubleColon_colon hc, ← List.cons_append, ih,
        Option.map_map, Option.map_map]
      simp [Function.comp_def]

/-- From place `r.1` on, `r.2` zeros stand in a list. -/
def IsZeroRun (ps : List Nat) (r : Nat × Nat) : Prop :=
  ps = ps.take r.1 ++ List.replicate r.2 0 ++ ps.drop (r.1 + r.2)

theorem eq_zeroRun_append (ps : List Nat) :
    ps = List.replicate (zeroRun ps) 0 ++ ps.drop (zeroRun ps) := by
  induction ps with
  | nil => rfl
  | cons p rest ih =>
    by_cases hp : p = 0
    · subst hp
      have hrun : zeroRun (0 :: rest) = zeroRun rest + 1 := by simp [zeroRun]
      rw [hrun, List.replicate_succ, List.drop_succ_cons, List.cons_append, ← ih]
    · have hrun : zeroRun (p :: rest) = 0 := by simp [zeroRun, hp]
      rw [hrun]
      rfl

theorem longestZeroRun_isZeroRun (ps : List Nat) : IsZeroRun ps (longestZeroRun ps) := by
  refine List.foldlRecOn (motive := IsZeroRun ps) _ _ (by simp [IsZeroRun]) fun best hbest i _ => ?_
  dsimp only
  split
  next =>
    have hrun := eq_zeroRun_append (ps.drop i)
    rw [List.drop_drop] at hrun
    rw [IsZeroRun, List.append_assoc, ← hrun, List.take_append_drop]
  next => exact hbest

theorem ipv6Text_eq (ps : List Nat) :
    ipv6Text ps =
      if (longestZeroRun ps).2 < 2 then plainText ps
      else plainText (ps.take (longestZeroRun ps).1) ++ "::" ++
        plainText (ps.drop ((longestZeroRun ps).1 + (longestZeroRun ps).2)) := rfl

theorem readIpv6?_ipv6Text {ps : List Nat} (hlength : ps.length = 8)
    (h : ∀ p ∈ ps, p < 65536) : readIpv6? (ipv6Text ps) = some ps := by
  have hrun := longestZeroRun_isZeroRun ps
  rw [ipv6Text_eq]
  generalize longestZeroRun ps = r at hrun
  split
  next =>
    -- no run of zeros is left out: there is no double colon, and all eight pieces are read
    have hcut : cutDoubleColon (plainText ps) = none := by
      rw [← List.append_nil (plainText ps), cutDoubleColon_plainText]
      rfl
    simp only [readIpv6?, hcut, pieces?_plainText true h, Option.bind_eq_bind, Option.bind_some,
      if_pos hlength]
  next hlong =>
    -- the pieces around the double colon are read, and the zeros between them are what is missing
    let before := ps.take r.1
    let after := ps.drop (r.1 + r.2)
    have hcut : cutDoubleColon (plainText before ++ "::" ++ plainText after) =
        some (plainText before, plainText after) := by
      rw [List.append_assoc, cutDoubleColon_plainText]
      exact congrArg some (Prod.ext (List.append_nil _) rfl)
    have hbefore : ∀ p ∈ before, p < 65536 := fun p hp => h p (List.mem_of_mem_take hp)
    have hafter : ∀ p ∈ after, p < 65536 := fun p hp => h p (List.mem_of_mem_drop hp)
    have hcount : before.length + r.2 + after.length = 8 := by
      have hsum := congrArg List.length hrun
      rw [List.length_append, List.length_append, List.length_replicate, hlength] at hsum
      exact hsum.symm
    have hzeros : 8 - before.length - after.length = r.2 := by omega
    have hshort : before.length + after.length ≤ 7 := by omega
    change readIpv6? (plainText before ++ "::" ++ plainText after) = some ps
    simp only [readIpv6?, hcut, pieces?_plainText _ hbefore, pieces?_plainText _ hafter,
      Option.bind_eq_bind, Option.bind_some, if_pos hshort, hzeros]
    exact congrArg some hrun.symm

theorem mem_plainText {ps : List Nat} {c : Char} (h : c ∈ plainText ps) :
    c = ':' ∨ (hexDigit? c).isSome := by
  obtain h | ⟨p, hp, hc⟩ := mem_join h
  · exact .inl h
  · obtain ⟨q, -, rfl⟩ := List.mem_map.1 hp
    exact .inr (isSome_hexDigit?_of_mem_hex hc)

theorem mem_ipv6Text {ps : List Nat} {c : Char} (h : c ∈ ipv6Text ps) :
    c = ':' ∨ (hexDigit? c).isSome := by
  rw [ipv6Text_eq] at h
  split at h
  next => exact mem_plainText h
  next =>
    rw [List.mem_append, List.mem_append] at h
    obtain (h | h) | h := h
    · exact mem_plainText h
    · exact .inl (by simpa using h)
    · exact mem_plainText h

/-! ### Names -/

section

variable [Idna] {t u : Text}

/-- **The form of a name is its own form.** -/
theorem form?_form (h : form? t = some u) : form? u = some u := by
  have hlower : lower u = u := by
    unfold form? at h
    split at h
    next =>
      cases h
      exact lower_lower t
    next => exact Idna.lower_form h
  unfold form? at h ⊢
  rw [hlower]
  split
  next => rfl
  next hplain =>
    split at h
    next hform =>
      cases h
      exact absurd hform hplain
    next => exact Idna.toAscii?_form h

theorem form?_ipv4Text (n : Nat) : form? (ipv4Text n) = some (ipv4Text n) := by
  have hlower : lower (ipv4Text n) = ipv4Text n := by
    refine (List.map_congr_left fun c hc => ?_).trans (List.map_id _)
    obtain rfl | hdigit := mem_ipv4Text hc
    · rfl
    · exact toLower_of_isDigit hdigit
  have hascii : (ipv4Text n).all (·.toNat < 0x80) = true := by
    refine List.all_eq_true.2 fun c hc => decide_eq_true ?_
    obtain rfl | hdigit := mem_ipv4Text hc
    · decide
    · have hc := isDigit_toNat hdigit
      omega
  have hunmarked : (Text.split '.' (ipv4Text n)).all (!("xn--" : Text).isPrefixOf ·) = true := by
    rw [split_ipv4Text]
    refine List.all_eq_true.2 fun p hp => ?_
    obtain ⟨b, -, rfl⟩ := List.mem_map.1 hp
    rw [Bool.not_eq_true', Bool.eq_false_iff]
    intro hprefix
    have hx : 'x' ∈ decimal b := (List.isPrefixOf_iff_prefix.1 hprefix).subset List.mem_cons_self
    exact absurd (isDigit_of_mem_decimal hx) (by decide)
  rw [form?, hlower, isPlain, hascii, hunmarked]
  rfl

end

/-! ### Hosts -/

section

variable [Idna]

/-- The hosts that can be read: names in their form in ASCII, and addresses of their size. -/
inductive Sound : Host → Prop
  | name {t : Text} (hne : t ≠ []) (hform : form? t = some t)
    (hplain : ∀ c ∈ t, isForbidden c = false) (hname : endsInNumber t = false) : Sound (.name t)
  | ipv4 {n : Nat} (h : n < 2 ^ 32) : Sound (.ipv4 n)
  | ipv6 {ps : List Nat} (hlength : ps.length = 8) (h : ∀ p ∈ ps, p < 65536) : Sound (.ipv6 ps)

/-- What is read is sound. -/
theorem read_sound {t : Text} {h : Host} (hread : read t = .ok h) : h.Sound := by
  unfold read at hread
  split at hread
  next =>
    unfold readBracketed at hread
    split at hread
    next => cases hread
    next =>
      split at hread
      next ps hps =>
        cases hread
        obtain ⟨hlength, hsmall⟩ := readIpv6?_sound hps
        exact .ipv6 hlength hsmall
      next => cases hread
  next =>
    split at hread
    next => cases hread
    next decoded _ =>
      split at hread
      next => cases hread
      next form hform =>
        split at hread
        next => cases hread
        next hplain =>
          split at hread
          next => cases hread
          next hne =>
            split at hread
            next =>
              split at hread
              next n hn =>
                cases hread
                rw [readIpv4?, Option.bind_eq_bind, Option.bind_eq_some_iff] at hn
                obtain ⟨values, -, hvalues⟩ := hn
                exact .ipv4 (ofParts?_lt hvalues)
              next => cases hread
            next hname =>
              cases hread
              refine .name hne (form?_form hform) ?_ (Bool.eq_false_iff.2 hname)
              simpa using hplain

theorem read_of_plain {t : Text} (hhead : t.head? ≠ some '[') (hpercent : '%' ∉ t)
    (hform : form? t = some t) (hplain : ∀ c ∈ t, isForbidden c = false) (hne : t ≠ []) :
    read t =
      if endsInNumber t then
        match readIpv4? t with
        | some n => .ok (.ipv4 n)
        | none => .error .badIpv4
      else .ok (.name t) := by
  have hdecode : Utf8.decode? (Percent.decode t) = some t := by
    rw [Percent.decode_of_notMem hpercent, Utf8.decode?_encode]
  have hany : ¬ t.any isForbidden = true := by simpa using hplain
  rw [read, if_neg hhead, hdecode]
  dsimp only
  rw [hform]
  dsimp only
  rw [if_neg hany]
  exact if_neg hne

/-- What stands in the text of a host is no sign that divides an address, save those of an address
of 128 bits. -/
theorem mem_render {h : Host} (hs : h.Sound) {c : Char} (hc : c ∈ h.render) :
    isForbidden c = false ∨ c = ':' ∨ c = '[' ∨ c = ']' := by
  cases hs with
  | name _ _ hplain => exact .inl (hplain c hc)
  | ipv4 =>
    obtain rfl | hdigit := mem_ipv4Text hc
    · exact .inl (by decide)
    · exact .inl (isForbidden_of_isDigit hdigit)
  | ipv6 =>
    rw [render, List.mem_cons, List.mem_append, List.mem_singleton] at hc
    obtain rfl | hc | rfl := hc
    · exact .inr (.inr (.inl rfl))
    · obtain rfl | hdigit := mem_ipv6Text hc
      · exact .inr (.inl rfl)
      · exact .inl (isForbidden_of_hexDigit? hdigit)
    · exact .inr (.inr (.inr rfl))

/-- **Sound hosts are read as they have been written.** -/
theorem read_render {h : Host} (hs : h.Sound) : read h.render = .ok h := by
  cases hs with
  | @name t hne hform hplain hname =>
    have hhead : t.head? ≠ some '[' := by
      intro h
      exact absurd (hplain '[' (List.mem_of_mem_head? h)) (by decide)
    have hpercent : '%' ∉ t := fun h => absurd (hplain '%' h) (by decide)
    rw [render, read_of_plain hhead hpercent hform hplain hne, if_neg (by simp [hname])]
  | @ipv4 n h =>
    have hplain : ∀ c ∈ ipv4Text n, isForbidden c = false := by
      intro c hc
      obtain rfl | hdigit := mem_ipv4Text hc
      · decide
      · exact isForbidden_of_isDigit hdigit
    have hhead : (ipv4Text n).head? ≠ some '[' := by
      intro h
      exact absurd (hplain '[' (List.mem_of_mem_head? h)) (by decide)
    have hpercent : '%' ∉ ipv4Text n := fun h => absurd (hplain '%' h) (by decide)
    have hnumber := endsInNumber_ipv4Text n
    have hne : ipv4Text n ≠ [] := by
      intro hnil
      rw [hnil] at hnumber
      exact absurd hnumber (by decide)
    rw [render, read_of_plain hhead hpercent (form?_ipv4Text n) hplain hne, if_pos hnumber,
      readIpv4?_ipv4Text h]
  | @ipv6 ps hlength h =>
    have hbracket : ('[' :: (ipv6Text ps ++ [']'])).head? = some '[' := rfl
    have hlast : ('[' :: (ipv6Text ps ++ [']'])).getLast? = some ']' := by
      rw [← List.cons_append, List.getLast?_concat]
    have hinner : (('[' :: (ipv6Text ps ++ [']'])).drop 1).dropLast = ipv6Text ps :=
      List.dropLast_concat
    rw [render, read, if_pos hbracket, readBracketed, if_neg (not_not.2 hlast), hinner,
      readIpv6?_ipv6Text hlength h]

end

end RuleAudit.Url.Host
