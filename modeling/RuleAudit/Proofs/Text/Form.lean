import RuleAudit.Proofs.Text.Cutting
import RuleAudit.Proofs.Text.Percent
import RuleAudit.Text.Form

/-!
Parameters in form encoding are read back, one by one and in order.

* `Form.readPairs?`: the strict reading, which takes nothing but names with values;
* `Form.readPairs?_encodePairs`: it gives back any parameters;
* `Form.decodePairs_encodePairs`: so does the reading that forgives.
-/

namespace RuleAudit.Text

/-! ### Bytes -/

theorem Utf8.decodeLenient_of_char {b : UInt8} {bytes rest : List UInt8} {c : Char}
    (h : step b bytes = .char c rest) : decodeLenient (b :: bytes) = c :: decodeLenient rest := by
  rw [decodeLenient]
  split
  next hchar =>
    cases hchar.symm.trans h
    rfl
  next hbroken => cases hbroken.symm.trans h

/-- Where the strict reading gives a text, the one that forgives gives the same. -/
theorem Utf8.decodeLenient_of_decode? {bytes : List UInt8} {t : Text}
    (h : decode? bytes = some t) : decodeLenient bytes = t := by
  induction bytes using decode?.induct generalizing t with
  | case1 =>
    rw [decode?] at h
    rw [decodeLenient]
    exact Option.some.inj h
  | case2 b bytes c rest hstep ih =>
    rw [decode?] at h
    split at h
    next hstep' =>
      cases hstep'.symm.trans hstep
      obtain ⟨t', ht', rfl⟩ := Option.map_eq_some_iff.1 h
      rw [decodeLenient_of_char hstep, ih ht']
    next hbroken => cases hbroken.symm.trans hstep
  | case3 b bytes n hstep =>
    rw [decode?] at h
    split at h
    next hstep' => cases hstep'.symm.trans hstep
    next => cases h

namespace Percent

theorem hexDigit?_digit : ∀ n < 16, hexDigit? (digit n) = some n := by decide

theorem decode_encodeByte (b : UInt8) (rest : Text) :
    decode (encodeByte b ++ rest) = b :: decode rest := by
  have hb : b.toNat < 256 := b.toNat_lt
  have hvalue : 16 * (b.toNat / 16) + b.toNat % 16 = b.toNat := by omega
  rw [encodeByte, List.cons_append, List.cons_append, List.singleton_append, decode,
    hexDigit?_digit _ (by omega), hexDigit?_digit _ (by omega)]
  dsimp only
  rw [hvalue]
  exact congrArg (· :: decode rest) (UInt8.ofNat_toNat)

/-- The bytes of an encoded character are those of the character. -/
theorem decode_encodeChar (c : Char) (rest : Text) :
    decode (encodeChar c ++ rest) = Utf8.encodeChar c ++ decode rest := by
  rw [encodeChar]
  generalize Utf8.encodeChar c = bytes
  induction bytes with
  | nil => rfl
  | cons b bytes ih =>
    rw [List.flatMap_cons, List.append_assoc, decode_encodeByte, ih]
    rfl

theorem mem_encodeChar {c d : Char} (h : d ∈ encodeChar c) : d = '%' ∨ ∃ n < 16, d = digit n := by
  obtain ⟨b, -, hb⟩ := List.mem_flatMap.1 h
  have hlt : b.toNat < 256 := b.toNat_lt
  simp only [encodeByte, List.mem_cons, List.not_mem_nil, or_false] at hb
  rcases hb with hb | hb | hb
  · exact .inl hb
  · exact .inr ⟨_, by omega, hb⟩
  · exact .inr ⟨_, by omega, hb⟩

end Percent

/-! ### Names and values -/

namespace Form

/-- The text in which every plus sign stands for a space. -/
def spaced (t : Text) : Text := t.map fun c => if c = '+' then ' ' else c

/-- The name or value of an encoded form, if its bytes are those of a text. -/
def decode? (t : Text) : Option Text := Utf8.decode? (Percent.decode (spaced t))

/-- The pair of an encoded form that has one equals sign. -/
def readPair? (t : Text) : Option (Text × Text) :=
  match split '=' t with
  | [name, value] => do return (← decode? name, ← decode? value)
  | _ => none

/-- The pairs between the signs `&`. -/
def readPairs? (t : Text) : Option (List (Text × Text)) := (split '&' t).mapM readPair?

theorem isPlain_digit : ∀ n < 16, isPlain (Percent.digit n) = true := by decide

theorem mem_encode {t : Text} {c : Char} (h : c ∈ encode t) : isPlain c = true ∨ c = '+' ∨ c = '%' := by
  obtain ⟨d, -, hd⟩ := List.mem_flatMap.1 h
  split at hd
  next hplain =>
    obtain rfl := List.mem_singleton.1 hd
    exact .inl hplain
  next =>
    split at hd
    · exact .inr (.inl (List.mem_singleton.1 hd))
    · obtain rfl | ⟨n, hn, rfl⟩ := Percent.mem_encodeChar hd
      · exact .inr (.inr rfl)
      · exact .inl (isPlain_digit n hn)

/-- The signs between names, values and pairs do not stand in them. -/
theorem notMem_encode {c : Char} (hplain : isPlain c = false) (hplus : c ≠ '+') (hpercent : c ≠ '%')
    (t : Text) : c ∉ encode t := by
  intro h
  obtain hc | hc | hc := mem_encode h
  · rw [hplain] at hc
    cases hc
  · exact hplus hc
  · exact hpercent hc

theorem spaced_encodeChar (c : Char) : spaced (Percent.encodeChar c) = Percent.encodeChar c := by
  refine (List.map_congr_left fun d hd => if_neg ?_).trans (List.map_id _)
  rintro rfl
  obtain h | ⟨n, hn, h⟩ := Percent.mem_encodeChar hd
  · cases h
  · have hdigit := isPlain_digit n hn
    rw [← h] at hdigit
    cases hdigit

/-- The bytes of a name or value are those of its text. -/
theorem decode_spaced_encode (t : Text) : Percent.decode (spaced (encode t)) = Utf8.encode t := by
  induction t with
  | nil => rfl
  | cons c t ih =>
    have hcons : encode (c :: t) = (if isPlain c then [c] else if c = ' ' then ['+']
        else Percent.encodeChar c) ++ encode t := rfl
    rw [hcons, spaced, List.map_append]
    change Percent.decode (_ ++ spaced (encode t)) = Utf8.encodeChar c ++ Utf8.encode t
    rw [← ih]
    split
    next hplain =>
      have hne : ∀ d, isPlain d = false → c ≠ d := by
        rintro d hd rfl
        rw [hplain] at hd
        cases hd
      have hc : List.map (fun c => if c = '+' then ' ' else c) [c] = [c] :=
        congrArg (· :: []) (if_neg (hne '+' (by decide)))
      rw [hc, List.singleton_append, Percent.decode_cons_of_ne (hne '%' (by decide))]
    next =>
      split
      next hspace =>
        subst hspace
        exact Percent.decode_cons_of_ne (by decide) _
      next =>
        rw [← spaced, spaced_encodeChar, Percent.decode_encodeChar]

theorem decode?_encode (t : Text) : decode? (encode t) = some t := by
  rw [decode?, decode_spaced_encode, Utf8.decode?_encode]

theorem decode_encode (t : Text) : decode (encode t) = t :=
  Utf8.decodeLenient_of_decode? (decode?_encode t)

/-! ### Pairs -/

theorem readPair?_encodePair (p : Text × Text) : readPair? (encodePair p) = some p := by
  have hequals (t : Text) : '=' ∉ encode t := notMem_encode (by decide) (by decide) (by decide) t
  rw [readPair?, encodePair, split_append_cons (hequals p.1), split_of_notMem (hequals p.2)]
  dsimp only
  rw [decode?_encode, decode?_encode]
  rfl

theorem decodePair_encodePair (p : Text × Text) : decodePair (encodePair p) = p := by
  have hequals : '=' ∉ encode p.1 := notMem_encode (by decide) (by decide) (by decide) p.1
  rw [decodePair, encodePair, cut_append hequals]
  dsimp only [Option.getD_some]
  rw [decode_encode, decode_encode]

theorem ampersand_notMem_encodePair (p : Text × Text) : '&' ∉ encodePair p := by
  have hsign (t : Text) : '&' ∉ encode t := notMem_encode (by decide) (by decide) (by decide) t
  simp [encodePair, hsign]

theorem split_encodePairs {ps : List (Text × Text)} (h : ps ≠ []) :
    split '&' (encodePairs ps) = ps.map encodePair := by
  refine split_join (by simpa using h) ?_
  intro piece hpiece
  obtain ⟨p, -, rfl⟩ := List.mem_map.1 hpiece
  exact ampersand_notMem_encodePair p

/-- **Encoded parameters are read back**, as many as they are and in their order. -/
theorem readPairs?_encodePairs {ps : List (Text × Text)} (h : ps ≠ []) :
    readPairs? (encodePairs ps) = some ps := by
  rw [readPairs?, split_encodePairs h]
  clear h
  induction ps with
  | nil => rfl
  | cons p ps ih =>
    rw [List.map_cons, List.mapM_cons, readPair?_encodePair, ih]
    rfl

theorem decodePairs_encodePairs (ps : List (Text × Text)) : decodePairs (encodePairs ps) = ps := by
  cases ps with
  | nil => rfl
  | cons p ps =>
    have hpieces : ((p :: ps).map encodePair).filter (· ≠ []) = (p :: ps).map encodePair := by
      refine List.filter_eq_self.2 fun piece hpiece => ?_
      obtain ⟨q, -, rfl⟩ := List.mem_map.1 hpiece
      simp [encodePair]
    rw [decodePairs, split_encodePairs (List.cons_ne_nil p ps), hpieces, List.map_map]
    exact (List.map_congr_left fun q _ => decodePair_encodePair q).trans (List.map_id _)

end Form

end RuleAudit.Text
