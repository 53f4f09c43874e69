import RuleAudit.Proofs.Text.Cutting
import RuleAudit.Proofs.Text.Numeral
import RuleAudit.Proofs.Text.Utf8
import RuleAudit.RunId

/-!
# Numbers of runs are read back

* `RunId.text`: sixteen bytes as five groups of digits with hyphens between them;
* `RunId.bytes?_text`: the bytes are had again from their text.
-/

namespace RuleAudit.RunId

/-! ### Writing -/

/-- The text of a number of sixteen bytes. -/
def text (bytes : List UInt8) : Text :=
  let digits := bytes.flatMap byteText
  let group (start length : Nat) : Text := (digits.drop start).take length
  Text.join ['-'] [group 0 8, group 8 4, group 12 4, group 16 4, group 20 12]

theorem ofBytes_eq_text (bytes : List UInt8) : ofBytes bytes = text (stamped bytes) := rfl

theorem length_stamped (bytes : List UInt8) : (stamped bytes).length = bytes.length :=
  List.length_mapIdx

theorem length_byteText (b : UInt8) : (byteText b).length = 2 :=
  Text.length_padZeros (Text.hex_length_le (by decide) b.toNat_lt)

theorem length_flatMap_byteText (bytes : List UInt8) :
    (bytes.flatMap byteText).length = 2 * bytes.length := by
  induction bytes with
  | nil => rfl
  | cons b bytes ih =>
    rw [List.flatMap_cons, List.length_append, length_byteText, ih, List.length_cons]
    omega

theorem hyphen_notMem_byteText (b : UInt8) : '-' ∉ byteText b := by
  intro h
  rcases Text.mem_padZeros h with h | h
  · exact absurd h (by decide)
  · exact Text.notMem_hex rfl _ h

/-! ### Reading -/

/-- Reads bytes of two digits each. -/
def pairs? : Text → Option (List UInt8)
  | [] => some []
  | [_] => none
  | a :: b :: rest => do
    let n ← Text.hexValue? [a, b]
    return n.toUInt8 :: (← pairs? rest)

/-- Reads the bytes of a number, wherever its hyphens stand. -/
def bytes? (t : Text) : Option (List UInt8) := pairs? (t.filter (· != '-'))

theorem pairs?_byteText (b : UInt8) (rest : Text) :
    pairs? (byteText b ++ rest) = (pairs? rest).map (b :: ·) := by
  have hvalue : Text.hexValue? (byteText b) = some b.toNat := by
    rw [byteText, Text.hexValue?_padZeros, Text.hexValue?_hex]
  have hlength := length_byteText b
  generalize byteText b = digits at hvalue hlength
  match digits, hlength with
  | [c, d], _ =>
    change pairs? (c :: d :: rest) = _
    rw [pairs?, hvalue]
    change (do return b.toNat.toUInt8 :: (← pairs? rest)) = _
    rw [Text.Utf8.toUInt8_eq rfl]
    cases pairs? rest <;> rfl

theorem pairs?_flatMap (bytes : List UInt8) : pairs? (bytes.flatMap byteText) = some bytes := by
  induction bytes with
  | nil => rfl
  | cons b bytes ih =>
    rw [List.flatMap_cons, pairs?_byteText, ih]
    rfl

/-- Without the hyphens, the groups are the digits of the bytes. -/
theorem filter_text {bytes : List UInt8} (h : bytes.length = 16) :
    (text bytes).filter (· != '-') = bytes.flatMap byteText := by
  have hlength : (bytes.flatMap byteText).length = 32 := by
    rw [length_flatMap_byteText, h]
  have hhyphen : '-' ∉ bytes.flatMap byteText := by
    simp [hyphen_notMem_byteText]
  unfold text
  dsimp only
  generalize bytes.flatMap byteText = digits at hlength hhyphen ⊢
  have hgroup : ∀ start length, '-' ∉ (digits.drop start).take length := fun _ _ hmem =>
    hhyphen (List.mem_of_mem_drop (List.mem_of_mem_take hmem))
  have hnext : ∀ start length,
      digits.take start ++ (digits.drop start).take length = digits.take (start + length) :=
    fun _ _ => List.take_add.symm
  rw [Text.filter_join]
  · simp only [List.flatten_cons, List.flatten_nil, List.append_nil, List.drop_zero,
      ← List.append_assoc]
    rw [hnext 8 4, hnext 12 4, hnext 16 4, hnext 20 12]
    exact List.take_of_length_le hlength.le
  · simp only [List.mem_cons, List.not_mem_nil, or_false]
    rintro p (rfl | rfl | rfl | rfl | rfl) <;> exact hgroup _ _

/-- **A number of a run is had again from its text.** -/
theorem bytes?_text {bytes : List UInt8} (h : bytes.length = 16) :
    bytes? (text bytes) = some bytes := by
  rw [bytes?, filter_text h, pairs?_flatMap]

end RuleAudit.RunId
