import Mathlib.Data.Char
import Mathlib.Data.List.Lex
import RuleAudit.Json.Tree
import RuleAudit.Proofs.Json.Record

/-!
# The names in a value that was read

* `Value.Ordered`: in every object, the names strictly increase;
* `Tree.value_ordered`: what is read from a text is such a value, so no name stands for two members.
-/

namespace RuleAudit.Json

/-! ### Ordered values -/

/-- The names of the members strictly increase, in the value itself and in all values inside it. -/
inductive Value.Ordered : Value → Prop
  | null : Ordered .null
  | bool (b : Bool) : Ordered (.bool b)
  | number (n : Number) : Ordered (.number n)
  | string (t : Text) : Ordered (.string t)
  | array {vs : List Value} (h : ∀ v ∈ vs, Ordered v) : Ordered (.array vs)
  | object {ms : List (Text × Value)} (hnames : (ms.map (·.1)).Pairwise (· < ·))
    (h : ∀ m ∈ ms, Ordered m.2) : Ordered (.object ms)

namespace Value.Ordered

theorem once {v : Value} (h : v.Ordered) (names : List Text) : v.Once names := by
  rintro ms rfl name -
  cases h with
  | object hnames => exact List.nodup_iff_count_le_one.1 (hnames.imp fun h => ne_of_lt h) name

theorem items {vs : List Value} (h : (Value.array vs).Ordered) : ∀ v ∈ vs, v.Ordered := by
  cases h with
  | array h => exact h

theorem member {m : Manner} {names : List Text} {v : Value} {ms : List (Text × Value)}
    (h : v.Ordered) (hspells : v.Spells m names ms) {name : Text} {w : Value}
    (hw : ms.lookup name = some w) : w.Ordered := by
  have hmem : (name, w) ∈ ms := mem_of_lookup hw
  cases hspells with
  | object =>
    cases h with
    | object _ h => exact h _ hmem
  | list vs => exact h.items w (List.of_mem_zip hmem).2

end Value.Ordered

/-! ### Reading -/

theorem mem_putMember {name : Text} {v : Value} {ms : List (Text × Value)} {m : Text × Value}
    (h : m ∈ putMember name v ms) : m = (name, v) ∨ m ∈ ms := by
  induction ms with
  | nil => exact .inl (by simpa [putMember] using h)
  | cons n ms ih =>
    obtain ⟨n, w⟩ := n
    rw [putMember] at h
    split at h
    · exact (List.mem_cons.1 h).imp_right id
    · split at h
      · rename_i heq
        subst heq
        exact (List.mem_cons.1 h).imp_right (List.mem_cons_of_mem _)
      · rcases List.mem_cons.1 h with rfl | h
        · exact .inr (List.mem_cons_self ..)
        · exact (ih h).imp_right (List.mem_cons_of_mem _)

theorem pairwise_putMember {name : Text} {v : Value} {ms : List (Text × Value)}
    (h : (ms.map (·.1)).Pairwise (· < ·)) :
    ((putMember name v ms).map (·.1)).Pairwise (· < ·) := by
  induction ms with
  | nil => simp [putMember]
  | cons n ms ih =>
    obtain ⟨n, w⟩ := n
    obtain ⟨hn, hms⟩ := List.pairwise_cons.1 h
    rw [putMember]
    split
    · rename_i hlt
      refine List.pairwise_cons.2 ⟨?_, h⟩
      intro k hk
      rcases List.mem_cons.1 hk with rfl | hk
      · exact hlt
      · exact lt_trans hlt (hn k hk)
    · rename_i hlt
      split
      · exact h
      · rename_i hne
        refine List.pairwise_cons.2 ⟨?_, ih hms⟩
        intro k hk
        obtain ⟨m, hm, rfl⟩ := List.mem_map.1 hk
        rcases mem_putMember hm with rfl | hm
        · exact lt_of_le_of_ne (not_lt.1 hlt) (Ne.symm hne)
        · exact hn _ (List.mem_map_of_mem hm)

namespace Tree

mutual
/-- **A value that was read is ordered.** -/
theorem value_ordered {depth : Nat} {v : Value} : ∀ {t : Tree}, t.value depth = .ok v → v.Ordered
  | .null, h => by
    rw [value] at h
    cases h
    exact .null
  | .bool b, h => by
    rw [value] at h
    cases h
    exact .bool b
  | .number none, h => by
    rw [value] at h
    cases h
  | .number (some n), h => by
    rw [value] at h
    cases h
    exact .number n
  | .string none, h => by
    rw [value] at h
    cases h
  | .string (some s), h => by
    rw [value] at h
    cases h
    exact .string s
  | .broken f, h => by
    rw [value] at h
    cases h
  | .array items stop, h => by
    rw [value] at h
    split at h
    · cases h
    obtain ⟨vs, hvs, h⟩ := except_bind_eq_ok.1 h
    cases stop <;> cases h
    exact .array (itemValues_ordered hvs)
  | .object members stop, h => by
    rw [value] at h
    split at h
    · cases h
    obtain ⟨ms, hms, h⟩ := except_bind_eq_ok.1 h
    cases stop <;> cases h
    exact memberValues_ordered (.object .nil (by simp)) hms

theorem itemValues_ordered {depth : Nat} :
    ∀ {ts : List Tree} {vs : List Value}, itemValues depth ts = .ok vs → ∀ v ∈ vs, v.Ordered
  | [], vs, h => by
    rw [itemValues] at h
    cases h
    simp
  | t :: ts, vs, h => by
    rw [itemValues] at h
    obtain ⟨v, hv, h⟩ := except_bind_eq_ok.1 h
    obtain ⟨vs', hvs, h⟩ := except_bind_eq_ok.1 h
    cases h
    exact List.forall_mem_cons.2 ⟨value_ordered hv, itemValues_ordered hvs⟩

theorem memberValues_ordered {depth : Nat} :
    ∀ {ts : List (Option Text × Tree)} {done ms : List (Text × Value)},
      (Value.object done).Ordered → memberValues depth done ts = .ok ms → (Value.object ms).Ordered
  | [], done, ms, hdone, h => by
    rw [memberValues] at h
    cases h
    exact hdone
  | (none, t) :: ts, done, ms, hdone, h => by
    rw [memberValues] at h
    cases h
  | (some name, t) :: ts, done, ms, hdone, h => by
    rw [memberValues] at h
    obtain ⟨v, hv, h⟩ := except_bind_eq_ok.1 h
    refine memberValues_ordered ?_ h
    cases hdone with
    | object hnames hall =>
      refine .object (pairwise_putMember hnames) fun m hm => ?_
      rcases mem_putMember hm with rfl | hm
      · exact value_ordered hv
      · exact hall m hm
end

end Tree

end RuleAudit.Json
