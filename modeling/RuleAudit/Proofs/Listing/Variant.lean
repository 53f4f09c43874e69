import RuleAudit.Proofs.Listing.Shape

/-!
# Listings written in other ways

What a server writes of its rules may have members that nobody asked for, in any place, may lack
members that have nothing to say, and may name kinds that are not known here.

* `Value.Pads`: an object with certain members, and others with other names;
* `Listing.Variant`: such a way to write a listing; the plain encoding is one of them;
* `Listing.decode_variant`: whatever the way, the same groups are read.
-/

namespace RuleAudit

open Json (Value Decoder Tells textMember)

/-! ### Objects with more members or fewer -/

namespace Json

/-- The value is an object with the given members and some that have none of the names, in any
order. -/
def Value.Pads (names : List Text) (core : List (Text × Value)) (v : Value) : Prop :=
  ∃ ms extra, v = .object ms ∧ (∀ m ∈ extra, m.1 ∉ names) ∧ ms.Perm (core ++ extra)

/-- The member of that name, or no member if there is nothing to be said. -/
inductive Spared (name : Text) (shows : Value → Prop) (empty : Prop) : List (Text × Value) → Prop
  | kept {v : Value} (h : shows v) : Spared name shows empty [(name, v)]
  | left (h : empty) : Spared name shows empty []

namespace Spared

variable {name : Text} {shows : Value → Prop} {empty : Prop} {ms : List (Text × Value)}

theorem sublist (h : Spared name shows empty ms) : (ms.map (·.1)).Sublist [name] := by
  cases h <;> simp

theorem lookup_of_ne (h : Spared name shows empty ms) {n : Text} (hne : n ≠ name) :
    ms.lookup n = none := by
  cases h with
  | kept => rw [List.lookup_cons, beq_false_of_ne hne, List.lookup_nil]
  | left => rfl

/-- What may be left out is told nevertheless. -/
theorem tells (h : Spared name shows empty ms) {β : Type} {start b : β}
    {shows' : Value → β → Prop} (hempty : empty → b = start) (hshows : ∀ v, shows v → shows' v b)
    {all : List (Text × Value)} (hall : all.lookup name = ms.lookup name) :
    Tells all name start shows' b := by
  rw [Tells, hall]
  cases h with
  | kept h => exact .inr ⟨_, List.lookup_cons_self, hshows _ h⟩
  | left h => exact .inl ⟨rfl, hempty h⟩

end Spared

namespace Value.Pads

variable {names : List Text} {core : List (Text × Value)} {v : Value}

theorem of_object (names : List Text) (core : List (Text × Value)) :
    (Value.object core).Pads names core :=
  ⟨core, [], rfl, by simp, by simp⟩

theorem count_eq {ms extra : List (Text × Value)} (hextra : ∀ m ∈ extra, m.1 ∉ names)
    (hperm : ms.Perm (core ++ extra)) {name : Text} (hname : name ∈ names) :
    (ms.map (·.1)).count name = (core.map (·.1)).count name := by
  have hnone : name ∉ extra.map (·.1) := by
    intro hmem
    obtain ⟨m, hm, rfl⟩ := List.mem_map.1 hmem
    exact hextra m hm hname
  rw [(hperm.map (·.1)).count_eq, List.map_append, List.count_append, List.count_eq_zero.2 hnone,
    Nat.add_zero]

theorem once (h : v.Pads names core) (hcore : (core.map (·.1)).Nodup) : v.Once names := by
  obtain ⟨ms, extra, rfl, hextra, hperm⟩ := h
  rintro _ ⟨⟩ name hname
  rw [count_eq hextra hperm hname]
  exact List.nodup_iff_count_le_one.1 hcore name

/-- At the names, the object has the given members. -/
theorem spells (h : v.Pads names core) (hcore : (core.map (·.1)).Nodup) (m : Manner) :
    ∃ ms, v.Spells m names ms ∧ ∀ name ∈ names, ms.lookup name = core.lookup name := by
  have honce := h.once hcore
  obtain ⟨ms, extra, rfl, hextra, hperm⟩ := h
  refine ⟨ms, .object ms, fun name hname => ?_⟩
  cases hlookup : core.lookup name with
  | some w =>
    have hmem : (name, w) ∈ ms := hperm.mem_iff.2 (List.mem_append_left _ (mem_of_lookup hlookup))
    exact lookup_of_once hmem (honce ms rfl name hname)
  | none =>
    rw [← Option.not_isSome_iff_eq_none, Option.isSome_iff_exists, ← mem_names_iff] at hlookup ⊢
    rwa [← List.count_pos_iff, count_eq hextra hperm hname, List.count_pos_iff]

/-- An object with one member, two more that may be left out, and others. -/
theorem of_spared {n₀ n₁ n₂ : Text} {v₀ : Value} {shows₁ shows₂ : Value → Prop}
    {empty₁ empty₂ : Prop} {ms₁ ms₂ : List (Text × Value)}
    (h : v.Pads [n₀, n₁, n₂] ((n₀, v₀) :: (ms₁ ++ ms₂))) (hnames : [n₀, n₁, n₂].Nodup)
    (h₁ : Spared n₁ shows₁ empty₁ ms₁) (h₂ : Spared n₂ shows₂ empty₂ ms₂) (m : Manner) :
    v.Once [n₀, n₁, n₂] ∧ ∃ ms, v.Spells m [n₀, n₁, n₂] ms ∧ ms.lookup n₀ = some v₀ ∧
      ms.lookup n₁ = ms₁.lookup n₁ ∧ ms.lookup n₂ = ms₂.lookup n₂ := by
  have hsublist : (((n₀, v₀) :: (ms₁ ++ ms₂)).map (·.1)).Sublist [n₀, n₁, n₂] := by
    rw [List.map_cons, List.map_append]
    exact (h₁.sublist.append h₂.sublist).cons_cons _
  have hcore := hnames.sublist hsublist
  obtain ⟨ms, hspells, hlookup⟩ := h.spells hcore m
  simp only [List.nodup_cons, List.mem_cons, List.not_mem_nil, or_false, not_or] at hnames
  obtain ⟨⟨h₀₁, h₀₂⟩, h₁₂, -⟩ := hnames
  refine ⟨h.once hcore, ms, hspells, ?_, ?_, ?_⟩
  · rw [hlookup n₀ (by simp), List.lookup_cons_self]
  · rw [hlookup n₁ (by simp), List.lookup_cons, beq_false_of_ne (Ne.symm h₀₁), List.lookup_append,
      h₂.lookup_of_ne h₁₂, Option.or_none]
  · rw [hlookup n₂ (by simp), List.lookup_cons, beq_false_of_ne (Ne.symm h₀₂), List.lookup_append,
      h₁.lookup_of_ne (Ne.symm h₁₂), Option.none_or]

end Value.Pads

end Json

/-! ### Variants -/

/-- The value is a way to write the rule. The kind of a rule that carries no query may be any word
that names no other kind. -/
inductive Rule.Variant (r : Rule) (v : Value) : Prop
  | mk {word : Text} {name query : List (Text × Value)}
    (hword : word = r.kind.word ∨
      r.kind = .other ∧ word ≠ RuleKind.recording.word ∧ word ≠ RuleKind.alerting.word)
    (hname : Json.Spared "name" (· = .string r.name) (r.name = []) name)
    (hquery : Json.Spared "query" (· = .string r.query) (r.query = []) query)
    (hpads : v.Pads ["type", "name", "query"] (textMember "type" word :: (name ++ query)))

/-- The value is a way to write the group. -/
inductive RuleGroup.Variant (g : RuleGroup) (v : Value) : Prop
  | mk {file rules : List (Text × Value)}
    (hfile : Json.Spared "file" (· = .string g.file) (g.file = []) file)
    (hrules : Json.Spared "rules" (Value.Lists (fun w r => r.Variant w) · g.rules) (g.rules = [])
      rules)
    (hpads : v.Pads ["name", "file", "rules"] (textMember "name" g.name :: (file ++ rules)))

/-- The value is a way to write the groups. -/
def Listing.Variant (gs : List RuleGroup) (v : Value) : Prop :=
  v.Lists (fun w g => RuleGroup.Variant g w) gs

theorem Json.Value.lists_map {β : Type} {stands : Value → β → Prop} {write : β → Value}
    (h : ∀ b, stands (write b) b) (bs : List β) : (Value.array (bs.map write)).Lists stands bs := by
  refine ⟨_, rfl, ?_⟩
  rw [List.forall₂_map_left_iff]
  exact List.forall₂_same.2 fun b _ => h b

theorem Rule.variant_toJson (r : Rule) : r.Variant r.toJson :=
  ⟨.inl rfl, .kept rfl, .kept rfl, .of_object _ _⟩

theorem RuleGroup.variant_toJson (g : RuleGroup) : g.Variant g.toJson :=
  ⟨.kept rfl, .kept (Value.lists_map Rule.variant_toJson g.rules), .of_object _ _⟩

/-! ### Reading a variant -/

theorem RuleKind.ofWord_eq {k : RuleKind} {word : Text}
    (h : word = k.word ∨ k = .other ∧ word ≠ recording.word ∧ word ≠ alerting.word) :
    ofWord word = k := by
  obtain rfl | ⟨rfl, hrecording, halerting⟩ := h
  · exact ofWord_word k
  · rw [ofWord, if_neg hrecording, if_neg halerting]

theorem Rule.decode_of_variant {r : Rule} {v : Value} (h : r.Variant v) : decode v = .ok r := by
  obtain ⟨hword, hname, hquery, hpads⟩ := h
  obtain ⟨honce, ms, hspells, htype, hnamed, hqueried⟩ :=
    hpads.of_spared (by decide) hname hquery .lenient
  rw [decode_eq_ok honce]
  refine ⟨ms, hspells, ⟨_, htype, ?_⟩, hname.tells id (fun _ h => h) hnamed,
    hquery.tells id (fun _ h => h) hqueried⟩
  rw [← RuleKind.ofWord_eq hword]
  exact .word _

theorem RuleGroup.decode_of_variant {g : RuleGroup} {v : Value} (h : g.Variant v) :
    decode v = .ok g := by
  obtain ⟨hfile, hrules, hpads⟩ := h
  obtain ⟨honce, ms, hspells, hname, hfiled, hruled⟩ :=
    hpads.of_spared (by decide) hfile hrules .lenient
  rw [decode_eq_ok honce]
  refine ⟨ms, hspells, hname, hfile.tells id (fun _ h => h) hfiled, hrules.tells id ?_ hruled⟩
  intro w hw
  exact hw.mono fun _ _ _ _ _ hrule => Rule.decode_of_variant hrule

namespace Listing

/-- **A listing is read as it was meant**, in whatever way it is written: the plain encoding is such
a way, and from each of them exactly the groups are read, in order, also inside the data of a reply. -/
theorem decode_variant [Wording] (gs : List RuleGroup) :
    Variant gs (.array (gs.map RuleGroup.toJson)) ∧
    ∀ v, Variant gs v →
      Decoder.list RuleGroup.decode v = .ok gs ∧
      ∀ data : Value, data.Pads ["groups"] [("groups", v)] →
        decode data = .ok gs ∧
        ∀ code body, Envelope.Carries code body data →
          Envelope.accept decode code body = .ok gs := by
  refine ⟨Value.lists_map RuleGroup.variant_toJson gs, fun v hv => ?_⟩
  have hlist : Decoder.list RuleGroup.decode v = .ok gs :=
    Decoder.list_eq_ok.2 (hv.mono fun _ _ _ _ _ hgroup => RuleGroup.decode_of_variant hgroup)
  refine ⟨hlist, fun data hdata => ?_⟩
  have hcore : (([("groups", v)] : List (Text × Value)).map (·.1)).Nodup := List.nodup_singleton _
  obtain ⟨ms, hspells, hlookup⟩ := hdata.spells hcore .lenient
  have hdecode : decode data = .ok gs := by
    rw [decode_eq_ok (hdata.once hcore)]
    refine ⟨ms, hspells, .inr ⟨v, ?_, Decoder.list_eq_ok.1 hlist⟩⟩
    rw [hlookup _ (by simp), List.lookup_cons_self]
  refine ⟨hdecode, fun code body hcarries => ?_⟩
  rw [Envelope.accept_of_carries hcarries, hdecode]
  rfl

end Listing

end RuleAudit
