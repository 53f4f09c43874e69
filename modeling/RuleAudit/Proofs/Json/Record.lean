import Mathlib.Data.List.Nodup
import RuleAudit.Json.Decode
import RuleAudit.Proofs.Envelope
import RuleAudit.Proofs.Fields

/-!
# Records in JSON values

A record is decoded from the members that a value spells: an object spells its own, and a list
spells its items under the names of the fields.

* `Value.Spells`: the members that a value spells, for one who takes lists for records or does not;
* `Decoder.record_eq_ok`: a record is what its members make of it;
* `Decoder.setMembers_tells`: each part of a record is told by the member of its name.
-/

namespace RuleAudit.Json

/-! ### The members of a record -/

/-- How strictly a value is taken for what it should be. -/
inductive Manner
  /-- Records are objects and words are strings. -/
  | strict
  /-- A list may stand for a record, and an object whose only member is null for a word. -/
  | lenient

/-- The value spells these members of a record whose fields have the given names. -/
inductive Value.Spells (m : Manner) (names : List Text) : Value → List (Text × Value) → Prop
  | object (ms : List (Text × Value)) : Spells m names (.object ms) ms
  | list (vs : List Value) (hm : m = .lenient) (hlength : vs.length ≤ names.length) :
    Spells m names (.array vs) (names.zip vs)

/-- No name of a field occurs twice among the members of the value. -/
def Value.Once (names : List Text) (v : Value) : Prop :=
  ∀ ms, v = .object ms → ∀ name ∈ names, (ms.map (·.1)).count name ≤ 1

theorem map_fst_zip (names : List Text) (vs : List Value) :
    (names.zip vs).map (·.1) = names.take vs.length := by
  induction names generalizing vs with
  | nil => simp
  | cons name names ih => cases vs <;> simp [ih]

theorem Value.Spells.once {m : Manner} {names : List Text} {v : Value} {ms : List (Text × Value)}
    (h : v.Spells m names ms) (hv : v.Once names) (hnames : names.Nodup) :
    ∀ name ∈ names, (ms.map (·.1)).count name ≤ 1 := by
  cases h with
  | object => exact hv ms rfl
  | list vs hm hlength =>
    intro name _
    have hsublist : ((names.zip vs).map (·.1)).Sublist names := by
      rw [map_fst_zip]
      exact List.take_sublist ..
    exact List.nodup_iff_count_le_one.1 (hnames.sublist hsublist) name

theorem mem_of_lookup {ms : List (Text × Value)} {name : Text} {v : Value}
    (h : ms.lookup name = some v) : (name, v) ∈ ms := by
  obtain ⟨before, after, rfl, -⟩ := List.lookup_eq_some_iff.1 h
  simp

theorem mem_names_iff {ms : List (Text × Value)} {name : Text} :
    name ∈ ms.map (·.1) ↔ ∃ v, ms.lookup name = some v := by
  rw [← Option.ne_none_iff_exists', ne_eq, List.lookup_eq_none_iff]
  simp

theorem lookup_of_once {ms : List (Text × Value)} {name : Text} {v : Value} (h : (name, v) ∈ ms)
    (honce : (ms.map (·.1)).count name ≤ 1) : ms.lookup name = some v := by
  induction ms with
  | nil => cases h
  | cons m ms ih =>
    obtain ⟨n, w⟩ := m
    by_cases hn : n = name
    · subst hn
      have hnot : n ∉ ms.map (·.1) := by
        rw [List.map_cons, List.count_cons_self] at honce
        exact List.count_eq_zero.1 (by omega)
      rcases List.mem_cons.1 h with h | h
      · cases h
        exact List.lookup_cons_self
      · exact absurd (List.mem_map_of_mem (f := (·.1)) h) hnot
    · rw [List.map_cons, List.count_cons_of_ne hn] at honce
      rw [List.lookup_cons, beq_false_of_ne (Ne.symm hn)]
      refine ih ?_ honce
      rcases List.mem_cons.1 h with h | h
      · cases h
        exact absurd rfl hn
      · exact h

/-! ### What a member tells -/

section

variable {β : Type} {ms : List (Text × Value)} {name : Text} {start b b' : β}
  {shows : Value → β → Prop}

/-- The member of that name shows the part; if there is none, the part is as at the start. -/
def Tells (ms : List (Text × Value)) (name : Text) (start : β) (shows : Value → β → Prop) (b : β) :
    Prop :=
  (ms.lookup name = none ∧ b = start) ∨ ∃ v, ms.lookup name = some v ∧ shows v b

theorem Tells.unique (hshows : ∀ v b b', shows v b → shows v b' → b = b')
    (h : Tells ms name start shows b) (h' : Tells ms name start shows b') : b = b' := by
  obtain ⟨hnone, rfl⟩ | ⟨v, hv, hb⟩ := h <;> obtain ⟨hnone', rfl⟩ | ⟨v', hv', hb'⟩ := h'
  · rfl
  · rw [hnone] at hv'
    cases hv'
  · rw [hnone'] at hv
    cases hv
  · cases hv.symm.trans hv'
    exact hshows v b b' hb hb'

theorem Tells.shown (h : Tells ms name start shows b) {v : Value} (hv : ms.lookup name = some v) :
    shows v b := by
  obtain ⟨hnone, -⟩ | ⟨v', hv', hb⟩ := h
  · rw [hnone] at hv
    cases hv
  · cases hv.symm.trans hv'
    exact hb

theorem Tells.congr {shows' : Value → β → Prop}
    (hshows : ∀ v, ms.lookup name = some v → (shows v b ↔ shows' v b)) :
    Tells ms name start shows b ↔ Tells ms name start shows' b :=
  or_congr_right <| exists_congr fun _ => and_congr_right fun hv => hshows _ hv

end

/-- The value is an array whose items stand for the given things, one for one. -/
def Value.Lists {β : Type} (stands : Value → β → Prop) (v : Value) (bs : List β) : Prop :=
  ∃ vs, v = .array vs ∧ List.Forall₂ stands vs bs

theorem Value.Lists.unique {β : Type} {stands : Value → β → Prop}
    (hstands : ∀ v b b', stands v b → stands v b' → b = b') (v : Value) (bs bs' : List β)
    (h : v.Lists stands bs) (h' : v.Lists stands bs') : bs = bs' := by
  obtain ⟨vs, rfl, h⟩ := h
  obtain ⟨vs', hvs, h'⟩ := h'
  cases hvs
  induction h generalizing bs' with
  | nil =>
    cases h'
    rfl
  | cons hb _ ih =>
    cases h' with
    | cons hb' h' => rw [hstands _ _ _ hb hb', ih _ h']

theorem Value.Lists.mono {β : Type} {stands stands' : Value → β → Prop} {v : Value} {bs : List β}
    (hstands : ∀ vs, v = .array vs → ∀ w ∈ vs, ∀ b, stands w b → stands' w b)
    (h : v.Lists stands bs) : v.Lists stands' bs := by
  obtain ⟨vs, rfl, h⟩ := h
  refine ⟨vs, rfl, ?_⟩
  have hall := hstands vs rfl
  clear hstands
  induction h with
  | nil => exact .nil
  | cons hb _ ih =>
    obtain ⟨hhead, htail⟩ := List.forall_mem_cons.1 hall
    exact .cons (hhead _ hb) (ih htail)

theorem Value.Lists.congr {β : Type} {stands stands' : Value → β → Prop} {v : Value} {bs : List β}
    (hstands : ∀ vs, v = .array vs → ∀ w ∈ vs, ∀ b, stands w b ↔ stands' w b) :
    v.Lists stands bs ↔ v.Lists stands' bs :=
  ⟨.mono fun vs hvs w hw b => (hstands vs hvs w hw b).1,
    .mono fun vs hvs w hw b => (hstands vs hvs w hw b).2⟩

/-! ### Decoding -/

namespace Decoder

theorem mapM_eq_ok {β : Type} {item : Decoder β} {vs : List Value} :
    ∀ {bs : List β}, vs.mapM item = .ok bs ↔ List.Forall₂ (fun v b => item v = .ok b) vs bs := by
  induction vs with
  | nil =>
    rintro (_ | ⟨b, bs⟩)
    · exact ⟨fun _ => .nil, fun _ => rfl⟩
    · constructor <;> intro h <;> cases h
  | cons v vs ih =>
    intro bs
    rw [List.mapM_cons, except_bind_eq_ok]
    constructor
    · rintro ⟨b, hb, h⟩
      obtain ⟨bs', hbs, h⟩ := except_bind_eq_ok.1 h
      cases h
      exact .cons hb (ih.1 hbs)
    · intro h
      cases h with
      | cons hb h => exact ⟨_, hb, except_bind_eq_ok.2 ⟨_, ih.2 h, rfl⟩⟩

theorem list_eq_ok {β : Type} {item : Decoder β} {v : Value} {bs : List β} :
    list item v = .ok bs ↔ v.Lists (fun v b => item v = .ok b) bs := by
  constructor
  · intro h
    cases v with
    | array vs => exact ⟨vs, rfl, mapM_eq_ok.1 h⟩
    | _ => cases h
  · rintro ⟨vs, rfl, h⟩
    exact mapM_eq_ok.2 h

section

variable {α : Type} {fields : List (Field α)}

/-- A field of that name changes the record so. -/
def Sets (fields : List (Field α)) (name : Text) (v : Value) (a a' : α) : Prop :=
  ∃ field ∈ fields, field.name = name ∧ field.set v a = .ok a'

theorem setMembers_pass {name : Text} (h : fields.find? (·.name == name) = none) (v : Value)
    (ms : List (Text × Value)) (a : α) :
    setMembers fields ((name, v) :: ms) a = setMembers fields ms a := by
  simp only [setMembers, List.foldlM_cons, h]
  rfl

theorem setMembers_set {name : Text} {field : Field α}
    (h : fields.find? (·.name == name) = some field) (v : Value) (ms : List (Text × Value)) (a : α) :
    setMembers fields ((name, v) :: ms) a = field.set v a >>= setMembers fields ms := by
  simp only [setMembers, List.foldlM_cons, h]
  rfl

theorem find?_name (hnames : (fields.map Field.name).Nodup) {field : Field α} (h : field ∈ fields) :
    fields.find? (·.name == field.name) = some field := by
  cases hfind : fields.find? (·.name == field.name) with
  | none => exact absurd ⟨field, h, rfl⟩ (not_isField_of_find? hfind)
  | some f =>
    obtain ⟨hf, hname⟩ := isField_of_find? hfind
    rw [List.inj_on_of_nodup_map hnames hf h hname]

/-- Members that name each field once at most fill the record. -/
theorem setMembers_filled {ms : List (Text × Value)}
    (honce : ∀ field ∈ fields, (ms.map (·.1)).count field.name ≤ 1) :
    ∀ {seen : List Text} {a a' : α}, (∀ name ∈ seen, name ∉ ms.map (·.1)) →
      setMembers fields ms a = .ok a' →
      ∃ seen', Filled (∃ field ∈ fields, field.name = ·) (Sets fields) seen a ms seen' a' := by
  induction ms with
  | nil =>
    intro seen a a' _ h
    cases h
    exact ⟨seen, .done⟩
  | cons m ms ih =>
    obtain ⟨n, v⟩ := m
    have hrest : ∀ field ∈ fields, (ms.map (·.1)).count field.name ≤ 1 := fun field hf =>
      Nat.le_trans (List.Sublist.count_le _ (List.sublist_cons_self ..)) (honce field hf)
    intro seen a a' hseen h
    have hseen' : ∀ name ∈ seen, name ∉ ms.map (·.1) := fun name hname hmem =>
      hseen name hname (List.mem_cons_of_mem _ hmem)
    cases hfind : fields.find? (·.name == n) with
    | none =>
      rw [setMembers_pass hfind] at h
      obtain ⟨seen', hfilled⟩ := ih hrest hseen' h
      exact ⟨seen', .pass (not_isField_of_find? hfind) hfilled⟩
    | some field =>
      obtain ⟨hf, rfl⟩ := isField_of_find? hfind
      rw [setMembers_set hfind] at h
      obtain ⟨a₁, hset, h⟩ := except_bind_eq_ok.1 h
      have hnew : field.name ∉ ms.map (·.1) := by
        have := honce field hf
        rw [List.map_cons, List.count_cons_self] at this
        exact List.count_eq_zero.1 (by omega)
      have hboth : ∀ name ∈ field.name :: seen, name ∉ ms.map (·.1) :=
        List.forall_mem_cons.2 ⟨hnew, hseen'⟩
      obtain ⟨seen', hfilled⟩ := ih hrest hboth h
      exact ⟨seen', .set (fun hmem => hseen _ hmem (List.mem_cons_self ..)) ⟨field, hf, rfl, hset⟩
        hfilled⟩

/-- **A part of a record is told by the member of its name.** -/
theorem setMembers_tells {β : Type} {name : Text} {part : α → β} {shows : Value → β → Prop}
    {ms : List (Text × Value)} {a a' : α}
    (hg : Governs (Sets fields) name part shows) (hname : name ∈ fields.map Field.name)
    (honce : ∀ n ∈ fields.map Field.name, (ms.map (·.1)).count n ≤ 1)
    (h : setMembers fields ms a = .ok a') : Tells ms name (part a) shows (part a') := by
  obtain ⟨seen, hfilled⟩ := setMembers_filled
    (fun field hf => honce _ (List.mem_map_of_mem hf)) (by simp : ∀ n ∈ [], n ∉ ms.map (·.1)) h
  obtain ⟨field, hf, rfl⟩ := List.mem_map.1 hname
  obtain ⟨hnone, hpart, -⟩ | hsome :=
    hfilled.part_of_new ⟨field, hf, rfl⟩ hg List.not_mem_nil
  · exact .inl ⟨hnone, hpart⟩
  · exact .inr hsome

/-- If every member that names a field can be taken, all of them can. -/
theorem setMembers_exists {ms : List (Text × Value)}
    (h : ∀ field ∈ fields, ∀ v, (field.name, v) ∈ ms → ∀ a, ∃ a', field.set v a = .ok a') (a : α) :
    ∃ a', setMembers fields ms a = .ok a' := by
  induction ms generalizing a with
  | nil => exact ⟨a, rfl⟩
  | cons m ms ih =>
    obtain ⟨n, v⟩ := m
    have hrest := ih fun field hf v hv => h field hf v (List.mem_cons_of_mem _ hv)
    cases hfind : fields.find? (·.name == n) with
    | none =>
      rw [setMembers_pass hfind]
      exact hrest a
    | some field =>
      obtain ⟨hf, rfl⟩ := isField_of_find? hfind
      obtain ⟨a₁, ha₁⟩ := h field hf v (List.mem_cons_self ..) a
      obtain ⟨a', ha'⟩ := hrest a₁
      refine ⟨a', ?_⟩
      rw [setMembers_set hfind, ha₁]
      exact ha'

/-! ### A list is read as an object -/

/-- The items of a list set the fields under whose names they stand. -/
theorem setItems_eq_ok (hnames : (fields.map Field.name).Nodup) (record : Text) (total count : Nat)
    {fs : List (Field α)} (hfs : fs ⊆ fields) :
    ∀ {vs : List Value} {a a' : α}, setItems record total count fs vs a = .ok a' ↔
      vs.length ≤ fs.length ∧ (∀ field ∈ fs.drop vs.length, field.required = false) ∧
        setMembers fields ((fs.map Field.name).zip vs) a = .ok a' := by
  induction fs with
  | nil =>
    intro vs a a'
    cases vs with
    | nil => simp [setItems, setMembers]
    | cons v vs =>
      constructor
      · intro h
        cases h
      · rintro ⟨hlength, -⟩
        exact absurd hlength (by simp)
  | cons field fs ih =>
    obtain ⟨hf, hfs⟩ := List.cons_subset.1 hfs
    intro vs a a'
    cases vs with
    | nil =>
      have hnil : setItems record total count fs [] a = .ok a' ↔ _ := ih hfs
      rw [setItems]
      cases hreq : field.required with
      | true => simp [hreq]
      | false => simpa [hreq] using hnil
    | cons v vs =>
      rw [setItems, List.map_cons, List.zip_cons_cons, setMembers_set (find?_name hnames hf),
        except_bind_eq_ok, except_bind_eq_ok, List.length_cons, List.length_cons,
        Nat.add_le_add_iff_right, List.drop_succ_cons]
      constructor
      · rintro ⟨a₁, hset, h⟩
        obtain ⟨hlength, hrequired, h⟩ := (ih hfs).1 h
        exact ⟨hlength, hrequired, a₁, hset, h⟩
      · rintro ⟨hlength, hrequired, a₁, hset, h⟩
        exact ⟨a₁, hset, (ih hfs).2 ⟨hlength, hrequired, h⟩⟩

/-- All fields that must be there are named by a member. -/
def Complete (fields : List (Field α)) (ms : List (Text × Value)) : Prop :=
  ∀ field ∈ fields, field.required = true → field.name ∈ ms.map (·.1)

theorem complete_zip (hnames : (fields.map Field.name).Nodup) {vs : List Value} :
    Complete fields ((fields.map Field.name).zip vs) ↔
      ∀ field ∈ fields.drop vs.length, field.required = false := by
  rw [Complete, map_fst_zip, ← List.map_take]
  have happend := List.take_append_drop vs.length fields
  constructor
  · intro h field hf
    by_contra hreq
    have hmem := h field (List.mem_of_mem_drop hf) (by simpa using hreq)
    rw [← happend, List.map_append] at hnames
    exact (List.nodup_append.1 hnames).2.2 _ hmem _ (List.mem_map_of_mem hf) rfl
  · intro h field hf hreq
    rw [← happend, List.mem_append] at hf
    rcases hf with hf | hf
    · exact List.mem_map_of_mem hf
    · rw [h field hf] at hreq
      cases hreq

/-- **A record is what its members make of it**, whether they are those of an object or the items of
a list. -/
theorem record_eq_ok (hnames : (fields.map Field.name).Nodup) {name : Text} {start a : α}
    {v : Value} :
    record name fields start v = .ok a ↔
      ∃ ms, v.Spells .lenient (fields.map Field.name) ms ∧ Complete fields ms ∧
        setMembers fields ms start = .ok a := by
  cases v with
  | object ms =>
    have hfind : (fields.find? fun f => f.required && !ms.any (·.1 == f.name)) = none ↔
        Complete fields ms := by
      simp [List.find?_eq_none, Complete]
    constructor
    · intro h
      obtain ⟨a', hset, h⟩ := except_bind_eq_ok.1 h
      split at h
      · cases h
      · rename_i hnone
        cases h
        exact ⟨ms, .object ms, hfind.1 hnone, hset⟩
    · rintro ⟨ms', hspells, hcomplete, hset⟩
      cases hspells
      refine except_bind_eq_ok.2 ⟨a, hset, ?_⟩
      rw [hfind.2 hcomplete]
      rfl
  | array vs =>
    change setItems name fields.length vs.length fields vs start = .ok a ↔ _
    rw [setItems_eq_ok hnames _ _ _ (List.Subset.refl _), ← complete_zip hnames]
    constructor
    · rintro ⟨hlength, hcomplete, hset⟩
      exact ⟨_, .list vs rfl (by simpa using hlength), hcomplete, hset⟩
    · rintro ⟨ms, hspells, hcomplete, hset⟩
      cases hspells with
      | list _ _ hlength => exact ⟨by simpa using hlength, hcomplete, hset⟩
  | _ =>
    constructor
    · intro h
      cases h
    · rintro ⟨ms, hspells, -⟩
      cases hspells

/-- What members tell of a record is all that decoding takes from them, if they name each field once
at most. -/
structure Describes (fields : List (Field α)) (start : α)
    (told : List (Text × Value) → α → Prop) : Prop where
  names : (fields.map Field.name).Nodup
  unique : ∀ {ms a a'}, told ms a → told ms a' → a = a'
  complete : ∀ {ms a}, told ms a → Complete fields ms
  /-- A member that names a field can be taken, whatever the record is like. -/
  takes : ∀ {ms a}, told ms a → ∀ field ∈ fields, ∀ v, ms.lookup field.name = some v →
    ∀ b, ∃ b', field.set v b = .ok b'
  /-- What comes of all members is told. -/
  tells : ∀ {ms a}, (∀ name ∈ fields.map Field.name, (ms.map (·.1)).count name ≤ 1) →
    Complete fields ms → setMembers fields ms start = .ok a → told ms a

theorem Describes.record_eq_ok {start : α} {told : List (Text × Value) → α → Prop}
    (h : Describes fields start told) {name : Text} {v : Value} {a : α}
    (hv : v.Once (fields.map Field.name)) :
    record name fields start v = .ok a ↔
      ∃ ms, v.Spells .lenient (fields.map Field.name) ms ∧ told ms a := by
  rw [Decoder.record_eq_ok h.names]
  constructor
  · rintro ⟨ms, hspells, hcomplete, hset⟩
    exact ⟨ms, hspells, h.tells (hspells.once hv h.names) hcomplete hset⟩
  · rintro ⟨ms, hspells, htold⟩
    have honce := hspells.once hv h.names
    obtain ⟨a', hset⟩ := setMembers_exists (fun field hf v hv =>
      h.takes htold field hf v (lookup_of_once hv (honce _ (List.mem_map_of_mem hf)))) start
    refine ⟨ms, hspells, h.complete htold, ?_⟩
    rw [hset, h.unique htold (h.tells honce (h.complete htold) hset)]

end

end Decoder

end RuleAudit.Json
