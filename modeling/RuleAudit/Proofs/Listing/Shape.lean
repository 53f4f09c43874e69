import RuleAudit.Client
import RuleAudit.Proofs.Json.Names
import RuleAudit.Proofs.Reply

/-!
# Which replies are rule listings

The shape of a listing is told twice with one definition: strictly, all records are objects and
kinds are words; leniently, lists stand for records, too.

* `Listing.Shown`: the value is a listing of these groups;
* `Listing.decode_eq_ok`: what is decoded is what is shown leniently;
* `Client.ruleGroups_shown`: a client accepts exactly the replies that list some groups leniently.
-/

namespace RuleAudit

open Json (Value Manner Tells Decoder)

/-! ### Shapes -/

/-- The value is a word for the kind. -/
inductive RuleKind.Shown (m : Manner) : Value → RuleKind → Prop
  | word (t : Text) : Shown m (.string t) (ofWord t)
  | tag (t : Text) (hm : m = .lenient) : Shown m (.object [(t, .null)]) (ofWord t)

/-- The members tell what the rule is. Its kind must be told, its name and its query are empty if
they are not. -/
structure Rule.Told (m : Manner) (ms : List (Text × Value)) (r : Rule) : Prop where
  kind : ∃ v, ms.lookup ("type" : Text) = some v ∧ RuleKind.Shown m v r.kind
  name : Tells ms "name" [] (fun v t => v = .string t) r.name
  query : Tells ms "query" [] (fun v t => v = .string t) r.query

/-- The value is the rule. -/
def Rule.Shown (m : Manner) (v : Value) (r : Rule) : Prop :=
  ∃ ms, v.Spells m ["type", "name", "query"] ms ∧ Told m ms r

/-- The members tell what the group is, with rules that stand for its rules. Its name must be told,
its file and its rules are empty if they are not. -/
structure RuleGroup.Told (stands : Value → Rule → Prop) (ms : List (Text × Value)) (g : RuleGroup) :
    Prop where
  name : ms.lookup ("name" : Text) = some (.string g.name)
  file : Tells ms "file" [] (fun v t => v = .string t) g.file
  rules : Tells ms "rules" [] (Value.Lists stands) g.rules

/-- The value is the group. -/
def RuleGroup.Shown (m : Manner) (v : Value) (g : RuleGroup) : Prop :=
  ∃ ms, v.Spells m ["name", "file", "rules"] ms ∧ Told (Rule.Shown m) ms g

/-- The value is the listing of the groups, which are none if they are not told. -/
def Listing.Shown (m : Manner) (v : Value) (gs : List RuleGroup) : Prop :=
  ∃ ms, v.Spells m ["groups"] ms ∧ Tells ms "groups" [] (Value.Lists (RuleGroup.Shown m)) gs

/-! ### Decoding a rule -/

theorem text_unique (v : Value) (t t' : Text) (h : v = .string t) (h' : v = .string t') : t = t' :=
  Value.string.inj (h.symm.trans h')

theorem RuleKind.decode_eq_ok {v : Value} {k : RuleKind} :
    decode v = .ok k ↔ Shown .lenient v k := by
  constructor
  · intro h
    unfold decode at h
    split at h <;> cases h
    · exact .word _
    · exact .tag _ rfl
  · rintro (t | t) <;> rfl

theorem RuleKind.Shown.unique {m : Manner} {v : Value} {k k' : RuleKind} (h : Shown m v k)
    (h' : Shown m v k') : k = k' := by
  cases h <;> cases h' <;> rfl

namespace Rule

/-- What the members of a rule do to it. -/
inductive Takes : Text → Value → Rule → Rule → Prop
  | kind {v : Value} {r : Rule} {k : RuleKind} (h : RuleKind.Shown .lenient v k) :
    Takes "type" v r { r with kind := k }
  | name {r : Rule} (t : Text) : Takes "name" (.string t) r { r with name := t }
  | query {r : Rule} (t : Text) : Takes "query" (.string t) r { r with query := t }

theorem sets_takes {name : Text} {v : Value} {r r' : Rule}
    (h : Decoder.Sets fields name v r r') : Takes name v r r' := by
  obtain ⟨field, hf, rfl, h⟩ := h
  simp only [fields, List.mem_cons, List.not_mem_nil, or_false] at hf
  rcases hf with rfl | rfl | rfl <;> obtain ⟨x, hx, h⟩ := except_bind_eq_ok.1 h <;> cases h
  · exact .kind (RuleKind.decode_eq_ok.1 hx)
  · cases Decoder.text_eq_ok.1 hx
    exact .name x
  · cases Decoder.text_eq_ok.1 hx
    exact .query x

theorem governs_kind : Governs (Decoder.Sets fields) "type" kind (RuleKind.Shown .lenient) := by
  intro name v r r' h
  rcases sets_takes h with hkind | _ | _
  · exact hkind
  all_goals exact (if_neg (by decide)).mpr rfl

theorem governs_name :
    Governs (Decoder.Sets fields) "name" Rule.name fun v t => v = .string t := by
  intro name v r r' h
  rcases sets_takes h with _ | _ | _
  rotate_left
  · rfl
  all_goals exact (if_neg (by decide)).mpr rfl

theorem governs_query : Governs (Decoder.Sets fields) "query" query fun v t => v = .string t := by
  intro name v r r' h
  rcases sets_takes h with _ | _ | _
  rotate_left 2
  · rfl
  all_goals exact (if_neg (by decide)).mpr rfl

theorem describes : Decoder.Describes fields ⟨.other, [], []⟩ (Told .lenient) where
  names := by decide
  unique := by
    rintro ms ⟨k, n, q⟩ ⟨k', n', q'⟩ h h'
    obtain ⟨v, hv, hkind⟩ := h.kind
    obtain ⟨v', hv', hkind'⟩ := h'.kind
    cases hv.symm.trans hv'
    rw [Rule.mk.injEq]
    exact ⟨hkind.unique hkind', h.name.unique text_unique h'.name,
      h.query.unique text_unique h'.query⟩
  complete := by
    intro ms r h
    obtain ⟨v, hv, -⟩ := h.kind
    simp only [Decoder.Complete, fields, List.forall_mem_cons]
    exact ⟨fun _ => Json.mem_names_iff.2 ⟨v, hv⟩, fun h => absurd h Bool.false_ne_true,
      fun h => absurd h Bool.false_ne_true, List.forall_mem_nil _⟩
  takes := by
    intro ms r h
    simp only [fields, List.forall_mem_cons]
    refine ⟨fun v hv r => ?_, fun v hv r => ?_, fun v hv r => ?_, List.forall_mem_nil _⟩
    · obtain ⟨v', hv', hkind⟩ := h.kind
      cases hv.symm.trans hv'
      exact ⟨_, except_bind_eq_ok.2 ⟨_, RuleKind.decode_eq_ok.2 hkind, rfl⟩⟩
    · exact ⟨_, except_bind_eq_ok.2 ⟨_, Decoder.text_eq_ok.2 (h.name.shown hv), rfl⟩⟩
    · exact ⟨_, except_bind_eq_ok.2 ⟨_, Decoder.text_eq_ok.2 (h.query.shown hv), rfl⟩⟩
  tells := by
    intro ms r honce hcomplete h
    obtain ⟨v, hv⟩ := Json.mem_names_iff.1 (hcomplete fields[0] (by simp [fields]) rfl)
    have hkind := Decoder.setMembers_tells governs_kind (by simp [fields]) honce h
    exact ⟨⟨v, hv, hkind.shown hv⟩,
      Decoder.setMembers_tells governs_name (by simp [fields]) honce h,
      Decoder.setMembers_tells governs_query (by simp [fields]) honce h⟩

/-- **Which values are decoded to which rule.** -/
theorem decode_eq_ok {v : Value} {r : Rule} (hv : v.Once ["type", "name", "query"]) :
    decode v = .ok r ↔ Shown .lenient v r :=
  describes.record_eq_ok hv

end Rule

/-! ### Decoding a group -/

namespace RuleGroup

/-- What the members of a group do to it. -/
inductive Takes : Text → Value → RuleGroup → RuleGroup → Prop
  | name {g : RuleGroup} (t : Text) : Takes "name" (.string t) g { g with name := t }
  | file {g : RuleGroup} (t : Text) : Takes "file" (.string t) g { g with file := t }
  | rules {v : Value} {g : RuleGroup} {rs : List Rule}
    (h : v.Lists (fun v r => Rule.decode v = .ok r) rs) : Takes "rules" v g { g with rules := rs }

theorem sets_takes {name : Text} {v : Value} {g g' : RuleGroup}
    (h : Decoder.Sets fields name v g g') : Takes name v g g' := by
  obtain ⟨field, hf, rfl, h⟩ := h
  simp only [fields, List.mem_cons, List.not_mem_nil, or_false] at hf
  rcases hf with rfl | rfl | rfl <;> obtain ⟨x, hx, h⟩ := except_bind_eq_ok.1 h <;> cases h
  · cases Decoder.text_eq_ok.1 hx
    exact .name x
  · cases Decoder.text_eq_ok.1 hx
    exact .file x
  · exact .rules (Decoder.list_eq_ok.1 hx)

theorem governs_name :
    Governs (Decoder.Sets fields) "name" RuleGroup.name fun v t => v = .string t := by
  intro name v g g' h
  rcases sets_takes h with _ | _ | _
  · rfl
  all_goals exact (if_neg (by decide)).mpr rfl

theorem governs_file : Governs (Decoder.Sets fields) "file" file fun v t => v = .string t := by
  intro name v g g' h
  rcases sets_takes h with _ | _ | _
  rotate_left
  · rfl
  all_goals exact (if_neg (by decide)).mpr rfl

theorem governs_rules : Governs (Decoder.Sets fields) "rules" rules
    (Value.Lists fun v r => Rule.decode v = .ok r) := by
  intro name v g g' h
  rcases sets_takes h with _ | _ | hrules
  rotate_left 2
  · exact hrules
  all_goals exact (if_neg (by decide)).mpr rfl

theorem describes :
    Decoder.Describes fields ⟨[], [], []⟩ (Told fun v r => Rule.decode v = .ok r) where
  names := by decide
  unique := by
    rintro ms ⟨n, f, rs⟩ ⟨n', f', rs'⟩ h h'
    have hrules := h.rules.unique (Value.Lists.unique fun v r r' hr hr' =>
      Except.ok.inj (hr.symm.trans hr')) h'.rules
    rw [RuleGroup.mk.injEq]
    exact ⟨Value.string.inj (Option.some.inj (h.name.symm.trans h'.name)),
      h.file.unique text_unique h'.file, hrules⟩
  complete := by
    intro ms g h
    simp only [Decoder.Complete, fields, List.forall_mem_cons]
    exact ⟨fun _ => Json.mem_names_iff.2 ⟨_, h.name⟩, fun h => absurd h Bool.false_ne_true,
      fun h => absurd h Bool.false_ne_true, List.forall_mem_nil _⟩
  takes := by
    intro ms g h
    simp only [fields, List.forall_mem_cons]
    refine ⟨fun v hv g => ?_, fun v hv g => ?_, fun v hv g => ?_, List.forall_mem_nil _⟩
    · have hname := Option.some.inj (hv.symm.trans h.name)
      exact ⟨_, except_bind_eq_ok.2 ⟨_, Decoder.text_eq_ok.2 hname, rfl⟩⟩
    · exact ⟨_, except_bind_eq_ok.2 ⟨_, Decoder.text_eq_ok.2 (h.file.shown hv), rfl⟩⟩
    · exact ⟨_, except_bind_eq_ok.2 ⟨_, Decoder.list_eq_ok.2 (h.rules.shown hv), rfl⟩⟩
  tells := by
    intro ms g honce hcomplete h
    obtain ⟨v, hv⟩ := Json.mem_names_iff.1 (hcomplete fields[0] (by simp [fields]) rfl)
    have hname := Decoder.setMembers_tells governs_name (by simp [fields]) honce h
    refine ⟨?_, Decoder.setMembers_tells governs_file (by simp [fields]) honce h,
      Decoder.setMembers_tells governs_rules (by simp [fields]) honce h⟩
    rw [← hname.shown hv]
    exact hv

theorem decode_eq_ok {v : Value} {g : RuleGroup} (hv : v.Once ["name", "file", "rules"]) :
    decode v = .ok g ↔ ∃ ms, v.Spells .lenient ["name", "file", "rules"] ms ∧
      Told (fun v r => Rule.decode v = .ok r) ms g :=
  describes.record_eq_ok hv

theorem Told.congr {stands stands' : Value → Rule → Prop} {ms : List (Text × Value)} {g : RuleGroup}
    (h : ∀ v, ms.lookup ("rules" : Text) = some v →
      (v.Lists stands g.rules ↔ v.Lists stands' g.rules)) :
    Told stands ms g ↔ Told stands' ms g :=
  ⟨fun ⟨hname, hfile, hrules⟩ => ⟨hname, hfile, (Tells.congr h).1 hrules⟩,
    fun ⟨hname, hfile, hrules⟩ => ⟨hname, hfile, (Tells.congr h).2 hrules⟩⟩

/-- **Which values are decoded to which group.** -/
theorem decode_of_ordered {v : Value} {g : RuleGroup} (hv : v.Ordered) :
    decode v = .ok g ↔ Shown .lenient v g := by
  rw [decode_eq_ok (hv.once _)]
  refine exists_congr fun ms => and_congr_right fun hspells => Told.congr fun w hw => ?_
  refine Value.Lists.congr ?_
  rintro vs rfl v hmem r
  exact Rule.decode_eq_ok (((hv.member hspells hw).items v hmem).once _)

end RuleGroup

/-! ### Decoding a listing -/

namespace Listing

/-- The only field of a listing. -/
def fields : List (Decoder.Field (List RuleGroup)) :=
  [⟨"groups", false, fun v _ => Decoder.list RuleGroup.decode v⟩]

theorem governs_groups : Governs (Decoder.Sets fields) "groups" id
    (Value.Lists fun v g => RuleGroup.decode v = .ok g) := by
  rintro name v gs gs' ⟨field, hf, rfl, h⟩
  cases List.mem_singleton.1 hf
  exact Decoder.list_eq_ok.1 h

theorem describes : Decoder.Describes fields [] fun ms gs =>
    Tells ms "groups" [] (Value.Lists fun v g => RuleGroup.decode v = .ok g) gs where
  names := by decide
  unique h h' := h.unique (Value.Lists.unique fun v g g' hg hg' =>
    Except.ok.inj (hg.symm.trans hg')) h'
  complete h := by
    simp only [Decoder.Complete, fields, List.forall_mem_cons]
    exact ⟨fun h => absurd h Bool.false_ne_true, List.forall_mem_nil _⟩
  takes h := by
    simp only [fields, List.forall_mem_cons]
    exact ⟨fun v hv gs => ⟨_, Decoder.list_eq_ok.2 (h.shown hv)⟩, List.forall_mem_nil _⟩
  tells honce _ h := Decoder.setMembers_tells governs_groups (by simp [fields]) honce h

theorem decode_eq_ok {v : Value} {gs : List RuleGroup} (hv : v.Once ["groups"]) :
    decode v = .ok gs ↔ ∃ ms, v.Spells .lenient ["groups"] ms ∧
      Tells ms "groups" [] (Value.Lists fun v g => RuleGroup.decode v = .ok g) gs :=
  describes.record_eq_ok hv

/-- **Which values are decoded to which listing.** -/
theorem decode_of_ordered {v : Value} {gs : List RuleGroup} (hv : v.Ordered) :
    decode v = .ok gs ↔ Shown .lenient v gs := by
  rw [decode_eq_ok (hv.once _)]
  refine exists_congr fun ms => and_congr_right fun hspells => Tells.congr fun w hw => ?_
  refine Value.Lists.congr ?_
  rintro vs rfl v hmem g
  exact RuleGroup.decode_of_ordered ((hv.member hspells hw).items v hmem)

end Listing

/-! ### Where the manners part -/

/-- The value is an object, and its kind is a string. -/
def Rule.IsPlain (v : Value) : Prop :=
  ∃ ms t, v = .object ms ∧ ms.lookup ("type" : Text) = some (.string t)

/-- The value is an object, and all rules in it are plain. -/
def RuleGroup.IsPlain (v : Value) : Prop :=
  ∃ ms, v = .object ms ∧
    ∀ vs, ms.lookup ("rules" : Text) = some (.array vs) → ∀ w ∈ vs, Rule.IsPlain w

/-- The value is an object, and all groups in it are plain. -/
def Listing.IsPlain (v : Value) : Prop :=
  ∃ ms, v = .object ms ∧
    ∀ vs, ms.lookup ("groups" : Text) = some (.array vs) → ∀ w ∈ vs, RuleGroup.IsPlain w

theorem Json.Value.spells_strict_iff {names : List Text} {v : Value} {ms : List (Text × Value)} :
    v.Spells .strict names ms ↔ v = .object ms := by
  constructor
  · intro h
    cases h with
    | object => rfl
    | list _ hm => cases hm
  · rintro rfl
    exact .object ms

theorem Json.Value.spells_object_iff {m : Manner} {names : List Text}
    {ms ms' : List (Text × Value)} :
    (Value.object ms).Spells m names ms' ↔ ms = ms' := by
  constructor
  · rintro ⟨⟩
    rfl
  · rintro rfl
    exact .object ms

theorem RuleKind.shown_strict_iff {v : Value} {k : RuleKind} :
    Shown .strict v k ↔ Shown .lenient v k ∧ ∃ t, v = .string t := by
  constructor
  · rintro (t | ⟨t, hm⟩)
    · exact ⟨.word t, t, rfl⟩
    · cases hm
  · rintro ⟨h, t, rfl⟩
    cases h
    exact .word t

/-- Items are shown strictly exactly if they are shown leniently and plain. -/
theorem Json.Value.lists_strict_iff {β : Type} {strict lenient : Value → β → Prop}
    {IsPlain : Value → Prop} (h : ∀ v b, strict v b ↔ lenient v b ∧ IsPlain v) {v : Value}
    {bs : List β} : v.Lists strict bs ↔
      v.Lists lenient bs ∧ ∀ vs, v = .array vs → ∀ w ∈ vs, IsPlain w := by
  have hrel : strict = fun v b => IsPlain v ∧ lenient v b := by
    funext v b
    rw [eq_iff_iff, h, and_comm]
  constructor
  · rintro ⟨vs, rfl, hall⟩
    rw [hrel, List.forall₂_and_left] at hall
    refine ⟨⟨vs, rfl, hall.2⟩, ?_⟩
    rintro _ ⟨⟩
    exact hall.1
  · rintro ⟨hlists, hplain⟩
    exact hlists.mono fun vs hvs w hw b hb => (h w b).2 ⟨hb, hplain vs hvs w hw⟩

/-- The same for a member that lists items, and may be left out. -/
theorem Json.Tells.strict_iff {β : Type} {strict lenient : Value → β → Prop}
    {IsPlain : Value → Prop} (h : ∀ v b, strict v b ↔ lenient v b ∧ IsPlain v)
    {ms : List (Text × Value)} {name : Text} {bs : List β} :
    Tells ms name [] (Value.Lists strict) bs ↔ Tells ms name [] (Value.Lists lenient) bs ∧
      ∀ vs, ms.lookup name = some (.array vs) → ∀ w ∈ vs, IsPlain w := by
  constructor
  · intro htells
    have hlists : ∀ v, ms.lookup name = some v → v.Lists lenient bs ∧
        ∀ vs, v = .array vs → ∀ w ∈ vs, IsPlain w :=
      fun v hv => (Value.lists_strict_iff h).1 (htells.shown hv)
    exact ⟨htells.imp_right fun ⟨v, hv, _⟩ => ⟨v, hv, (hlists v hv).1⟩,
      fun vs hvs => (hlists _ hvs).2 vs rfl⟩
  · rintro ⟨htells, hplain⟩
    refine htells.imp_right fun ⟨v, hv, hlists⟩ => ⟨v, hv, ?_⟩
    refine (Value.lists_strict_iff h).2 ⟨hlists, ?_⟩
    rintro vs rfl
    exact hplain vs hv

theorem Rule.shown_strict_iff (v : Value) (r : Rule) :
    Shown .strict v r ↔ Shown .lenient v r ∧ IsPlain v := by
  constructor
  · rintro ⟨ms, hspells, ⟨t, ht, hkind⟩, hname, hquery⟩
    obtain rfl := Value.spells_strict_iff.1 hspells
    obtain ⟨hkind, w, rfl⟩ := RuleKind.shown_strict_iff.1 hkind
    exact ⟨⟨ms, .object ms, ⟨_, ht, hkind⟩, hname, hquery⟩, ms, w, rfl, ht⟩
  · rintro ⟨⟨ms, hspells, ⟨t, ht, hkind⟩, hname, hquery⟩, ms', w, rfl, hw⟩
    obtain rfl := Value.spells_object_iff.1 hspells
    cases ht.symm.trans hw
    exact ⟨_, .object _, ⟨_, hw, RuleKind.shown_strict_iff.2 ⟨hkind, w, rfl⟩⟩, hname, hquery⟩

theorem RuleGroup.shown_strict_iff (v : Value) (g : RuleGroup) :
    Shown .strict v g ↔ Shown .lenient v g ∧ IsPlain v := by
  have hrules {ms : List (Text × Value)} :
      Tells ms "rules" [] (Value.Lists (Rule.Shown .strict)) g.rules ↔ _ :=
    Tells.strict_iff Rule.shown_strict_iff
  constructor
  · rintro ⟨ms, hspells, hname, hfile, htells⟩
    obtain rfl := Value.spells_strict_iff.1 hspells
    obtain ⟨htells, hplain⟩ := hrules.1 htells
    exact ⟨⟨ms, .object ms, hname, hfile, htells⟩, ms, rfl, hplain⟩
  · rintro ⟨⟨ms, hspells, hname, hfile, htells⟩, ms', rfl, hplain⟩
    obtain rfl := Value.spells_object_iff.1 hspells
    exact ⟨_, .object _, hname, hfile, hrules.2 ⟨htells, hplain⟩⟩

/-- **A listing is shown strictly exactly if it is shown leniently and plain.** -/
theorem Listing.shown_strict_iff {v : Value} {gs : List RuleGroup} :
    Shown .strict v gs ↔ Shown .lenient v gs ∧ IsPlain v := by
  have hgroups {ms : List (Text × Value)} :
      Tells ms "groups" [] (Value.Lists (RuleGroup.Shown .strict)) gs ↔ _ :=
    Tells.strict_iff RuleGroup.shown_strict_iff
  constructor
  · rintro ⟨ms, hspells, htells⟩
    obtain rfl := Value.spells_strict_iff.1 hspells
    obtain ⟨htells, hplain⟩ := hgroups.1 htells
    exact ⟨⟨ms, .object ms, htells⟩, ms, rfl, hplain⟩
  · rintro ⟨⟨ms, hspells, htells⟩, ms', rfl, hplain⟩
    obtain rfl := Value.spells_object_iff.1 hspells
    exact ⟨_, .object _, hgroups.2 ⟨htells, hplain⟩⟩

/-! ### Replies -/

/-- The body is an object. -/
def Reply.IsObject (r : Reply) : Prop := ∃ ms, (Json.Tree.read r.text).root = .object ms none

/-- The reply lists the groups: its code is one of success, its envelope reports success, and its
data are the listing. Strictly, the envelope is an object, too. -/
def Reply.Lists (m : Manner) (r : Reply) (gs : List RuleGroup) : Prop :=
  (m = .strict → r.IsObject) ∧
    ∃ v, Envelope.Carries r.code r.text v ∧ Listing.Shown m v gs

/-- All records of the reply are objects, and all kinds are strings. -/
def Reply.IsPlain (r : Reply) : Prop :=
  r.IsObject ∧ ∀ v, Envelope.Carries r.code r.text v → Listing.IsPlain v

theorem Envelope.Carries.unique {code : Nat} {body : Text} {v v' : Value}
    (h : Carries code body v) (h' : Carries code body v') : v = v' := by
  obtain ⟨p, hp, -, hv⟩ := h.data
  obtain ⟨p', hp', -, hv'⟩ := h'.data
  cases hp.symm.trans hp'
  exact Except.ok.inj (hv.symm.trans hv')

theorem Envelope.Carries.ordered {code : Nat} {body : Text} {v : Value}
    (h : Carries code body v) : v.Ordered := by
  obtain ⟨p, -, -, hv⟩ := h.data
  exact Json.Tree.value_ordered hv

theorem Reply.lists_strict_iff {r : Reply} {gs : List RuleGroup} :
    r.Lists .strict gs ↔ r.Lists .lenient gs ∧ r.IsPlain := by
  constructor
  · rintro ⟨hobject, v, hcarries, hshown⟩
    obtain ⟨hshown, hplain⟩ := Listing.shown_strict_iff.1 hshown
    refine ⟨⟨nofun, v, hcarries, hshown⟩, hobject rfl, fun v' hcarries' => ?_⟩
    rwa [hcarries'.unique hcarries]
  · rintro ⟨⟨-, v, hcarries, hshown⟩, hobject, hplain⟩
    exact ⟨fun _ => hobject, v, hcarries,
      Listing.shown_strict_iff.2 ⟨hshown, hplain v hcarries⟩⟩

theorem Envelope.accept_listing [Wording] {r : Reply} {gs : List RuleGroup} :
    accept Listing.decode r.code r.text = .ok gs ↔ r.Lists .lenient gs := by
  rw [accept_eq_ok]
  constructor
  · rintro ⟨hcode, e, v, hread, hstatus, hdata, hv⟩
    have hcarries := carries_iff.2 ⟨hcode, e, hread, hstatus, hdata⟩
    exact ⟨nofun, v, hcarries, (Listing.decode_of_ordered hcarries.ordered).1 hv⟩
  · rintro ⟨-, v, hcarries, hshown⟩
    obtain ⟨hcode, e, hread, hstatus, hdata⟩ := carries_iff.1 hcarries
    exact ⟨hcode, e, v, hread, hstatus, hdata,
      (Listing.decode_of_ordered hcarries.ordered).2 hshown⟩

namespace Client

section

variable [Url.Idna] [Wording]

/-- The reply to a request for a path, if a request can be made and is answered. -/
def reply? (c : Client) (wire : Wire Id) (path : Text) (ps : List (Text × Text)) : Option Reply :=
  (c.request? path ps).bind fun r => (wire.send r).run.toOption

theorem ask_of_none {α : Type} {c : Client} {wire : Wire Id} {path : Text}
    {ps : List (Text × Text)} (h : c.reply? wire path ps = none) (decode : Decoder α) :
    ∃ outage, c.ask wire decode path ps = .error (.http outage) := by
  unfold ask
  cases hrequest : c.request? path ps with
  | none => exact ⟨_, rfl⟩
  | some request =>
    rw [reply?, hrequest, Option.bind_some] at h
    dsimp only
    cases hsend : wire.send request with
    | error outage => exact ⟨outage, rfl⟩
    | ok reply =>
      rw [hsend] at h
      cases h

theorem ask_of_some {α : Type} {c : Client} {wire : Wire Id} {path : Text}
    {ps : List (Text × Text)} {reply : Reply} (h : c.reply? wire path ps = some reply)
    (decode : Decoder α) :
    c.ask wire decode path ps = Envelope.accept decode reply.code reply.text := by
  obtain ⟨request, hrequest, hreply⟩ := Option.bind_eq_some_iff.1 h
  unfold ask
  rw [hrequest]
  dsimp only
  cases hsend : wire.send request with
  | error outage =>
    rw [hsend] at hreply
    cases hreply
  | ok reply' =>
    rw [hsend] at hreply
    cases hreply
    rfl

/-- **Which replies are listings for a client**: it answers with some groups exactly if the reply to
its request lists them leniently; and that is the strict shape exactly if no list stands for a
record and no object for a kind. -/
theorem ruleGroups_shown (c : Client) (wire : Wire Id) (gs : List RuleGroup) :
    ((c.backend wire).ruleGroups = .ok gs ↔
      ∃ reply, c.reply? wire rulesPath [] = some reply ∧ reply.Lists .lenient gs) ∧
    ∀ reply : Reply, reply.Lists .strict gs ↔ reply.Lists .lenient gs ∧ reply.IsPlain := by
  refine ⟨?_, fun reply => Reply.lists_strict_iff⟩
  dsimp only [backend]
  cases hreply : c.reply? wire rulesPath [] with
  | none =>
    obtain ⟨outage, hask⟩ := ask_of_none hreply Listing.decode
    rw [hask]
    constructor
    · intro h
      cases h
    · rintro ⟨reply, h, -⟩
      cases h
  | some reply =>
    rw [ask_of_some hreply, Envelope.accept_listing]
    constructor
    · intro h
      exact ⟨reply, rfl, h⟩
    · rintro ⟨reply', hsame, h⟩
      cases hsame
      exact h

end

open Plain in
/-- **A list is taken for a listing without groups**: the reply has the shape of an answer about
series, and no groups are listed by it strictly. -/
theorem ruleGroups_list :
    ∃ (c : Client) (reply : Reply),
      reply.text = "\x7b\"status\":\"success\",\"data\":[]\x7d" ∧
      (c.backend ⟨fun _ => .ok reply, fun _ => ()⟩ : Backend Id).ruleGroups = .ok [] ∧
      ∀ gs, ¬ reply.Lists .strict gs := by
  let c : Client := ⟨⟨⟨false, [], none, .name "h", none, [[]], none, none⟩, none, 1⟩, rfl⟩
  let body : Text := "\x7b\"status\":\"success\",\"data\":[]\x7d"
  let reply : Reply := ⟨200, Text.Utf8.encode body⟩
  have htext : reply.text = body := by decide +kernel
  refine ⟨c, reply, htext, ?_, ?_⟩
  · change @Eq (Except Error (List RuleGroup)) _ _
    decide +kernel
  · rintro gs ⟨-, v, hcarries, ms, hspells, -⟩
    obtain rfl := Value.spells_strict_iff.1 hspells
    -- the data can be read as a list of anything, which no object can
    have hlist : Envelope.accept (Decoder.list Decoder.text) 200 body = .ok [] := by decide +kernel
    rw [← htext, Envelope.accept_of_carries hcarries] at hlist
    cases hlist

end Client

end RuleAudit
