import RuleAudit.Proofs.Fields
import RuleAudit.Yaml.Decode

/-!
# What the nodes of a document say

A plain view of nodes, in which aliases are looked through and nothing is counted, and its relation
to the readers: what a reader gives is what the view shows.

* `Document.textAt`, `textAt?`, `itemsAt`: the text and the items at a name of a mapping;
* `Reader.record_filled`: a record that was read has been filled from the entries of its node.
-/

namespace RuleAudit.Yaml

/-! ### The view -/

namespace Document

variable (d : Document)

/-- The node itself, or the one that it is an alias of. -/
def resolved : Node → Option Node
  | .alias id => d.target? id
  | n => some n

/-- The text of a scalar, whatever it looks like. -/
def wordOf (n : Node) : Option Text :=
  match d.resolved n with
  | some (.scalar _ t _) => some t
  | _ => none

/-- The text of a scalar that does not stand for nothing. -/
def textOf? (n : Node) : Option Text :=
  match d.resolved n with
  | some (.scalar p t isPlain) => if Reader.isPresent p t isPlain = some true then some t else none
  | _ => none

/-- The items of a sequence; other nodes have none. -/
def itemsOf (n : Node) : List Node :=
  match d.resolved n with
  | some (.sequence _ items) => items
  | _ => []

/-- The entries of a mapping whose keys are texts; other nodes have none. -/
def membersOf (n : Node) : List (Text × Node) :=
  match d.resolved n with
  | some (.mapping _ entries) => entries.filterMap fun e => (d.wordOf e.1).map (·, e.2)
  | _ => []

/-- The value of the first entry of a name. -/
def at? (name : Text) (n : Node) : Option Node := (d.membersOf n).lookup name

/-- The text at a name, which is empty if there is none. -/
def textAt (name : Text) (n : Node) : Text :=
  (d.at? name n).elim [] fun v => (d.wordOf v).getD []

/-- The text at a name, if there is one that does not stand for nothing. -/
def textAt? (name : Text) (n : Node) : Option Text := (d.at? name n).elim none d.textOf?

/-- The items at a name; if nothing is there, there are none. -/
def itemsAt (name : Text) (n : Node) : List Node := (d.at? name n).elim [] d.itemsOf

end Document

/-! ### Readers -/

namespace Reader

variable {α β γ : Type} {d : Document} {n : Node} {left left' : Nat}

theorem bind_eq_some {p : StateT Nat Option α} {f : α → StateT Nat Option β} {r : β × Nat} :
    (p >>= f) left = some r ↔ ∃ a mid, p left = some (a, mid) ∧ f a mid = some r := by
  change (p left).bind (fun x => f x.1 x.2) = some r ↔ _
  rw [Option.bind_eq_some_iff]
  exact Prod.exists

/-- A reader gives something for a node, with some aliases still to be followed. -/
def Gives (read : Reader α) (d : Document) (n : Node) (a : α) : Prop :=
  ∃ left left', read d n left = some (a, left')

theorem follow_resolved {n' : Node} (h : follow d n left = some (n', left')) :
    d.resolved n = some n' := by
  rcases n with id | _ | _ | _
  · obtain ⟨k, mid, hget, h⟩ := bind_eq_some.1 h
    cases hget
    by_cases hleft : left = 0
    · rw [if_pos hleft] at h
      cases h
    · rw [if_neg hleft] at h
      obtain ⟨-, mid, -, h⟩ := bind_eq_some.1 h
      obtain ⟨found, hfound, h⟩ := Option.bind_eq_some_iff.1 h
      cases h
      exact hfound
  all_goals
    cases h
    rfl

theorem text_shows {t : Text} (h : Gives text d n t) : d.wordOf n = some t := by
  obtain ⟨left, left', h⟩ := h
  obtain ⟨n', mid, hfollow, h⟩ := bind_eq_some.1 h
  rw [Document.wordOf, follow_resolved hfollow]
  rcases n' with _ | ⟨p, t', isPlain⟩ | _ | _ <;> cases h
  rfl

theorem text_eq {t : Text} (h : Gives text d n t) : t = (d.wordOf n).getD [] := by
  rw [text_shows h]
  rfl

theorem optionalText_shows {t : Option Text} (h : Gives optionalText d n t) :
    d.textOf? n = t := by
  obtain ⟨left, left', h⟩ := h
  obtain ⟨n', mid, hfollow, h⟩ := bind_eq_some.1 h
  rw [Document.textOf?, follow_resolved hfollow]
  rcases n' with _ | ⟨p, t', isPlain⟩ | _ | _
  · cases h
  · obtain ⟨present, mid', hpresent, h⟩ := bind_eq_some.1 h
    obtain ⟨found, hfound, hpresent⟩ := Option.bind_eq_some_iff.1 hpresent
    cases hpresent
    have hfound : isPresent p t' isPlain = some present := hfound
    dsimp only
    rw [hfound]
    cases present <;> cases h <;> rfl
  · cases h
  · cases h

theorem mapM_gives {read : Node → StateT Nat Option α} {ns : List Node} {as : List α}
    (h : ns.mapM read left = some (as, left')) :
    List.Forall₂ (fun n a => ∃ left left', read n left = some (a, left')) ns as := by
  induction ns generalizing as left with
  | nil =>
    cases h
    exact .nil
  | cons n ns ih =>
    rw [List.mapM_cons] at h
    obtain ⟨a, mid, ha, h⟩ := bind_eq_some.1 h
    obtain ⟨as', mid', has, h⟩ := bind_eq_some.1 h
    cases h
    exact .cons ⟨left, mid, ha⟩ (ih has)

theorem list_shows {item : Reader α} {as : List α} (h : Gives (list item) d n as) :
    List.Forall₂ (Gives item d) (d.itemsOf n) as := by
  obtain ⟨left, left', h⟩ := h
  obtain ⟨n', mid, hfollow, h⟩ := bind_eq_some.1 h
  rw [Document.itemsOf, follow_resolved hfollow]
  rcases n' with _ | ⟨p, _ | ⟨c, t⟩, _ | _⟩ | ⟨p, items⟩ | _
  · cases h
  · cases h
  · cases h
    exact .nil
  · cases h
  · cases h
  · exact mapM_gives h
  · cases h

/-! ### Records -/

section Record

variable {fields : List (Field α)} {required : List Text} {start a : α}

/-- A field of that name changes the record so. -/
def Sets (fields : List (Field α)) (d : Document) (name : Text) (v : Node) (a a' : α) : Prop :=
  ∃ field ∈ fields, field.name = name ∧ ∃ left left', field.set d v a left = some (a', left')

/-- The entries of a mapping fill the record. -/
theorem setFields_filled {entries : List (Node × Node)} :
    ∀ {left left' : Nat} {seen seen' : List Text} {a a' : α},
      setFields fields d seen a entries left = some ((seen', a'), left') →
      Filled (∃ field ∈ fields, field.name = ·) (Sets fields d) seen a
        (entries.filterMap fun e => (d.wordOf e.1).map (·, e.2)) seen' a' := by
  induction entries with
  | nil =>
    intro left left' seen seen' a a' h
    cases h
    exact .done
  | cons entry entries ih =>
    intro left left' seen seen' a a' h
    obtain ⟨k, v⟩ := entry
    obtain ⟨name, mid, hname, h⟩ := bind_eq_some.1 h
    have hword : d.wordOf k = some name := text_shows ⟨left, mid, hname⟩
    rw [List.filterMap_cons_some (by rw [hword]; rfl)]
    cases hfind : fields.find? (·.name == name) with
    | none =>
      simp only [hfind] at h
      exact .pass (not_isField_of_find? hfind) (ih h)
    | some field =>
      simp only [hfind] at h
      obtain ⟨hf, hn⟩ := isField_of_find? hfind
      split at h
      · cases h
      · rename_i hnew
        obtain ⟨a₁, mid', hset, h⟩ := bind_eq_some.1 h
        exact .set hnew ⟨field, hf, hn, _, _, hset⟩ (ih h)

/-- Where the reading of the entries ends, all that is required has been set. -/
theorem setFields_required {entries : List (Node × Node)}
    (h : (setFields fields d [] start entries >>= fun x =>
      if required.all (· ∈ x.1) then pure x.2 else failure) left = some (a, left')) :
    ∃ seen, Filled (∃ field ∈ fields, field.name = ·) (Sets fields d) [] start
      (entries.filterMap fun e => (d.wordOf e.1).map (·, e.2)) seen a ∧
      ∀ name ∈ required, name ∈ seen := by
  obtain ⟨⟨seen, a₁⟩, mid, hset, h⟩ := bind_eq_some.1 h
  dsimp only at h
  split at h
  · rename_i hall
    cases h
    refine ⟨seen, setFields_filled hset, fun name hreq => ?_⟩
    simpa using List.all_eq_true.1 hall name hreq
  · cases h

theorem record_filled (h : Gives (record fields required start) d n a) :
    ∃ seen, Filled (∃ field ∈ fields, field.name = ·) (Sets fields d) [] start (d.membersOf n)
      seen a ∧ ∀ name ∈ required, name ∈ seen := by
  obtain ⟨left, left', h⟩ := h
  obtain ⟨n', mid, hfollow, h⟩ := bind_eq_some.1 h
  rw [Document.membersOf, follow_resolved hfollow]
  rcases n' with _ | ⟨p, _ | ⟨c, t⟩, _ | _⟩ | _ | ⟨p, entries⟩
  · cases h
  · cases h
  · obtain ⟨none, mid', hnone, h⟩ := bind_eq_some.1 h
    cases hnone
    exact setFields_required h
  · cases h
  · cases h
  · cases h
  · obtain ⟨entries', mid', hentries, h⟩ := bind_eq_some.1 h
    cases hentries
    exact setFields_required h

/-- **The items at a name are those of the first entry of that name**, for a part of a record that
depends on nothing else and has none at the start. -/
theorem itemsAt_given {IsField : Text → Prop} {sets : Text → Node → α → α → Prop} {seen : List Text}
    (h : Filled IsField sets [] start (d.membersOf n) seen a) {name : Text} (hname : IsField name)
    {part : α → List β} {item : Reader β}
    (hg : Governs sets name part fun v as => List.Forall₂ (Gives item d) (d.itemsOf v) as)
    (hstart : part start = []) : List.Forall₂ (Gives item d) (d.itemsAt name n) (part a) := by
  rw [Document.itemsAt, Document.at?]
  obtain ⟨hnone, hpart, -⟩ | ⟨v, hv, hshow⟩ := h.part_of_new hname hg List.not_mem_nil
  · rw [hnone, hpart, hstart]
    exact .nil
  · rw [hv]
    exact hshow

end Record

end Reader

end RuleAudit.Yaml
