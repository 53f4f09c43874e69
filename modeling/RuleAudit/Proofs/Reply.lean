import RuleAudit.Proofs.Envelope
import RuleAudit.Proofs.Fields

/-!
# Which replies are accepted, and how the others are refused

* `Envelope.Shows t e` says what the parts of a tree tell of an envelope; `shows_of_read`: an
  envelope that was read is shown by its body.
* `Envelope.Carries code body v`: all conditions for a reply hold but the decoding of its data `v`.
* `Envelope.accept_classified`: the verdict on a reply is fixed by its code, the reading of its body
  and `Carries`, and the decoder has a say only in the last step.
-/

namespace RuleAudit

open Json (Tree Value Decoder)

/-! ### The parts of a tree -/

/-- The members of an object that have a name. -/
def Json.Tree.named (ms : List (Option Text × Tree)) : List (Text × Tree) :=
  ms.filterMap fun m => m.1.map (·, m.2)

/-- The part of an object with a name, the first of them, or the part of a list at a place. -/
def Json.Tree.part? (place : Nat) (name : Text) : Tree → Option Tree
  | .object members _ => (named members).lookup name
  | .array items _ => items[place]?
  | _ => none

theorem Json.Tree.shape_eq_string {t : Tree} {s : Text} (h : t.shape = .ok (.string s)) :
    t = .string (some s) := by
  cases t with
  | string s' =>
    cases s' with
    | none => cases h
    | some s' => cases h; rfl
  | number n => cases n <;> cases h
  | _ => cases h

theorem Json.Tree.text_eq_ok {t : Tree} {s : Text} : t.text = .ok s ↔ t = .string (some s) := by
  constructor
  · intro h
    obtain ⟨v, hv, h⟩ := except_bind_eq_ok.1 h
    cases v with
    | string s' => cases h; exact shape_eq_string hv
    | _ => cases h
  · rintro rfl
    rfl

theorem Json.Tree.optional_eq_some {α : Type} {read : Tree → Except Json.Error α} {t : Tree}
    {a : α} : t.optional read = .ok (some a) ↔ t ≠ .null ∧ read t = .ok a := by
  constructor
  · intro h
    cases t with
    | null => cases h
    | _ =>
      obtain ⟨b, hb, h⟩ := except_bind_eq_ok.1 h
      cases h
      exact ⟨by simp, hb⟩
  · rintro ⟨hnull, h⟩
    cases t with
    | null => exact absurd rfl hnull
    | _ => exact except_bind_eq_ok.2 ⟨a, h, rfl⟩

namespace Envelope

/-! ### One field through the reading -/

/-- A field of that name changes the envelope so. -/
def Sets (name : Text) (t : Tree) (e e' : Envelope) : Prop :=
  ∃ field ∈ fields, field.name = name ∧ field.set t e = .ok e'

/-- What the fields do to an envelope. -/
theorem Sets.cases {name : Text} {t : Tree} {e e' : Envelope} (h : Sets name t e e') :
    (name = "status" ∧ ∃ s, t.text = .ok s ∧ e' = { e with status := s }) ∨
    (name = "data" ∧ ∃ v, t.optional (Tree.value (Tree.maxDepth - 1)) = .ok v ∧
      e' = { e with data := v }) ∨
    (name = "errorType" ∧ ∃ s, t.optional Tree.text = .ok s ∧ e' = { e with errorType := s }) ∨
    (name = "error" ∧ ∃ s, t.optional Tree.text = .ok s ∧ e' = { e with error := s }) := by
  obtain ⟨field, hf, rfl, h⟩ := h
  simp only [fields, List.mem_cons, List.not_mem_nil, or_false] at hf
  rcases hf with rfl | rfl | rfl | rfl <;> obtain ⟨x, hx, h⟩ := except_bind_eq_ok.1 h <;> cases h
  · exact .inl ⟨rfl, x, hx, rfl⟩
  · exact .inr (.inl ⟨rfl, x, hx, rfl⟩)
  · exact .inr (.inr (.inl ⟨rfl, x, hx, rfl⟩))
  · exact .inr (.inr (.inr ⟨rfl, x, hx, rfl⟩))

theorem governs_status : Governs Sets "status" status fun t s => t = .string (some s) := by
  intro name t e e' h
  rcases h.cases with ⟨rfl, x, hx, rfl⟩ | ⟨rfl, x, hx, rfl⟩ | ⟨rfl, x, hx, rfl⟩ | ⟨rfl, x, hx, rfl⟩
  · exact Tree.text_eq_ok.1 hx
  all_goals exact (if_neg (by decide)).mpr rfl

theorem governs_data : Governs Sets "data" data fun t v =>
    t.optional (Tree.value (Tree.maxDepth - 1)) = .ok v := by
  intro name t e e' h
  rcases h.cases with ⟨rfl, x, hx, rfl⟩ | ⟨rfl, x, hx, rfl⟩ | ⟨rfl, x, hx, rfl⟩ | ⟨rfl, x, hx, rfl⟩
  rotate_left
  · exact hx
  all_goals exact (if_neg (by decide)).mpr rfl

/-- The members of an object fill the envelope. -/
theorem setMembers_filled {ms : List (Option Text × Tree)} :
    ∀ {seen seen' : List Text} {e e' : Envelope}, setMembers seen e ms = .ok (seen', e') →
      Filled (∃ field ∈ fields, field.name = ·) Sets seen e (Tree.named ms) seen' e' := by
  induction ms with
  | nil =>
    intro seen seen' e e' h
    cases h
    exact .done
  | cons m ms ih =>
    intro seen seen' e e' h
    obtain ⟨_ | n, t⟩ := m
    · cases h
    rw [setMembers] at h
    cases hfind : fields.find? (·.name == n) with
    | none =>
      simp only [hfind] at h
      obtain ⟨-, -, h⟩ := except_bind_eq_ok.1 h
      exact .pass (not_isField_of_find? hfind) (ih h)
    | some field =>
      simp only [hfind] at h
      obtain ⟨hf, hn⟩ := isField_of_find? hfind
      split at h
      · cases h
      · rename_i hnew
        obtain ⟨e₁, hset, h⟩ := except_bind_eq_ok.1 h
        exact .set hnew ⟨field, hf, hn, hset⟩ (ih h)

section Items

variable {β : Type} {name : Text} {part : Envelope → β} {shows : Tree → β → Prop}

/-- The fields of other names do not touch the part. -/
theorem setItems_of_other (hg : Governs Sets name part shows) {fs : List Field} (hfs : fs ⊆ fields)
    (hother : ∀ field ∈ fs, field.name ≠ name) :
    ∀ {items unused : List Tree} {e e' : Envelope}, setItems e fs items = .ok (unused, e') →
      part e' = part e := by
  induction fs with
  | nil =>
    intro items unused e e' h
    cases h
    rfl
  | cons field fs ih =>
    intro items unused e e' h
    cases items with
    | nil =>
      cases h
      rfl
    | cons t items =>
      obtain ⟨e₁, hset, h⟩ := except_bind_eq_ok.1 h
      obtain ⟨hf, hfs⟩ := List.cons_subset.1 hfs
      obtain ⟨hne, hother⟩ := List.forall_mem_cons.1 hother
      rw [← hg.kept hne ⟨field, hf, rfl, hset⟩]
      exact ih hfs hother h

/-- The field that stands behind some others is read from the item at its place. -/
theorem setItems_of_place (hg : Governs Sets name part shows) (before : List Field) {field : Field}
    {after : List Field} (hfs : before ++ field :: after ⊆ fields) (hname : field.name = name)
    (hbefore : ∀ f ∈ before, f.name ≠ name) (hafter : ∀ f ∈ after, f.name ≠ name) :
    ∀ {items unused : List Tree} {e e' : Envelope},
      setItems e (before ++ field :: after) items = .ok (unused, e') →
      (items[before.length]? = none ∧ part e' = part e) ∨
      ∃ t, items[before.length]? = some t ∧ shows t (part e') := by
  induction before with
  | nil =>
    intro items unused e e' h
    cases items with
    | nil =>
      cases h
      exact .inl ⟨rfl, rfl⟩
    | cons t items =>
      obtain ⟨e₁, hset, h⟩ := except_bind_eq_ok.1 h
      obtain ⟨hf, hfs⟩ := List.cons_subset.1 hfs
      refine .inr ⟨t, rfl, ?_⟩
      rw [setItems_of_other hg hfs hafter h]
      exact hg.shown ⟨field, hf, hname, hset⟩
  | cons f before ih =>
    intro items unused e e' h
    obtain ⟨hne, hbefore⟩ := List.forall_mem_cons.1 hbefore
    obtain ⟨hf, hfs⟩ := List.cons_subset.1 hfs
    cases items with
    | nil =>
      cases h
      exact .inl ⟨rfl, rfl⟩
    | cons t items =>
      obtain ⟨e₁, hset, h⟩ := except_bind_eq_ok.1 h
      rw [← hg.kept hne ⟨f, hf, rfl, hset⟩]
      exact ih hfs hbefore h

end Items

/-! ### What an envelope shows of its body -/

/-- What the parts of a tree tell of the status and the data of an envelope. -/
structure Shows (t : Tree) (e : Envelope) : Prop where
  status : t.part? 0 "status" = some (.string (some e.status))
  data : (t.part? 1 "data" = none ∧ e.data = none) ∨
    ∃ p, t.part? 1 "data" = some p ∧ p.optional (Tree.value (Tree.maxDepth - 1)) = .ok e.data

theorem shows_of_object {ms : List (Option Text × Tree)} {stop : Option Json.Fault} {e : Envelope}
    (h : ofTree (.object ms stop) = .ok e) : Shows (.object ms stop) e := by
  obtain ⟨⟨seen, e₁⟩, hset, h⟩ := except_bind_eq_ok.1 h
  obtain ⟨-, -, h⟩ := except_bind_eq_ok.1 h
  have hfilled := setMembers_filled hset
  split at h
  · rename_i hseen
    cases h
    constructor
    · obtain ⟨-, -, hno⟩ | ⟨t, ht, rfl⟩ := hfilled.part_of_new
        ⟨fields[0], by simp [fields], rfl⟩ governs_status List.not_mem_nil
      · exact absurd hseen hno
      · exact ht
    · obtain ⟨hnone, hdata, -⟩ | hsome := hfilled.part_of_new
        ⟨fields[1], by simp [fields], rfl⟩ governs_data List.not_mem_nil
      · exact .inl ⟨hnone, hdata⟩
      · exact .inr hsome
  · cases h

theorem shows_of_array {items : List Tree} {stop : Option Json.Fault} {e : Envelope}
    (h : ofTree (.array items stop) = .ok e) : Shows (.array items stop) e := by
  obtain ⟨⟨unused, e₁⟩, hset, h⟩ := except_bind_eq_ok.1 h
  have hend : items ≠ [] ∧ e₁ = e := by
    dsimp only at h
    by_cases hunused : unused ≠ []
    · rw [if_pos hunused] at h
      cases h
    rw [if_neg hunused] at h
    obtain ⟨-, -, h⟩ := except_bind_eq_ok.1 h
    by_cases hnil : items = []
    · rw [if_pos hnil] at h
      cases h
    rw [if_neg hnil] at h
    cases h
    exact ⟨hnil, rfl⟩
  obtain ⟨hne, rfl⟩ := hend
  constructor
  · obtain ⟨hnone, -⟩ | ⟨t, ht, rfl⟩ := setItems_of_place governs_status []
      (List.Subset.refl fields) rfl (by simp) (by simp) hset
    · exact absurd (List.getElem?_eq_none_iff.1 hnone) (by simpa using hne)
    · exact ht
  · exact setItems_of_place governs_data [fields[0]]
      (List.Subset.refl fields) rfl (by simp [fields]) (by simp) hset

/-- **An envelope is shown by its body.** -/
theorem shows_of_read {body : Text} {e : Envelope} (h : read body = .ok e) :
    Shows (Tree.read body).root e := by
  obtain ⟨e₁, htree, h⟩ := except_bind_eq_ok.1 h
  have he : e₁ = e := by
    split at h
    · cases h
    · cases h
      rfl
  subst he
  cases hroot : (Tree.read body).root with
  | object ms stop =>
    rw [hroot] at htree
    exact shows_of_object htree
  | array items stop =>
    rw [hroot] at htree
    exact shows_of_array htree
  | number n =>
    rw [hroot] at htree
    cases n <;> cases htree
  | string s =>
    rw [hroot] at htree
    cases s <;> cases htree
  | _ =>
    rw [hroot] at htree
    cases htree

theorem Shows.data_eq_some {t : Tree} {e : Envelope} (h : Shows t e) {v : Value} :
    e.data = some v ↔
      ∃ p, t.part? 1 "data" = some p ∧ p ≠ .null ∧ p.value (Tree.maxDepth - 1) = .ok v := by
  obtain ⟨hpart, hdata⟩ | ⟨p, hpart, hval⟩ := h.data
  · rw [hpart, hdata]
    simp
  · rw [hpart]
    constructor
    · intro hsome
      rw [hsome] at hval
      exact ⟨p, rfl, Tree.optional_eq_some.1 hval⟩
    · rintro ⟨p', hp, hv⟩
      cases hp
      exact Except.ok.inj (hval.symm.trans (Tree.optional_eq_some.2 hv))

/-! ### The verdict -/

/-- The body is an envelope. -/
def IsEnvelope (body : Text) : Prop := ∃ e, read body = .ok e

/-- All that a reply needs holds, but for the decoding of its data: a code of success, a body that
is an envelope with a status of exactly `success`, and data that are there and not null. -/
structure Carries (code : Nat) (body : Text) (v : Value) : Prop where
  code : 200 ≤ code ∧ code ≤ 299
  envelope : IsEnvelope body
  status : (Tree.read body).root.part? 0 "status" = some (.string (some "success"))
  data : ∃ p, (Tree.read body).root.part? 1 "data" = some p ∧ p ≠ .null ∧
    p.value (Tree.maxDepth - 1) = .ok v

theorem carries_iff {code : Nat} {body : Text} {v : Value} :
    Carries code body v ↔
      isSuccess code = true ∧ ∃ e, read body = .ok e ∧ e.status = ("success" : Text) ∧
        e.data = some v := by
  constructor
  · rintro ⟨hcode, ⟨e, he⟩, hstatus, hdata⟩
    have hshows := shows_of_read he
    have heq : e.status = ("success" : Text) := by
      simpa using hshows.status.symm.trans hstatus
    exact ⟨isSuccess_iff.2 hcode, e, he, heq, hshows.data_eq_some.2 hdata⟩
  · rintro ⟨hcode, e, he, hstatus, hdata⟩
    have hshows := shows_of_read he
    exact ⟨isSuccess_iff.1 hcode, ⟨e, he⟩, hstatus ▸ hshows.status, hshows.data_eq_some.1 hdata⟩

theorem accept_of_carries [Wording] {α : Type} {decode : Decoder α} {code : Nat} {body : Text}
    {v : Value} (h : Carries code body v) :
    accept decode code body = (decode v).mapError .json := by
  obtain ⟨hcode, e, he, hstatus, hdata⟩ := carries_iff.1 h
  simp only [accept, he, hstatus, hcode, hdata, ne_eq, not_true_eq_false, Bool.not_true,
    Bool.false_eq_true, if_false]

theorem accept_of_failure [Wording] {body : Text} {e : Envelope} (hread : read body = .ok e)
    (hstatus : e.status ≠ ("success" : Text)) {α : Type} (decode : Decoder α) (code : Nat) :
    accept decode code body = .error (reported code e) := by
  simp only [accept, hread, if_pos hstatus]

theorem accept_of_outside [Wording] {code : Nat} (hcode : isSuccess code = false) (body : Text) :
    ∃ m, ∀ {α : Type} (decode : Decoder α), accept decode code body = .error (.backend m) := by
  cases hread : read body with
  | error f => exact ⟨_, fun decode => by simp only [accept, hread, hcode]; rfl⟩
  | ok e =>
    by_cases hstatus : e.status = ("success" : Text)
    · exact ⟨_, fun decode => by simp only [accept, hread, hstatus, hcode]; rfl⟩
    · exact ⟨_, fun decode => accept_of_failure hread hstatus decode code⟩

/-- A refusal that comes before the data are looked at is the same for every decoder. -/
theorem accept_of_not_carries [Wording] {code : Nat} {body : Text} (h : ∀ v, ¬Carries code body v) :
    ∃ err : Error, (∀ {α : Type} (decode : Decoder α), accept decode code body = .error err) ∧
      ((200 ≤ code ∧ code ≤ 299 ∧ ¬IsEnvelope body) ∧ (∃ m, err = .json m) ∨
        ¬(200 ≤ code ∧ code ≤ 299 ∧ ¬IsEnvelope body) ∧ ∃ m, err = .backend m) := by
  -- by the order in which a reply is looked at: its code, its body, its status, its data
  by_cases hcode : isSuccess code = true
  · have hrange := isSuccess_iff.1 hcode
    cases hread : read body with
    | error f =>
      have hno : ¬IsEnvelope body := by
        rintro ⟨e, he⟩
        cases hread.symm.trans he
      refine ⟨.json (Wording.json body f), fun decode => ?_,
        .inl ⟨⟨hrange.1, hrange.2, hno⟩, _, rfl⟩⟩
      simp only [accept, hread, if_pos hcode]
    | ok e =>
      have hin : ¬(200 ≤ code ∧ code ≤ 299 ∧ ¬IsEnvelope body) := fun hin => hin.2.2 ⟨e, hread⟩
      by_cases hstatus : e.status = ("success" : Text)
      · cases hdata : e.data with
        | none =>
          refine ⟨.backend "response is missing data", fun decode => ?_, .inr ⟨hin, _, rfl⟩⟩
          simp only [accept, hread, hstatus, hcode, hdata]
          rfl
        | some v => exact absurd (carries_iff.2 ⟨hcode, e, hread, hstatus, hdata⟩) (h v)
      · exact ⟨_, fun decode => accept_of_failure hread hstatus decode code, .inr ⟨hin, _, rfl⟩⟩
  · obtain ⟨m, hm⟩ := accept_of_outside (Bool.eq_false_iff.2 hcode) body
    exact ⟨_, hm, .inr ⟨fun hin => hcode (isSuccess_iff.2 ⟨hin.1, hin.2.1⟩), m, rfl⟩⟩

/-- What a failure of two kinds says of the two codes. -/
theorem code_cases {err : Error} {p : Prop}
    (h : p ∧ (∃ m, err = .json m) ∨ ¬p ∧ ∃ m, err = .backend m) :
    (err.code = "JSON_ERROR" ↔ p) ∧ (err.code = "BACKEND_ERROR" ↔ ¬p) := by
  have hne : ("JSON_ERROR" : Text) ≠ "BACKEND_ERROR" := by decide
  obtain ⟨hp, m, rfl⟩ | ⟨hp, m, rfl⟩ := h
  · exact ⟨iff_of_true rfl hp, iff_of_false hne (not_not_intro hp)⟩
  · exact ⟨iff_of_false hne.symm hp, iff_of_true rfl hp⟩

/-- **What becomes of a reply**, whatever its code, its body and the data that are wanted. It is
accepted if and only if all conditions hold; the error is a JSON error exactly if the code is one of
success and the body is no envelope or nothing but the decoding of the data failed; a code outside
the range and a status other than `success` are refused as the server's fault whatever the rest;
and what is wanted has a say in the last step only. -/
theorem accept_classified [Wording] (code : Nat) (body : Text) :
    (∀ {α : Type} (decode : Decoder α) (a : α),
      accept decode code body = .ok a ↔ ∃ v, Carries code body v ∧ decode v = .ok a) ∧
    (∀ {α : Type} (decode : Decoder α) (err : Error), accept decode code body = .error err →
      (err.code = "JSON_ERROR" ↔
        (200 ≤ code ∧ code ≤ 299 ∧ ¬IsEnvelope body) ∨ ∃ v, Carries code body v) ∧
      (err.code = "BACKEND_ERROR" ↔
        ¬((200 ≤ code ∧ code ≤ 299 ∧ ¬IsEnvelope body) ∨ ∃ v, Carries code body v))) ∧
    (¬(200 ≤ code ∧ code ≤ 299) →
      ∀ {α : Type} (decode : Decoder α), ∃ m, accept decode code body = .error (.backend m)) ∧
    (IsEnvelope body → (Tree.read body).root.part? 0 "status" ≠ some (.string (some "success")) →
      ∀ {α : Type} (decode : Decoder α), ∃ m, accept decode code body = .error (.backend m)) ∧
    ((∃ err, ∀ {α : Type} (decode : Decoder α), accept decode code body = .error err) ∨
      ∃ v, ∀ {α : Type} (decode : Decoder α),
        accept decode code body = (decode v).mapError .json) := by
  refine ⟨?_, ?_, ?_, ?_, ?_⟩
  · intro α decode a
    rw [accept_eq_ok]
    constructor
    · rintro ⟨hcode, e, v, he, hstatus, hdata, hv⟩
      exact ⟨v, carries_iff.2 ⟨hcode, e, he, hstatus, hdata⟩, hv⟩
    · rintro ⟨v, hcarries, hv⟩
      obtain ⟨hcode, e, he, hstatus, hdata⟩ := carries_iff.1 hcarries
      exact ⟨hcode, e, v, he, hstatus, hdata, hv⟩
  · intro α decode err herr
    apply code_cases
    by_cases hcarries : ∃ v, Carries code body v
    · refine .inl ⟨.inr hcarries, ?_⟩
      obtain ⟨v, hv⟩ := hcarries
      rw [accept_of_carries hv] at herr
      cases hd : decode v with
      | error m =>
        rw [hd] at herr
        cases herr
        exact ⟨_, rfl⟩
      | ok a =>
        rw [hd] at herr
        cases herr
    · obtain ⟨err', hall, hcases⟩ := accept_of_not_carries (not_exists.1 hcarries)
      cases (hall decode).symm.trans herr
      obtain ⟨hin, hjson⟩ | ⟨hout, hbackend⟩ := hcases
      · exact .inl ⟨.inl hin, hjson⟩
      · exact .inr ⟨fun h => h.elim hout hcarries, hbackend⟩
  · intro hout α decode
    have hcode : isSuccess code = false := by
      rw [← Bool.not_eq_true, isSuccess_iff]
      exact hout
    obtain ⟨m, hm⟩ := accept_of_outside hcode body
    exact ⟨m, hm decode⟩
  · rintro ⟨e, he⟩ hpart α decode
    have hstatus : e.status ≠ ("success" : Text) := by
      intro heq
      exact hpart (heq ▸ (shows_of_read he).status)
    exact ⟨_, accept_of_failure he hstatus decode code⟩
  · by_cases hcarries : ∃ v, Carries code body v
    · obtain ⟨v, hv⟩ := hcarries
      exact .inr ⟨v, fun decode => accept_of_carries hv⟩
    · obtain ⟨err, hall, -⟩ := accept_of_not_carries (not_exists.1 hcarries)
      exact .inl ⟨err, hall⟩

end Envelope

end RuleAudit
