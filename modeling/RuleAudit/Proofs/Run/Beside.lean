import RuleAudit.Proofs.Run.Watch

/-!
Worlds with something beside them on which nothing in the world depends: a log, or somebody to whom
events are told.

* `Surroundings.loggedTo`, `Surroundings.toldTo`: surroundings with a log or a sink beside the
  world;
* `Surroundings.toldTo_akin`: in the world, it makes no difference who is told.
-/

namespace RuleAudit

section

variable {W K L α : Type}

/-! ### Inside a world and beside it -/

/-- Does something in a world, and leaves alone what stands beside it. -/
def inside (p : StateM W α) : StateM (W × K) α := fun x => ((p x.1).1, (p x.1).2, x.2)

/-- Does something beside a world, and leaves the world alone. -/
def beside (p : StateM K α) : StateM (W × K) α := fun x => ((p x.2).1, x.1, (p x.2).2)

/-- The worlds are the same, whatever stands beside them. -/
def SameInside (x : W × K) (y : W × L) : Prop := x.1 = y.1

theorem inside_alike (p : StateM W α) :
    Alike (SameInside (K := K) (L := L)) (inside p) (inside p) := by
  rintro ⟨w, k⟩ ⟨_, k'⟩ rfl
  exact ⟨rfl, rfl⟩

theorem beside_alike (p : StateM K Unit) (p' : StateM L Unit) :
    Alike (SameInside (W := W)) (beside p) (beside p') := fun _ _ h => ⟨rfl, h⟩

/-! ### Logs and sinks -/

/-- A log, and somebody to tell events to: a stream that takes lines and may lose them, say, or
nobody at all. Neither can do anything but with a state of their own. -/
structure Sink (K : Type) where
  note : LogRecord → StateM K Unit
  tell : Event → StateM K Unit

namespace Surroundings

/-- The surroundings with a log beside the world. -/
def loggedTo (s : Surroundings (StateM W)) (note : LogRecord → StateM K Unit) :
    Surroundings (StateM (W × K)) where
  backend :=
    { ruleGroups := inside s.backend.ruleGroups
      series := fun selector range => inside (s.backend.series selector range) }
  now := inside s.now
  note r := beside (note r)
  tell e := inside (s.tell e)

/-- The surroundings with a sink beside the world. -/
def toldTo (s : Surroundings (StateM W)) (sink : Sink K) : Surroundings (StateM (W × K)) :=
  { s.loggedTo sink.note with tell := fun e => beside (sink.tell e) }

theorem loggedTo_akin (s : Surroundings (StateM W)) (note : LogRecord → StateM K Unit)
    (note' : LogRecord → StateM L Unit) : (s.loggedTo note).Akin SameInside (s.loggedTo note') where
  series _ _ := inside_alike _
  now := inside_alike _
  note _ := beside_alike _ _
  tell _ := inside_alike _

/-- Whatever the sinks are, it is the same for the world. -/
theorem toldTo_akin (s : Surroundings (StateM W)) (sink : Sink K) (sink' : Sink L) :
    (s.toldTo sink).Akin SameInside (s.toldTo sink') :=
  { s.loggedTo_akin sink.note sink'.note with tell := fun _ => beside_alike _ _ }

end Surroundings

end

/-! ### Watching -/

section

variable {X Y α : Type} {R : X → Y → Prop}

/-- The same has been written down about worlds that are related. -/
structure Watched.Level (R : X → Y → Prop) (x : Watched X) (y : Watched Y) : Prop where
  world : R x.world y.world
  acts : x.acts = y.acts

theorem Alike.quietly {p : StateM X α} {p' : StateM Y α} (h : Alike R p p') :
    Alike (Watched.Level R) (quietly p) (quietly p') := by
  intro x y hxy
  obtain ⟨ha, hworld⟩ := h _ _ hxy.world
  exact ⟨ha, hworld, hxy.acts⟩

theorem Alike.recording {p : StateM X α} {p' : StateM Y α} (h : Alike R p p') (act : α → Act) :
    Alike (Watched.Level R) (recording p act) (recording p' act) := by
  intro x y hxy
  obtain ⟨ha, hworld⟩ := h _ _ hxy.world
  refine ⟨ha, hworld, ?_⟩
  change x.acts ++ [act (p x.world).1] = y.acts ++ [act (p' y.world).1]
  rw [hxy.acts, ha]

/-- Surroundings that are akin still are if they are watched. -/
theorem Surroundings.Akin.watched {s : Surroundings (StateM X)} {s' : Surroundings (StateM Y)}
    (h : s.Akin R s') : s.watched.Akin (Watched.Level R) s'.watched where
  series selector range := (h.series selector range).recording _
  now := h.now.quietly
  note r := (h.note r).quietly
  tell e := (h.tell e).recording _

end

end RuleAudit
