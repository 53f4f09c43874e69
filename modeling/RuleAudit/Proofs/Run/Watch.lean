import RuleAudit.Client
import RuleAudit.Proofs.Run.Alike

/-!
Audits that are watched. A watched world keeps a list of what has passed between an audit and its
surroundings, and is otherwise the world that it was.

* `Surroundings.watched`: the same surroundings, with the lookups and the told events written down;
* `Client.Wire.watched`: the same wire, with the requests and the replies written down;
* `Audit.run_mirrors`: an audit that is watched does what it does unwatched.
-/

namespace RuleAudit

/-! ### What is written down -/

/-- What can pass between an audit and its surroundings. -/
inductive Act
  /-- The server has been asked for series, and this was the answer. -/
  | asked (selector : Text) (range : TimeRange) (answer : Except Error (List Series))
  /-- A request has been sent, and this was the reply, or why there was none. -/
  | sent (request : Request) (reply : Except Outage Reply)
  /-- An event has been told. -/
  | told (e : Event)

/-- A world, and what has been written down about it, in order. -/
structure Watched (W : Type) where
  world : W
  acts : List Act

section

variable {W α β : Type}

/-- Does something in a watched world and writes nothing down. -/
def quietly (p : StateM W α) : StateM (Watched W) α := fun x =>
  ((p x.world).1, ⟨(p x.world).2, x.acts⟩)

theorem quietly_eq {p : StateM W α} {x : Watched W} {a : α} (h : (p x.world).1 = a) :
    quietly p x = (a, ⟨(p x.world).2, x.acts⟩) :=
  congrArg (·, Watched.mk (p x.world).2 x.acts) h

/-- Does something in a watched world and writes down one act, for the result. -/
def recording (p : StateM W α) (act : α → Act) : StateM (Watched W) α := fun x =>
  ((p x.world).1, ⟨(p x.world).2, x.acts ++ [act (p x.world).1]⟩)

/-- The surroundings with another server. -/
def Surroundings.over {m : Type → Type} (s : Surroundings m) (b : Backend m) : Surroundings m :=
  { s with backend := b }

/-- The surroundings in a watched world: lookups and told events are written down. -/
def Surroundings.watched (s : Surroundings (StateM W)) : Surroundings (StateM (Watched W)) where
  backend :=
    { ruleGroups := quietly s.backend.ruleGroups
      series := fun selector range =>
        recording (s.backend.series selector range) (.asked selector range) }
  now := quietly s.now
  note r := quietly (s.note r)
  tell e := recording (s.tell e) fun _ => .told e

/-- The wire in a watched world: requests are written down with their replies. -/
def Client.Wire.watched (w : Client.Wire (StateM W)) : Client.Wire (StateM (Watched W)) where
  send r := recording (w.send r) (.sent r)
  note r := quietly (w.note r)

/-! ### Being watched changes nothing -/

/-- In a watched world, the first program does what the second does in the world itself. -/
def Mirrors (p' : StateM (Watched W) α) (p : StateM W α) : Prop :=
  ∀ x, (p' x).1 = (p x.world).1 ∧ (p' x).2.world = (p x.world).2

theorem quietly_mirrors (p : StateM W α) : Mirrors (quietly p) p := fun _ => ⟨rfl, rfl⟩

theorem recording_mirrors (p : StateM W α) (act : α → Act) : Mirrors (recording p act) p :=
  fun _ => ⟨rfl, rfl⟩

namespace Mirrors

theorem pure (a : α) : Mirrors (W := W) (Pure.pure a) (Pure.pure a) := fun _ => ⟨rfl, rfl⟩

theorem bind {p' : StateM (Watched W) α} {p : StateM W α} {f' : α → StateM (Watched W) β}
    {f : α → StateM W β} (hp : Mirrors p' p) (hf : ∀ a, Mirrors (f' a) (f a)) :
    Mirrors (p' >>= f') (p >>= f) := by
  intro x
  obtain ⟨ha, hw⟩ := hp x
  rw [stateM_bind_apply, stateM_bind_apply, ← ha, ← hw]
  exact hf _ _

end Mirrors

end

/-! ### Watched audits -/

section

variable {W : Type} {s' : Surroundings (StateM (Watched W))} {s : Surroundings (StateM W)}

/-- In a watched world, the first surroundings do what the second do in the world itself. -/
structure Surroundings.Mirror (s' : Surroundings (StateM (Watched W)))
    (s : Surroundings (StateM W)) : Prop where
  series : ∀ selector range,
    Mirrors (s'.backend.series selector range) (s.backend.series selector range)
  now : Mirrors s'.now s.now
  note : ∀ r, Mirrors (s'.note r) (s.note r)
  tell : ∀ e, Mirrors (s'.tell e) (s.tell e)

theorem Surroundings.watched_mirror (s : Surroundings (StateM W)) : s.watched.Mirror s where
  series _ _ := recording_mirrors _ _
  now := quietly_mirrors _
  note _ := quietly_mirrors _
  tell _ := recording_mirrors _ _

theorem Client.ask_mirrors [Url.Idna] [Wording] {α : Type} (c : Client) (w : Client.Wire (StateM W))
    (decode : Json.Decoder α) (path : Text) (ps : List (Text × Text)) :
    Mirrors (c.ask w.watched decode path ps) (c.ask w decode path ps) := by
  unfold Client.ask
  refine .bind (quietly_mirrors _) fun _ => ?_
  cases c.request? path ps with
  | none => exact .pure _
  | some r =>
    refine .bind (recording_mirrors _ _) fun reply => ?_
    cases reply <;> exact .pure _

theorem Surroundings.Mirror.over (h : s'.Mirror s) {b' : Backend (StateM (Watched W))}
    {b : Backend (StateM W)}
    (hb : ∀ selector range, Mirrors (b'.series selector range) (b.series selector range)) :
    (s'.over b').Mirror (s.over b) :=
  ⟨hb, h.now, h.note, h.tell⟩

theorem Surroundings.over_mirror [Url.Idna] [Wording] (s : Surroundings (StateM W)) (c : Client)
    (w : Client.Wire (StateM W)) :
    (s.watched.over (c.backend w.watched)).Mirror (s.over (c.backend w)) := by
  refine s.watched_mirror.over fun selector range => ?_
  dsimp only [Client.backend]
  exact c.ask_mirrors w _ _ _

/-- What mirrors a program goes alike with it. -/
theorem Mirrors.alike {α : Type} {p' : StateM (Watched W) α} {p : StateM W α} (h : Mirrors p' p) :
    Alike (fun x w => x.world = w) p' p := by
  rintro x _ rfl
  exact h x

theorem Surroundings.Mirror.akin (h : s'.Mirror s) : s'.Akin (fun x w => x.world = w) s where
  series selector range := (h.series selector range).alike
  now := h.now.alike
  note r := (h.note r).alike
  tell e := (h.tell e).alike

/-- **An audit that is watched does what it does unwatched**: it gives the same, knows the same
afterwards and leaves the world the same. -/
theorem Audit.run_mirrors (h : s'.Mirror s) (source : StateM W (Except Error (List RuleQuery)))
    (c : Checker) : Mirrors (run s' (quietly source) c) (run s source c) :=
  fun x => run_alike h.akin (quietly_mirrors source).alike c x x.world rfl

end

end RuleAudit
