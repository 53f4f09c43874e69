import Mathlib.Data.List.Forall2
import RuleAudit.Proofs.Exit
import RuleAudit.Proofs.Run.Beside

/-!
What the program does outside, one thing after another: it sends requests, notes things down, and
writes messages and results.

* `System.recorded`: the same system, with all this written down beside the world;
* `System.Akin`: systems that a program cannot tell apart, although requests and the numbers of runs
  may differ in some way;
* `Program.execute_alike`: on such systems the program goes alike;
* `Program.execute_recorded`: what is written down makes no difference.
-/

namespace RuleAudit

/-! ### Deeds -/

/-- A thing that the program does outside. -/
inductive Deed
  /-- It sends a request, to which this is the reply, or why there is none. -/
  | sent (request : Request) (reply : Except Outage Reply)
  | noted (r : LogRecord)
  /-- It writes a message. -/
  | messaged (t : Text)
  /-- It writes a result. -/
  | printed (t : Text)

section

variable {W α : Type}

/-- Does something in a world, and writes down beside it one deed, for the result. -/
def doing (p : StateM W α) (deed : α → Deed) : StateM (W × List Deed) α := fun x =>
  ((p x.1).1, (p x.1).2, x.2 ++ [deed (p x.1).1])

/-- The system with what the program does on it written down beside the world. -/
def System.recorded (s : System (StateM W)) : System (StateM (W × List Deed)) where
  environment := s.environment
  send r := doing (s.send r) (.sent r)
  contents path := inside (s.contents path)
  now := inside s.now
  newRunId := inside s.newRunId
  note r := doing (s.note r) fun _ => .noted r
  writeMessage t := doing (s.writeMessage t) fun _ => .messaged t
  writeResult t := doing (s.writeResult t) fun _ => .printed t

end

/-! ### Systems that are akin -/

/-- The reports are the same, except that the numbers of the runs are related in this way. -/
structure Report.Like (I : Text → Text → Prop) (r r' : Report) : Prop where
  runId : I r.runId r'.runId
  startedAt : r.startedAt = r'.startedAt
  finishedAt : r.finishedAt = r'.finishedAt
  results : r.results = r'.results

section

variable {X Y α β γ : Type} {R : X → Y → Prop} {T : Request → Request → Prop}
  {I : Text → Text → Prop} {s : System (StateM X)} {s' : System (StateM Y)}

/-- From related states, the two programs give results that are related by `Q`, and lead to related
states. -/
def AlikeUpTo (Q : α → β → Prop) (R : X → Y → Prop) (p : StateM X α) (p' : StateM Y β) : Prop :=
  ∀ x y, R x y → Q (p x).1 (p' y).1 ∧ R (p x).2 (p' y).2

theorem AlikeUpTo.bind {Q : α → β → Prop} {p : StateM X α} {p' : StateM Y β}
    {f : α → StateM X γ} {f' : β → StateM Y γ} (hp : AlikeUpTo Q R p p')
    (hf : ∀ a b, Q a b → Alike R (f a) (f' b)) : Alike R (p >>= f) (p' >>= f') := by
  intro x y hxy
  obtain ⟨hab, hnext⟩ := hp x y hxy
  exact hf _ _ hab _ _ hnext

/-- Everything goes alike on the systems, the environment aside: for requests that are related by
`T`, and with numbers of runs that are related by `I`. -/
structure System.Akin (R : X → Y → Prop) (T : Request → Request → Prop) (I : Text → Text → Prop)
    (s : System (StateM X)) (s' : System (StateM Y)) : Prop where
  send : ∀ {r r'}, T r r' → Alike R (s.send r) (s'.send r')
  contents : ∀ path, Alike R (s.contents path) (s'.contents path)
  now : Alike R s.now s'.now
  newRunId : AlikeUpTo I R s.newRunId s'.newRunId
  note : ∀ r, Alike R (s.note r) (s'.note r)
  writeMessage : ∀ t, Alike R (s.writeMessage t) (s'.writeMessage t)
  writeResult : ∀ {r r' : Report}, r.Like I r' →
    Alike R (s.writeResult (Program.reportText r)) (s'.writeResult (Program.reportText r'))

/-- Clients that ask for the same, with requests that are related by `T`. -/
structure Client.Akin [Url.Idna] (T : Request → Request → Prop) (c c' : Client) : Prop where
  baseUrl : c.config.baseUrl = c'.config.baseUrl
  request : ∀ path ps, Option.Rel T (c.request? path ps) (c'.request? path ps)

theorem Client.Akin.refl [Url.Idna] (c : Client) : c.Akin Eq c where
  baseUrl := rfl
  request path ps := by
    cases c.request? path ps with
    | none => exact .none
    | some r => exact .some rfl

/-! ### Questions -/

theorem Client.ask_alike [Url.Idna] [Wording] {c c' : Client} (hc : c.Akin T c')
    {w : Wire (StateM X)} {w' : Wire (StateM Y)}
    (hsend : ∀ {r r'}, T r r' → Alike R (w.send r) (w'.send r'))
    (hnote : ∀ r, Alike R (w.note r) (w'.note r)) (decode : Json.Decoder α) (path : Text)
    (ps : List (Text × Text)) : Alike R (c.ask w decode path ps) (c'.ask w' decode path ps) := by
  have hendpoint : c.config.endpoint path = c'.config.endpoint path := by
    rw [Config.endpoint, Config.endpoint, hc.baseUrl]
  have hunaddressed : c.unaddressed path = c'.unaddressed path := by
    rw [unaddressed, unaddressed, hendpoint]
  unfold Client.ask
  rw [hendpoint, hunaddressed]
  refine .bind (hnote _) fun _ => ?_
  have hrequest := hc.request path ps
  revert hrequest
  generalize c.request? path ps = request
  generalize c'.request? path ps = request'
  rintro (@⟨r, r', h⟩ | _)
  · refine .bind (hsend h) fun reply => ?_
    cases reply <;> exact .pure _
  · exact .pure _

theorem RuleFile.readAll_alike [Wording] {contents : Text → StateM X (Except Text (List UInt8))}
    {contents' : Text → StateM Y (Except Text (List UInt8))}
    (h : ∀ path, Alike R (contents path) (contents' path)) (paths : List Text) :
    Alike R (readAll contents paths) (readAll contents' paths) := by
  induction paths with
  | nil => exact .pure _
  | cons path rest ih =>
    refine .bind (h path) fun bytes => ?_
    cases decode path bytes >>= readQueries path with
    | error e => exact .pure _
    | ok qs =>
      refine .bind ih fun more => ?_
      cases more <;> exact .pure _

theorem Source.queries_alike [Wording] {b : Backend (StateM X)} {b' : Backend (StateM Y)}
    {note : LogRecord → StateM X Unit} {note' : LogRecord → StateM Y Unit}
    {contents : Text → StateM X (Except Text (List UInt8))}
    {contents' : Text → StateM Y (Except Text (List UInt8))}
    (hb : Alike R b.ruleGroups b'.ruleGroups) (hnote : ∀ r, Alike R (note r) (note' r))
    (hcontents : ∀ path, Alike R (contents path) (contents' path)) (source : Source) :
    Alike R (source.queries b note contents) (source.queries b' note' contents') := by
  cases source with
  | server =>
    refine .bind hb fun listed => ?_
    cases listed with
    | error e => exact .pure _
    | ok gs =>
      refine .bind ?_ fun _ => .pure _
      induction Listing.passedOver gs with
      | nil => exact .pure _
      | cons _ _ ih => exact .bind (hnote _) fun _ => ih
  | files paths => exact RuleFile.readAll_alike hcontents paths

/-! ### The program -/

namespace Program

/-- The arguments ask for the same, with clients that are akin or with the same error. -/
structure Agree [Url.Idna] (T : Request → Request → Prop)
    (environment environment' : Text → Option Text) (a a' : Arguments) : Prop where
  ruleFiles : a.ruleFiles = a'.ruleFiles
  json : a.json = a'.json
  configure :
    (∃ e, configure environment a = .error e ∧ configure environment' a' = .error e) ∨
      ∃ c c', configure environment a = .ok c ∧ configure environment' a' = .ok c' ∧ c.Akin T c'

theorem Agree.refl [Url.Idna] (environment : Text → Option Text) (a : Arguments) :
    Agree Eq environment environment a a where
  ruleFiles := rfl
  json := rfl
  configure := by
    cases h : Program.configure environment a with
    | error e => exact .inl ⟨e, rfl, rfl⟩
    | ok c => exact .inr ⟨c, c, rfl, rfl, .refl c⟩

theorem tell_alike (h : s.Akin R T I s') (e : Event) : Alike R (tell s e) (tell s' e) := by
  refine .bind (h.writeMessage _) fun lost => ?_
  cases lost with
  | none => exact .pure _
  | some reason => exact h.note _

variable [Url.Idna] [Wording] {c c' : Client}

theorem surroundings_akin (h : s.Akin R T I s') (hc : c.Akin T c') :
    (surroundings s c).Akin R (surroundings s' c') where
  series selector range := by
    dsimp only [surroundings, Client.backend]
    exact Client.ask_alike hc h.send h.note _ _ _
  now := h.now
  note := h.note
  tell := tell_alike h

theorem listing_alike (h : s.Akin R T I s') (hc : c.Akin T c') (source : Source) :
    Alike R (source.queries (surroundings s c).backend s.note s.contents)
      (source.queries (surroundings s' c').backend s'.note s'.contents) := by
  refine Source.queries_alike ?_ h.note h.contents source
  dsimp only [surroundings, Client.backend]
  exact Client.ask_alike hc h.send h.note _ _ _

theorem audit_alike (h : s.Akin R T I s') {a a' : Arguments} (hfiles : a.ruleFiles = a'.ruleFiles)
    (hjson : a.json = a'.json) (hc : c.Akin T c') : Alike R (audit s a c) (audit s' a' c') := by
  refine h.newRunId.bind fun _ _ hid => .bind h.now fun startedAt => ?_
  rw [hfiles]
  have hsource := listing_alike h hc (.ofPaths a'.ruleFiles)
  refine .bind (Audit.run_alike (surroundings_akin h hc) hsource _) fun audited => ?_
  rcases audited with ⟨e | results, checker⟩
  · exact .pure _
  · refine .bind h.now fun finishedAt => .bind ?_ fun written => ?_
    · unfold writeReport
      rw [hjson]
      cases a'.json with
      | false => exact .pure _
      | true =>
        refine .bind (h.writeResult ⟨hid, rfl, rfl, rfl⟩) fun lost => ?_
        cases lost <;> exact .pure _
    · cases written <;> exact .pure _

theorem run_alike (h : s.Akin R T I s') {a a' : Arguments}
    (ha : Agree T s.environment s'.environment a a') : Alike R (run s a) (run s' a') := by
  unfold run
  obtain ⟨e, hc, hc'⟩ | ⟨c, c', hc, hc', hcc⟩ := ha.configure
  · rw [hc, hc']
    exact .pure _
  · rw [hc, hc']
    dsimp only
    rw [hcc.baseUrl]
    exact .bind (h.note _) fun _ => audit_alike h ha.ruleFiles ha.json hcc

/-- **The program goes alike on systems that are akin**, if what it is asked for is. -/
theorem execute_alike (h : s.Akin R T I s') {a a' : Arguments}
    (ha : Agree T s.environment s'.environment a a') : Alike R (execute s a) (execute s' a') := by
  refine .bind (run_alike h ha) fun r => ?_
  cases r with
  | error e =>
    refine .bind (h.writeMessage _) fun lost => ?_
    cases lost <;> exact .pure _
  | ok status => exact .pure _

end Program

/-! ### Writing down -/

/-- What is done in two runs is the same, except that requests and the numbers of runs are
related. -/
inductive Deed.Like (T : Request → Request → Prop) (I : Text → Text → Prop) : Deed → Deed → Prop
  | sent {r r' : Request} (h : T r r') (reply : Except Outage Reply) :
    Like T I (sent r reply) (sent r' reply)
  | noted (r : LogRecord) : Like T I (noted r) (noted r)
  | messaged (t : Text) : Like T I (messaged t) (messaged t)
  | printed {r r' : Report} (h : r.Like I r') :
    Like T I (printed (Program.reportText r)) (printed (Program.reportText r'))

/-- The worlds are related, and so is what has been done in them. -/
structure Deed.Level (R : X → Y → Prop) (T : Request → Request → Prop) (I : Text → Text → Prop)
    (x : X × List Deed) (y : Y × List Deed) : Prop where
  world : R x.1 y.1
  deeds : List.Forall₂ (Deed.Like T I) x.2 y.2

theorem AlikeUpTo.inside {Q : α → β → Prop} {p : StateM X α} {p' : StateM Y β}
    (h : AlikeUpTo Q R p p') : AlikeUpTo Q (Deed.Level R T I) (inside p) (inside p') :=
  fun _ _ hxy => ⟨(h _ _ hxy.world).1, (h _ _ hxy.world).2, hxy.deeds⟩

theorem Alike.inside {p : StateM X α} {p' : StateM Y α} (h : Alike R p p') :
    Alike (Deed.Level R T I) (inside p) (inside p') :=
  AlikeUpTo.inside (Q := Eq) h

theorem Alike.doing {p : StateM X α} {p' : StateM Y α} (h : Alike R p p') {deed deed' : α → Deed}
    (hdeed : ∀ a, (deed a).Like T I (deed' a)) :
    Alike (Deed.Level R T I) (doing p deed) (doing p' deed') := by
  intro x y hxy
  obtain ⟨ha, hworld⟩ := h _ _ hxy.world
  refine ⟨ha, hworld, ?_⟩
  change List.Forall₂ _ (x.2 ++ [deed (p x.1).1]) (y.2 ++ [deed' (p' y.1).1])
  rw [← ha]
  exact List.rel_append hxy.deeds (.cons (hdeed _) .nil)

/-- Systems that are akin still are if what is done on them is written down. -/
theorem System.Akin.recorded (h : s.Akin R T I s') :
    s.recorded.Akin (Deed.Level R T I) T I s'.recorded where
  send hr := (h.send hr).doing (.sent hr)
  contents path := (h.contents path).inside
  now := h.now.inside
  newRunId := h.newRunId.inside
  note r := (h.note r).doing fun _ => .noted r
  writeMessage t := (h.writeMessage t).doing fun _ => .messaged t
  writeResult hr := (h.writeResult hr).doing fun _ => .printed hr

end

section

variable {W : Type}

/-- What is written down beside a world makes no difference in it. -/
theorem inside_forgets {α : Type} (p : StateM W α) :
    Alike (fun (x : W × List Deed) w => x.1 = w) (inside p) p := by
  rintro ⟨w, ds⟩ _ rfl
  exact ⟨rfl, rfl⟩

theorem doing_forgets {α : Type} (p : StateM W α) (deed : α → Deed) :
    Alike (fun (x : W × List Deed) w => x.1 = w) (doing p deed) p := by
  rintro ⟨w, ds⟩ _ rfl
  exact ⟨rfl, rfl⟩

theorem System.recorded_akin (s : System (StateM W)) :
    s.recorded.Akin (fun x w => x.1 = w) Eq Eq s where
  send := by
    rintro r _ rfl
    exact doing_forgets _ _
  contents _ := inside_forgets _
  now := inside_forgets _
  newRunId := inside_forgets s.newRunId
  note _ := doing_forgets _ _
  writeMessage _ := doing_forgets _ _
  writeResult := by
    rintro ⟨id, started, finished, results⟩ ⟨_, _, _, _⟩ ⟨rfl, rfl, rfl, rfl⟩
    exact doing_forgets _ _

namespace Program

variable [Url.Idna] [Wording] {s : System (StateM W)} {a : Arguments}

/-- **Writing down what the program does changes nothing**: its exit code and the world that it
leaves are the same. -/
theorem execute_recorded (s : System (StateM W)) (a : Arguments) (w : W) (ds : List Deed) :
    (execute s.recorded a (w, ds)).1 = (execute s a w).1 ∧
      (execute s.recorded a (w, ds)).2.1 = (execute s a w).2 :=
  execute_alike s.recorded_akin (.refl s.environment a) (w, ds) w rfl

/-- The error that ends a run is told, whether the message is lost or not. -/
theorem deeds_of_error {x : W × List Deed} {e : Error} (h : (run s.recorded a x).1 = .error e) :
    (execute s.recorded a x).2.2 =
      (run s.recorded a x).2.2 ++ [.messaged (e.fatalLine ++ ['\n'])] := by
  rw [execute, stateM_bind_apply, h]
  dsimp only
  rw [stateM_bind_apply]
  cases (s.recorded.writeMessage (e.fatalLine ++ ['\n']) (run s.recorded a x).2).1 <;> rfl

theorem deeds_of_ok {x : W × List Deed} {status : Status}
    (h : (run s.recorded a x).1 = .ok status) :
    (execute s.recorded a x).2.2 = (run s.recorded a x).2.2 := by
  rw [execute, stateM_bind_apply, h]
  rfl

/-- Without a client, nothing is done but that the error is told. -/
theorem execute_unconfigured {e : Error} (h : configure s.environment a = .error e) (w : W)
    (ds : List Deed) :
    (execute s.recorded a (w, ds)).2.2 = ds ++ [.messaged (e.fatalLine ++ ['\n'])] := by
  have hrun : run s.recorded a (w, ds) = (.error e, (w, ds)) := run_unconfigured h
  rw [deeds_of_error (congrArg (·.1) hrun), hrun]

end Program

end

end RuleAudit
