import RuleAudit.Http
import RuleAudit.Proofs.Deeds
import RuleAudit.Proofs.Endpoint

/-!
What the token has an influence on: the header that proves who asks, and nothing else. It has none
on that either if the address of the server has a user, who then is the one who asks.

* `Program.token?`: the token that arguments and environment give;
* `Request.Bear`: requests that are the same but for the token that they bear, if they bear it;
* `Program.execute_token`: two runs that differ in their tokens can be told apart by nothing else.
-/

namespace RuleAudit

/-! ### Configurations but for their tokens -/

namespace Config

/-- A look-up that finds no token. -/
def tokenless (lookup : Text → Option Text) (name : Text) : Option Text :=
  if name = tokenVariable then none else lookup name

/-- A configuration is resolved as it is without a token, and then it is given its token. -/
theorem resolve_eq_map [Url.Idna] (o : Overrides) (lookup : Text → Option Text) :
    resolve o lookup =
      (resolve ⟨o.url, none, o.timeoutMs⟩ (tokenless lookup)).map fun c => { c with
        bearerToken := o.bearerToken.filter (!Text.isAllBlank ·) <|> lookup tokenVariable } := by
  have hurl : tokenless lookup urlVariable = lookup urlVariable := if_neg (by decide)
  have hms : tokenless lookup timeoutVariable = lookup timeoutVariable := if_neg (by decide)
  have hsource : source ⟨o.url, none, o.timeoutMs⟩ (tokenless lookup) = source o lookup := by
    rw [source, source, hurl]
  have htimeout : timeout ⟨o.url, none, o.timeoutMs⟩ (tokenless lookup) = timeout o lookup := by
    rw [timeout, timeout, hms]
  rw [resolve_eq, resolve_eq, hsource, htimeout]
  rcases source o lookup >>= readUrl with e | u
  · rfl
  rcases timeout o lookup with e | n
  · rfl
  cases n <;> rfl

end Config

namespace Program

/-- The token that arguments and environment give. -/
def token? (environment : Text → Option Text) (a : Arguments) : Option Text :=
  a.bearerToken.filter (!Text.isAllBlank ·) <|>
    (environment Config.tokenVariable >>= Config.cleanValue?)

/-- Arguments and environments say the same about everything but the token. -/
structure SameButToken (environment environment' : Text → Option Text) (a a' : Arguments) :
    Prop where
  environment : ∀ name, name ≠ Config.tokenVariable → environment name = environment' name
  url : a.url = a'.url
  ruleFiles : a.ruleFiles = a'.ruleFiles
  timeoutMs : a.timeoutMs = a'.timeoutMs
  json : a.json = a'.json

/-- The configuration that is resolved if all tokens are left out. -/
def untold [Url.Idna] (environment : Text → Option Text) (a : Arguments) : Except Error Config :=
  Config.resolve ⟨a.url, none, a.timeoutMs⟩
    (Config.tokenless fun name => environment name >>= Config.cleanValue?)

theorem resolveIn_eq_map [Url.Idna] (environment : Text → Option Text) (a : Arguments) :
    Config.resolveIn environment (overrides a) =
      (untold environment a).map fun c => { c with bearerToken := token? environment a } :=
  Config.resolve_eq_map _ _

theorem SameButToken.untold [Url.Idna] {environment environment' : Text → Option Text}
    {a a' : Arguments} (h : SameButToken environment environment' a a') :
    untold environment a = untold environment' a' := by
  have hlookup : (Config.tokenless fun name => environment name >>= Config.cleanValue?) =
      Config.tokenless fun name => environment' name >>= Config.cleanValue? := by
    funext name
    unfold Config.tokenless
    split
    · rfl
    · rename_i hname
      dsimp only
      rw [h.environment name hname]
  rw [Program.untold, Program.untold, h.url, h.timeoutMs, hlookup]

end Program

/-! ### Clients and requests but for their tokens -/

/-- The requests are the same, except that one bears one token and the other the other, where the
address has no user. -/
inductive Request.Bear (t t' : Text) : Request → Request → Prop
  | bear {u : Url} (h : u.credentials? = none) (timeoutMs : Nat) :
    Bear t t' ⟨u, some ("Bearer " ++ t), timeoutMs⟩ ⟨u, some ("Bearer " ++ t'), timeoutMs⟩
  | named {u : Url} {credentials : Text} (h : u.credentials? = some credentials)
    (timeoutMs : Nat) :
    Bear t t' ⟨u, some (Client.basic credentials), timeoutMs⟩
      ⟨u, some (Client.basic credentials), timeoutMs⟩

/-- Both requests name the same target. -/
theorem Request.Bear.target {t t' : Text} {r r' : Request} (h : Bear t t' r r') :
    r.target = r'.target := by
  cases h <;> rfl

/-- On the wire, at most one line of the heads differs. -/
theorem Request.Bear.head {t t' : Text} {r r' : Request} (h : Bear t t' r r') :
    r = r' ∨ ∃ before after, r.head = before ++ line ("authorization: Bearer " ++ t) ++ after ∧
      r'.head = before ++ line ("authorization: Bearer " ++ t') ++ after := by
  cases h with
  | @bear u _ ms =>
    let r : Request := ⟨u, none, ms⟩
    refine .inr ⟨line ("GET " ++ r.target ++ " HTTP/1.0") ++ line ("host: " ++ u.hostText)
      ++ line "accept: */*", line [], ?_, ?_⟩
    · simp [Request.head, headers, r, Request.target]
    · simp [Request.head, headers, r, Request.target]
  | named => exact .inl rfl

theorem Client.authorization_basic {c : Client} {u : Url} {credentials : Text}
    (h : u.credentials? = some credentials) : c.authorization u = some (basic credentials) := by
  rw [authorization, h]

theorem Client.authorization_bearer {c : Client} {u : Url} {t : Text} (h : u.credentials? = none)
    (ht : c.config.bearerToken = some t) : c.authorization u = some ("Bearer " ++ t) := by
  rw [authorization, h, ht]
  rfl

theorem Client.bear_akin [Url.Idna] {c c' : Client} {config : Config} {t t' : Text}
    (h : c.config = { config with bearerToken := some t })
    (h' : c'.config = { config with bearerToken := some t' }) :
    c.Akin (Request.Bear t t') c' := by
  have hbase : c.config.baseUrl = c'.config.baseUrl := by rw [h, h']
  have htimeout : c.config.timeoutMs = c'.config.timeoutMs := by rw [h, h']
  refine ⟨hbase, fun path ps => ?_⟩
  rw [request?_eq_map, request?_eq_map, Config.address?_congr hbase, htimeout]
  cases c'.config.address? path with
  | none => exact .none
  | some u =>
    rw [Option.map_some, Option.map_some]
    -- parameters change nothing about the user of an address
    cases hu : u.credentials? with
    | none =>
      rw [authorization_bearer hu (congrArg Config.bearerToken h),
        authorization_bearer hu (congrArg Config.bearerToken h')]
      exact .some (.bear (u := u.withParameters ps) hu _)
    | some credentials =>
      rw [authorization_basic hu, authorization_basic hu]
      exact .some (.named (u := u.withParameters ps) hu _)

theorem Client.Akin.describe [Url.Idna] {T : Request → Request → Prop} {c c' : Client}
    (h : c.Akin T c') : c.describe = c'.describe := by
  unfold Client.describe
  rw [h.baseUrl]

theorem Client.ofConfig_refused {c : Config} (h : c.bearerToken.all isHeaderText = false) :
    ofConfig c =
      .error (.config "invalid bearer token: failed to parse header value") :=
  dif_neg (Bool.eq_false_iff.1 h)

/-! ### Runs -/

namespace Program

section

variable {environment environment' : Text → Option Text} {a a' : Arguments} {t t' : Text}

theorem resolveIn_describe [Url.Idna] (ha : SameButToken environment environment' a a')
    (ht : token? environment a = some t) (ht' : token? environment' a' = some t') :
    (Config.resolveIn environment (overrides a)).map Config.describe =
      (Config.resolveIn environment' (overrides a')).map Config.describe := by
  rw [resolveIn_eq_map, resolveIn_eq_map, ht, ht', ha.untold]
  cases untold environment' a' <;> rfl

/-- Two runs with different tokens have clients that differ in nothing else, or none for the same
reason. -/
theorem configure_token [Url.Idna] (ha : SameButToken environment environment' a a')
    (ht : token? environment a = some t) (ht' : token? environment' a' = some t')
    (hfit : isHeaderText t = isHeaderText t') :
    (∃ e, configure environment a = .error e ∧ configure environment' a' = .error e) ∨
      isHeaderText t = true ∧ ∃ c c', configure environment a = .ok c ∧
        configure environment' a' = .ok c' ∧ c.Akin (Request.Bear t t') c' := by
  unfold configure
  rw [resolveIn_eq_map, resolveIn_eq_map, ht, ht', ha.untold]
  rcases untold environment' a' with e | config
  · exact .inl ⟨e, rfl, rfl⟩
  · cases h : isHeaderText t with
    | false =>
      have h' : isHeaderText t' = false := hfit.symm.trans h
      exact .inl ⟨_, Client.ofConfig_refused h, Client.ofConfig_refused h'⟩
    | true =>
      have h' : isHeaderText t' = true := hfit.symm.trans h
      let c : Client := ⟨{ config with bearerToken := some t }, h⟩
      let c' : Client := ⟨{ config with bearerToken := some t' }, h'⟩
      exact .inr ⟨rfl, c, c', dif_pos h, dif_pos h', Client.bear_akin rfl rfl⟩

end

section

variable {X Y : Type} {R : X → Y → Prop}

/-- **The token reaches nothing but the header that proves who asks**: two runs that differ in
nothing but their tokens, both fit for a header or both not, do the same in the same order. Their
requests are the same but for the tokens that they bear, or altogether if the address of the server
has a user, and their reports are the same but for the numbers of the runs. The configurations and
the clients are described in the same words. If the tokens are not fit, both runs end with the same
error and tell nothing else. -/
theorem execute_token [Url.Idna] [Wording] {s : System (StateM X)} {s' : System (StateM Y)}
    {a a' : Arguments} {t t' : Text} (hs : s.Akin R (Request.Bear t t') (fun _ _ => True) s')
    (ha : SameButToken s.environment s'.environment a a')
    (ht : token? s.environment a = some t) (ht' : token? s'.environment a' = some t')
    (hfit : isHeaderText t = isHeaderText t') {x : X} {y : Y} (hxy : R x y) :
    let after := execute s.recorded a (x, [])
    let after' := execute s'.recorded a' (y, [])
    (after.1 = (execute s a x).1 ∧ after'.1 = (execute s' a' y).1) ∧
      after.1 = after'.1 ∧
      List.Forall₂ (Deed.Like (Request.Bear t t') fun _ _ => True) after.2.2 after'.2.2 ∧
      (Config.resolveIn s.environment (overrides a)).map Config.describe =
        (Config.resolveIn s'.environment (overrides a')).map Config.describe ∧
      (configure s.environment a).map Client.describe =
        (configure s'.environment a').map Client.describe ∧
      (isHeaderText t = false → ∃ e, (run s a x).1 = .error e ∧ (run s' a' y).1 = .error e ∧
        after.2.2 = [.messaged (e.fatalLine ++ ['\n'])] ∧ after'.2.2 = after.2.2) := by
  intro after after'
  have hconfigure := configure_token ha ht ht' hfit
  have hagree : Agree (Request.Bear t t') s.recorded.environment s'.recorded.environment a a' :=
    ⟨ha.ruleFiles, ha.json, hconfigure.imp_right (·.2)⟩
  obtain ⟨hcode, hlevel⟩ :=
    execute_alike hs.recorded hagree (x, []) (y, []) ⟨hxy, .nil⟩
  refine ⟨⟨(execute_recorded s a x []).1, (execute_recorded s' a' y []).1⟩, hcode, hlevel.deeds,
    resolveIn_describe ha ht ht', ?_, ?_⟩
  · obtain ⟨e, hc, hc'⟩ | ⟨-, c, c', hc, hc', hakin⟩ := hconfigure
    · rw [hc, hc']
    · rw [hc, hc', Except.map, Except.map, hakin.describe]
  · intro hunfit
    obtain ⟨e, hc, hc'⟩ | ⟨h, -⟩ := hconfigure
    · have hdeeds := execute_unconfigured hc x []
      refine ⟨e, congrArg (·.1) (run_unconfigured hc), congrArg (·.1) (run_unconfigured hc'),
        hdeeds, ?_⟩
      exact (execute_unconfigured hc' y []).trans hdeeds.symm
    · exact absurd (hunfit.symm.trans h) Bool.false_ne_true

end

/-- A system with an address and perhaps a token in its environment. Its server answers nobody
without a proof of who asks, has one rule, and has no series. -/
def guarded (token : Option Text) : System (StateM Nat) where
  environment name :=
    if name = Config.urlVariable then some "http://prom:9090"
    else if name = Config.tokenVariable then token else none
  send r := fun n =>
    let rule := "\x7b\"name\":\"r\",\"query\":\"up\",\"type\":\"recording\"\x7d"
    let data := if r.url.query = none then
      "\x7b\"groups\":[\x7b\"name\":\"g\",\"rules\":[" ++ rule ++ "]\x7d]\x7d" else "[]"
    let body := Text.Utf8.encode ("\x7b\"status\":\"success\",\"data\":" ++ data ++ "\x7d")
    (.ok (if r.authorization = none then ⟨401, []⟩ else ⟨200, body⟩), n + 1)
  contents _ := pure (.error "gone")
  now := pure ⟨0, 0⟩
  newRunId := fun n => (Text.decimal n, n)
  note _ := pure ()
  writeMessage _ := pure none
  writeResult _ := pure none

theorem guarded_akin (token token' : Option Text) (t t' : Text) :
    (guarded token).Akin Eq (Request.Bear t t') (fun _ _ => True) (guarded token') where
  send := by
    rintro _ _ (_ | _) n _ rfl <;> exact ⟨rfl, rfl⟩
  contents _ := .pure _
  now := .pure _
  newRunId := by
    rintro n _ rfl
    exact ⟨trivial, rfl⟩
  note _ := .pure _
  writeMessage _ := .pure _
  writeResult _ := .pure _

/-- Arguments that ask for a report, perhaps with a token. -/
def reporting (token : Option Text) : Arguments := ⟨none, [], token, none, true⟩

open Plain in
theorem execute_token_guarded :
    let after := execute (guarded none).recorded (reporting (some "alpha")) (0, [])
    let after' := execute (guarded (some " beta ")).recorded (reporting none) (0, [])
    after.1 = after'.1 ∧
      List.Forall₂ (Deed.Like (Request.Bear "alpha" "beta") fun _ _ => True) after.2.2
        after'.2.2 := by
  -- with the runs in place of their names, the kernel sees at once that they are the same
  dsimp only
  have hsame : SameButToken (guarded none).environment (guarded (some " beta ")).environment
      (reporting (some "alpha")) (reporting none) :=
    ⟨fun name hname => by simp only [guarded, if_neg hname], rfl, rfl, rfl, rfl⟩
  have ht : token? (guarded none).environment (reporting (some "alpha")) = some "alpha" := by
    decide
  have ht' : token? (guarded (some " beta ")).environment (reporting none) = some "beta" := by
    decide
  have hfit : isHeaderText "alpha" = isHeaderText "beta" := by decide
  have h := execute_token (guarded_akin none (some " beta ") "alpha" "beta") hsame ht ht' hfit
    (rfl : 0 = 0)
  exact ⟨h.2.1, h.2.2.1⟩

end Program

end RuleAudit
