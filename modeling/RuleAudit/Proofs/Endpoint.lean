import RuleAudit.Client
import RuleAudit.Program
import RuleAudit.Proofs.Envelope
import RuleAudit.Proofs.Url.Origin

/-!
The address of a server joined with a path is an address again, whatever the address of the server
looks like, so a client can send what it is asked for.

* `Config.address?_eq_some`: what the joined address is;
* `Program.configure_sound`: the address of a configuration is one that can be read;
* `Client.request?_eq_some`: the request that a client sends.
-/

namespace RuleAudit

/-! ### Joined addresses -/

/-- The address of a path of the server, if the joined address is one. -/
def Config.address? [Url.Idna] (c : Config) (path : Text) : Option Url :=
  match Url.read (c.endpoint path) with
  | .ok (.web u) => some u
  | _ => none

theorem Config.address?_congr [Url.Idna] {c c' : Config} (h : c.baseUrl = c'.baseUrl)
    (path : Text) : c.address? path = c'.address? path := by
  rw [address?, address?, endpoint, endpoint, h]

theorem Client.request?_eq_map [Url.Idna] (c : Client) (path : Text) (ps : List (Text × Text)) :
    c.request? path ps = (c.config.address? path).map fun u =>
      ⟨u.withParameters ps, c.authorization u, c.config.timeoutMs⟩ := by
  unfold request? Config.address?
  generalize Url.read (c.config.endpoint path) = reading
  rcases reading with e | u | scheme <;> rfl

namespace Url

theorem mem_marked {mark c : Char} {t : Option Text} (h : c ∈ marked mark t) :
    c = mark ∨ ∃ s, t = some s ∧ c ∈ s := by
  cases t with
  | none => cases h
  | some s => exact (List.mem_cons.1 h).imp_right fun h => ⟨s, rfl, h⟩

theorem mem_tail [Url.Idna] {u : Url} (hu : u.Sound) {c : Char} (hc : c ∈ u.tail) :
    0x20 < c.toNat := by
  rw [tail, List.mem_append, List.mem_append] at hc
  obtain (hc | hc) | hc := hc
  · obtain ⟨s, hs, hc⟩ := List.mem_flatMap.1 hc
    obtain rfl | hc := List.mem_cons.1 hc
    · decide
    · exact Text.Percent.isPathSpecial_guards.toNat (hu.segments s hs c hc)
  · obtain rfl | ⟨s, hs, hc⟩ := mem_marked hc
    · decide
    · exact Text.Percent.isQuerySpecial_guards.toNat (hu.query s hs c hc)
  · obtain rfl | ⟨s, hs, hc⟩ := mem_marked hc
    · decide
    · exact Text.Percent.isFragmentSpecial_guards.toNat (hu.fragment s hs c hc)

theorem head?_marked {mark : Char} {t : Option Text} : ∀ c ∈ (marked mark t).head?, c = mark := by
  cases t <;> simp [marked]

theorem head?_tail (u : Url) : ∀ c ∈ u.tail.head?, c = '/' ∨ c = '?' ∨ c = '#' := by
  intro c hc
  unfold tail path at hc
  cases hs : u.segments with
  | cons s rest =>
    rw [hs] at hc
    exact .inl (Option.some.inj hc).symm
  | nil =>
    rw [hs, List.flatMap_nil, List.nil_append] at hc
    cases hq : u.query with
    | some q =>
      rw [hq] at hc
      exact .inr (.inl (Option.some.inj hc).symm)
    | none =>
      rw [hq] at hc
      exact .inr (.inr (head?_marked c hc))

theorem getLast?_origin [Url.Idna] {u : Url} (hu : u.Sound) :
    ∀ c ∈ u.origin.getLast?, (c == '/') = false := by
  intro c hc
  rw [origin, List.getLast?_append_of_ne_nil _ (by simp [hostText_ne_nil hu]),
    List.getLast?_append_of_ne_nil _ (hostText_ne_nil hu)] at hc
  have hends := (mem_hostText hu (List.mem_of_mem_getLast? hc)).2.2 (.web u.secure)
  simp only [endsHost, Bool.or_eq_false_iff] at hends
  exact hends.1.1.1

/-- What a joined address has from its path on. -/
def joined (u : Url) (path : Text) : Text :=
  Config.trimEndSlashes u.tail ++ '/' :: Config.trimStartSlashes path

theorem head?_joined (u : Url) (path : Text) :
    ∀ c ∈ (u.joined path).head?, c = '/' ∨ c = '?' ∨ c = '#' := by
  intro c hc
  rw [joined] at hc
  have hprefix : Config.trimEndSlashes u.tail <+: u.tail := Text.trimEnd_prefix _ _
  revert hprefix hc
  generalize Config.trimEndSlashes u.tail = trimmed
  intro hc hprefix
  cases trimmed with
  | nil => exact .inl (Option.some.inj hc).symm
  | cons d rest =>
    obtain rfl : d = c := Option.some.inj hc
    obtain ⟨more, hmore⟩ := hprefix
    exact head?_tail u d (by rw [← hmore]; rfl)

theorem mem_joined [Url.Idna] {u : Url} (hu : u.Sound) {path : Text}
    (hpath : ∀ c ∈ path, 0x20 < c.toNat) : ∀ c ∈ u.joined path, 0x20 < c.toNat := by
  intro c hc
  rw [joined, List.mem_append, List.mem_cons] at hc
  obtain hc | rfl | hc := hc
  · exact mem_tail hu ((Text.trimEnd_prefix _ _).subset hc)
  · decide
  · exact hpath c (List.dropWhile_subset _ hc)

end Url

namespace Config

theorem endpoint_eq [Url.Idna] {c : Config} (h : c.baseUrl.Sound) (path : Text) :
    c.endpoint path = c.baseUrl.origin ++ c.baseUrl.joined path := by
  rw [endpoint, Url.render_eq, trimEndSlashes, Text.trimEnd_append (Url.getLast?_origin h),
    List.append_assoc]
  rfl

/-- **A joined address is an address**, with the scheme, the user, the host and the port of the
server. -/
theorem address?_eq_some [Url.Idna] {c : Config} (h : c.baseUrl.Sound) {path : Text}
    (hpath : ∀ c ∈ path, 0x20 < c.toNat) :
    c.address? path = some (c.baseUrl.withTail (c.baseUrl.joined path)) := by
  rw [address?, endpoint_eq h, Url.read_origin h (Url.head?_joined _ _) (Url.mem_joined h hpath)]

end Config

/-! ### Configurations -/

namespace Config

/-- The text of the address, from the command line or else from the look-up. -/
def source (o : Overrides) (lookup : Text → Option Text) : Except Error Text :=
  match (o.url.map Text.trim).filter (· ≠ []) <|> lookup urlVariable with
  | some raw => .ok raw
  | none => .error (.config ("missing backend URL (pass --url or set " ++ urlVariable ++ ")"))

/-- The time of a request, from the command line or else from the look-up. -/
def timeout (o : Overrides) (lookup : Text → Option Text) : Except Error Nat :=
  match o.timeoutMs with
  | some n => .ok n
  | none =>
    match lookup timeoutVariable with
    | some raw => readTimeout raw
    | none => .ok defaultTimeoutMs

/-- A configuration is resolved setting by setting. -/
theorem resolve_eq [Url.Idna] (o : Overrides) (lookup : Text → Option Text) :
    resolve o lookup = (do
      let u ← source o lookup >>= readUrl
      let n ← timeout o lookup
      if n = 0 then .error (.config "backend timeout must be at least 1ms")
      else .ok ⟨u, o.bearerToken.filter (!Text.isAllBlank ·) <|> lookup tokenVariable, n⟩) := by
  unfold resolve source timeout
  rcases (o.url.map Text.trim).filter (· ≠ []) <|> lookup urlVariable with _ | raw
  · rfl
  simp only [pure_bind]
  change _ = readUrl raw >>= _
  rcases readUrl raw with e | u
  · rfl
  rcases o.timeoutMs with _ | n
  · rcases lookup timeoutVariable with _ | raw'
    · rfl
    · dsimp only
      rcases readTimeout raw' with e | n
      · rfl
      · cases n <;> rfl
  · cases n <;> rfl

theorem readUrl_sound [Url.Idna] {raw : Text} {u : Url} (h : readUrl raw = .ok u) : u.Sound := by
  unfold readUrl at h
  split at h
  next => cases h
  next => cases h
  next hread =>
    cases h
    exact Url.read_sound hread

theorem resolve_sound [Url.Idna] {o : Overrides} {lookup : Text → Option Text} {c : Config}
    (h : resolve o lookup = .ok c) : c.baseUrl.Sound := by
  simp only [resolve_eq, except_bind_eq_ok] at h
  obtain ⟨u, ⟨raw, -, hu⟩, n, -, hc⟩ := h
  split at hc
  next => cases hc
  next =>
    cases hc
    exact readUrl_sound hu

end Config

/-! ### Requests -/

/-- The address of the server of a configured client can be read. -/
theorem Program.configure_sound [Url.Idna] {environment : Text → Option Text} {a : Arguments}
    {c : Client} (h : configure environment a = .ok c) : c.config.baseUrl.Sound := by
  unfold configure at h
  cases hconfig : Config.resolveIn environment (overrides a) with
  | error e =>
    rw [hconfig] at h
    cases h
  | ok config =>
    rw [hconfig] at h
    have hc : Client.ofConfig config = .ok c := h
    unfold Client.ofConfig at hc
    split at hc
    next =>
      cases hc
      exact Config.resolve_sound hconfig
    next => cases hc

/-- A client whose address can be read sends what it is asked for. -/
theorem Client.request?_eq_some [Url.Idna] {c : Client} (h : c.config.baseUrl.Sound) {path : Text}
    (hpath : ∀ d ∈ path, 0x20 < d.toNat) (ps : List (Text × Text)) :
    ∃ r, c.request? path ps = some r := by
  rw [request?_eq_map, Config.address?_eq_some h hpath]
  exact ⟨_, rfl⟩

theorem Client.request?_rules [Url.Idna] {c : Client} (h : c.config.baseUrl.Sound) :
    ∃ r, c.request? rulesPath [] = some r := by
  have hall : rulesPath.all (0x20 < ·.toNat) = true := by decide
  exact request?_eq_some h (by simpa only [List.all_eq_true, decide_eq_true_eq] using hall) []

theorem Client.request?_series [Url.Idna] {c : Client} (h : c.config.baseUrl.Sound)
    (ps : List (Text × Text)) : ∃ r, c.request? seriesPath ps = some r := by
  have hall : seriesPath.all (0x20 < ·.toNat) = true := by decide
  exact request?_eq_some h (by simpa only [List.all_eq_true, decide_eq_true_eq] using hall) ps

end RuleAudit
