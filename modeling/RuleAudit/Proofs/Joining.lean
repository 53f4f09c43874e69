import RuleAudit.Proofs.Endpoint
import RuleAudit.Proofs.Url.Path

/-!
Where a path ends up that is joined to the address of a server: behind the path of the server if the
address ends with that, and otherwise inside its query or its fragment.

* `Url.Extends`: how a joined address comes about;
* `Config.endpoint_parts`: every joined address comes about so, and its path is the joined path
  exactly if the address of the server has neither query nor fragment.
-/

namespace RuleAudit

open Text

/-! ### Joined parts -/

namespace Url

/-- A path that can be written behind any part of an address, and ends with a name. -/
structure Attachable (p : Text) : Prop where
  settled : Settled (split '/' p)
  last : ∃ c, p.getLast? = some c ∧ c ≠ '/'
  query : ∀ c ∈ p, Percent.isQuerySpecial c = false
  fragment : ∀ c ∈ p, Percent.isFragmentSpecial c = false

/-- The parts of the address `v`, which is the address `u` with the path `p` written behind it. -/
structure Extends (v u : Url) (p : Text) : Prop where
  scheme : v.scheme = u.scheme
  user : v.user = u.user
  password : v.password = u.password
  host : v.host = u.host
  port : v.port = u.port
  /-- The path of an address that ends with its path goes on. -/
  path : u.query = none → u.fragment = none →
    v.path = Config.trimEndSlashes u.path ++ '/' :: p ∧ v.query = none ∧ v.fragment = none
  /-- Behind a query, it is the query that goes on. -/
  query : ∀ q, u.query = some q → u.fragment = none →
    v.path = u.path ∧ v.query = some (Config.trimEndSlashes q ++ '/' :: p) ∧ v.fragment = none
  /-- Behind a fragment, it is the fragment that goes on. -/
  fragment : ∀ f, u.fragment = some f →
    v.path = u.path ∧ v.query = u.query ∧ v.fragment = some (Config.trimEndSlashes f ++ '/' :: p)

section

variable {u : Url} {path p : Text}

theorem trimEnd_marked (a : Text) {mark : Char} (hmark : mark ≠ '/') (t : Text) :
    Config.trimEndSlashes (a ++ mark :: t) = a ++ mark :: Config.trimEndSlashes t := by
  have hlast : ∀ c ∈ (a ++ [mark]).getLast?, (c == '/') = false := by
    intro c hc
    obtain rfl : mark = c := by simpa using hc
    simpa using hmark
  have htrim : trimEnd (· == '/') (a ++ [mark] ++ t) = a ++ [mark] ++ trimEnd (· == '/') t :=
    trimEnd_append hlast
  simpa [Config.trimEndSlashes] using htrim

theorem forall_mem_goesOn {q : Char → Bool} (hslash : q '/' = false) {t : Text}
    (ht : ∀ c ∈ t, q c = false) (hp : ∀ c ∈ p, q c = false) :
    ∀ c ∈ Config.trimEndSlashes t ++ '/' :: p, q c = false := by
  intro c hc
  rcases List.mem_append.1 hc with hc | hc
  · exact ht c ((Text.trimEnd_prefix _ _).subset hc)
  · rcases List.mem_cons.1 hc with rfl | hc
    · exact hslash
    · exact hp c hc

/-- What is written behind a path is read as more segments. -/
theorem withTail_joined_path (hu : Settled u.segments) (hp : Attachable p)
    (hpath : Config.trimStartSlashes path = p) (hquery : u.query = none)
    (hfragment : u.fragment = none) :
    ∃ ts, u.withTail (u.joined path) = { u with segments := ts } ∧
      ts.flatMap ('/' :: ·) = Config.trimEndSlashes u.path ++ '/' :: p := by
  obtain ⟨us, hus, htrim⟩ := trimEnd_path hu.slash
  have hadded : (split '/' p).flatMap ('/' :: ·) = '/' :: p := by
    rw [path_eq_join (split_ne_nil _ _)]
    exact congrArg _ (join_split '/' p)
  have htext : (us ++ split '/' p).flatMap ('/' :: ·) = Config.trimEndSlashes u.path ++ '/' :: p := by
    rw [List.flatMap_append, hadded, ← htrim]
    rfl
  have htail : u.tail = u.path := by simp [tail, hquery, hfragment, marked]
  have hwritten : u.joined path = (us ++ split '/' p).flatMap ('/' :: ·) ++ marked '?' none ++
      marked '#' none := by
    rw [joined, htail, hpath, htext]
    simp [marked]
  refine ⟨us ++ split '/' p, ?_, htext⟩
  rw [hwritten, withTail_written u (hu.append hp.settled hus) (by simp) (by simp), hquery,
    hfragment]

/-- What is written behind a query is read as more of the query. -/
theorem withTail_joined_query [Url.Idna] (hu : u.Sound) (hs : Settled u.segments)
    (hp : Attachable p) (hpath : Config.trimStartSlashes path = p) {q : Text}
    (hquery : u.query = some q) (hfragment : u.fragment = none) :
    u.withTail (u.joined path) = { u with query := some (Config.trimEndSlashes q ++ '/' :: p) } := by
  have htail : u.tail = u.path ++ '?' :: q := by simp [tail, hquery, hfragment, marked]
  have hwritten : u.joined path = u.segments.flatMap ('/' :: ·) ++
      marked '?' (some (Config.trimEndSlashes q ++ '/' :: p)) ++ marked '#' none := by
    rw [joined, htail, hpath, trimEnd_marked _ (by decide)]
    simp [marked, Url.path]
  rw [hwritten, withTail_written u hs _ (by simp), hfragment]
  intro t ht
  obtain rfl := Option.some.inj ht
  exact forall_mem_goesOn (by decide) (hu.query q hquery) hp.query

/-- What is written behind a fragment is read as more of the fragment. -/
theorem withTail_joined_fragment [Url.Idna] (hu : u.Sound) (hs : Settled u.segments)
    (hp : Attachable p) (hpath : Config.trimStartSlashes path = p) {f : Text}
    (hfragment : u.fragment = some f) :
    u.withTail (u.joined path) =
      { u with fragment := some (Config.trimEndSlashes f ++ '/' :: p) } := by
  have htail : u.tail = (u.path ++ marked '?' u.query) ++ '#' :: f := by
    simp [tail, hfragment, marked]
  have hwritten : u.joined path = u.segments.flatMap ('/' :: ·) ++ marked '?' u.query ++
      marked '#' (some (Config.trimEndSlashes f ++ '/' :: p)) := by
    rw [joined, htail, hpath, trimEnd_marked _ (by decide)]
    simp [marked, Url.path]
  rw [hwritten, withTail_written u hs hu.query]
  intro t ht
  obtain rfl := Option.some.inj ht
  exact forall_mem_goesOn (by decide) (hu.fragment f hfragment) hp.fragment

/-- Nothing before the path is read from another text. -/
theorem withTail_extends {v : Url} {t : Text} (hv : u.withTail t = v)
    (hpath : u.query = none → u.fragment = none →
      v.path = Config.trimEndSlashes u.path ++ '/' :: p ∧ v.query = none ∧ v.fragment = none)
    (hquery : ∀ q, u.query = some q → u.fragment = none →
      v.path = u.path ∧ v.query = some (Config.trimEndSlashes q ++ '/' :: p) ∧ v.fragment = none)
    (hfragment : ∀ f, u.fragment = some f → v.path = u.path ∧ v.query = u.query ∧
      v.fragment = some (Config.trimEndSlashes f ++ '/' :: p)) : v.Extends u p := by
  subst hv
  exact ⟨rfl, rfl, rfl, rfl, rfl, hpath, hquery, hfragment⟩

/-- A joined address comes about as the address of the server with the path behind it. -/
theorem withTail_joined_extends [Url.Idna] (hu : u.Sound) (hs : Settled u.segments)
    (hp : Attachable p) (hpath : Config.trimStartSlashes path = p) :
    (u.withTail (u.joined path)).Extends u p := by
  apply withTail_extends rfl
  · intro hquery hfragment
    obtain ⟨ts, hts, htext⟩ := withTail_joined_path hs hp hpath hquery hfragment
    rw [hts]
    exact ⟨htext, hquery, hfragment⟩
  · intro q hquery hfragment
    rw [withTail_joined_query hu hs hp hpath hquery hfragment]
    exact ⟨rfl, rfl, hfragment⟩
  · intro f hfragment
    rw [withTail_joined_fragment hu hs hp hpath hfragment]
    exact ⟨rfl, rfl, rfl⟩

end

/-- A joined address has the joined path exactly if the path could be written behind that of the
server. -/
theorem Extends.path_iff {u v : Url} {p : Text} (h : v.Extends u p) (hp : Attachable p) :
    v.path = Config.trimEndSlashes u.path ++ '/' :: p ↔ u.query = none ∧ u.fragment = none := by
  constructor
  · intro hpath
    by_contra hnot
    have hsame : v.path = u.path := by
      rcases hf : u.fragment with _ | f
      · rcases hq : u.query with _ | q
        · exact absurd ⟨hq, hf⟩ hnot
        · exact (h.query q hq hf).1
      · exact (h.fragment f hf).1
    rw [hsame] at hpath
    -- the path would end with `p`, so there would be no slashes to be taken from its end
    have hlast : ∀ c ∈ (Config.trimEndSlashes u.path ++ '/' :: p).getLast?, (c == '/') = false := by
      obtain ⟨c, hc, hne⟩ := hp.last
      intro d hd
      rw [List.getLast?_append_of_ne_nil _ (by simp), List.getLast?_cons, hc] at hd
      obtain rfl : c = d := by simpa using hd
      simpa using hne
    have htrim : trimEnd (· == '/') u.path = u.path := by
      have hself := trimEnd_of_getLast? hlast
      rwa [← hpath] at hself
    have hlength := congrArg List.length hpath
    rw [Config.trimEndSlashes, htrim] at hlength
    simp at hlength
  · rintro ⟨hquery, hfragment⟩
    exact (h.path hquery hfragment).1

end Url

/-! ### The paths of the client -/

namespace Client

theorem attachable_of_all {p : Text}
    (hnamed : (split '/' p).all fun t => !(Url.isDoubleDot t || Url.isSingleDot t))
    (hplain : p.all fun c => !(c == '\\' || Percent.isPathSpecial c || Percent.isQuerySpecial c))
    (hlast : ∃ c, p.getLast? = some c ∧ c ≠ '/') : Url.Attachable p := by
  have hchar : ∀ c ∈ p, c ≠ '\\' ∧ Percent.isPathSpecial c = false ∧
      Percent.isQuerySpecial c = false := by
    intro c hc
    simpa [and_assoc] using List.all_eq_true.1 hplain c hc
  have hmem : ∀ t ∈ split '/' p, ∀ c ∈ t, c ∈ p := fun t ht c hc => mem_of_mem_split ht hc
  refine ⟨⟨split_ne_nil _ _, ?_, fun t ht => notMem_of_mem_split ht, ?_, ?_⟩, hlast,
    fun c hc => (hchar c hc).2.2, ?_⟩
  · intro t ht
    simpa [Url.IsNamed] using List.all_eq_true.1 hnamed t ht
  · intro t ht hc
    exact (hchar _ (hmem t ht _ hc)).1 rfl
  · exact fun t ht c hc => (hchar c (hmem t ht c hc)).2.1
  · intro c hc
    have hspecial := (hchar c hc).2.1
    simp only [Percent.isPathSpecial, Bool.or_eq_false_iff] at hspecial
    exact hspecial.1

theorem rulesPath_attachable : Url.Attachable rulesPath :=
  attachable_of_all (by decide) (by decide) ⟨'s', rfl, by decide⟩

theorem seriesPath_attachable : Url.Attachable seriesPath :=
  attachable_of_all (by decide) (by decide) ⟨'s', rfl, by decide⟩

end Client

namespace Config

theorem trimStartSlashes_replicate (n : Nat) {p : Text} (hp : ∀ c ∈ p.head?, c ≠ '/') :
    trimStartSlashes (List.replicate n '/' ++ p) = p := by
  refine dropWhile_append_of_head ?_ ?_
  · intro c hc
    simp [List.eq_of_mem_replicate hc]
  · intro c hc
    simpa using hp c hc

theorem readUrl_settled [Url.Idna] {raw : Text} {u : Url} (h : readUrl raw = .ok u) :
    Url.Settled u.segments := by
  unfold readUrl at h
  split at h
  next => cases h
  next => cases h
  next hread =>
    cases h
    exact Url.read_settled hread

/-- **The parts of a joined address**: if the address of a server is joined with a path of the
client, with slashes before it or not, then what comes out is an address. It has the scheme, the
user, the host and the port of the server, and it has the joined path exactly if the server is given
without query and fragment. With them, the path has been written into the one that comes last. -/
theorem endpoint_parts [Url.Idna] {raw : Text} {c : Config} (h : readUrl raw = .ok c.baseUrl)
    {p : Text} (hp : p = Client.rulesPath ∨ p = Client.seriesPath) (n : Nat) :
    ∃ v : Url, Url.read (c.endpoint (List.replicate n '/' ++ p)) = .ok (.web v) ∧
      v.Extends c.baseUrl p ∧
      (v.path = trimEndSlashes c.baseUrl.path ++ '/' :: p ↔
        c.baseUrl.query = none ∧ c.baseUrl.fragment = none) := by
  have hattach : Url.Attachable p := by
    rcases hp with rfl | rfl
    · exact Client.rulesPath_attachable
    · exact Client.seriesPath_attachable
  have hstart : ∀ d ∈ p.head?, d ≠ '/' := by
    intro d hd
    have hd : 'a' = d := by
      rcases hp with rfl | rfl <;> exact Option.some.inj hd
    rw [← hd]
    decide
  have hpath : trimStartSlashes (List.replicate n '/' ++ p) = p :=
    trimStartSlashes_replicate n hstart
  have hsound := readUrl_sound h
  have hextends := Url.withTail_joined_extends hsound (readUrl_settled h) hattach hpath
  refine ⟨_, ?_, hextends, hextends.path_iff hattach⟩
  have hlow : ∀ d ∈ List.replicate n '/' ++ p, 0x20 < d.toNat := by
    intro d hd
    rcases List.mem_append.1 hd with hd | hd
    · rw [List.eq_of_mem_replicate hd]
      decide
    · exact Percent.isQuerySpecial_guards.toNat (hattach.query d hd)
  rw [endpoint_eq hsound, Url.read_origin hsound (Url.head?_joined _ _) (Url.mem_joined hsound hlow)]

open Plain in
theorem endpoint_parts_ending :
    ∃ c : Config, readUrl "HTTP://me:pw@h:81/a//" = .ok c.baseUrl ∧
      ∃ v : Url, Url.read (c.endpoint "//api/v1/series") = .ok (.web v) ∧
        v.Extends c.baseUrl Client.seriesPath ∧ v.path = "/a/api/v1/series" := by
  let c : Config := ⟨⟨false, "me", some "pw", .name "h", some 81, ["a", [], []], none, none⟩, none, 1⟩
  have hread : readUrl "HTTP://me:pw@h:81/a//" = .ok c.baseUrl := by decide +kernel
  obtain ⟨v, hv, hextends, hpath⟩ := endpoint_parts hread (.inr rfl) 2
  exact ⟨c, hread, v, hv, hextends, hpath.2 ⟨rfl, rfl⟩⟩

open Plain in
/-- **A path behind a query is lost**: the joined address keeps the path of the server as it is. -/
theorem endpoint_queried :
    ∃ u v : Url, readUrl "http://h/p?x" = .ok u ∧
      Url.read (endpoint ⟨u, none, 1⟩ Client.rulesPath) = .ok (.web v) ∧
      v.path = "/p" ∧ v.query = some "x/api/v1/rules" ∧
      v.path ≠ trimEndSlashes u.path ++ '/' :: Client.rulesPath := by
  refine ⟨⟨false, [], none, .name "h", none, ["p"], some "x", none⟩,
    ⟨false, [], none, .name "h", none, ["p"], some "x/api/v1/rules", none⟩, ?_, ?_, ?_, ?_, ?_⟩
  · decide +kernel
  · decide +kernel
  · decide
  · decide
  · decide

end Config

end RuleAudit
