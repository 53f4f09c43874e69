import RuleAudit.Proofs.Joining
import RuleAudit.Proofs.Run.Wire
import RuleAudit.Proofs.Text.Form

/-!
What a server reads in a request for series. Whatever stands in the selector, the target of the
request holds the four parameters that were meant, and no others.

* `Client.request?_target`: the target of a request with parameters;
* `Client.series_parameters`: the parameters that are read from the target of a request for series.
-/

namespace RuleAudit

open Text

/-- Parameters behind an address without a query are all of its query. -/
theorem Url.query_withParameters {u : Url} (h : u.query = none) {ps : List (Text × Text)}
    (hps : ps ≠ []) : (u.withParameters ps).query = some (Form.encodePairs ps) := by
  have hne : Form.encodePairs ps ≠ [] := by
    intro hnil
    have hread := Form.decodePairs_encodePairs ps
    rw [hnil] at hread
    exact hps hread.symm
  have hafter : (u.withParameters ps).query =
      if Form.encodePairs ps = [] then none else some (Form.encodePairs ps) := by
    unfold withParameters
    rw [h]
    rfl
  rw [hafter, if_neg hne]

theorem Url.path_withParameters (u : Url) (ps : List (Text × Text)) :
    (u.withParameters ps).path = u.path := rfl

/-- The path of an address that has been read has no question mark. -/
theorem Url.questionMark_notMem_path [Url.Idna] {u : Url} (h : u.Sound) : '?' ∉ u.path :=
  notMem_path (fun t ht => notMem_of_plain (h.segments t ht) (by decide)) (by decide)

namespace Client

variable {c : Client} {raw : Text}

/-- The target of a request with parameters: the path of the server, the path that is asked for, and
the parameters in form encoding. -/
theorem request?_target [Url.Idna] (h : Config.readUrl raw = .ok c.config.baseUrl)
    (hquery : c.config.baseUrl.query = none) (hfragment : c.config.baseUrl.fragment = none)
    {ps : List (Text × Text)} (hps : ps ≠ []) :
    ∃ r, c.request? seriesPath ps = some r ∧
      r.target = Config.trimEndSlashes c.config.baseUrl.path ++ '/' :: seriesPath ++
        '?' :: Form.encodePairs ps := by
  have hsound := Config.readUrl_sound h
  have hlow : ∀ d ∈ seriesPath, 0x20 < d.toNat := fun d hd =>
    Percent.isQuerySpecial_guards.toNat (seriesPath_attachable.query d hd)
  have hstart : Config.trimStartSlashes seriesPath = seriesPath := by decide
  let v := c.config.baseUrl.withTail (c.config.baseUrl.joined seriesPath)
  have hextends : v.Extends c.config.baseUrl seriesPath :=
    Url.withTail_joined_extends hsound (Config.readUrl_settled h) seriesPath_attachable hstart
  obtain ⟨hpath, hnone, -⟩ := hextends.path hquery hfragment
  have hrequest : c.request? seriesPath ps =
      some ⟨v.withParameters ps, c.authorization v, c.config.timeoutMs⟩ := by
    rw [request?_eq_map, Config.address?_eq_some hsound hlow]
    rfl
  refine ⟨_, hrequest, ?_⟩
  rw [Request.target, Url.path_withParameters, Url.query_withParameters hnone hps, hpath]
  rfl

/-- **The parameters of a request for series are read as they were meant.** A client of a server
whose address has neither query nor fragment sends one request. Behind the first question mark, the
target of the request has four parameters: the selector as it is, the start and the end of the time,
and the limit. Both the strict reading and the one that forgives find these, in this order. -/
theorem series_parameters [Url.Idna] [Wording] {W : Type}
    (h : Config.readUrl raw = .ok c.config.baseUrl) (hquery : c.config.baseUrl.query = none)
    (hfragment : c.config.baseUrl.fragment = none) (wire : Wire (StateM W)) (selector : Text)
    (stop : Instant) (x : Watched W) :
    let range := TimeRange.lifetimeUntil stop
    ∃ r reply q,
      ((c.backend wire.watched).series selector range x).2.acts = x.acts ++ [.sent r reply] ∧
      cut '?' r.target = (Config.trimEndSlashes c.config.baseUrl.path ++ '/' :: seriesPath, some q) ∧
      Form.readPairs? q = some (Lookup.parameters selector range) ∧
      Form.decodePairs q = ([("match[]", selector), ("start", Instant.earliest.render),
        ("end", stop.render), ("limit", ['1'])] : List (Text × Text)) := by
  intro range
  have hparameters : Lookup.parameters selector range ≠ [] := List.cons_ne_nil _ _
  obtain ⟨r, hr, htarget⟩ := request?_target h hquery hfragment hparameters
  obtain ⟨reply, w, hsent⟩ := ask_sent hr wire (.list .textMap) x
  have hmark : '?' ∉ Config.trimEndSlashes c.config.baseUrl.path ++ '/' :: seriesPath := by
    rw [List.mem_append, not_or]
    refine ⟨fun hmem => ?_, by decide⟩
    exact Url.questionMark_notMem_path (Config.readUrl_sound h)
      ((Text.trimEnd_prefix _ _).subset hmem)
  refine ⟨r, reply, _, ?_, ?_, Form.readPairs?_encodePairs hparameters,
    Form.decodePairs_encodePairs _⟩
  · dsimp only [backend]
    rw [hsent]
  · rw [htarget, cut_append hmark]

/-- A selector with signs that mean something in an address and in form encoding. -/
def markedSelector : Text := "\x7b__name__=\"a&limit=9#b+c%41 \u00e9\"\x7d"

open Plain in
theorem series_parameters_marked :
    ∃ c : Client, Config.readUrl "http://h/p/" = .ok c.config.baseUrl ∧
      c.config.baseUrl.query = none ∧ c.config.baseUrl.fragment = none ∧
      ∃ r reply q,
        ((c.backend (Wire.watched ⟨fun _ => pure (.error default), fun _ => pure ()⟩)).series
          markedSelector (.lifetimeUntil .earliest) (⟨(), []⟩ : Watched Unit)).2.acts =
            [] ++ [.sent r reply] ∧
        cut '?' r.target = (Config.trimEndSlashes c.config.baseUrl.path ++ '/' :: seriesPath, some q) ∧
        Form.decodePairs q = ([("match[]", markedSelector), ("start", Instant.earliest.render),
          ("end", Instant.earliest.render), ("limit", ['1'])] : List (Text × Text)) := by
  let c : Client := ⟨⟨⟨false, [], none, .name "h", none, ["p", []], none, none⟩, none, 1⟩, rfl⟩
  have hread : Config.readUrl "http://h/p/" = .ok c.config.baseUrl := by decide +kernel
  obtain ⟨r, reply, q, hsent, hcut, -, hpairs⟩ := series_parameters hread rfl rfl
    (Wire.mk (fun _ => pure (.error default)) fun _ => pure ()) markedSelector .earliest ⟨(), []⟩
  exact ⟨c, hread, rfl, rfl, r, reply, q, hsent, hcut, hpairs⟩

end Client

end RuleAudit
