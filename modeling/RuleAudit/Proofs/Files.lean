import Mathlib.Data.List.Forall2
import RuleAudit.Proofs.Envelope
import RuleAudit.Proofs.Source
import RuleAudit.Proofs.Text.Utf8

/-!
# Rule files are all or nothing

Queries come from a list of rule files, which may name a file more than once. Either every file can
be read and they come from all of them, one file after the other, or there are none and the first
file that cannot be read is told.

* `RuleFile.Readable`, `RuleFile.Yields`, `RuleFile.Refuses`: what a path leads to;
* `RuleFile.readAll_eq_ok`: what comes from files that can all be read;
* `Source.queries_of_files`: all or nothing.
-/

namespace RuleAudit

namespace RuleFile

/-! ### What a path leads to -/

/-- The bytes that paths lead to, or in words why there are none. -/
abbrev FileSystem := Text → Except Text (List UInt8)

section

variable [Wording] (files : FileSystem) (path : Text)

/-- The path leads to the bytes of a text that is a rule file. -/
def Readable : Prop := ∃ t f, files path = .ok (Text.Utf8.encode t) ∧ read t = .ok f

/-- These are the queries of the file, each with the path of the file. -/
structure Yields (qs : List RuleQuery) : Prop where
  queries : ∃ t, files path = .ok (Text.Utf8.encode t) ∧ readQueries path t = .ok qs
  file : ∀ q ∈ qs, q.file = path

/-- Why there are no queries: there are no bytes; they are not those of a text; or the text is no
rule file. -/
inductive Refuses : Error → Prop
  | unreadable {reason : Text} (h : files path = .error reason) :
    Refuses (.io ("failed to read rule file " ++ path ++ ": " ++ reason))
  | notText {bytes : List UInt8} (h : files path = .ok bytes)
    (htext : ∀ t, bytes ≠ Text.Utf8.encode t) :
    Refuses (.io ("failed to read rule file " ++ path ++ ": "
      ++ "stream did not contain valid UTF-8"))
  | notRules {t : Text} (h : files path = .ok (Text.Utf8.encode t))
    (hread : ∀ f, read t ≠ .ok f) : Refuses (.yaml (Wording.yaml t))

end

/-! ### One file -/

section

variable {files : FileSystem} {path : Text} {qs : List RuleQuery} {e : Error}

theorem file_of_mem_queries {f : RuleFile} {q : RuleQuery} (h : q ∈ f.queries path) :
    q.file = path := by
  obtain ⟨g, -, hq⟩ := List.mem_flatMap.1 h
  obtain ⟨entry, -, hq⟩ := List.mem_filterMap.1 hq
  obtain ⟨role, -, rfl⟩ := Option.map_eq_some_iff.1 hq
  rfl

theorem readQueries_eq_ok_iff_read [Wording] {t : Text} :
    readQueries path t = .ok qs ↔ ∃ f, read t = .ok f ∧ qs = f.queries path := by
  rw [readQueries, except_bind_eq_ok]
  constructor
  · rintro ⟨f, hf, h⟩
    cases h
    exact ⟨f, hf, rfl⟩
  · rintro ⟨f, hf, rfl⟩
    exact ⟨f, hf, rfl⟩

theorem read_eq_error [Wording] {t : Text} (h : read t = .error e) :
    e = .yaml (Wording.yaml t) := by
  unfold read at h
  split at h <;> cases h
  rfl

theorem decode_eq_ok {t : Text} :
    decode path (files path) = .ok t ↔ files path = .ok (Text.Utf8.encode t) := by
  unfold decode
  cases files path with
  | error reason => simp
  | ok bytes =>
    dsimp only
    rw [Except.ok.injEq, ← Text.Utf8.decode?_eq_some_iff]
    cases Text.Utf8.decode? bytes <;> simp

theorem queriesIn_eq_ok [Wording] :
    queriesIn path (files path) = .ok qs ↔ Yields files path qs := by
  rw [queriesIn, except_bind_eq_ok]
  constructor
  · rintro ⟨t, ht, hqs⟩
    refine ⟨⟨t, decode_eq_ok.1 ht, hqs⟩, ?_⟩
    obtain ⟨f, -, rfl⟩ := readQueries_eq_ok_iff_read.1 hqs
    intro q hq
    exact file_of_mem_queries hq
  · rintro ⟨⟨t, ht, hqs⟩, -⟩
    exact ⟨t, decode_eq_ok.2 ht, hqs⟩

theorem exists_yields_iff [Wording] : (∃ qs, Yields files path qs) ↔ Readable files path := by
  constructor
  · rintro ⟨qs, ⟨t, ht, hqs⟩, -⟩
    obtain ⟨f, hf, -⟩ := readQueries_eq_ok_iff_read.1 hqs
    exact ⟨t, f, ht, hf⟩
  · rintro ⟨t, f, ht, hf⟩
    exact ⟨_, ⟨t, ht, readQueries_eq_ok_iff_read.2 ⟨f, hf, rfl⟩⟩, fun q hq => file_of_mem_queries hq⟩

/-- **A file has no queries for one of three reasons.** -/
theorem queriesIn_eq_error [Wording] :
    queriesIn path (files path) = .error e ↔ Refuses files path e := by
  constructor
  · intro h
    rw [queriesIn] at h
    obtain hdecode | ⟨t, ht, hread⟩ := except_bind_eq_error.1 h
    · unfold decode at hdecode
      split at hdecode
      next reason hfile =>
        cases hdecode
        exact .unreadable hfile
      next bytes hfile =>
        split at hdecode
        next => cases hdecode
        next hnone =>
          cases hdecode
          refine .notText hfile fun t ht => ?_
          rw [ht, Text.Utf8.decode?_encode] at hnone
          cases hnone
    · rw [readQueries] at hread
      obtain hread | ⟨f, -, hread⟩ := except_bind_eq_error.1 hread
      · cases read_eq_error hread
        refine .notRules (decode_eq_ok.1 ht) fun f hf => ?_
        cases hread.symm.trans hf
      · cases hread
  · intro h
    rw [queriesIn]
    cases h with
    | unreadable h =>
      rw [h]
      rfl
    | @notText bytes h htext =>
      have hnone : Text.Utf8.decode? bytes = none := by
        rw [Option.eq_none_iff_forall_ne_some]
        intro t ht
        exact htext t (Text.Utf8.decode?_eq_some_iff.1 ht)
      rw [h, decode, hnone]
      rfl
    | @notRules t h hread =>
      have herror : read t = .error (.yaml (Wording.yaml t)) := by
        cases hresult : read t with
        | error e => rw [read_eq_error hresult]
        | ok f => exact absurd hresult (hread f)
      rw [decode_eq_ok.2 h]
      change readQueries path t = .error (.yaml (Wording.yaml t))
      rw [readQueries, herror]
      rfl

end

/-! ### Several files -/

section

variable {W : Type} {files : FileSystem} {contents : Text → StateM W (Except Text (List UInt8))}

/-- From a file system that stays as it is, the queries of all files come one after the other. -/
theorem readAll_eq_ok [Wording] (h : ∀ path w, (contents path w).1 = files path)
    {paths : List Text} {w : W} {qs : List RuleQuery} :
    (readAll contents paths w).1 = .ok qs ↔
      ∃ parts, List.Forall₂ (Yields files) paths parts ∧ qs = parts.flatten := by
  induction paths generalizing w qs with
  | nil =>
    constructor
    · intro hqs
      cases hqs
      exact ⟨[], .nil, rfl⟩
    · rintro ⟨parts, hparts, rfl⟩
      cases hparts
      rfl
  | cons path rest ih =>
    cases hpath : queriesIn path (contents path w).1 with
    | error e =>
      rw [readAll_cons_error hpath]
      refine iff_of_false (fun hqs => ?_) ?_
      · cases hqs
      · rintro ⟨parts, hparts, -⟩
        cases hparts with
        | cons hfirst _ =>
          rw [h, queriesIn_eq_ok.2 hfirst] at hpath
          cases hpath
    | ok part =>
      rw [readAll_cons_ok hpath]
      rw [h, queriesIn_eq_ok] at hpath
      constructor
      · intro hqs
        cases hrest : (readAll contents rest (contents path w).2).1 with
        | error e =>
          rw [hrest] at hqs
          cases hqs
        | ok more =>
          rw [hrest] at hqs
          cases hqs
          obtain ⟨parts, hparts, rfl⟩ := ih.1 hrest
          exact ⟨part :: parts, .cons hpath hparts, rfl⟩
      · rintro ⟨parts, hparts, rfl⟩
        cases hparts with
        | cons hfirst hrest =>
          -- a file yields no queries but its own
          have hsame := (queriesIn_eq_ok.2 hpath).symm.trans (queriesIn_eq_ok.2 hfirst)
          cases hsame
          dsimp only
          rw [ih.2 ⟨_, hrest, rfl⟩]
          rfl

theorem exists_readAll_iff [Wording] (h : ∀ path w, (contents path w).1 = files path)
    {paths : List Text} {w : W} :
    (∃ qs, (readAll contents paths w).1 = .ok qs) ↔ ∀ path ∈ paths, Readable files path := by
  simp only [readAll_eq_ok h, ← exists_yields_iff]
  constructor
  · rintro ⟨_, parts, hparts, -⟩
    induction hparts with
    | nil => simp
    | cons hfirst _ ih => exact List.forall_mem_cons.2 ⟨⟨_, hfirst⟩, ih⟩
  · intro hall
    induction paths with
    | nil => exact ⟨[], [], .nil, rfl⟩
    | cons path rest ih =>
      obtain ⟨⟨qs, hqs⟩, hrest⟩ := List.forall_mem_cons.1 hall
      obtain ⟨_, parts, hparts, rfl⟩ := ih hrest
      exact ⟨_, qs :: parts, .cons hqs hparts, rfl⟩

end

end RuleFile

/-! ### All or nothing -/

/-- **Rule files are all or nothing.** Queries come from files exactly if all of them can be read as
rule files; they are then those of each file in turn, with its path, one file after the other. There
are none exactly if some file refuses and all before it can be read; then its reason is told,
whatever the files behind it are like. -/
theorem Source.queries_of_files [Wording] {W : Type} {files : RuleFile.FileSystem}
    {contents : Text → StateM W (Except Text (List UInt8))}
    (h : ∀ path w, (contents path w).1 = files path) (b : Backend (StateM W))
    (note : LogRecord → StateM W Unit) (paths : List Text) (w : W) :
    let result := ((Source.files paths).queries b note contents w).1
    ((∃ qs, result = .ok qs) ↔ ∀ path ∈ paths, RuleFile.Readable files path) ∧
    (∀ qs, result = .ok qs ↔
      ∃ parts, List.Forall₂ (RuleFile.Yields files) paths parts ∧ qs = parts.flatten) ∧
    ∀ e, result = .error e ↔
      ∃ before path after, paths = before ++ path :: after ∧
        (∀ p ∈ before, RuleFile.Readable files p) ∧ RuleFile.Refuses files path e := by
  intro result
  refine ⟨RuleFile.exists_readAll_iff h, fun qs => RuleFile.readAll_eq_ok h, fun e => ?_⟩
  refine RuleFile.readAll_eq_error.trans ?_
  constructor
  · rintro ⟨before, path, after, qs, hpaths, hbefore, hpath⟩
    rw [h, RuleFile.queriesIn_eq_error] at hpath
    exact ⟨before, path, after, hpaths, (RuleFile.exists_readAll_iff h).1 ⟨qs, hbefore⟩, hpath⟩
  · rintro ⟨before, path, after, hpaths, hbefore, hpath⟩
    obtain ⟨qs, hqs⟩ := (RuleFile.exists_readAll_iff h).2 hbefore
    refine ⟨before, path, after, qs, hpaths, hqs, ?_⟩
    rw [h, RuleFile.queriesIn_eq_error]
    exact hpath

/-- A rule file, a text that is none, bytes that are no text, and nothing else. -/
def RuleFile.sampleSystem : RuleFile.FileSystem := fun path =>
  if path = "good.yml" then
    .ok (Text.Utf8.encode "groups:\n- name: g\n  rules:\n  - record: r\n    expr: up\n")
  else if path = "bad.yml" then .ok (Text.Utf8.encode "groups: 1")
  else if path = "raw.yml" then .ok [0xFF]
  else .error "No such file or directory (os error 2)"

open Plain in
theorem Source.queries_of_sampleSystem :
    let contents : Text → StateM Nat (Except Text (List UInt8)) := fun path n =>
      (RuleFile.sampleSystem path, n + 1)
    let b : Backend (StateM Nat) := ⟨pure (.ok []), fun _ _ => pure (.ok [])⟩
    let result paths := ((Source.files paths).queries b (fun _ => pure ()) contents 0).1
    let q : RuleQuery := ⟨"good.yml", ['g'], ['r'], .recording, "up"⟩
    result ["good.yml", "good.yml"] = .ok [q, q] ∧
      result ["good.yml", "none.yml", "bad.yml"] = .error (.io
        "failed to read rule file none.yml: No such file or directory (os error 2)") ∧
      result ["good.yml", "raw.yml", "none.yml"] = .error (.io
        "failed to read rule file raw.yml: stream did not contain valid UTF-8") ∧
      result ["bad.yml", "none.yml"] = .error (.yaml "malformed rule file") := by
  intro contents b result q
  have hgood : RuleFile.Yields RuleFile.sampleSystem "good.yml" [q] := by
    refine RuleFile.queriesIn_eq_ok.1 ?_
    have hread : (RuleFile.queriesIn "good.yml" (RuleFile.sampleSystem "good.yml")).toOption =
        some [q] := by decide +kernel
    generalize RuleFile.queriesIn "good.yml" (RuleFile.sampleSystem "good.yml") = r at hread
    cases r with
    | error e => cases hread
    | ok qs => exact congrArg Except.ok (Option.some.inj hread)
  have hbad : RuleFile.Refuses RuleFile.sampleSystem "bad.yml" (.yaml "malformed rule file") := by
    refine .notRules (t := "groups: 1") rfl fun f hf => ?_
    have hnone : (RuleFile.read "groups: 1").toOption = none := by decide +kernel
    rw [hf] at hnone
    cases hnone
  have hraw : RuleFile.Refuses RuleFile.sampleSystem "raw.yml" (.io
      "failed to read rule file raw.yml: stream did not contain valid UTF-8") := by
    refine @RuleFile.Refuses.notText _ _ _ [0xFF] rfl fun t ht => ?_
    have hnone : Text.Utf8.decode? [0xFF] = none := by decide +kernel
    rw [ht, Text.Utf8.decode?_encode] at hnone
    cases hnone
  have hall := fun paths => @Source.queries_of_files _ Nat RuleFile.sampleSystem contents
    (fun _ _ => rfl) b (fun _ => pure ()) paths 0
  have hreadable : RuleFile.Readable RuleFile.sampleSystem "good.yml" :=
    RuleFile.exists_yields_iff.1 ⟨_, hgood⟩
  refine ⟨?_, ?_, ?_, ?_⟩
  · exact ((hall _).2.1 _).2 ⟨[[q], [q]], .cons hgood (.cons hgood .nil), rfl⟩
  · refine ((hall _).2.2 _).2 ⟨["good.yml"], _, ["bad.yml"], rfl, ?_, .unreadable rfl⟩
    simpa using hreadable
  · refine ((hall _).2.2 _).2 ⟨["good.yml"], _, ["none.yml"], rfl, ?_, hraw⟩
    simpa using hreadable
  · exact ((hall _).2.2 _).2 ⟨[], _, ["none.yml"], rfl, by simp, hbad⟩

end RuleAudit
