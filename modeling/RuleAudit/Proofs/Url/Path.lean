import Mathlib.Data.List.Induction
import RuleAudit.Proofs.Url.Origin

/-!
Paths are read as they have been written, and so are whole addresses.

* `Url.Settled`: the segments that a path has once it has been read;
* `Url.readPath_render`: such segments, each with a slash before it, are read again;
* `Url.withTail_written`: path, query and fragment are told apart again.
-/

namespace RuleAudit.Url

open Text

/-! ### Settled segments -/

/-- The segment stands for itself. -/
def IsNamed (t : Text) : Prop := isDoubleDot t = false ∧ isSingleDot t = false

/-- Segments that are left when a path has been read: there is at least one, none of them stands for
others, and they are in encoded form without slashes of either kind. -/
structure Settled (ts : List Text) : Prop where
  ne_nil : ts ≠ []
  named : ∀ t ∈ ts, IsNamed t
  slash : ∀ t ∈ ts, '/' ∉ t
  backslash : ∀ t ∈ ts, '\\' ∉ t
  plain : ∀ t ∈ ts, ∀ c ∈ t, Percent.isPathSpecial c = false

theorem isNamed_nil : IsNamed [] := by
  constructor <;> decide

theorem Settled.append {ts us more : List Text} (h : Settled ts) (hmore : Settled more)
    (hus : us <+: ts) : Settled (us ++ more) := by
  have hmem : ∀ t ∈ us, t ∈ ts := fun t ht => hus.subset ht
  refine ⟨by simp [hmore.ne_nil], ?_, ?_, ?_, ?_⟩ <;> intro t ht <;>
    rcases List.mem_append.1 ht with ht | ht
  · exact h.named t (hmem t ht)
  · exact hmore.named t ht
  · exact h.slash t (hmem t ht)
  · exact hmore.slash t ht
  · exact h.backslash t (hmem t ht)
  · exact hmore.backslash t ht
  · exact h.plain t (hmem t ht)
  · exact hmore.plain t ht

/-! ### What is read is settled -/

theorem resolve_named {done ts : List Text} (h : ∀ t ∈ done, IsNamed t) :
    ∀ t ∈ resolve done ts, IsNamed t := by
  have hback : ∀ {done : List Text}, (∀ t ∈ done, IsNamed t) → ∀ t ∈ takeBack done, IsNamed t :=
    fun h t ht => h t (mem_takeBack ht)
  fun_induction resolve done ts with
  | case1 done => simpa using h
  | case2 done t hdouble =>
    intro s hs
    rcases List.mem_cons.1 (List.mem_reverse.1 hs) with rfl | hs
    · exact isNamed_nil
    · exact hback h s hs
  | case3 done t hdouble hsingle =>
    intro s hs
    rcases List.mem_cons.1 (List.mem_reverse.1 hs) with rfl | hs
    · exact isNamed_nil
    · exact h s hs
  | case4 done t hdouble hsingle =>
    intro s hs
    rcases List.mem_cons.1 (List.mem_reverse.1 hs) with rfl | hs
    · exact ⟨by simpa using hdouble, by simpa using hsingle⟩
    · exact h s hs
  | case5 done t rest _ hdouble ih => exact ih (hback h)
  | case6 done t rest _ hdouble hsingle ih => exact ih h
  | case7 done t rest _ hdouble hsingle ih =>
    refine ih fun s hs => ?_
    rcases List.mem_cons.1 hs with rfl | hs
    · exact ⟨by simpa using hdouble, by simpa using hsingle⟩
    · exact h s hs

theorem resolve_ne_nil {done ts : List Text} (h : ts ≠ []) : resolve done ts ≠ [] := by
  fun_induction resolve done ts with
  | case1 done => exact absurd rfl h
  | case2 | case3 | case4 => simp
  | case5 _ _ _ hrest _ ih | case6 _ _ _ hrest _ _ ih | case7 _ _ _ hrest _ _ ih => exact ih hrest

theorem resolve_of_named {done ts : List Text} (h : ∀ t ∈ ts, IsNamed t) :
    resolve done ts = done.reverse ++ ts := by
  fun_induction resolve done ts with
  | case1 done => simp
  | case2 done t hdouble => simp [(h t (by simp)).1] at hdouble
  | case3 done t _ hsingle => simp [(h t (by simp)).2] at hsingle
  | case4 done t => simp
  | case5 done t rest _ hdouble => simp [(h t (by simp)).1] at hdouble
  | case6 done t rest _ _ hsingle => simp [(h t (by simp)).2] at hsingle
  | case7 done t rest _ _ _ ih =>
    rw [ih fun s hs => h s (List.mem_cons_of_mem _ hs)]
    simp

/-- The text of a path without the slash at its start; there are no backslashes left in it. -/
theorem readPath_eq (t : Text) : ∃ inner : Text, '\\' ∉ inner ∧
    readPath t = resolve [] ((split '/' inner).map (Percent.encode Percent.isPathSpecial)) := by
  let slashed : Text := t.map fun c => if c = '\\' then '/' else c
  have hback : '\\' ∉ slashed := by
    intro h
    obtain ⟨c, -, hc⟩ := List.mem_map.1 h
    by_cases hc' : c = '\\' <;> simp [hc'] at hc
  cases hs : slashed with
  | nil =>
    refine ⟨[], by simp, ?_⟩
    simp only [readPath, slashed] at hs ⊢
    rw [hs]
  | cons c rest =>
    rw [hs] at hback
    by_cases hc : c = '/'
    · subst hc
      refine ⟨rest, fun h => hback (List.mem_cons_of_mem _ h), ?_⟩
      simp only [readPath, slashed] at hs ⊢
      rw [hs]
      rfl
    · refine ⟨c :: rest, hback, ?_⟩
      simp only [readPath, slashed] at hs ⊢
      rw [hs]
      split
      next h => exact absurd (List.cons.inj h).1 hc
      next => rfl

theorem readPath_settled (t : Text) : Settled (readPath t) := by
  have hslash : ∀ n < 16, '/' ≠ Percent.digit n := by decide
  have hback : ∀ n < 16, '\\' ≠ Percent.digit n := by decide
  obtain ⟨inner, hinner, ht⟩ := readPath_eq t
  have hmem : ∀ s ∈ readPath t, s = [] ∨
      ∃ piece ∈ split '/' inner, s = Percent.encode Percent.isPathSpecial piece := by
    intro s hs
    rw [ht] at hs
    rcases mem_resolve hs with h | h | h
    · exact .inl h
    · simp at h
    · obtain ⟨piece, hpiece, rfl⟩ := List.mem_map.1 h
      exact .inr ⟨piece, hpiece, rfl⟩
  refine ⟨?_, ?_, ?_, ?_, readPath_plain t⟩
  · rw [ht]
    exact resolve_ne_nil (by simp [split_ne_nil])
  · rw [ht]
    exact resolve_named (by simp)
  · intro s hs hc
    rcases hmem s hs with rfl | ⟨piece, hpiece, rfl⟩
    · simp at hc
    · exact notMem_of_mem_split hpiece (Percent.mem_of_mem_encode hc (by decide) hslash)
  · intro s hs hc
    rcases hmem s hs with rfl | ⟨piece, hpiece, rfl⟩
    · simp at hc
    · exact hinner (mem_of_mem_split hpiece (Percent.mem_of_mem_encode hc (by decide) hback))

/-! ### What is settled is read again -/

theorem path_eq_join {ts : List Text} (h : ts ≠ []) :
    ts.flatMap ('/' :: ·) = '/' :: join "/" ts := by
  induction ts with
  | nil => exact absurd rfl h
  | cons t rest ih =>
    cases rest with
    | nil => simp [join]
    | cons u rest =>
      rw [List.flatMap_cons, ih (by simp)]
      simp [join]

theorem notMem_path {ts : List Text} {c : Char} (h : ∀ t ∈ ts, c ∉ t) (hc : c ≠ '/') :
    c ∉ ts.flatMap ('/' :: ·) := by
  intro hmem
  obtain ⟨t, ht, hc'⟩ := List.mem_flatMap.1 hmem
  rcases List.mem_cons.1 hc' with rfl | hc'
  · exact hc rfl
  · exact h t ht hc'

/-- **Settled segments are read as they have been written.** -/
theorem readPath_render {ts : List Text} (h : Settled ts) :
    readPath (ts.flatMap ('/' :: ·)) = ts := by
  have hback : '\\' ∉ ts.flatMap ('/' :: ·) := notMem_path h.backslash (by decide)
  have hslashed : (ts.flatMap ('/' :: ·)).map (fun c => if c = '\\' then '/' else c) =
      ts.flatMap ('/' :: ·) := by
    conv_rhs => rw [← List.map_id (ts.flatMap ('/' :: ·))]
    refine List.map_congr_left fun c hc => if_neg ?_
    rintro rfl
    exact hback hc
  have hencoded : ts.map (Percent.encode Percent.isPathSpecial) = ts := by
    conv_rhs => rw [← List.map_id ts]
    exact List.map_congr_left fun t ht => Percent.encode_of_plain (h.plain t ht)
  have hsplit : split '/' (join "/" ts) = ts := split_join h.ne_nil h.slash
  unfold readPath
  rw [hslashed, path_eq_join h.ne_nil]
  change resolve [] ((split '/' (join "/" ts)).map (Percent.encode Percent.isPathSpecial)) = ts
  rw [hsplit, hencoded, resolve_of_named h.named]
  simp

/-- Without the slashes at its end, a path has fewer segments. -/
theorem trimEnd_path {ts : List Text} (h : ∀ t ∈ ts, '/' ∉ t) :
    ∃ us, us <+: ts ∧ trimEnd (· == '/') (ts.flatMap ('/' :: ·)) = us.flatMap ('/' :: ·) := by
  induction ts using List.reverseRecOn with
  | nil => exact ⟨[], List.prefix_rfl, rfl⟩
  | append_singleton ts t ih =>
    obtain ⟨us, hus, htrim⟩ := ih fun s hs => h s (by simp [hs])
    rw [List.flatMap_append]
    by_cases ht : t = []
    · subst ht
      refine ⟨us, hus.trans (List.prefix_append _ _), ?_⟩
      rw [show List.flatMap ('/' :: ·) [([] : Text)] = ['/'] from rfl,
        trimEnd_append_singleton (by simp), htrim]
    · refine ⟨ts ++ [t], List.prefix_rfl, ?_⟩
      have hlast : ∀ c ∈ (ts.flatMap ('/' :: ·) ++ '/' :: t).getLast?, (c == '/') = false := by
        intro c hc
        rw [List.getLast?_append_of_ne_nil _ (by simp), List.getLast?_cons_of_ne_nil ht] at hc
        have hmem : c ∈ t := List.mem_of_mem_getLast? hc
        have hne : c ≠ '/' := by
          rintro rfl
          exact h t (by simp) hmem
        simpa using hne
      simpa using trimEnd_of_getLast? hlast

/-! ### Whole addresses -/

theorem cut_marked {mark : Char} {a : Text} (h : mark ∉ a) (t : Option Text) :
    cut mark (a ++ marked mark t) = (a, t) := by
  cases t with
  | none => simpa [marked] using cut_of_notMem h
  | some s => exact cut_append h s

/-- **Path, query and fragment are told apart again.** -/
theorem withTail_written (u : Url) {ts : List Text} {query fragment : Option Text}
    (hts : Settled ts) (hquery : ∀ t ∈ query, ∀ c ∈ t, Percent.isQuerySpecial c = false)
    (hfragment : ∀ t ∈ fragment, ∀ c ∈ t, Percent.isFragmentSpecial c = false) :
    u.withTail (ts.flatMap ('/' :: ·) ++ marked '?' query ++ marked '#' fragment) =
      { u with segments := ts, query := query, fragment := fragment } := by
  have hpath : ∀ {c}, Percent.isPathSpecial c = true → c ≠ '/' → c ∉ ts.flatMap ('/' :: ·) := by
    intro c hc hne
    exact notMem_path (fun t ht => notMem_of_plain (hts.plain t ht) hc) hne
  have hhash : '#' ∉ ts.flatMap ('/' :: ·) ++ marked '?' query := by
    rw [List.mem_append, not_or]
    refine ⟨hpath (by decide) (by decide), ?_⟩
    cases query with
    | none => simp [marked]
    | some q =>
      have hq : '#' ∉ q := notMem_of_plain (hquery q rfl) (by decide)
      simp [marked, hq]
  have hmark : '?' ∉ ts.flatMap ('/' :: ·) := hpath (by decide) (by decide)
  have hself : ∀ {p : Char → Bool} {t : Option Text}, (∀ s ∈ t, ∀ c ∈ s, p c = false) →
      t.map (Percent.encode p) = t := by
    intro p t ht
    cases t with
    | none => rfl
    | some s => simp [Percent.encode_of_plain (ht s rfl)]
  simp only [withTail, cut_marked hhash, cut_marked hmark, readPath_render hts, hself hquery,
    hself hfragment]

theorem readWeb_settled [Idna] {secure : Bool} {t : Text} {u : Url} (h : readWeb secure t = .ok u) :
    Settled u.segments := by
  unfold readWeb at h
  dsimp only at h
  cases ha : readAuthority (.web secure) (t.takeWhile (!endsHost (.web secure) ·)) with
  | error e =>
    rw [ha] at h
    cases h
  | ok a =>
    rw [ha] at h
    cases h
    exact readPath_settled _

/-- What is read as an address of the web has settled segments. -/
theorem read_settled [Idna] {t : Text} {u : Url} (h : read t = .ok (.web u)) :
    Settled u.segments := by
  unfold read at h
  split at h
  next => cases h
  next secure rest _ =>
    cases hweb : readWeb secure (rest.dropWhile fun c => c == '/' || c == '\\') with
    | error e =>
      rw [hweb] at h
      cases h
    | ok v =>
      rw [hweb] at h
      cases h
      exact readWeb_settled hweb
  case h_3 =>
    dsimp only [bind, Except.bind] at h
    split at h <;> cases h

end RuleAudit.Url
