import Mathlib.Data.List.Forall2
import RuleAudit.Arguments
import RuleAudit.Proofs.Timeout

/-!
# Arguments on a command line

A command line is written option by option: a setting with its value behind an equals sign or as the
next word, or the switch. It is read option by option, too, so what is read does not depend on the
way in which values stand there, nor on the order of different options.

* `Arguments.Entry`: an option as it stands on a command line;
* `Arguments.read_words`: a command line is read by putting in one option after another;
* `Arguments.Adds`: what arguments have to hold once some options have been put in;
* `Arguments.Tells`: what a command line tells, setting by setting;
* `Arguments.read_told`: which arguments are read from a command line;
* `Arguments.read_entries`: arguments that can be given are read from a command line that tells
  them;
* `Arguments.read_reordered`: the order of different options does not matter.
-/

namespace RuleAudit.Arguments

/-! ### Options on a command line -/

/-- Where the value of a setting stands: behind an equals sign in the same word, or in the next
word. -/
inductive Manner
  | joined
  | apart
deriving DecidableEq

/-- An option as it stands on a command line. -/
inductive Entry
  | setting (s : Setting) (manner : Manner) (value : Text)
  | json
deriving DecidableEq

namespace Entry

/-- The words of an option. -/
def words : Entry → List Text
  | setting s .joined value => ["--" ++ (s.name ++ '=' :: value)]
  | setting s .apart value => ["--" ++ s.name, value]
  | json => ["--" ++ Switch.json.name]

/-- A value in a word of its own does not begin with a hyphen, unless it is just that. -/
def IsFit : Entry → Prop
  | setting _ .apart value => value.head? = some '-' → value = ['-']
  | _ => True

instance : DecidablePred IsFit
  | setting _ .joined _ => inferInstanceAs (Decidable True)
  | setting _ .apart value => inferInstanceAs (Decidable (value.head? = some '-' → value = ['-']))
  | json => inferInstanceAs (Decidable True)

/-- The value that an option gives to a setting. -/
def value? (s : Setting) : Entry → Option Text
  | setting s' _ value => if s' = s then some value else .none
  | json => .none

/-- The values that options give to a setting, in order. -/
def values (s : Setting) (es : List Entry) : List Text := es.filterMap (value? s)

theorem values_setting (s s' : Setting) (manner : Manner) (value : Text) (es : List Entry) :
    values s (setting s' manner value :: es) = (if s' = s then [value] else []) ++ values s es := by
  by_cases h : s' = s <;> simp [values, value?, h]

theorem values_cons (s : Setting) (e : Entry) (es : List Entry) :
    values s (e :: es) = values s [e] ++ values s es :=
  List.filterMap_append (l := [e])

end Entry

/-! ### Words of options -/

theorem ofText_joined (s : Setting) (value : Text) :
    Word.ofText ("--" ++ (s.name ++ '=' :: value)) = .setting s (some value) := by
  have hname : '=' ∉ s.name := by cases s <;> decide
  have hcut : Text.cut '=' (s.name ++ '=' :: value) = (s.name, some value) :=
    Text.cut_append hname value
  have hword : Word.ofText ("--" ++ (s.name ++ '=' :: value)) =
      Word.ofName (Text.cut '=' (s.name ++ '=' :: value)).1
        (Text.cut '=' (s.name ++ '=' :: value)).2 := by
    cases s <;> rfl
  rw [hword, hcut]
  cases s <;> rfl

theorem ofText_apart (s : Setting) : Word.ofText ("--" ++ s.name) = .setting s .none := by
  cases s <;> rfl

theorem ofText_json : Word.ofText ("--" ++ Switch.json.name) = .switch .json .none := rfl

theorem ofText_plain {value : Text} (h : value.head? = some '-' → value = ['-']) :
    Word.ofText value = .plain value := by
  by_cases hhyphen : value = ['-']
  · subst hhyphen
    rfl
  · unfold Word.ofText
    split
    · cases hhyphen (h rfl)
    · cases hhyphen (h rfl)
    · cases hhyphen (h rfl)
    · rfl

/-! ### Putting in one option after another -/

/-- The arguments with one more option. -/
def put (a : Arguments) : Entry → Except Stop Arguments
  | .setting s _ value => a.set s (some value)
  | .json => a.turn .json

theorem readFrom_words {es : List Entry} (h : ∀ e ∈ es, e.IsFit) (a : Arguments)
    (pending : Pending) :
    readFrom a pending (es.flatMap Entry.words) = a.settle pending >>= fun a => es.foldlM put a := by
  induction es generalizing a pending with
  | nil =>
    rw [List.flatMap_nil, readFrom]
    cases a.settle pending <;> rfl
  | cons e es ih =>
    obtain ⟨he, hes⟩ := List.forall_mem_cons.1 h
    have hrest : ∀ b, readFrom b .none (es.flatMap Entry.words) = es.foldlM put b :=
      fun b => ih hes b .none
    rw [List.flatMap_cons]
    cases e with
    | setting s manner value =>
      cases manner with
      | joined =>
        rw [Entry.words, List.singleton_append, readFrom, ofText_joined]
        refine bind_congr fun b => ?_
        rw [List.foldlM_cons]
        exact bind_congr hrest
      | apart =>
        rw [Entry.words, List.cons_append, List.singleton_append, readFrom, ofText_apart]
        refine bind_congr fun b => ?_
        -- the value is pending until the next option comes
        rw [readFrom, ofText_plain he]
        exact ih hes b (some (s, some value))
    | json =>
      rw [Entry.words, List.singleton_append, readFrom, ofText_json]
      refine bind_congr fun b => ?_
      rw [List.foldlM_cons]
      exact bind_congr hrest

/-- **A command line is read by putting in one option after another.** -/
theorem read_words {es : List Entry} (h : ∀ e ∈ es, e.IsFit) :
    read (es.flatMap Entry.words) = es.foldlM put none :=
  readFrom_words h none .none

/-! ### What has been put in -/

/-- The second arguments hold what the first hold, and behind that what the options give. -/
@[mk_iff adds_iff]
structure Adds (a : Arguments) (es : List Entry) (b : Arguments) : Prop where
  url : b.url.toList = a.url.toList ++ Entry.values .url es
  ruleFiles : b.ruleFiles = a.ruleFiles ++ Entry.values .ruleFile es
  paths : ∀ path ∈ Entry.values .ruleFile es, path ≠ []
  bearerToken : b.bearerToken.toList = a.bearerToken.toList ++ Entry.values .bearerToken es
  timeout : (b.timeoutMs.map Except.ok).toList =
    (a.timeoutMs.map Except.ok).toList ++ (Entry.values .timeout es).map Numeral.readPositive
  json : b.json.toNat = a.json.toNat + es.count .json

section

variable {a b c : Arguments} {e : Entry} {es : List Entry}

/-- There is room for a value only if there is none yet. -/
theorem eq_none_of_toList {α : Type} {x y : Option α} {v : α} {vs : List α}
    (h : y.toList = x.toList ++ v :: vs) : x = .none := by
  cases x with
  | none => rfl
  | some w => cases y <;> simp at h

theorem toList_inj {α : Type} {x y : Option α} (h : x.toList = y.toList) : x = y := by
  cases x <;> cases y <;> simp_all

theorem adds_nil_iff : Adds a [] b ↔ a = b := by
  constructor
  · rintro ⟨hurl, hfiles, -, htoken, htimeout, hjson⟩
    simp only [Entry.values, List.filterMap_nil, List.append_nil, List.map_nil, List.count_nil,
      Nat.add_zero] at hurl hfiles htoken htimeout hjson
    have hnumber : b.timeoutMs = a.timeoutMs :=
      Option.map_injective (fun _ _ => Except.ok.inj) (toList_inj htimeout)
    have hswitch : b.json = a.json := by
      cases hb : b.json <;> cases ha : a.json <;> simp [hb, ha] at hjson ⊢
    cases a
    cases b
    simp only [mk.injEq]
    exact ⟨(toList_inj hurl).symm, hfiles.symm, (toList_inj htoken).symm,
      hnumber.symm, hswitch.symm⟩
  · rintro rfl
    constructor <;> simp [Entry.values]

/-- What an option that can be put in adds. -/
theorem adds_of_put (h : a.put e = .ok b) : Adds a [e] b := by
  cases e with
  | json =>
    have hturn : a.turn .json = .ok b := h
    rw [turn, ite_error_eq_ok] at hturn
    obtain ⟨hjson, hb⟩ := hturn
    cases hb
    constructor <;> simp [Entry.values, Entry.value?, hjson]
  | setting s manner value =>
    have hset : a.set s (some value) = .ok b := h
    cases s with
    | url =>
      rw [set, ite_error_eq_ok] at hset
      obtain ⟨hurl, hb⟩ := hset
      cases hb
      constructor <;> simp_all [Entry.values, Entry.value?]
    | ruleFile =>
      rw [set, ite_error_eq_ok] at hset
      obtain ⟨hne, hb⟩ := hset
      cases hb
      constructor <;> simp [Entry.values, Entry.value?, hne]
    | bearerToken =>
      rw [set, ite_error_eq_ok] at hset
      obtain ⟨htoken, hb⟩ := hset
      cases hb
      constructor <;> simp_all [Entry.values, Entry.value?]
    | timeout =>
      rw [set, ite_error_eq_ok] at hset
      obtain ⟨htimeout, hb⟩ := hset
      cases hread : Numeral.readPositive value with
      | error message =>
        rw [hread] at hb
        cases hb
      | ok n =>
        rw [hread] at hb
        cases hb
        constructor <;> simp_all [Entry.values, Entry.value?]

/-- An option can be put in if there is room for it. -/
theorem Adds.put (h : Adds a (e :: es) c) : ∃ b, a.put e = .ok b := by
  cases e with
  | json =>
    have hjson := h.json
    rw [List.count_cons_self] at hjson
    have hroom : a.json = false := by
      cases ha : a.json <;> cases hc : c.json <;> simp [ha, hc] at hjson ⊢
    exact ⟨_, if_neg (by simp [hroom])⟩
  | setting s manner value =>
    cases s with
    | url =>
      have hroom := eq_none_of_toList h.url
      exact ⟨_, if_neg (by simp [hroom])⟩
    | ruleFile =>
      have hne : value ≠ [] := h.paths value (by simp [Entry.values_setting])
      exact ⟨_, if_neg hne⟩
    | bearerToken =>
      have hroom := eq_none_of_toList h.bearerToken
      exact ⟨_, if_neg (by simp [hroom])⟩
    | timeout =>
      have htimeout := h.timeout
      have hvalues : (Entry.values .timeout (.setting .timeout manner value :: es)).map
          Numeral.readPositive = Numeral.readPositive value ::
            (Entry.values .timeout es).map Numeral.readPositive := by
        simp [Entry.values_setting]
      rw [hvalues] at htimeout
      have hroom : a.timeoutMs = .none := by simpa using eq_none_of_toList htimeout
      have hread : Numeral.readPositive value ∈ (c.timeoutMs.map Except.ok).toList := by
        rw [htimeout]
        simp
      obtain ⟨n, -, hn⟩ := Option.map_eq_some_iff.1 (Option.mem_toList.1 hread)
      refine ⟨{ a with timeoutMs := some n }, ?_⟩
      change a.set .timeout (some value) = _
      rw [set, if_neg (by simp [hroom]), ← hn]

/-- What is added after the first option. -/
theorem Adds.cons_iff (h : Adds a [e] b) : Adds a (e :: es) c ↔ Adds b es c := by
  have hcount : (e :: es).count .json = [e].count .json + es.count .json := by
    rw [← List.count_append, List.singleton_append]
  have hpaths : ∀ path ∈ Entry.values .ruleFile [e], path ≠ [] := h.paths
  rw [adds_iff, adds_iff, hcount]
  simp only [Entry.values_cons _ e es, h.url, h.ruleFiles, h.bearerToken, h.timeout, h.json,
    List.append_assoc, List.map_append, List.forall_mem_append, and_iff_right hpaths, Nat.add_assoc]

theorem foldlM_put_eq_ok : es.foldlM put a = .ok b ↔ Adds a es b := by
  induction es generalizing a with
  | nil =>
    rw [adds_nil_iff]
    exact ⟨Except.ok.inj, congrArg Except.ok⟩
  | cons e es ih =>
    rw [List.foldlM_cons, except_bind_eq_ok]
    constructor
    · rintro ⟨c, hput, hrest⟩
      exact (adds_of_put hput).cons_iff.2 (ih.1 hrest)
    · intro h
      obtain ⟨c, hput⟩ := h.put
      exact ⟨c, hput, ih.2 ((adds_of_put hput).cons_iff.1 h)⟩

end

/-! ### What a command line tells -/

/-- The options give these arguments: each value once, and the rule files in their order. -/
structure Tells (es : List Entry) (a : Arguments) : Prop where
  url : Entry.values .url es = a.url.toList
  ruleFiles : Entry.values .ruleFile es = a.ruleFiles
  bearerToken : Entry.values .bearerToken es = a.bearerToken.toList
  /-- The time may stand there with zeros and a plus sign in front. -/
  timeout : List.Forall₂ Numeral.Denotes (Entry.values .timeout es) a.timeoutMs.toList
  json : es.count .json = a.json.toNat

/-- Arguments that can be given at all: no rule file is without a name, and the time is a positive
number of 64 bits. -/
structure IsGivable (a : Arguments) : Prop where
  ruleFiles : ∀ path ∈ a.ruleFiles, path ≠ []
  timeout : ∀ n ∈ a.timeoutMs, 1 ≤ n ∧ n ≤ 2 ^ 64 - 1

theorem map_readPositive {ts : List Text} {ns : List Nat} :
    ns.map Except.ok = ts.map Numeral.readPositive ↔
      List.Forall₂ Numeral.Denotes ts ns ∧ ∀ n ∈ ns, 1 ≤ n ∧ n < 2 ^ 64 := by
  induction ts generalizing ns with
  | nil => cases ns <;> simp
  | cons t ts ih =>
    cases ns with
    | nil => simp
    | cons n ns =>
      rw [List.map_cons, List.map_cons, List.cons.injEq, ih, List.forall₂_cons,
        List.forall_mem_cons, eq_comm, Numeral.readPositive_eq_ok]
      exact and_and_and_comm

theorem adds_none_iff {es : List Entry} {a : Arguments} :
    Adds none es a ↔ a.IsGivable ∧ Tells es a := by
  have hnumber : ((a.timeoutMs.map Except.ok).toList : List (Except Text Nat)) =
      a.timeoutMs.toList.map Except.ok := by
    cases a.timeoutMs <;> rfl
  have hlimit : ∀ n : Nat, n < 2 ^ 64 ↔ n ≤ 2 ^ 64 - 1 := by omega
  constructor
  · rintro ⟨hurl, hfiles, hpaths, htoken, htimeout, hjson⟩
    have hread : a.timeoutMs.toList.map Except.ok =
        (Entry.values .timeout es).map Numeral.readPositive := hnumber.symm.trans htimeout
    obtain ⟨hdenotes, hbounds⟩ := map_readPositive.1 hread
    have hnames : a.ruleFiles = Entry.values .ruleFile es := hfiles
    refine ⟨⟨hnames ▸ hpaths, fun n hn => ?_⟩, hurl.symm, hnames.symm, htoken.symm, hdenotes, ?_⟩
    · rw [← hlimit]
      exact hbounds n (Option.mem_toList.2 hn)
    · exact (hjson.trans (Nat.zero_add _)).symm
  · rintro ⟨⟨hpaths, hbounds⟩, hurl, hfiles, htoken, htimeout, hjson⟩
    refine ⟨hurl.symm, hfiles.symm, hfiles ▸ hpaths, htoken.symm, ?_, ?_⟩
    · rw [hnumber]
      refine map_readPositive.2 ⟨htimeout, fun n hn => ?_⟩
      rw [hlimit]
      exact hbounds n (Option.mem_toList.1 hn)
    · exact (hjson.symm).trans (Nat.zero_add _).symm

theorem read_eq_ok {es : List Entry} (h : ∀ e ∈ es, e.IsFit) {a : Arguments} :
    read (es.flatMap Entry.words) = .ok a ↔ Adds none es a := by
  rw [read_words h, foldlM_put_eq_ok]

/-- **Which arguments are read from a command line**: those that its options tell, if they can be
given at all. A value may stand behind an equals sign, whatever it is, or in a word of its own, if
that does not begin with a hyphen; and the options may stand in any order. -/
theorem read_told {es : List Entry} (h : ∀ e ∈ es, e.IsFit) (a : Arguments) :
    read (es.flatMap Entry.words) = .ok a ↔ a.IsGivable ∧ Tells es a := by
  rw [read_eq_ok h, adds_none_iff]

/-- Values that look like options, and a time with all that may stand in front of it. -/
theorem read_told_disguised :
    read ["--rules-file=--url=x", "--timeout-ms", "+018446744073709551615", "--rules-file", "a=b",
      "--json", "--url=--json", "--bearer-token", "-"] =
        .ok ⟨some "--json", ["--url=x", "a=b"], some "-", some 18446744073709551615, true⟩ := by
  let es : List Entry :=
    [.setting .ruleFile .joined "--url=x", .setting .timeout .apart "+018446744073709551615",
     .setting .ruleFile .apart "a=b", .json, .setting .url .joined "--json",
     .setting .bearerToken .apart "-"]
  have hfit : ∀ e ∈ es, e.IsFit := by decide
  refine (read_told hfit _).2 ⟨⟨by decide, ?_⟩, rfl, rfl, rfl, ?_, rfl⟩
  · rintro n ⟨⟩
    decide
  · refine .cons ?_ .nil
    exact Numeral.denotes_iff.2 ⟨by decide, by decide, by decide⟩

/-! ### Other command lines for the same arguments -/

/-- The values that a setting has in arguments. -/
def valuesOf (a : Arguments) : Setting → List Text
  | .url => a.url.toList
  | .ruleFile => a.ruleFiles
  | .bearerToken => a.bearerToken.toList
  | .timeout => a.timeoutMs.toList.map Text.decimal

/-- Options that tell arguments, with every value behind an equals sign. -/
def entries (a : Arguments) : List Entry :=
  [Setting.url, .ruleFile, .bearerToken, .timeout].flatMap
    (fun s => (a.valuesOf s).map (.setting s .joined)) ++ List.replicate a.json.toNat .json

theorem values_entries (a : Arguments) (s : Setting) : Entry.values s a.entries = a.valuesOf s := by
  have hmap : ∀ (s' : Setting) (ts : List Text), Entry.values s (ts.map (.setting s' .joined)) =
      if s' = s then ts else [] := by
    intro s' ts
    by_cases h : s' = s <;>
      simp [Entry.values, List.filterMap_map, Function.comp_def, Entry.value?, h]
  have hjson : ∀ n, Entry.values s (List.replicate n .json) = [] :=
    fun n => List.filterMap_replicate_of_none rfl
  have happend : ∀ es es', Entry.values s (es ++ es') = Entry.values s es ++ Entry.values s es' :=
    fun _ _ => List.filterMap_append
  cases s <;> simp [entries, happend, hmap, hjson]

theorem count_json_entries (a : Arguments) : a.entries.count .json = a.json.toNat := by
  have hmap : ∀ (s : Setting) (ts : List Text), (ts.map (Entry.setting s .joined)).count .json = 0 := by
    intro s ts
    rw [List.count_eq_zero]
    simp
  simp [entries, List.count_append, hmap]

theorem tells_entries (a : Arguments) : Tells a.entries a where
  url := a.values_entries .url
  ruleFiles := a.values_entries .ruleFile
  bearerToken := a.values_entries .bearerToken
  timeout := by
    rw [values_entries, valuesOf, List.forall₂_map_left_iff, List.forall₂_same]
    exact fun n _ => Numeral.denotes_decimal n
  json := a.count_json_entries

/-- **Arguments that can be given are read from a command line that tells them.** -/
theorem read_entries {a : Arguments} (h : a.IsGivable) :
    read (a.entries.flatMap Entry.words) = .ok a := by
  have hfit : ∀ e ∈ a.entries, e.IsFit := by
    simp [entries, or_imp, forall_and, Entry.IsFit]
  exact (read_eq_ok hfit).2 (adds_none_iff.2 ⟨h, tells_entries a⟩)

/-- A single value is in order however it is put. -/
theorem eq_of_perm {α : Type} {xs ys : List α} (hperm : xs.Perm ys) (h : xs.length ≤ 1) :
    ys = xs := by
  obtain _ | ⟨x, _ | ⟨x', xs⟩⟩ := xs
  · exact hperm.symm.eq_nil
  · exact List.perm_singleton.1 hperm.symm
  · simp at h

/-- Options tell the order of the rule files, and no other. -/
theorem Tells.of_perm {es es' : List Entry} {a : Arguments} (h : Tells es a) (hperm : es.Perm es')
    (hfiles : Entry.values .ruleFile es' = Entry.values .ruleFile es) : Tells es' a := by
  have hvalues : ∀ s, (Entry.values s es).length ≤ 1 → Entry.values s es' = Entry.values s es :=
    fun s => eq_of_perm (hperm.filterMap (Entry.value? s))
  have hurl := hvalues .url (by rw [h.url]; exact Option.length_toList_le)
  have htoken := hvalues .bearerToken (by rw [h.bearerToken]; exact Option.length_toList_le)
  have htimeout := hvalues .timeout (by rw [h.timeout.length_eq]; exact Option.length_toList_le)
  exact {
    url := hurl.trans h.url
    ruleFiles := hfiles.trans h.ruleFiles
    bearerToken := htoken.trans h.bearerToken
    timeout := htimeout ▸ h.timeout
    json := (hperm.count_eq _).symm.trans h.json }

/-- **The order of different options does not matter**, if the rule files keep theirs. -/
theorem read_reordered {es es' : List Entry} {a : Arguments} (hfit : ∀ e ∈ es, e.IsFit)
    (hperm : es.Perm es') (hfiles : Entry.values .ruleFile es' = Entry.values .ruleFile es)
    (h : read (es.flatMap Entry.words) = .ok a) : read (es'.flatMap Entry.words) = .ok a := by
  have hfit' : ∀ e ∈ es', e.IsFit := fun e he => hfit e (hperm.mem_iff.2 he)
  obtain ⟨hgivable, htells⟩ := adds_none_iff.1 ((read_eq_ok hfit).1 h)
  exact (read_eq_ok hfit').2 (adds_none_iff.2 ⟨hgivable, htells.of_perm hperm hfiles⟩)

end RuleAudit.Arguments
