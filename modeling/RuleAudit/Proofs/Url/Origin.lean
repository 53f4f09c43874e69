import RuleAudit.Proofs.Url.Host
import RuleAudit.Url.Basic

/-!
What stands before the path of an address of the web is read as it has been written, whatever
follows it.

* `Url.Sound`: the addresses that can be read;
* `Url.read_sound`: what is read as an address of the web is one of them;
* `Url.read_origin`: the text before the path is read as scheme, user, host and port.
-/

namespace RuleAudit.Url

open Text

/-! ### The parts of an address -/

/-- The text of an address up to its path: scheme, user, host and port. -/
def origin (u : Url) : Text := u.scheme ++ "://" ++ (u.userText ++ u.hostText)

/-- The text of an address from its path on. -/
def tail (u : Url) : Text := u.path ++ marked '?' u.query ++ marked '#' u.fragment

theorem render_eq (u : Url) : u.render = u.origin ++ u.tail := by
  simp [render, origin, tail]

/-- The addresses that can be read. Their parts are in the encoded form. -/
structure Sound [Idna] (u : Url) : Prop where
  user : ∀ c ∈ u.user, Percent.isUserSpecial c = false
  password : ∀ p ∈ u.password, p ≠ [] ∧ ∀ c ∈ p, Percent.isUserSpecial c = false
  host : u.host.Sound
  port : ∀ n ∈ u.port, n < 65536 ∧ n ≠ schemePort u.secure
  segments : ∀ t ∈ u.segments, ∀ c ∈ t, Percent.isPathSpecial c = false
  query : ∀ t ∈ u.query, ∀ c ∈ t, Percent.isQuerySpecial c = false
  fragment : ∀ t ∈ u.fragment, ∀ c ∈ t, Percent.isFragmentSpecial c = false

/-- The address with another text from its path on. -/
def withTail (u : Url) (t : Text) : Url :=
  let (rest, fragment) := cut '#' t
  let (path, query) := cut '?' rest
  { u with
    segments := readPath path
    query := query.map (Percent.encode Percent.isQuerySpecial)
    fragment := fragment.map (Percent.encode Percent.isFragmentSpecial) }

/-! ### What is read is sound -/

theorem mem_takeBack {done : List Text} {t : Text} (h : t ∈ takeBack done) : t ∈ done := by
  unfold takeBack at h
  split at h
  next => exact h
  next =>
    split at h
    next => exact h
    next => exact List.mem_cons_of_mem _ h

/-- No segment comes from nowhere. -/
theorem mem_resolve {done ts : List Text} {t : Text} (h : t ∈ resolve done ts) :
    t = [] ∨ t ∈ done ∨ t ∈ ts := by
  fun_induction resolve done ts with
  | case1 done => exact .inr (.inl (List.mem_reverse.1 h))
  | case2 done u =>
    rw [List.mem_reverse, List.mem_cons] at h
    exact h.imp_right fun h => .inl (mem_takeBack h)
  | case3 done u =>
    rw [List.mem_reverse, List.mem_cons] at h
    exact h.imp_right .inl
  | case4 done u =>
    rw [List.mem_reverse, List.mem_cons] at h
    obtain rfl | h := h
    · exact .inr (.inr (List.mem_singleton_self t))
    · exact .inr (.inl h)
  | case5 done u rest _ _ ih =>
    obtain h | h | h := ih h
    · exact .inl h
    · exact .inr (.inl (mem_takeBack h))
    · exact .inr (.inr (List.mem_cons_of_mem u h))
  | case6 done u rest _ _ _ ih =>
    obtain h | h | h := ih h
    · exact .inl h
    · exact .inr (.inl h)
    · exact .inr (.inr (List.mem_cons_of_mem u h))
  | case7 done u rest _ _ _ ih =>
    obtain h | h | h := ih h
    · exact .inl h
    · obtain rfl | h := List.mem_cons.1 h
      · exact .inr (.inr List.mem_cons_self)
      · exact .inr (.inl h)
    · exact .inr (.inr (List.mem_cons_of_mem u h))

theorem readPath_plain (t : Text) :
    ∀ s ∈ readPath t, ∀ c ∈ s, Percent.isPathSpecial c = false := by
  intro s hs
  obtain rfl | h | h := mem_resolve hs
  · simp
  · cases h
  · obtain ⟨p, -, rfl⟩ := List.mem_map.1 h
    exact Percent.encode_plain Percent.isPathSpecial_guards p

theorem map_encode_plain {p : Char → Bool} (hp : Percent.Guards p) (t : Option Text) :
    ∀ s ∈ t.map (Percent.encode p), ∀ c ∈ s, p c = false := by
  intro s hs
  obtain ⟨u, -, rfl⟩ := Option.map_eq_some_iff.1 hs
  exact Percent.encode_plain hp u

theorem readUser_plain (t : Text) :
    (∀ c ∈ (readUser t).1, Percent.isUserSpecial c = false) ∧
      ∀ p ∈ (readUser t).2.1, p ≠ [] ∧ ∀ c ∈ p, Percent.isUserSpecial c = false := by
  unfold readUser
  split
  next => simp
  next info rest _ =>
    refine ⟨Percent.encode_plain Percent.isUserSpecial_guards _, ?_⟩
    intro p hp
    refine ⟨?_, map_encode_plain Percent.isUserSpecial_guards _ p hp⟩
    obtain ⟨u, hu, rfl⟩ := Option.map_eq_some_iff.1 hp
    obtain ⟨-, hne⟩ := Option.filter_eq_some_iff.1 hu
    exact Percent.encode_ne_nil (by simpa using hne)

theorem readPort_lt {t : Text} {port : Option Nat} (h : readPort t = .ok port) :
    ∀ n ∈ port, n < 65536 := by
  unfold readPort at h
  dsimp only at h
  split at h
  next hport =>
    cases h
    intro n hn
    split at hn
    next => cases hn
    next =>
      cases hn
      exact hport.2
  next => cases h

/-- In an address of the web there has to be a host. -/
theorem readAuthority_web [Idna] (secure : Bool) (t : Text) :
    readAuthority (.web secure) t =
      if (cutHost false (readUser t).2.2).1 = [] then .error .emptyHost
      else do
        let host ← Host.read (cutHost false (readUser t).2.2).1
        let port ← readPort ((cutHost false (readUser t).2.2).2.drop 1)
        return ⟨(readUser t).1, (readUser t).2.1, host, port⟩ := by
  unfold readAuthority
  rcases readUser t with ⟨user, password, rest⟩
  dsimp only
  rcases cutHost false rest with ⟨hostText, portText⟩
  have hspecial : (Scheme.web secure).isSpecial = true := rfl
  cases hostText with
  | nil => rfl
  | cons c host =>
    simp only [hspecial, reduceCtorEq, and_false, false_and, if_false, if_true]

/-- What is read as the part with the host. -/
theorem readAuthority_sound [Idna] {secure : Bool} {t : Text} {a : Authority}
    (h : readAuthority (.web secure) t = .ok a) :
    (∀ c ∈ a.user, Percent.isUserSpecial c = false) ∧
      (∀ p ∈ a.password, p ≠ [] ∧ ∀ c ∈ p, Percent.isUserSpecial c = false) ∧
      a.host.Sound ∧ ∀ n ∈ a.port, n < 65536 := by
  obtain ⟨huser, hpassword⟩ := readUser_plain t
  rw [readAuthority_web] at h
  split at h
  next => cases h
  next =>
    cases hhost : Host.read (cutHost false (readUser t).2.2).1 with
    | error e =>
      rw [hhost] at h
      cases h
    | ok host =>
      cases hport : readPort ((cutHost false (readUser t).2.2).2.drop 1) with
      | error e =>
        rw [hhost, hport] at h
        cases h
      | ok port =>
        rw [hhost, hport] at h
        cases h
        exact ⟨huser, hpassword, Host.read_sound hhost, readPort_lt hport⟩

theorem readWeb_sound [Idna] {secure : Bool} {t : Text} {u : Url} (h : readWeb secure t = .ok u) :
    u.Sound := by
  unfold readWeb at h
  dsimp only at h
  cases ha : readAuthority (.web secure) (t.takeWhile (!endsHost (.web secure) ·)) with
  | error e =>
    rw [ha] at h
    cases h
  | ok a =>
    obtain ⟨huser, hpassword, hhost, hport⟩ := readAuthority_sound ha
    rw [ha] at h
    cases h
    refine ⟨huser, hpassword, hhost, ?_, readPath_plain _,
      map_encode_plain Percent.isQuerySpecial_guards _,
      map_encode_plain Percent.isFragmentSpecial_guards _⟩
    intro n hn
    obtain ⟨hmem, hne⟩ := Option.filter_eq_some_iff.1 hn
    exact ⟨hport n hmem, by simpa using hne⟩

/-- What is read as an address of the web is sound. -/
theorem read_sound [Idna] {t : Text} {u : Url} (h : read t = .ok (.web u)) : u.Sound := by
  unfold read at h
  split at h
  next => cases h
  next secure rest _ =>
    cases hweb : readWeb secure (rest.dropWhile fun c => c == '/' || c == '\\') with
    | error e =>
      rw [hweb] at h
      cases h
    | ok v =>
      rw [hweb] at h
      cases h
      exact readWeb_sound hweb
  case h_3 =>
    dsimp only [bind, Except.bind] at h
    split at h <;> cases h

/-! ### What is sound is read as it has been written -/

theorem cutLastAt_append {info host : Text} (h : '@' ∉ host) :
    cutLastAt (info ++ '@' :: host) = some (info, host) := by
  have hne : ∀ c ∈ host.reverse, (c != '@') = true :=
    bne_of_notMem (fun hc => h (List.mem_reverse.1 hc))
  have hrev : (info ++ '@' :: host).reverse = host.reverse ++ '@' :: info.reverse := by simp
  have hhead : ∀ c ∈ ('@' :: info.reverse).head?, (c != '@') = false := by simp
  rw [cutLastAt, hrev, dropWhile_append_of_head hne hhead, takeWhile_append_of_head hne hhead]
  simp

theorem cutLastAt_of_notMem {t : Text} (h : '@' ∉ t) : cutLastAt t = none := by
  have hnil : (t.reverse ++ []).dropWhile (· != '@') = [] :=
    dropWhile_append_of_head (bne_of_notMem fun hc => h (List.mem_reverse.1 hc)) (by simp)
  rw [List.append_nil] at hnil
  rw [cutLastAt, hnil]

theorem notMem_of_plain {p : Char → Bool} {t : Text} (h : ∀ c ∈ t, p c = false) {c : Char}
    (hc : p c = true) : c ∉ t :=
  fun hmem => absurd ((h c hmem).symm.trans hc) Bool.false_ne_true

theorem readUser_userText [Idna] {u : Url} (hu : u.Sound) {host : Text} (h : '@' ∉ host) :
    readUser (u.userText ++ host) = (u.user, u.password, host) := by
  have hcolon : ':' ∉ u.user := notMem_of_plain hu.user (by decide)
  have huser := Percent.encode_of_plain hu.user
  unfold userText
  cases hp : u.password with
  | none =>
    dsimp only
    split
    next hnil => rw [List.nil_append, readUser, cutLastAt_of_notMem h, hnil]
    next =>
      rw [List.append_assoc, List.singleton_append, readUser, cutLastAt_append h]
      simp only [cut_of_notMem hcolon, huser]
      rfl
  | some p =>
    obtain ⟨hne, hplain⟩ := hu.password p hp
    have hkept : (some p).filter (· ≠ []) = some p := by simp [hne]
    have hassoc : u.user ++ ':' :: (p ++ ['@']) ++ host = (u.user ++ ':' :: p) ++ '@' :: host := by
      simp
    rw [hassoc, readUser, cutLastAt_append h]
    simp only [cut_append hcolon, huser, hkept, Option.map_some, Percent.encode_of_plain hplain]

theorem cutHost_plain {t : Text} (h : ∀ c ∈ t, c ≠ ':' ∧ c ≠ '[') (rest : Text) :
    cutHost false (t ++ rest) = (t ++ (cutHost false rest).1, (cutHost false rest).2) := by
  induction t with
  | nil => rfl
  | cons c t ih =>
    obtain ⟨⟨hcolon, hopen⟩, ht⟩ := List.forall_mem_cons.1 h
    rw [List.cons_append, cutHost, if_neg (fun hc => hcolon hc.1)]
    simp only [if_neg hopen, ite_self, ih ht, List.cons_append]

theorem cutHost_bracketed {t : Text} (h : ']' ∉ t) (rest : Text) :
    cutHost true (t ++ rest) = (t ++ (cutHost true rest).1, (cutHost true rest).2) := by
  induction t with
  | nil => rfl
  | cons c t ih =>
    rw [List.mem_cons, not_or] at h
    rw [List.cons_append, cutHost, if_neg (by simp)]
    simp only [if_neg (Ne.symm h.1), ite_self, ih h.2, List.cons_append]

/-- The text of a host ends where a colon or nothing follows. -/
theorem cutHost_render [Idna] {h : Host} (hs : h.Sound) {rest : Text}
    (hrest : ∀ c ∈ rest.head?, c = ':') :
    cutHost false (h.render ++ rest) = (h.render, rest) := by
  have hend : cutHost false rest = ([], rest) := by
    cases rest with
    | nil => rfl
    | cons c t => rw [cutHost, if_pos ⟨hrest c rfl, rfl⟩]
  cases hs with
  | @name t _ _ hplain =>
    have ht : ∀ c ∈ t, c ≠ ':' ∧ c ≠ '[' := fun c hc =>
      ⟨Host.ne_of_isForbidden (hplain c hc) (by decide),
        Host.ne_of_isForbidden (hplain c hc) (by decide)⟩
    rw [Host.render, cutHost_plain ht, hend, List.append_nil]
  | @ipv4 n =>
    have ht : ∀ c ∈ Host.ipv4Text n, c ≠ ':' ∧ c ≠ '[' := by
      intro c hc
      obtain rfl | hdigit := Host.mem_ipv4Text hc
      · decide
      · have hplain := Host.isForbidden_of_isDigit hdigit
        exact ⟨Host.ne_of_isForbidden hplain (by decide), Host.ne_of_isForbidden hplain (by decide)⟩
    rw [Host.render, cutHost_plain ht, hend, List.append_nil]
  | @ipv6 ps =>
    -- the colons of the address stand in brackets, where they do not end the host
    have hclose : ']' ∉ Host.ipv6Text ps := by
      intro hc
      obtain h | hdigit := Host.mem_ipv6Text hc
      · exact absurd h (by decide)
      · exact Host.ne_of_isForbidden (Host.isForbidden_of_hexDigit? hdigit) (by decide) rfl
    have hopen : cutHost true (']' :: rest) = ([']'], rest) := by
      rw [cutHost, if_neg (by decide)]
      simp only [if_neg (show ¬ ']' = '[' by decide), if_true, hend]
    rw [Host.render, List.cons_append, List.append_assoc, List.singleton_append, cutHost,
      if_neg (by decide)]
    simp only [if_true, cutHost_bracketed hclose, hopen]

theorem readPort_decimal {port : Option Nat} (h : ∀ n ∈ port, n < 65536) :
    readPort ((marked ':' (port.map decimal)).drop 1) = .ok port := by
  cases port with
  | none => rfl
  | some n =>
    have htake : (decimal n).takeWhile (· != '\\') = decimal n := by
      rw [List.takeWhile_eq_self_iff]
      intro c hc
      have hdigit := Host.isForbidden_of_isDigit (isDigit_of_mem_decimal hc)
      simpa using Host.ne_of_isForbidden hdigit (by decide)
    have hsmall : n < 65536 := h n rfl
    rw [Option.map_some, marked, List.drop_succ_cons, List.drop_zero, readPort]
    simp only [htake, digitsValue_decimal]
    rw [if_pos ⟨all_isDigit_decimal n, hsmall⟩, if_neg (decimal_ne_nil n)]

theorem render_ne_nil [Idna] {h : Host} (hs : h.Sound) : h.render ≠ [] := by
  cases hs with
  | name hne => exact hne
  | @ipv4 n =>
    intro hnil
    have hnumber := Host.endsInNumber_ipv4Text n
    rw [Host.render] at hnil
    rw [hnil] at hnumber
    exact absurd hnumber (by decide)
  | ipv6 => exact List.cons_ne_nil _ _

/-- The character is no blank and does not end the part with the host. -/
def IsInner (c : Char) : Prop := 0x20 < c.toNat ∧ ∀ s, endsHost s c = false

theorem isInner_of_ne {c : Char} (h : 0x20 < c.toNat)
    (hc : c ≠ '/' ∧ c ≠ '?' ∧ c ≠ '#' ∧ c ≠ '\\') : IsInner c := by
  obtain ⟨hslash, hquery, hfragment, hback⟩ := hc
  exact ⟨h, fun s => by simp [endsHost, hslash, hquery, hfragment, hback]⟩

theorem isInner_of_isForbidden {c : Char} (h : Host.isForbidden c = false) : IsInner c := by
  have hne : ∀ {d}, Host.isForbidden d = true → c ≠ d := fun hd => Host.ne_of_isForbidden h hd
  refine isInner_of_ne ?_ ⟨hne (by decide), hne (by decide), hne (by decide), hne (by decide)⟩
  simp only [Host.isForbidden, Bool.or_eq_false_iff, decide_eq_false_iff_not] at h
  omega

theorem isInner_of_isUserSpecial {c : Char} (h : Percent.isUserSpecial c = false) :
    IsInner c := by
  have hne : ∀ {d}, Percent.isUserSpecial d = true → c ≠ d := by
    rintro d hd rfl
    exact absurd (h.symm.trans hd) Bool.false_ne_true
  exact isInner_of_ne (Percent.isUserSpecial_guards.toNat h)
    ⟨hne (by decide), hne (by decide), hne (by decide), hne (by decide)⟩

theorem mem_hostText [Idna] {u : Url} (hu : u.Sound) {c : Char} (hc : c ∈ u.hostText) :
    c ≠ '@' ∧ IsInner c := by
  have hplain : ∀ {d}, Host.isForbidden d = false → d ≠ '@' ∧ IsInner d := fun hd =>
    ⟨Host.ne_of_isForbidden hd (by decide), isInner_of_isForbidden hd⟩
  have hcolon : ':' ≠ '@' ∧ IsInner ':' := ⟨by decide, isInner_of_ne (by decide) (by decide)⟩
  rw [hostText, List.mem_append] at hc
  obtain hc | hc := hc
  · obtain hd | rfl | rfl | rfl := Host.mem_render hu.host hc
    · exact hplain hd
    · exact hcolon
    · exact ⟨by decide, isInner_of_ne (by decide) (by decide)⟩
    · exact ⟨by decide, isInner_of_ne (by decide) (by decide)⟩
  · cases hp : u.port with
    | none => simp [hp, marked] at hc
    | some n =>
      rw [hp, Option.map_some, marked, List.mem_cons] at hc
      obtain rfl | hc := hc
      · exact hcolon
      · exact hplain (Host.isForbidden_of_isDigit (isDigit_of_mem_decimal hc))

theorem mem_userText [Idna] {u : Url} (hu : u.Sound) {c : Char} (hc : c ∈ u.userText) :
    IsInner c := by
  have hat : IsInner '@' := isInner_of_ne (by decide) (by decide)
  have hcolon : IsInner ':' := isInner_of_ne (by decide) (by decide)
  have huser : ∀ c ∈ u.user, IsInner c := fun c hc => isInner_of_isUserSpecial (hu.user c hc)
  unfold userText at hc
  cases hp : u.password with
  | none =>
    rw [hp] at hc
    dsimp only at hc
    split at hc
    next => cases hc
    next =>
      rw [List.mem_append, List.mem_singleton] at hc
      obtain hc | rfl := hc
      · exact huser c hc
      · exact hat
  | some p =>
    rw [hp] at hc
    simp only [List.mem_append, List.mem_cons, List.not_mem_nil, or_false] at hc
    obtain hc | rfl | hc | rfl := hc
    · exact huser c hc
    · exact hcolon
    · exact isInner_of_isUserSpecial ((hu.password p hp).2 c hc)
    · exact hat

theorem mem_authority [Idna] {u : Url} (hu : u.Sound) {c : Char}
    (hc : c ∈ u.userText ++ u.hostText) :
    IsInner c := by
  obtain hc | hc := List.mem_append.1 hc
  · exact mem_userText hu hc
  · exact (mem_hostText hu hc).2

theorem hostText_ne_nil [Idna] {u : Url} (hu : u.Sound) : u.hostText ≠ [] := by
  intro hnil
  exact render_ne_nil hu.host (List.append_eq_nil_iff.1 hnil).1

theorem readAuthority_sound_render [Idna] {u : Url} (hu : u.Sound) :
    readAuthority (.web u.secure) (u.userText ++ u.hostText) =
      .ok ⟨u.user, u.password, u.host, u.port⟩ := by
  have hat : '@' ∉ u.hostText := fun h => (mem_hostText hu h).1 rfl
  have hmark : ∀ c ∈ (marked ':' (u.port.map decimal)).head?, c = ':' := by
    cases u.port <;> simp [marked]
  have hcut : cutHost false u.hostText = (u.host.render, marked ':' (u.port.map decimal)) :=
    cutHost_render hu.host hmark
  rw [readAuthority_web, readUser_userText hu hat]
  simp only [hcut]
  rw [if_neg (render_ne_nil hu.host), Host.read_render hu.host,
    readPort_decimal fun n hn => (hu.port n hn).1]
  rfl

/-! ### Whole addresses -/

theorem clean_eq_self {t : Text} (h : ∀ c ∈ t, 0x20 < c.toNat) : clean t = t := by
  have hblank : ∀ c ∈ t, ¬ (decide (c.toNat ≤ 0x20)) = true := by
    intro c hc
    have := h c hc
    simp
    omega
  have hdrop : ∀ s : Text, (∀ c ∈ s, ¬ (decide (c.toNat ≤ 0x20)) = true) →
      s.dropWhile (fun c => c.toNat ≤ 0x20) = s := by
    intro s hs
    cases s with
    | nil => rfl
    | cons c rest => exact List.dropWhile_cons_of_neg (hs c List.mem_cons_self)
  have htrim : trimBoth (fun c => c.toNat ≤ 0x20) t = t := by
    rw [trimBoth, hdrop t hblank, trimEnd,
      hdrop t.reverse fun c hc => hblank c (List.mem_reverse.1 hc), List.reverse_reverse]
  rw [clean, htrim, List.filter_eq_self]
  intro c hc
  have hlow := h c hc
  have hne : ∀ d : Char, d.toNat ≤ 0x20 → c ≠ d := by
    rintro d hd rfl
    omega
  simp [hne '\t' (by decide), hne '\n' (by decide), hne '\r' (by decide)]

theorem readScheme?_scheme (u : Url) (t : Text) :
    readScheme? (u.scheme ++ "://" ++ t) = some (.web u.secure, '/' :: '/' :: t) := by
  unfold scheme
  cases u.secure <;> rfl

theorem readWeb_append [Idna] {u : Url} (hu : u.Sound) {t : Text}
    (hhead : ∀ c ∈ t.head?, c = '/' ∨ c = '?' ∨ c = '#') :
    readWeb u.secure (u.userText ++ u.hostText ++ t) = .ok (u.withTail t) := by
  let s := Scheme.web u.secure
  have hauthority : ∀ c ∈ u.userText ++ u.hostText, (!endsHost s c) = true := by
    intro c hc
    rw [(mem_authority hu hc).2 s]
    rfl
  have hnext : ∀ c ∈ t.head?, (!endsHost s c) = false := by
    intro c hc
    obtain rfl | rfl | rfl := hhead c hc <;> rfl
  have hport : u.port.filter (· ≠ schemePort u.secure) = u.port := by
    cases hp : u.port with
    | none => rfl
    | some n => simp [(hu.port n hp).2]
  unfold readWeb
  dsimp only
  rw [takeWhile_append_of_head hauthority hnext, dropWhile_append_of_head hauthority hnext,
    readAuthority_sound_render hu]
  simp only [bind, Except.bind, pure, Except.pure, withTail, hport]

/-- **The text before the path is read as it has been written**, whatever follows it. -/
theorem read_origin [Idna] {u : Url} (hu : u.Sound) {t : Text}
    (hhead : ∀ c ∈ t.head?, c = '/' ∨ c = '?' ∨ c = '#') (ht : ∀ c ∈ t, 0x20 < c.toNat) :
    read (u.origin ++ t) = .ok (.web (u.withTail t)) := by
  have hscheme : ∀ c ∈ u.scheme ++ "://", 0x20 < c.toNat := by
    have hall : (u.scheme ++ "://").all (0x20 < ·.toNat) = true := by
      unfold scheme
      cases u.secure <;> decide
    simpa only [List.all_eq_true, decide_eq_true_eq] using hall
  have hclean : clean (u.origin ++ t) = u.origin ++ t := by
    refine clean_eq_self fun c hc => ?_
    rw [origin, List.mem_append, List.mem_append] at hc
    obtain (hc | hc) | hc := hc
    · exact hscheme c hc
    · exact (mem_authority hu hc).1
    · exact ht c hc
  have hfirst : ∀ c ∈ (u.userText ++ u.hostText ++ t).head?, (c == '/' || c == '\\') = false := by
    have hne : u.userText ++ u.hostText ≠ [] := by simp [hostText_ne_nil hu]
    obtain ⟨d, rest, hd⟩ := List.exists_cons_of_ne_nil hne
    rw [hd]
    rintro c hc
    obtain rfl : d = c := Option.some.inj hc
    have hends := (mem_authority hu (hd ▸ List.mem_cons_self)).2 (.web u.secure)
    simp only [endsHost, Scheme.isSpecial, Bool.true_and, Bool.or_eq_false_iff] at hends ⊢
    exact ⟨hends.1.1.1, hends.2⟩
  have hslashes : ('/' :: '/' :: (u.userText ++ u.hostText ++ t)).dropWhile
      (fun c => c == '/' || c == '\\') = u.userText ++ u.hostText ++ t :=
    dropWhile_append_of_head (t := ['/', '/']) (by simp) hfirst
  have htext : u.origin ++ t = u.scheme ++ "://" ++ (u.userText ++ u.hostText ++ t) := by
    simp [origin]
  rw [read, hclean, htext, readScheme?_scheme]
  simp only [hslashes, readWeb_append hu hhead]
  rfl

end RuleAudit.Url
