import RuleAudit.Proofs.Json.Names
import RuleAudit.Proofs.Json.Printed

/-!
# A printed value is read back

* `Value.sorted`: the members of all objects in the order of their names, the last of a name alone;
* `Value.read_pretty`: what is printed for a value is read as the value with its members sorted;
* `Value.Distinct`: no name stands for two members of an object;
* `Value.member?_sorted`: then sorting loses no member.
-/

namespace RuleAudit.Json

/-! ### The tree of a value -/

namespace Value

mutual
/-- The tree that a value is. -/
def tree : Value → Tree
  | .null => .null
  | .bool b => .bool b
  | .number n => .number (some n)
  | .string t => .string (some t)
  | .array vs => .array (itemTrees vs) none
  | .object ms => .object (memberTrees ms) none

def itemTrees : List Value → List Tree
  | [] => []
  | v :: vs => v.tree :: itemTrees vs

def memberTrees : List (Text × Value) → List (Option Text × Tree)
  | [] => []
  | (name, v) :: ms => (some name, v.tree) :: memberTrees ms
end

end Value

namespace Tree

/-- Builds on behind a tree that is complete. -/
def resume (t : Tree) (rest : List Token) : List Frame → Document
  | [] => ⟨t, !rest.isEmpty⟩
  | frame :: frames => build (frame.plug t :: frames) .next rest

section

variable {frames frames' : List Frame} {wanted wanted' : Wanted} {token : Token}

theorem build_of_complete {t : Tree} (h : move frames wanted token = complete t frames')
    (rest : List Token) : build frames wanted (token :: rest) = resume t rest frames' := by
  rw [build, h]
  cases frames' <;> rfl

theorem build_of_goOn (h : move frames wanted token = .goOn frames' wanted') (rest : List Token) :
    build frames wanted (token :: rest) = build frames' wanted' rest := by
  rw [build, h]

end

/-- Where a list may end, a value is taken all the same. -/
theorem build_firstItem (frames : List Frame) (v : Value) (rest : List Token) :
    build frames .firstItem (v.tokens ++ rest) = build frames .value (v.tokens ++ rest) := by
  rcases v with _ | _ | _ | _ | ⟨_ | ⟨v, vs⟩⟩ | ⟨_ | ⟨⟨name, v⟩, ms⟩⟩ <;> cases frames <;> rfl

-- The tokens of an item or member are followed by more, so each statement carries what comes behind.
mutual
/-- **The tokens of a value build its tree**, and what comes behind them is built around it. -/
theorem build_value : ∀ (v : Value) (frames : List Frame) (rest : List Token),
    build frames .value (v.tokens ++ rest) = resume v.tree rest frames
  | .null, _, rest => build_of_complete rfl rest
  | .bool _, _, rest => build_of_complete rfl rest
  | .number _, _, rest => build_of_complete rfl rest
  | .string _, _, rest => build_of_complete rfl rest
  | .array [], frames, rest => by
    change build frames .value (.beginArray :: .endArray :: rest) = _
    rw [build_of_goOn rfl]
    exact build_of_complete rfl rest
  | .array (v :: vs), frames, rest => by
    change build frames .value (.beginArray :: (v.tokens ++ Value.itemTokens vs ++ rest)) = _
    rw [build_of_goOn rfl, List.append_assoc, build_firstItem, build_value v]
    exact build_items vs [v.tree] frames rest
  | .object [], frames, rest => by
    change build frames .value (.beginObject :: .endObject :: rest) = _
    rw [build_of_goOn rfl]
    exact build_of_complete rfl rest
  | .object ((name, v) :: ms), frames, rest => by
    change build frames .value (.beginObject :: .string (some name) :: .colon ::
      (v.tokens ++ Value.memberTokens ms ++ rest)) = _
    rw [build_of_goOn rfl, build_of_goOn rfl, build_of_goOn rfl, List.append_assoc, build_value v]
    exact build_members ms [(some name, v.tree)] frames rest

theorem build_items : ∀ (vs : List Value) (items : List Tree) (frames : List Frame)
    (rest : List Token),
    build (.array items :: frames) .next (Value.itemTokens vs ++ rest) =
      resume (.array (items.reverse ++ Value.itemTrees vs) none) rest frames
  | [], items, frames, rest => by
    rw [Value.itemTrees, List.append_nil]
    exact build_of_complete rfl rest
  | v :: vs, items, frames, rest => by
    change build _ .next (.comma :: (v.tokens ++ Value.itemTokens vs ++ rest)) = _
    rw [build_of_goOn rfl, List.append_assoc, build_value v]
    change build (.array (v.tree :: items) :: frames) .next (Value.itemTokens vs ++ rest) = _
    rw [build_items vs, List.reverse_cons, List.append_assoc]
    rfl

theorem build_members : ∀ (ms : List (Text × Value)) (members : List (Option Text × Tree))
    (frames : List Frame) (rest : List Token),
    build (.object members none :: frames) .next (Value.memberTokens ms ++ rest) =
      resume (.object (members.reverse ++ Value.memberTrees ms) none) rest frames
  | [], members, frames, rest => by
    rw [Value.memberTrees, List.append_nil]
    exact build_of_complete rfl rest
  | (name, v) :: ms, members, frames, rest => by
    change build _ .next (.comma :: .string (some name) :: .colon ::
      (v.tokens ++ Value.memberTokens ms ++ rest)) = _
    rw [build_of_goOn rfl, build_of_goOn rfl, build_of_goOn rfl, List.append_assoc, build_value v]
    change build (.object ((some name, v.tree) :: members) none :: frames) .next
      (Value.memberTokens ms ++ rest) = _
    rw [build_members ms, List.reverse_cons, List.append_assoc]
    rfl
end

end Tree

/-! ### The value of the tree -/

namespace Value

mutual
/-- The value with the members of all objects in the order of their names; of the members of one
name only the last is kept. -/
def sorted : Value → Value
  | .null => .null
  | .bool b => .bool b
  | .number n => .number n
  | .string t => .string t
  | .array vs => .array (sortedItems vs)
  | .object ms => .object (sortedMembers [] ms)

def sortedItems : List Value → List Value
  | [] => []
  | v :: vs => v.sorted :: sortedItems vs

/-- The members put into others, one after the other. -/
def sortedMembers (done : List (Text × Value)) : List (Text × Value) → List (Text × Value)
  | [] => done
  | (name, v) :: ms => sortedMembers (putMember name v.sorted done) ms
end

theorem sortedItems_eq : ∀ vs : List Value, sortedItems vs = vs.map sorted
  | [] => rfl
  | v :: vs => congrArg (v.sorted :: ·) (sortedItems_eq vs)

end Value

namespace Tree

mutual
theorem value_tree {depth : Nat} : ∀ {v : Value}, v.Fits depth → v.tree.value depth = .ok v.sorted
  | .null, _ => rfl
  | .bool _, _ => rfl
  | .number _, _ => rfl
  | .string _, _ => rfl
  | .array vs, .array h => by
    rw [Value.tree, value, if_neg (Nat.succ_ne_zero _)]
    change itemValues _ (Value.itemTrees vs) >>= _ = _
    rw [Nat.add_sub_cancel, itemValues_trees h]
    rfl
  | .object ms, .object h => by
    rw [Value.tree, value, if_neg (Nat.succ_ne_zero _)]
    change memberValues _ [] (Value.memberTrees ms) >>= _ = _
    rw [Nat.add_sub_cancel, memberValues_trees h]
    rfl

theorem itemValues_trees {depth : Nat} : ∀ {vs : List Value}, (∀ v ∈ vs, v.Fits depth) →
    itemValues depth (Value.itemTrees vs) = .ok (Value.sortedItems vs)
  | [], _ => rfl
  | v :: vs, h => by
    obtain ⟨hv, hvs⟩ := List.forall_mem_cons.1 h
    rw [Value.itemTrees, itemValues, value_tree hv]
    change itemValues depth (Value.itemTrees vs) >>= _ = _
    rw [itemValues_trees hvs]
    rfl

theorem memberValues_trees {depth : Nat} {done : List (Text × Value)} :
    ∀ {ms : List (Text × Value)}, (∀ m ∈ ms, m.2.Fits depth) →
      memberValues depth done (Value.memberTrees ms) = .ok (Value.sortedMembers done ms)
  | [], _ => rfl
  | (name, v) :: ms, h => by
    obtain ⟨hv, hms⟩ := List.forall_mem_cons.1 h
    rw [Value.memberTrees, memberValues, value_tree hv]
    exact memberValues_trees hms
end

end Tree

/-! ### Texts -/

section

variable {blanks : Text}

theorem endsNumeral_of_blank (h : ∀ c ∈ blanks, isSpace c = true) : EndsNumeral blanks := by
  intro c hc
  have hspace := h c (List.mem_of_mem_head? hc)
  simp only [isSpace, Bool.or_eq_true, beq_iff_eq] at hspace
  rcases hspace with ((rfl | rfl) | rfl) | rfl <;> decide

theorem tokens_of_blank (h : ∀ c ∈ blanks, isSpace c = true) : tokens blanks = [] := by
  rw [tokens.eq_def, List.dropWhile_eq_nil_iff.2 h]

/-- **A printed value is read back**, with its members sorted, whatever blanks and line breaks stand
behind it. -/
theorem Value.read_pretty {v : Value} (hfits : v.Fits Tree.maxDepth)
    (h : ∀ c ∈ blanks, isSpace c = true) : Value.read (v.pretty 0 ++ blanks) = .ok v.sorted := by
  have hread : Tree.read (v.pretty 0 ++ blanks) = ⟨v.tree, false⟩ := by
    rw [Tree.read, tokens_pretty hfits (endsNumeral_of_blank h), tokens_of_blank h,
      Tree.build_value]
    rfl
  rw [read, hread, Tree.value_tree hfits]
  rfl

end

/-! ### Members of a sorted object -/

namespace Value

/-- No name stands for two members, in the value itself and in all values inside it. -/
inductive Distinct : Value → Prop
  | null : Distinct .null
  | bool (b : Bool) : Distinct (.bool b)
  | number (n : Number) : Distinct (.number n)
  | string (t : Text) : Distinct (.string t)
  | array {vs : List Value} (h : ∀ v ∈ vs, Distinct v) : Distinct (.array vs)
  | object {ms : List (Text × Value)} (hnames : (ms.map (·.1)).Nodup)
    (h : ∀ m ∈ ms, Distinct m.2) : Distinct (.object ms)

theorem member?_cons (name n : Text) (v : Value) (ms : List (Text × Value)) :
    (object ((n, v) :: ms)).member? name =
      if n = name then some v else (object ms).member? name := by
  by_cases h : n = name <;> simp [member?, h]

theorem member?_eq_none {name : Text} {ms : List (Text × Value)} (h : name ∉ ms.map (·.1)) :
    (object ms).member? name = none := by
  rw [member?, Option.map_eq_none_iff, List.find?_eq_none]
  intro m hm heq
  exact h (List.mem_map.2 ⟨m, hm, eq_of_beq heq⟩)

theorem member?_putMember (name n : Text) (v : Value) (ms : List (Text × Value)) :
    (object (putMember n v ms)).member? name =
      if n = name then some v else (object ms).member? name := by
  induction ms with
  | nil => exact member?_cons name n v []
  | cons m ms ih =>
    obtain ⟨k, w⟩ := m
    rw [putMember]
    split
    next => rw [member?_cons]
    next =>
      split
      next heq =>
        subst heq
        rw [member?_cons, member?_cons]
        split <;> rfl
      next hne =>
        rw [member?_cons, ih, member?_cons]
        split <;> split <;> simp_all

theorem member?_sortedMembers (name : Text) (ms : List (Text × Value)) (done : List (Text × Value))
    (hnames : (ms.map (·.1)).Nodup) :
    (object (sortedMembers done ms)).member? name =
      (((object ms).member? name).map sorted).or ((object done).member? name) := by
  induction ms generalizing done with
  | nil => rfl
  | cons m ms ih =>
    obtain ⟨n, v⟩ := m
    obtain ⟨hn, hms⟩ := List.nodup_cons.1 hnames
    rw [sortedMembers, ih _ hms, member?_putMember, member?_cons]
    split
    next heq =>
      subst heq
      rw [member?_eq_none hn]
      rfl
    next hne => rfl

/-- Sorting loses no member of an object whose names are distinct. -/
theorem member?_sorted {v : Value} (h : v.Distinct) (name : Text) :
    v.sorted.member? name = (v.member? name).map sorted := by
  cases h with
  | object hnames =>
    rw [sorted, member?_sortedMembers name _ _ hnames]
    exact Option.or_none ..
  | _ => rfl

end Value

end RuleAudit.Json
