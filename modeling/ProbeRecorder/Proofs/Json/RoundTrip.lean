import ProbeRecorder.Proofs.Json.Parsing

/-!
# `ProbeRecorder.Proofs.Json.RoundTrip` — free-form values read back from compact text

A free-form value without fractions is written as text that denotes it again. Reading is bounded in depth, and
gives up on a value that is nested deeper: nothing else is lost on the way.

## Contents
- **Free-form values.** `Json.Integral`: integers of machine words, and objects sorted by key.
- **Depth.** `Json.nesting`, how many brackets are open at the deepest place; `readable_of_nesting`.
- **Objects.** Sorted fields are kept as they are (`ofFields_of_sorted`).
- **Reading.** `toJson?_tree`, and `parse?_render` for every depth.
-/

namespace ProbeRecorder.Json

/-! ## Free-form values -/

/-- **A free-form value without fractions.** Its numbers are integers of signed or unsigned words, and every
    object has its fields sorted by key, one for each key. -/
inductive Integral : Json → Prop
  | null : Integral .null
  | bool (b : Bool) : Integral (.bool b)
  | int {n : Int} (word : keepsInt n = true) : Integral (.int n)
  | str (s : String) : Integral (.str s)
  | arr {items : List Json} (each : ∀ v ∈ items, Integral v) : Integral (.arr items)
  | obj {fields : List (String × Json)} (sorted : fields.Pairwise fun f g => f.1 < g.1)
      (each : ∀ f ∈ fields, Integral f.2) : Integral (.obj fields)

/-! ## Depth -/

mutual

/-- **How many brackets are open** at the deepest place of a value. -/
def nesting : Json → Nat
  | .null => 0
  | .bool _ => 0
  | .int _ => 0
  | .double _ => 0
  | .single _ => 0
  | .str _ => 0
  | .arr items => itemsNesting items + 1
  | .obj fields => fieldsNesting fields + 1

def itemsNesting : List Json → Nat
  | [] => 0
  | v :: rest => max (nesting v) (itemsNesting rest)

def fieldsNesting : List (String × Json) → Nat
  | [] => 0
  | (_, v) :: rest => max (nesting v) (fieldsNesting rest)

end

mutual

/-- A value is readable where its brackets find room. -/
theorem readable_of_nesting : ∀ {v : Json} {depth : Nat}, v.Integral → v.nesting < depth →
    v.readable depth = true
  | .null, _, _, _ => rfl
  | .bool _, _, _, _ => rfl
  | .int _, _, .int word, _ => word
  | .str _, _, _, _ => rfl
  | .arr items, depth, .arr each, h => by
      rw [nesting] at h
      rw [readable, decide_eq_true (by omega), Bool.true_and]
      exact readableItems_of_nesting each (by omega)
  | .obj fields, depth, .obj _ each, h => by
      rw [nesting] at h
      rw [readable, decide_eq_true (by omega), Bool.true_and]
      exact readableFields_of_nesting each (by omega)

theorem readableItems_of_nesting : ∀ {items : List Json} {depth : Nat}, (∀ v ∈ items, v.Integral) →
    itemsNesting items < depth → readableItems depth items = true
  | [], _, _, _ => rfl
  | v :: rest, depth, each, h => by
      rw [itemsNesting, Nat.max_lt] at h
      rw [readableItems, readable_of_nesting (each v List.mem_cons_self) h.1, Bool.true_and]
      exact readableItems_of_nesting (fun w hw => each w (List.mem_cons_of_mem v hw)) h.2

theorem readableFields_of_nesting : ∀ {fields : List (String × Json)} {depth : Nat},
    (∀ f ∈ fields, f.2.Integral) → fieldsNesting fields < depth → readableFields depth fields = true
  | [], _, _, _ => rfl
  | (k, v) :: rest, depth, each, h => by
      rw [fieldsNesting, Nat.max_lt] at h
      rw [readableFields, readable_of_nesting (each (k, v) List.mem_cons_self) h.1, Bool.true_and]
      exact readableFields_of_nesting (fun f hf => each f (List.mem_cons_of_mem (k, v) hf)) h.2

end

/-! ## Objects -/

/-- A key that is greater than all others comes last. -/
theorem insertField_of_greater {key : String} (value : Json) {fields : List (String × Json)}
    (greater : ∀ f ∈ fields, f.1 < key) : insertField key value fields = fields ++ [(key, value)] := by
  induction fields with
  | nil => rfl
  | cons f rest ih =>
      obtain ⟨k, v⟩ := f
      have hk : k < key := greater (k, v) List.mem_cons_self
      have hne : key ≠ k := fun heq => String.lt_irrefl k (heq ▸ hk)
      have hrest := ih fun f hf => greater f (List.mem_cons_of_mem (k, v) hf)
      rw [insertField, if_neg hne, if_neg (String.lt_asymm hk), hrest]
      rfl

/-- **Sorted fields are kept** as they are. -/
theorem ofFields_of_sorted {fields : List (String × Json)} (sorted : fields.Pairwise fun f g => f.1 < g.1) :
    ofFields fields = .obj fields := by
  -- The fields come one by one, each behind those that are there already.
  have insert : ∀ (rest before : List (String × Json)), (before ++ rest).Pairwise (fun f g => f.1 < g.1) →
      rest.foldl (fun acc f => insertField f.1 f.2 acc) before = before ++ rest := by
    intro rest
    induction rest with
    | nil =>
        intro before _
        exact (List.append_nil before).symm
    | cons f rest ih =>
        intro before h
        obtain ⟨k, v⟩ := f
        have greater : ∀ g ∈ before, g.1 < k :=
          fun g hg => (List.pairwise_append.mp h).2.2 g hg (k, v) List.mem_cons_self
        rw [List.append_cons] at h ⊢
        rw [List.foldl_cons]
        show rest.foldl _ (insertField k v before) = _
        rw [insertField_of_greater v greater]
        exact ih (before ++ [(k, v)]) h
  exact congrArg Json.obj (insert fields [] sorted)

/-! ## Reading -/

mutual

/-- **The tree of a value has that value**, if there is room for its brackets, and none otherwise. -/
theorem toJson?_tree : ∀ {v : Json} {depth : Nat}, v.Integral → 0 < depth →
    (tree v).toJson? depth = if v.nesting < depth then some v else none
  | .null, _, _, h => (if_pos h).symm
  | .bool _, _, _, h => (if_pos h).symm
  | .int n, _, .int word, h => by
      rw [tree, Tree.toJson?, ofNumeral?_numeralOf word]
      exact (if_pos h).symm
  | .str s, _, _, h => by
      rw [tree, Tree.toJson?, decodeItems?_textItems, Option.map_some, String.ofList_toList]
      exact (if_pos h).symm
  | .arr items, depth, .arr each, _ => by
      rw [tree, Tree.toJson?, nesting]
      by_cases room : depth ≤ 1
      · rw [if_pos room, if_neg (by omega)]
      · rw [if_neg room, itemsToJson?_itemTrees each (by omega)]
        by_cases fits : itemsNesting items < depth - 1
        · rw [if_pos fits, if_pos (by omega)]
          rfl
        · rw [if_neg fits, if_neg (by omega)]
          rfl
  | .obj fields, depth, .obj sorted each, _ => by
      rw [tree, Tree.toJson?, nesting]
      by_cases room : depth ≤ 1
      · rw [if_pos room, if_neg (by omega)]
      · rw [if_neg room, fieldsToJson?_fieldTrees each (by omega)]
        by_cases fits : fieldsNesting fields < depth - 1
        · rw [if_pos fits, if_pos (by omega), Option.map_some, ofFields_of_sorted sorted]
        · rw [if_neg fits, if_neg (by omega)]
          rfl

theorem itemsToJson?_itemTrees : ∀ {items : List Json} {depth : Nat}, (∀ v ∈ items, v.Integral) →
    0 < depth →
    Tree.itemsToJson? depth (itemTrees items) = if itemsNesting items < depth then some items else none
  | [], _, _, h => (if_pos h).symm
  | v :: rest, depth, each, h => by
      have first := toJson?_tree (each v List.mem_cons_self) h
      have others := itemsToJson?_itemTrees (fun w hw => each w (List.mem_cons_of_mem v hw)) h
      rw [itemTrees, Tree.itemsToJson?, first, others, itemsNesting]
      simp only [Nat.max_lt]
      by_cases hv : v.nesting < depth <;> by_cases hrest : itemsNesting rest < depth <;>
        simp [hv, hrest]

theorem fieldsToJson?_fieldTrees : ∀ {fields : List (String × Json)} {depth : Nat},
    (∀ f ∈ fields, f.2.Integral) → 0 < depth →
    Tree.fieldsToJson? depth (fieldTrees fields) = if fieldsNesting fields < depth then some fields else none
  | [], _, _, h => (if_pos h).symm
  | (k, v) :: rest, depth, each, h => by
      have first := toJson?_tree (each (k, v) List.mem_cons_self) h
      have others := fieldsToJson?_fieldTrees (fun f hf => each f (List.mem_cons_of_mem (k, v) hf)) h
      rw [fieldTrees, Tree.fieldsToJson?, decodeItems?_textItems, first, others, fieldsNesting]
      simp only [Nat.max_lt]
      by_cases hv : v.nesting < depth <;> by_cases hrest : fieldsNesting rest < depth <;>
        simp [hv, hrest, String.ofList_toList]

end

/-- **Compact text denotes its value**, unless more brackets are open at a time than reading allows. -/
theorem parse?_render {v : Json} (integral : v.Integral) :
    parse? (render v) = if v.nesting < Tree.depthLimit then some v else none := by
  -- The tree is assembled at any depth; only its value is bounded.
  have assembled := Tree.parse?_render v (readable_of_nesting integral (Nat.lt_succ_self v.nesting))
  unfold parse?
  rw [assembled]
  exact toJson?_tree integral (by decide)

end ProbeRecorder.Json
