import Mathlib.Data.List.Dedup
import ProbeRecorder.Exclusion.Trie

/-!
# `ProbeRecorder.Proofs.Exclusion.Trie` — a trie is the set of its keys

A trie answers every query as a search through the list of its keys would. The walks go byte by byte and the
keys are texts: a key that ends on the way down a query always ends between two characters of it.

## Contents
- **One key more.** What inserting does to the keys of a node (`insert_isNew`, `contains_insert`).
- **Walks.** `beginsWithKey_iff`, and the shortest match (`matchLength?_spec`, `isSome_matchLength?`).
- **Keys of a trie.** `Trie.HasKeys`, kept by `insert`; what the queries then say.
- **Runs.** `Trie.insertAll`, `Trie.Agrees` and `Trie.insertAll_agrees`.
-/

namespace ProbeRecorder

namespace TrieNode

variable {n : TrieNode} {key query : Bytes} {length : Nat}

/-! ## One key more -/

@[simp] theorem contains_empty (query : Bytes) : empty.contains query = false := by
  cases query <;> rfl

/-- A child that is not there has no keys. -/
theorem contains_cons (n : TrieNode) (b : UInt8) (rest : Bytes) :
    n.contains (b :: rest) = ((n.children.child? b).getD empty).contains rest := by
  rw [contains]
  cases n.children.child? b with
  | some child => rfl
  | none => exact (contains_empty rest).symm

/-- **An insertion says whether its key is new.** -/
theorem insert_isNew (n : TrieNode) (key : Bytes) : (n.insert key).1 = !n.contains key := by
  induction key generalizing n with
  | nil => rfl
  | cons b rest ih =>
      rw [contains_cons]
      exact ih _

/-- **An insertion adds its key**, and no other one. -/
theorem contains_insert (n : TrieNode) (key query : Bytes) :
    (n.insert key).2.contains query = true ↔ query = key ∨ n.contains query = true := by
  induction key generalizing n query with
  | nil =>
      cases query with
      | nil => simp [insert, contains, terminal]
      | cons c q =>
          -- The empty key ends at the root, and this one below it.
          show n.contains (c :: q) = true ↔ _
          simp
  | cons b rest ih =>
      cases query with
      | nil => simp [insert, contains, terminal]
      | cons c q =>
          rw [contains_cons, contains_cons]
          show (((n.children.setChild b _).child? c).getD empty).contains q = true ↔ _
          rw [Branches.child?_setChild]
          by_cases same : b = c
          · subst same
            rw [if_pos rfl, Option.getD_some, ih]
            simp
          · rw [if_neg same]
            constructor
            · exact .inr
            · rintro (h | h)
              · exact absurd (List.cons.inj h).1.symm same
              · exact h

/-! ## Walks -/

theorem beginsWithKey_of_terminal (ends : n.terminal = true) (query : Bytes) :
    n.beginsWithKey query = true := by
  unfold beginsWithKey
  rw [if_pos ends]

/-- Below a node where no key ends, the walk goes on. -/
theorem beginsWithKey_cons (goesOn : n.terminal = false) (b : UInt8) (rest : Bytes) :
    n.beginsWithKey (b :: rest) = ((n.children.child? b).getD empty).beginsWithKey rest := by
  have nothing : empty.beginsWithKey rest = false := by cases rest <;> rfl
  rw [beginsWithKey]
  cases n.children.child? b <;> simp [goesOn, nothing]

theorem matchLength?_of_terminal (ends : n.terminal = true) (query : Bytes) :
    n.matchLength? query = some 0 := by
  unfold matchLength?
  rw [if_pos ends]

/-- Below a node where no key ends, a match is longer by a byte. -/
theorem matchLength?_cons (goesOn : n.terminal = false) (b : UInt8) (rest : Bytes) :
    n.matchLength? (b :: rest) = (((n.children.child? b).getD empty).matchLength? rest).map (· + 1) := by
  have nothing : empty.matchLength? rest = none := by cases rest <;> rfl
  rw [matchLength?]
  cases n.children.child? b <;> simp [goesOn, nothing]

/-- The key that ends at a node begins every query. -/
theorem exists_key_of_terminal (ends : n.terminal = true) (query : Bytes) :
    ∃ key, key <+: query ∧ n.contains key = true ∧ key.length = 0 :=
  ⟨[], List.nil_prefix, ends, rfl⟩

/-- Below a node where no key ends, the keys are those of its children. -/
theorem key_cons (goesOn : n.terminal = false) (b : UInt8) (rest key : Bytes) :
    (key <+: b :: rest ∧ n.contains key = true) ↔
      ∃ below, key = b :: below ∧ below <+: rest ∧
        ((n.children.child? b).getD empty).contains below = true := by
  constructor
  · rintro ⟨begins, stored⟩
    cases key with
    | nil =>
        rw [contains, goesOn] at stored
        cases stored
    | cons c below =>
        obtain ⟨rfl, further⟩ := List.cons_prefix_cons.mp begins
        rw [contains_cons] at stored
        exact ⟨below, rfl, further, stored⟩
  · rintro ⟨below, rfl, begins, stored⟩
    rw [contains_cons]
    exact ⟨List.cons_prefix_cons.mpr ⟨rfl, begins⟩, stored⟩

/-- **The walk finds a key exactly if one begins the query.** -/
theorem beginsWithKey_iff :
    n.beginsWithKey query = true ↔ ∃ key, key <+: query ∧ n.contains key = true := by
  induction query generalizing n with
  | nil =>
      cases ends : n.terminal <;> simp [beginsWithKey, contains, ends]
  | cons b rest ih =>
      cases ends : n.terminal with
      | true =>
          obtain ⟨key, begins, stored, _⟩ := exists_key_of_terminal ends (b :: rest)
          exact iff_of_true (beginsWithKey_of_terminal ends _) ⟨key, begins, stored⟩
      | false =>
          rw [beginsWithKey_cons ends, ih]
          constructor
          · rintro ⟨below, begins, stored⟩
            exact ⟨b :: below, (key_cons ends b rest _).mpr ⟨below, rfl, begins, stored⟩⟩
          · rintro ⟨key, h⟩
            obtain ⟨below, _, begins, stored⟩ := (key_cons ends b rest key).mp h
            exact ⟨below, begins, stored⟩

/-- **The two walks agree** on whether there is a key. -/
theorem isSome_matchLength? (n : TrieNode) (query : Bytes) :
    (n.matchLength? query).isSome = n.beginsWithKey query := by
  induction query generalizing n with
  | nil =>
      unfold matchLength? beginsWithKey
      cases n.terminal <;> rfl
  | cons b rest ih =>
      cases ends : n.terminal with
      | true =>
          rw [matchLength?_of_terminal ends, beginsWithKey_of_terminal ends]
          rfl
      | false =>
          rw [matchLength?_cons ends, beginsWithKey_cons ends, Option.isSome_map, ih]

/-- **The shortest match**: a key of that length begins the query, and no shorter one. -/
theorem matchLength?_spec (matched : n.matchLength? query = some length) :
    (∃ key, key <+: query ∧ n.contains key = true ∧ key.length = length) ∧
      ∀ key, key <+: query → n.contains key = true → length ≤ key.length := by
  induction query generalizing n length with
  | nil =>
      cases ends : n.terminal with
      | false => simp [matchLength?, ends] at matched
      | true =>
          rw [matchLength?_of_terminal ends] at matched
          obtain rfl : 0 = length := Option.some.inj matched
          exact ⟨exists_key_of_terminal ends [], fun _ _ _ => Nat.zero_le _⟩
  | cons b rest ih =>
      cases ends : n.terminal with
      | true =>
          rw [matchLength?_of_terminal ends] at matched
          obtain rfl : 0 = length := Option.some.inj matched
          exact ⟨exists_key_of_terminal ends _, fun _ _ _ => Nat.zero_le _⟩
      | false =>
          rw [matchLength?_cons ends] at matched
          obtain ⟨length, matchedBelow, rfl⟩ := Option.map_eq_some_iff.mp matched
          obtain ⟨⟨below, begins, stored, size⟩, shortest⟩ := ih matchedBelow
          constructor
          · have key := (key_cons ends b rest _).mpr ⟨below, rfl, begins, stored⟩
            exact ⟨b :: below, key.1, key.2, by rw [List.length_cons, size]⟩
          · intro key keyBegins keyStored
            obtain ⟨other, rfl, otherBegins, otherStored⟩ :=
              (key_cons ends b rest key).mp ⟨keyBegins, keyStored⟩
            exact Nat.succ_le_succ (shortest other otherBegins otherStored)

end TrieNode

namespace Trie

variable {t : Trie} {keys : List String} {key query : String}

/-! ## Keys of a trie -/

/-- **The keys of a trie**, in any order and with repetitions. -/
structure HasKeys (t : Trie) (keys : List String) : Prop where
  stored : ∀ bytes, t.root.contains bytes = true ↔ ∃ key ∈ keys, Text.utf8 key = bytes
  size : t.size = keys.dedup.length

theorem empty_hasKeys : empty.HasKeys [] where
  stored := by
    intro bytes
    show TrieNode.empty.contains bytes = true ↔ _
    simp
  size := rfl

theorem HasKeys.contains (keyed : t.HasKeys keys) : t.contains query = true ↔ query ∈ keys := by
  rw [Trie.contains, keyed.stored]
  simp

/-- **An insertion** is answered with whether the key is new. -/
theorem HasKeys.isNew (keyed : t.HasKeys keys) : (t.insert key).1 = decide (key ∉ keys) := by
  show (t.root.insert (Text.utf8 key)).1 = _
  rw [TrieNode.insert_isNew, ← Bool.coe_iff_coe, Bool.not_eq_true', ← Bool.not_eq_true, decide_eq_true_iff]
  exact not_congr keyed.contains

theorem length_dedup_concat (keys : List String) (key : String) :
    (keys ++ [key]).dedup.length = if key ∈ keys then keys.dedup.length else keys.dedup.length + 1 := by
  rw [(List.perm_append_singleton key keys).dedup.length_eq]
  split
  · rename_i old
    rw [List.dedup_cons_of_mem old]
  · rename_i isNew
    rw [List.dedup_cons_of_notMem isNew, List.length_cons]

/-- **An insertion** adds its key. -/
theorem HasKeys.insert (keyed : t.HasKeys keys) (key : String) : (t.insert key).2.HasKeys (keys ++ [key]) where
  stored := by
    intro bytes
    show (t.root.insert (Text.utf8 key)).2.contains bytes = true ↔ _
    rw [TrieNode.contains_insert, keyed.stored]
    constructor
    · rintro (rfl | ⟨k, hk, rfl⟩)
      · exact ⟨key, by simp, rfl⟩
      · exact ⟨k, List.mem_append_left _ hk, rfl⟩
    · rintro ⟨k, hk, rfl⟩
      rcases List.mem_append.mp hk with hk | hk
      · exact .inr ⟨k, hk, rfl⟩
      · exact .inl (by rw [List.mem_singleton.mp hk])
  size := by
    show (if (t.insert key).1 = true then t.size + 1 else t.size) = _
    rw [keyed.isNew, keyed.size, length_dedup_concat]
    by_cases old : key ∈ keys <;> simp [old]

/-- A stored key begins the bytes of a query exactly if it is a text of the list that begins the query. -/
theorem HasKeys.begins_iff (keyed : t.HasKeys keys) {bytes : Bytes} :
    (bytes <+: Text.utf8 query ∧ t.root.contains bytes = true) ↔
      ∃ key ∈ keys, key.toList <+: query.toList ∧ Text.utf8 key = bytes := by
  rw [keyed.stored]
  constructor
  · rintro ⟨begins, key, hkey, rfl⟩
    exact ⟨key, hkey, Text.utf8_prefix_iff.mp begins, rfl⟩
  · rintro ⟨key, hkey, begins, rfl⟩
    exact ⟨Text.utf8_prefix_iff.mpr begins, key, hkey, rfl⟩

theorem HasKeys.hasPrefixOf (keyed : t.HasKeys keys) :
    t.hasPrefixOf query = true ↔ ∃ key ∈ keys, key.toList <+: query.toList := by
  rw [Trie.hasPrefixOf, TrieNode.beginsWithKey_iff]
  constructor
  · rintro ⟨bytes, h⟩
    obtain ⟨key, hkey, begins, _⟩ := keyed.begins_iff.mp h
    exact ⟨key, hkey, begins⟩
  · rintro ⟨key, hkey, begins⟩
    exact ⟨_, keyed.begins_iff.mpr ⟨key, hkey, begins, rfl⟩⟩

/-- **The first key of a query**: it is among the keys that begin the query, and none of them is shorter. -/
def IsFirst (keys : List String) (query key : String) : Prop :=
  (key ∈ keys ∧ key.toList <+: query.toList) ∧
    ∀ other ∈ keys, other.toList <+: query.toList → key.toList.length ≤ other.toList.length

/-- A query has one first key. -/
theorem IsFirst.unique {other : String} (h : IsFirst keys query key) (h' : IsFirst keys query other) :
    key = other := by
  rw [← String.toList_inj]
  have sameLength : key.toList.length = other.toList.length :=
    Nat.le_antisymm (h.2 other h'.1.1 h'.1.2) (h'.2 key h.1.1 h.1.2)
  rw [List.prefix_iff_eq_take.mp h.1.2, List.prefix_iff_eq_take.mp h'.1.2, sameLength]

/-- Of two texts that begin a query, the one with fewer bytes is the one with fewer characters. -/
theorem length_le_of_utf8 {s s' : String} (begins : s.toList <+: query.toList)
    (begins' : s'.toList <+: query.toList) (shorter : (Text.utf8 s).length ≤ (Text.utf8 s').length) :
    s.toList.length ≤ s'.toList.length := by
  rcases Nat.le_total s.toList.length s'.toList.length with le | ge
  · exact le
  · have inside : s'.toList <+: s.toList := List.prefix_of_prefix_length_le begins' begins ge
    have same : Text.utf8 s' = Text.utf8 s :=
      (Text.utf8_prefix_iff.mpr inside).eq_of_length_le shorter
    exact Nat.le_of_eq (by rw [Text.utf8_inj.mp same])

/-- A match is the first key, and cutting the query gives it back. -/
theorem HasKeys.firstPrefixOf?_of_match (keyed : t.HasKeys keys) {length : Nat}
    (matched : t.root.matchLength? (Text.utf8 query) = some length) :
    ∃ key, t.firstPrefixOf? query = some key ∧ IsFirst keys query key := by
  obtain ⟨⟨bytes, begins, stored, rfl⟩, shortest⟩ := TrieNode.matchLength?_spec matched
  obtain ⟨key, hkey, keyBegins, rfl⟩ := keyed.begins_iff.mp ⟨begins, stored⟩
  refine ⟨key, ?_, ⟨hkey, keyBegins⟩, ?_⟩
  · show (t.root.matchLength? (Text.utf8 query)).bind _ = _
    rw [matched, Option.bind_some, ← List.prefix_iff_eq_take.mp begins, Text.ofUtf8?_utf8]
  · intro other hother otherBegins
    have otherStored := keyed.begins_iff.mpr ⟨other, hother, otherBegins, rfl⟩
    exact length_le_of_utf8 keyBegins otherBegins (shortest _ otherStored.1 otherStored.2)

theorem firstPrefixOf?_eq_none (missed : t.root.matchLength? (Text.utf8 query) = none) :
    t.firstPrefixOf? query = none := by
  show (t.root.matchLength? (Text.utf8 query)).bind _ = _
  rw [missed, Option.bind_none]

theorem HasKeys.firstPrefixOf?_eq_none_iff (keyed : t.HasKeys keys) :
    t.firstPrefixOf? query = none ↔ t.hasPrefixOf query = false := by
  rw [Trie.hasPrefixOf, ← TrieNode.isSome_matchLength?]
  cases matched : t.root.matchLength? (Text.utf8 query) with
  | none => exact iff_of_true (firstPrefixOf?_eq_none matched) rfl
  | some length =>
      obtain ⟨key, found, _⟩ := keyed.firstPrefixOf?_of_match matched
      rw [found]
      simp

theorem HasKeys.firstPrefixOf? (keyed : t.HasKeys keys) :
    t.firstPrefixOf? query = some key ↔ IsFirst keys query key := by
  cases matched : t.root.matchLength? (Text.utf8 query) with
  | none =>
      rw [firstPrefixOf?_eq_none matched]
      refine iff_of_false (fun h => nomatch h) fun first => ?_
      -- A key that begins the query would have been met.
      have meets : t.hasPrefixOf query = true := keyed.hasPrefixOf.mpr ⟨key, first.1⟩
      rw [Trie.hasPrefixOf, ← TrieNode.isSome_matchLength?, matched] at meets
      cases meets
  | some length =>
      obtain ⟨found, hfound, first⟩ := keyed.firstPrefixOf?_of_match matched
      rw [hfound]
      constructor
      · intro h
        rw [← Option.some.inj h]
        exact first
      · intro h
        rw [first.unique h]

/-! ## Runs -/

/-- **Inserts texts one after the other**, and collects the answers. -/
def insertAll (t : Trie) : List String → List Bool × Trie
  | [] => ([], t)
  | key :: rest => ((t.insert key).1 :: ((t.insert key).2.insertAll rest).1, ((t.insert key).2.insertAll rest).2)

theorem HasKeys.insertAll (keyed : t.HasKeys keys) (more : List String) :
    (t.insertAll more).2.HasKeys (keys ++ more) := by
  induction more generalizing t keys with
  | nil =>
      rw [List.append_nil]
      exact keyed
  | cons key rest ih =>
      have later := ih (keyed.insert key)
      rw [List.append_assoc] at later
      exact later

/-- The answers to a run of insertions say for each text whether it is new there. -/
theorem HasKeys.answers (keyed : t.HasKeys keys) (more : List String) (i : Nat) :
    (t.insertAll more).1[i]? = more[i]?.map fun key => decide (key ∉ keys ++ more.take i) := by
  induction more generalizing t keys i with
  | nil => rfl
  | cons key rest ih =>
      cases i with
      | zero =>
          show some (t.insert key).1 = _
          rw [keyed.isNew]
          simp
      | succ i =>
          have later := ih (keyed.insert key) i
          rw [List.append_assoc] at later
          exact later

/-- **A trie agrees with a list of keys**: every query is answered as the list answers it. -/
structure Agrees (t : Trie) (keys : List String) : Prop where
  contains : ∀ query, t.contains query = true ↔ query ∈ keys
  hasPrefixOf : ∀ query, t.hasPrefixOf query = true ↔ ∃ key ∈ keys, key.toList <+: query.toList
  firstPrefixOf? : ∀ query key, t.firstPrefixOf? query = some key ↔ IsFirst keys query key
  unmatched : ∀ query, t.firstPrefixOf? query = none ↔ t.hasPrefixOf query = false
  size : t.size = keys.dedup.length
  isEmpty : t.isEmpty = true ↔ keys = []

theorem HasKeys.agrees (keyed : t.HasKeys keys) : t.Agrees keys where
  contains := fun _ => keyed.contains
  hasPrefixOf := fun _ => keyed.hasPrefixOf
  firstPrefixOf? := fun _ _ => keyed.firstPrefixOf?
  unmatched := fun _ => keyed.firstPrefixOf?_eq_none_iff
  size := keyed.size
  isEmpty := by
    rw [Trie.isEmpty, keyed.size, beq_iff_eq, List.length_eq_zero_iff, List.dedup_eq_nil]

/-- **A trie is the set of its keys**: after any insertions it agrees with the list of what was inserted, and
    each insertion was answered with whether its text was new then. -/
theorem insertAll_agrees (keys : List String) :
    (empty.insertAll keys).2.Agrees keys ∧
      ∀ i : Nat, (empty.insertAll keys).1[i]? = keys[i]?.map fun key => decide (key ∉ keys.take i) := by
  have keyed := empty_hasKeys.insertAll keys
  rw [List.nil_append] at keyed
  refine ⟨keyed.agrees, fun i => ?_⟩
  rw [empty_hasKeys.answers keys i]
  rfl

/-- A key and a query may share the first byte of a character. -/
example : (empty.insertAll ["é", "a", "é"]).1 = [true, true, false] ∧
    (empty.insertAll ["é", "a", "é"]).2.firstPrefixOf? "ê" = none ∧
    (empty.insertAll ["é", "a", "é"]).2.firstPrefixOf? "été" = some "é" := by
  decide +kernel

end Trie
end ProbeRecorder
