import ProbeRecorder.Text.Utf8

/-!
# `ProbeRecorder.Exclusion.Trie` — a set of texts, searched by prefix

Keys are stored byte by byte, so a query is walked once however many keys there are.

## Contents
- **Nodes.** `TrieNode` and its children (`Branches`); reading a child that was set (`child?_setChild`).
- **Walks.** `TrieNode.insert`, `contains`, `beginsWithKey` and `matchLength?`, along bytes.
- **Tries.** `Trie`, a root and the number of keys; `insert`, `contains`, `hasPrefixOf`, `firstPrefixOf?`.
-/

namespace ProbeRecorder

/-! ## Nodes -/

mutual

/-- **A node**: whether a key ends here, and what follows. -/
inductive TrieNode where
  | node (terminal : Bool) (children : Branches)

/-- The children of a node, by byte. -/
inductive Branches where
  | nil
  | cons (byte : UInt8) (child : TrieNode) (rest : Branches)

end

/-- The child under a byte. -/
def Branches.child? (byte : UInt8) : Branches → Option TrieNode
  | .nil => none
  | .cons b child rest => if b = byte then some child else rest.child? byte

/-- Replaces the child under a byte, or adds it. -/
def Branches.setChild (byte : UInt8) (child : TrieNode) : Branches → Branches
  | .nil => .cons byte child .nil
  | .cons b c rest => if b = byte then .cons b child rest else .cons b c (rest.setChild byte child)

/-- **Reading a child that was set.** -/
@[simp] theorem Branches.child?_setChild (byte b : UInt8) (child : TrieNode) (branches : Branches) :
    (branches.setChild byte child).child? b = if byte = b then some child else branches.child? b := by
  induction branches using Branches.setChild.induct byte with
  | case1 => rfl
  | case2 c rest => simp only [setChild, if_true, child?]; split <;> rfl
  | case3 d c rest other ih =>
      simp only [setChild, if_neg other, child?, ih]
      split
      · rename_i same
        rw [if_neg (fun h => other (same.trans h.symm))]
      · rfl

namespace TrieNode

/-- A node where no key ends. -/
def empty : TrieNode := .node false .nil

def terminal : TrieNode → Bool
  | .node t _ => t

def children : TrieNode → Branches
  | .node _ cs => cs

/-! ## Walks -/

/-- **Adds a key**, and says whether it is new. -/
def insert (n : TrieNode) : Bytes → Bool × TrieNode
  | [] => (!n.terminal, .node true n.children)
  | b :: rest =>
    let (isNew, child) := ((n.children.child? b).getD empty).insert rest
    (isNew, .node n.terminal (n.children.setChild b child))

/-- Exactly this key is stored. -/
def contains (n : TrieNode) : Bytes → Bool
  | [] => n.terminal
  | b :: rest =>
    match n.children.child? b with
    | some child => child.contains rest
    | none => false

/-- Some key begins the query; the walk ends at the first one. -/
def beginsWithKey (n : TrieNode) (query : Bytes) : Bool :=
  if n.terminal then true
  else
    match query with
    | [] => false
    | b :: rest =>
      match n.children.child? b with
      | some child => child.beginsWithKey rest
      | none => false

/-- How long the shortest key is that begins the query. -/
def matchLength? (n : TrieNode) (query : Bytes) : Option Nat :=
  if n.terminal then some 0
  else
    match query with
    | [] => none
    | b :: rest =>
      match n.children.child? b with
      | some child => (child.matchLength? rest).map (· + 1)
      | none => none

end TrieNode

/-! ## Tries -/

/-- **A set of texts.** -/
structure Trie where
  root : TrieNode
  /-- The number of keys. -/
  size : Nat

namespace Trie

/-- No key. -/
def empty : Trie := ⟨.empty, 0⟩

def isEmpty (t : Trie) : Bool := t.size == 0

/-- **Adds a text**, and says whether it is new. -/
def insert (t : Trie) (key : String) : Bool × Trie :=
  let (isNew, root) := t.root.insert (Text.utf8 key)
  (isNew, ⟨root, if isNew then t.size + 1 else t.size⟩)

/-- Exactly this text is in the set. -/
def contains (t : Trie) (key : String) : Bool := t.root.contains (Text.utf8 key)

/-- Some text of the set begins the query. -/
def hasPrefixOf (t : Trie) (query : String) : Bool := t.root.beginsWithKey (Text.utf8 query)

/-- **The shortest text of the set that begins the query.** The query is cut where the text ends; between
    the bytes of a character there is nothing to cut. -/
def firstPrefixOf? (t : Trie) (query : String) : Option String := do
  let length ← t.root.matchLength? (Text.utf8 query)
  Text.ofUtf8? ((Text.utf8 query).take length)

end Trie
end ProbeRecorder
