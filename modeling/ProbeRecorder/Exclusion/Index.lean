import ProbeRecorder.Exclusion.Trie
import ProbeRecorder.TypeName

/-!
# `ProbeRecorder.Exclusion.Index` — types that are never serialized

## Contents
- **Index.** `ExclusionIndex`, prefixes of type names in dotted form.
- **Built-in list.** `builtinExclusions`.
- **Operations.** `add`, `extend`, `isExcluded`, `size`.
-/

namespace ProbeRecorder

/-- Dotted form of a string. -/
def dottedName (name : String) : String := String.ofList (TypeName.dotted name.toList)

/-- **Types excluded from the start**: those whose values are consumed, or block, or reach outside the
    program when they are serialized. -/
def builtinExclusions : List String :=
  ["std.any", "core.any", "std.iter", "core.iter", "std.sync", "std.thread", "std.io", "std.fs",
   "std.net", "std.process", "std.cell", "core.cell", "core.ptr", "alloc.vec.into_iter",
   "alloc.collections.btree.map.Iter", "std.collections.hash.map.Iter",
   "std.collections.hash.map.IntoIter", "tokio.", "hyper.", "reqwest.", "tonic.", "sqlx.",
   "diesel.", "sea_orm.", "rusqlite.", "redis.", "mongodb.", "elasticsearch.", "aws_sdk_", "r2d2.",
   "deadpool.", "bb8.", "tracing.", "tracing_subscriber.", "log.", "slog.", "env_logger.",
   "rayon.iter"]

/-- **Exclusion index.** -/
structure ExclusionIndex where
  trie : Trie

namespace ExclusionIndex

def empty : ExclusionIndex := ⟨.empty⟩

/-- Adds a prefix; the empty one would exclude everything and is ignored. -/
def add (index : ExclusionIndex) (name : String) : ExclusionIndex :=
  let key := dottedName name
  if key = "" then index else ⟨(index.trie.insert key).2⟩

def extend (index : ExclusionIndex) (names : List String) : ExclusionIndex := names.foldl add index

/-- Adds the built-in list, as it stands. -/
def addBuiltin (index : ExclusionIndex) : ExclusionIndex :=
  ⟨builtinExclusions.foldl (fun trie key => (trie.insert key).2) index.trie⟩

/-- **A type is excluded** when a prefix of its dotted name was added. -/
def isExcluded (index : ExclusionIndex) (typeName : String) : Bool :=
  index.trie.hasPrefixOf (dottedName typeName)

/-- The number of prefixes. -/
def size (index : ExclusionIndex) : Nat := index.trie.size

end ExclusionIndex
end ProbeRecorder
