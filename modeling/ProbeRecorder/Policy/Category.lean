/-!
# `ProbeRecorder.Policy.Category` — categories of events

## Contents
- **Categories.** `Category`, listed in `Category.all`; names and configuration tokens.
- **Detail.** `DetailLevel`, a refinement independent of the categories.
-/

namespace ProbeRecorder

/-- **Event categories** that a policy switches on or off. -/
inductive Category where
  /-- Entry and exit seen by the called method. -/
  | exec
  /-- Calls seen by the caller. -/
  | call
  | field
  | array
  /-- Entering and leaving monitors. -/
  | sync
  | parameters
  | locals
  | line
  /-- Control-flow labels. -/
  | label
  /-- Deep snapshots of objects. -/
  | object
  deriving DecidableEq, Repr

namespace Category

/-- All categories, in the order in which they are listed everywhere. -/
def all : List Category :=
  [exec, call, field, array, sync, parameters, locals, line, label, object]

theorem mem_all (c : Category) : c ∈ all := by cases c <;> decide

/-- The name in records. -/
def name : Category → String
  | exec => "exec"
  | call => "call"
  | field => "field"
  | array => "array"
  | sync => "sync"
  | parameters => "parameters"
  | locals => "locals"
  | line => "line"
  | label => "label"
  | object => "object"

/-- The token that switches the category on in a configuration text. -/
def token : Category → List Char
  | exec => ['E', 'X', 'E', 'C']
  | call => ['C', 'A', 'L', 'L']
  | field => ['F', 'I', 'E', 'L', 'D']
  | array => ['A', 'R', 'R', 'A', 'Y']
  | sync => ['S', 'Y', 'N', 'C']
  | parameters => ['P', 'A', 'R', 'A', 'M']
  | locals => ['L', 'O', 'C', 'A', 'L']
  | line => ['L', 'I', 'N', 'E']
  | label => ['L', 'A', 'B', 'E', 'L']
  | object => ['O', 'B', 'J', 'E', 'C', 'T']

/-- Categories by name. -/
def named : List (String × Category) := all.map fun c => (c.name, c)

end Category

/-- **Detail levels**, applied on top of the categories. -/
inductive DetailLevel where
  /-- Nothing is changed. -/
  | normal
  /-- Array initializers are not instrumented. -/
  | ignoreArrayInitializer
  /-- Only entry and exit are kept. -/
  | onlyEntryExit
  deriving DecidableEq, Repr

namespace DetailLevel

/-- Detail levels by name. -/
def named : List (String × DetailLevel) :=
  [("normal", normal), ("ignore_array_initializer", ignoreArrayInitializer),
   ("only_entry_exit", onlyEntryExit)]

/-- The name in records. -/
def name : DetailLevel → String
  | normal => "normal"
  | ignoreArrayInitializer => "ignore_array_initializer"
  | onlyEntryExit => "only_entry_exit"

/-- The name in messages. -/
def title : DetailLevel → String
  | normal => "Normal"
  | ignoreArrayInitializer => "IgnoreArrayInitializer"
  | onlyEntryExit => "OnlyEntryExit"

end DetailLevel
end ProbeRecorder
