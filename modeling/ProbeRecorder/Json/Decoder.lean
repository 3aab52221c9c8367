import ProbeRecorder.Json.Tree

/-!
# `ProbeRecorder.Json.Decoder` — reading typed records from a tree

A record is read from an object, or from an array of its fields in order. Keys that the record does not
know are skipped, whatever stands under them; a known key must not come twice.

## Contents
- **Decoders.** `Decoder`, with those for booleans, integers, floating-point numbers, texts, lists.
- **Choices.** `Decoder.choice`, a name out of a fixed list.
- **Records.** `Decoder.record` and the access functions of `Fields`.
-/

namespace ProbeRecorder.Json

/-- Reads a value of `α`, with the nesting that is still allowed. -/
abbrev Decoder (α : Type) := (depth : Nat) → Tree → Option α

namespace Decoder

/-- Runs a decoder on a whole text. -/
def run? {α : Type} (d : Decoder α) (s : List Char) : Option α := do
  d Tree.depthLimit (← Tree.parse? s)

/-- A free-form value. -/
def json : Decoder Json := fun depth t => t.toJson? depth

def bool : Decoder Bool
  | _, .bool b => some b
  | _, _ => none

/-- An integer in the given range; a number written with a fraction or an exponent is none. -/
def int (range : Number.Range) : Decoder Int
  | _, .number n =>
    match ofNumeral? n with
    | some (.int i) => if range.contains i then some i else none
    | _ => none
  | _, _ => none

def int8 : Decoder Int8 := fun depth t => (int (Number.signed 8) depth t).map Int8.ofInt

def int16 : Decoder Int16 := fun depth t => (int (Number.signed 16) depth t).map Int16.ofInt

def int32 : Decoder Int32 := fun depth t => (int (Number.signed 32) depth t).map Int32.ofInt

def int64 : Decoder Int64 := fun depth t => (int (Number.signed 64) depth t).map Int64.ofInt

def uint8 : Decoder UInt8 := fun depth t => (int (Number.unsigned 8) depth t).map fun i => i.toNat.toUInt8

def uint32 : Decoder UInt32 := fun depth t => (int (Number.unsigned 32) depth t).map fun i => i.toNat.toUInt32

def uint64 : Decoder UInt64 := fun depth t => (int (Number.unsigned 64) depth t).map fun i => i.toNat.toUInt64

/-- A double-precision number; an integer is rounded. -/
def double : Decoder UInt64
  | _, .number n =>
    match ofNumeral? n with
    | some (.int i) => some (Number.binary64.ofInt i).toUInt64
    | some (.double bits) => some bits
    | _ => none
  | _, _ => none

/-- A single-precision number; an integer is rounded once, any other number by way of double precision. -/
def single : Decoder UInt32
  | _, .number n =>
    match ofNumeral? n with
    | some (.int i) => some (Number.binary32.ofInt i).toUInt32
    | some (.double bits) => some (Number.narrow bits)
    | _ => none
  | _, _ => none

def string : Decoder String
  | _, .text items => (decodeItems? items).map String.ofList
  | _, _ => none

/-- A string of one character. -/
def char : Decoder Char
  | _, .text items =>
    match decodeItems? items with
    | some [c] => some c
    | _ => none
  | _, _ => none

/-- A list of values. -/
def list {α : Type} (d : Decoder α) : Decoder (List α)
  | depth, .array items => if depth ≤ 1 then none else items.mapM (d (depth - 1))
  | _, _ => none

/-- A value or null. -/
def optional {α : Type} (d : Decoder α) : Decoder (Option α)
  | _, .null => some none
  | depth, t => (d depth t).map some

/-! ## Choices -/

/-- **A name out of a list.** The name stands alone, or as the only key of an object with null under
    it. -/
def choice {α : Type} (names : List (String × α)) : Decoder α
  | _, .text items => do names.lookup (String.ofList (← decodeItems? items))
  | depth, .object [(key, .null)] =>
    if depth ≤ 1 then none else do names.lookup (String.ofList (← decodeItems? key))
  | _, _ => none

end Decoder

/-! ## Records -/

/-- The fields of a record, in the record's order; `none` for those that are absent. -/
structure Fields where
  depth : Nat
  slots : List (Option Tree)

namespace Fields

/-- Puts a field of an object into its slot; a second value for a slot is refused. -/
def place (names : List String) (slots : List (Option Tree)) (field : List TextItem × Tree) :
    Option (List (Option Tree)) := do
  let key := String.ofList (← decodeItems? field.1)
  if names.contains key then
    let index := names.idxOf key
    match slots[index]? with
    | some none => some (slots.set index (some field.2))
    | _ => none
  else some slots

/-- The value of a field that must be there. -/
def required {α : Type} (f : Fields) (index : Nat) (d : Decoder α) : Option α := do
  d f.depth (← f.slots[index]?.join)

/-- The value of a field, or `fallback` when it is absent. -/
def orElse {α : Type} (f : Fields) (index : Nat) (d : Decoder α) (fallback : α) : Option α :=
  match f.slots[index]?.join with
  | some t => d f.depth t
  | none => some fallback

end Fields

/-- **Reads a record** with the given field names. -/
def Decoder.record (names : List String) : Decoder Fields
  | depth, .object fields => do
    if depth ≤ 1 then none
    else
      let slots ← fields.foldlM (Fields.place names) (names.map fun _ => none)
      return ⟨depth - 1, slots⟩
  | depth, .array items =>
    if depth ≤ 1 ∨ names.length < items.length then none
    else some ⟨depth - 1, items.map some ++ List.replicate (names.length - items.length) none⟩
  | _, _ => none

end ProbeRecorder.Json
