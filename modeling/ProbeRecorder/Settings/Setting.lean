import ProbeRecorder.Number.Layout
import ProbeRecorder.Number.Plain

/-!
# `ProbeRecorder.Settings.Setting` — values of settings

Settings come from several sources, which spell them differently; what is read from them is converted to
what is wanted as far as that makes sense. Keys are kept in lower case.

## Contents
- **Settings.** `Setting`, a tree of tables, lists and scalars.
- **Letters.** `lowered`.
- **Tables.** `field?`, `putField`, `assign`, which merges tables and replaces everything else.
- **Conversions.** `asText?`, `asCount?`, `asChoice?`, `asTexts?`.
-/

namespace ProbeRecorder

/-- **Settings.** -/
inductive Setting where
  /-- A place in a list that nobody filled. -/
  | blank
  | bool (b : Bool)
  | int (n : Int)
  | float (bits : UInt64)
  | text (s : String)
  | list (items : List Setting)
  | table (fields : List (String × Setting))
  deriving Repr, Inhabited

namespace Setting

/-! ## Letters -/

/-- ASCII letters in lower case. No name or word of the settings has any other letters. -/
def lowered (s : String) : String := String.ofList (s.toList.map Char.toLower)

/-! ## Tables -/

/-- The fields of a table; other settings have none. -/
def fields : Setting → List (String × Setting)
  | table fs => fs
  | _ => []

/-- The setting under a key. -/
def field? (s : Setting) (key : String) : Option Setting := s.fields.lookup key

/-- Replaces the field with the given key, or adds it at the end. -/
def replaceField (key : String) (value : Setting) : List (String × Setting) → List (String × Setting)
  | [] => [(key, value)]
  | (k, v) :: rest => if k = key then (key, value) :: rest else (k, v) :: replaceField key value rest

/-- The table with one field set; what is no table becomes one. -/
def putField (s : Setting) (key : String) (value : Setting) : Setting :=
  table (replaceField key value s.fields)

mutual

/-- **Assigns a field**, whatever the case of its key. A table is merged into what is there, field by
    field; anything else replaces it. -/
def assign (key : String) : (value root : Setting) → Setting
  | table incoming, root =>
    root.putField (lowered key) (assignAll incoming ((root.field? (lowered key)).getD (table [])))
  | value, root => root.putField (lowered key) value

/-- Assigns several fields, one after another. -/
def assignAll : (incoming : List (String × Setting)) → (target : Setting) → Setting
  | [], target => target
  | (key, value) :: rest, target => assignAll rest (assign key value target)

end

/-- The items of a list; other settings have none. -/
def items : Setting → List Setting
  | list xs => xs
  | _ => []

/-- The position that an index means in a list of the given length; negative ones count from the end. -/
def position? (index : Int) (length : Nat) : Option Nat :=
  if 0 ≤ index then some index.toNat
  else if (-index).toNat ≤ length then some (length - (-index).toNat) else none

/-- The list with one item changed; it is made longer if it has to be, and what is no list becomes one. -/
def updateItem (s : Setting) (index : Int) (change : Setting → Setting) : Setting :=
  match position? index s.items.length with
  | none => list s.items
  | some i =>
    let padded := s.items ++ List.replicate (i + 1 - s.items.length) blank
    list (padded.set i (change (padded[i]?.getD blank)))

/-! ## Conversions -/

/-- **As text**: numbers and truth values are written out. -/
def asText? : Setting → Option String
  | text s => some s
  | bool true => some "true"
  | bool false => some "false"
  | int n => some (toString n)
  | float bits => some (String.ofList (Number.plainLayout.writeBits Number.binary64 bits.toNat))
  | _ => none

/-- Words that count as one, and words that count as zero. -/
def countWords : List (String × Nat) :=
  [("true", 1), ("on", 1), ("yes", 1), ("false", 0), ("off", 0), ("no", 0)]

/-- The nearest number of 64 bits, zero for NaN. -/
def saturate (bits : UInt64) : Nat :=
  let fmt := Number.binary64
  if fmt.isNaN bits.toNat then 0
  else if fmt.isFinite bits.toNat then min (fmt.roundToInt bits.toNat).toNat (UInt64.size - 1)
  else if fmt.isNegative bits.toNat then 0
  else UInt64.size - 1

/-- **As a count** of 64 bits. -/
def asCount? : Setting → Option Nat
  | int n => if 0 ≤ n then some n.toNat else none
  | bool b => some (if b then 1 else 0)
  | float bits => some (saturate bits)
  | text s =>
    match countWords.lookup (lowered s) with
    | some n => some n
    | none => Number.plainNat? s.toList
  | _ => none

/-- A name out of a list, whatever the case of its letters. -/
def choose? {α : Type} (names : List (String × α)) (name : String) : Option α :=
  (names.find? fun entry => lowered entry.1 = lowered name).map (·.2)

/-- **As a choice**: the name, or a table with the name as its only key. -/
def asChoice? {α : Type} (names : List (String × α)) : Setting → Option α
  | text s => choose? names s
  | table [(key, _)] => choose? names key
  | _ => none

/-- **As a list of texts.** -/
def asTexts? : Setting → Option (List String)
  | list xs => xs.mapM asText?
  | _ => none

end Setting
end ProbeRecorder
