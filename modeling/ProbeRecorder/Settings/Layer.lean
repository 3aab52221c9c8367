import ProbeRecorder.Settings.Setting

/-!
# `ProbeRecorder.Settings.Layer` — settings on top of settings

A source is a list of keys with settings. A key may be a path into the tree, such as `recording.mode` or
`exclusion.extra_prefixes[0]`; the case of its letters does not count.

## Contents
- **Paths.** `SettingPath` and `SettingPath.ofKey?`.
- **Writing.** `Setting.writeAt`, `Setting.layer`.
-/

namespace ProbeRecorder

/-! ## Paths -/

/-- One step into the tree. -/
inductive SettingStep where
  | field (key : String)
  | item (index : Int)
  deriving DecidableEq, Repr

/-- **Path**: a key of the root, and further steps. -/
structure SettingPath where
  key : String
  steps : List SettingStep
  deriving DecidableEq, Repr

namespace SettingPath

/-- Characters that a key in a path is made of. -/
def isKeyChar (c : Char) : Bool := c.isAlphanum || c == ' ' || c == '_' || c == '-'

/-- Blanks that may stand around an index. -/
def isGap (c : Char) : Bool := c == ' ' || c == '\t'

/-- The index between two brackets, an integer of 64 bits without a plus sign. -/
def index? (s : List Char) : Option Int :=
  let body := ((s.dropWhile isGap).reverse.dropWhile isGap).reverse
  if body.head? = some '+' then none else Number.plainInt? body

/-- The steps that a text spells, at most `limit` of them. -/
def steps? : (limit : Nat) → List Char → Option (List SettingStep)
  | _, [] => some []
  | 0, _ :: _ => none
  | limit + 1, '.' :: rest =>
    let key := rest.takeWhile isKeyChar
    if key.isEmpty then none
    else (steps? limit (rest.dropWhile isKeyChar)).map (.field (String.ofList key) :: ·)
  | limit + 1, '[' :: rest => do
    let index ← index? (rest.takeWhile (· != ']'))
    match rest.dropWhile (· != ']') with
    | ']' :: after => (steps? limit after).map (.item index :: ·)
    | _ => none
  | _ + 1, _ :: _ => none

/-- **The path that a key spells**, if it does. -/
def ofKey? (key : String) : Option SettingPath :=
  let head := key.toList.takeWhile isKeyChar
  let rest := key.toList.dropWhile isKeyChar
  if head.isEmpty then none
  else (steps? rest.length rest).map fun steps => ⟨String.ofList head, steps⟩

end SettingPath

/-! ## Writing -/

namespace Setting

/-- **Writes at the end of a path**, making tables and lists on the way. -/
def writeAt (value : Setting) : List SettingStep → Setting → Setting
  | [], _ => value
  | [.field key], s => assign key value s
  | .field key :: rest, s =>
    s.putField (lowered key) (writeAt value rest ((s.field? (lowered key)).getD blank))
  | .item index :: rest, s => s.updateItem index (writeAt value rest)

/-- Puts one key of a source into the tree. A key that is no path is taken as it is. -/
def write (root : Setting) (key : String) (value : Setting) : Setting :=
  match SettingPath.ofKey? key with
  | some path => writeAt value (.field path.key :: path.steps) root
  | none => assign key value root

/-- **Puts a source on top** of what is there. -/
def layer (root : Setting) (source : List (String × Setting)) : Setting :=
  source.foldl (fun s entry => s.write entry.1 entry.2) root

end Setting
end ProbeRecorder
