import ProbeRecorder.Json.Basic

/-!
# `ProbeRecorder.Json.Access` — taking free-form values apart

What is absent, or of another kind, reads as the empty value of the kind asked for.

## Contents
- **Fields.** `fields`, `field`, `hasField`.
- **Kinds.** `items`, `text?`, `text`, `integer?`, `integer`, `truth?`, `truth`.
-/

namespace ProbeRecorder.Json

/-! ## Fields -/

/-- The fields of an object. -/
def fields : Json → List (String × Json)
  | .obj fields => fields
  | _ => []

/-- The value of a field; null if there is no such field. -/
def field (j : Json) (key : String) : Json := (j.fields.lookup key).getD .null

def hasField (j : Json) (key : String) : Bool := (j.fields.lookup key).isSome

/-! ## Kinds -/

/-- The items of an array. -/
def items : Json → List Json
  | .arr items => items
  | _ => []

def text? : Json → Option String
  | .str s => some s
  | _ => none

def text (j : Json) : String := j.text?.getD ""

def integer? : Json → Option Int
  | .int n => some n
  | _ => none

def integer (j : Json) : Int := j.integer?.getD 0

def truth? : Json → Option Bool
  | .bool b => some b
  | _ => none

def truth (j : Json) : Bool := j.truth?.getD false

end ProbeRecorder.Json
