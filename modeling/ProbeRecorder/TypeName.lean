import ProbeRecorder.Text.Blank
import ProbeRecorder.Text.Occurs

/-!
# `ProbeRecorder.TypeName` — names of types

A type name is a path; its segments are separated by `::` or by a point. Exclusion compares names in
dotted form, and the latest instance of a type is kept under the name without its arguments.

## Contents
- **Dotted form.** `TypeName.dotted`.
- **Simplified form.** `TypeName.simplify?`.
-/

namespace ProbeRecorder.TypeName

/-- **Dotted form**: every pair of colons, from left to right, becomes a point. -/
def dotted : List Char → List Char
  | ':' :: ':' :: rest => '.' :: dotted rest
  | c :: rest => c :: dotted rest
  | [] => []

/-- What the name of an anonymous function contains. -/
def closureMark : List Char :=
  ['\x7b', '\x7b', 'c', 'l', 'o', 's', 'u', 'r', 'e', '\x7d', '\x7d']

/-- The name before its type arguments. -/
def base (name : List Char) : List Char := Text.trim (name.takeWhile (· != '<'))

/-- **Simplified form**: dotted, without type arguments; anonymous functions and empty names have
    none. -/
def simplify? (name : List Char) : Option (List Char) :=
  if Text.occurs closureMark name then none
  else if base name = [] then none
  else some (dotted (base name))

end ProbeRecorder.TypeName
