import ProbeRecorder.Settings.Setting

/-!
# `ProbeRecorder.Settings.Environment` — settings from environment variables

A variable `PROBELOG__SECTION__KEY`, in whatever case, gives the setting `section.key`. Its text is taken
for a truth value or a number where it reads as one.

## Contents
- **Keys.** `Environment.key?`.
- **Values.** `Environment.value`.
- **Source.** `Environment.source`.
-/

namespace ProbeRecorder.Environment

/-! ## Keys -/

/-- How the names of the variables begin, in lower case. -/
def namePrefix : List Char := "probelog__".toList

/-- Every pair of underscores, from left to right, becomes a point. -/
def separated : List Char → List Char
  | '_' :: '_' :: rest => '.' :: separated rest
  | c :: rest => c :: separated rest
  | [] => []

/-- **The key of a variable**; other variables have none. -/
def key? (name : String) : Option String :=
  let low := (Setting.lowered name).toList
  if namePrefix.isPrefixOf low then
    some (String.ofList (separated (low.drop namePrefix.length)))
  else none

/-! ## Values -/

/-- The setting that is a list of texts with commas between them. -/
def listKey : String := "exclusion.extra_prefixes"

/-- **The value of a variable**, under the given key. -/
def value (key text : String) : Setting :=
  let chars := text.toList
  if Setting.lowered text = "true" then .bool true
  else if Setting.lowered text = "false" then .bool false
  else match Number.plainInt? chars with
    | some n => .int n
    | none =>
      match Number.plainDouble? chars with
      | some bits => .float bits
      | none =>
        if key = listKey then
          .list ((chars.splitOn ',').map fun part => .text (String.ofList part))
        else .text text

/-! ## Source -/

/-- The setting of one variable. -/
def setting? (v : String × String) : Option (String × Setting) :=
  (key? v.1).map fun key => (key, value key v.2)

/-- **The settings** that an environment holds. -/
def source (environment : List (String × String)) : List (String × Setting) :=
  environment.filterMap setting?

end ProbeRecorder.Environment
