import ProbeRecorder.Number.Plain
import ProbeRecorder.Text.Blank
import ProbeRecorder.Text.Pattern

/-!
# `ProbeRecorder.Command.LogFilter` — which log lines are shown

A filter is a list of directives with commas between them. A directive names a level, a target, a span in
brackets, or a target or span with a level after an equals sign; a span may be followed, in its brackets, by
a field in braces, with or without the value that it must have.

White space around a directive is skipped when it is read, but the names in it are cut out of the text with
the white space, at the places counted without it. A directive that starts with white space therefore has no
readable level after an equals sign.

## Contents
- **Levels.** `isLevel`.
- **Cuts.** `cut`, in bytes, which can fall within a character; `Refusal`.
- **Directives.** `DirectivePart`, what is being read of a directive; `checkDirective`.
- **Filters.** `LogFilter.check`.
-/

namespace ProbeRecorder.LogFilter

/-! ## Levels -/

/-- The names of the levels. -/
def levelNames : List String := ["off", "error", "warn", "info", "debug", "trace"]

/-- **A level**: its name in any case, or its number. -/
def isLevel (s : List Char) : Bool :=
  match Number.plainNat? s with
  | some n => n ≤ 5
  | none => levelNames.contains (String.ofList (s.map Char.toLower))

/-! ## Cuts -/

/-- **Why a filter is refused.** -/
inductive Refusal where
  | unreadable
  /-- A name was to be cut out in the middle of a character. -/
  | cutWithinCharacter
  deriving DecidableEq, Repr

/-- The text after a number of bytes. -/
def dropBytes : Nat → List Char → Option (List Char)
  | 0, s => some s
  | n + 1, c :: s => if c.utf8Size ≤ n + 1 then dropBytes (n + 1 - c.utf8Size) s else none
  | _ + 1, [] => none

/-- The first bytes of a text. -/
def takeBytes : Nat → List Char → Option (List Char)
  | 0, _ => some []
  | n + 1, c :: s => if c.utf8Size ≤ n + 1 then (takeBytes (n + 1 - c.utf8Size) s).map (c :: ·) else none
  | _ + 1, [] => none

/-- **The text between two places**, in bytes. -/
def cut (text : List Char) (first last : Nat) : Except Refusal (List Char) :=
  match (dropBytes first text).bind (takeBytes (last - first)) with
  | some part => .ok part
  | none => .error .cutWithinCharacter

/-- Characters with their places, in bytes, from a given one on. -/
def places : Nat → List Char → List (Nat × Char)
  | _, [] => []
  | n, c :: s => (n, c) :: places (n + c.utf8Size) s

/-! ## Directives -/

/-- **What is being read** of a directive, and where it began. -/
inductive DirectivePart where
  | start
  | target
  | span (first : Nat)
  | field (first : Nat)
  | fieldEnd
  | spanEnd
  | level (first : Nat)

/-- A target or a level may begin with this character. -/
def startsTarget (c : Char) : Bool := Text.isAlphanumeric c || c == '-' || c == ':' || c == '_'

/-- A field: a name, or a name and a value that is a number or a pattern. -/
def isField (s : List Char) : Bool :=
  match s.splitOn '=' with
  | [_] => !s.isEmpty
  | _ :: value :: _ => (Number.plainDouble? value).isSome || Text.Pattern.isPattern value
  | [] => false

/-- One more character of a directive. -/
def step (text : List Char) (part : DirectivePart) (here : Nat × Char) : Except Refusal DirectivePart :=
  let (place, c) := here
  match part with
  | .start =>
    if c = '[' then .ok (.span (place + 1))
    else if startsTarget c then .ok .target
    else .error .unreadable
  | .target =>
    if c = '=' then do let _ ← cut text 0 place; return .level (place + 1)
    else if c = '[' then do let _ ← cut text 0 place; return .span (place + 1)
    else .ok .target
  | .span first =>
    if c = ']' then do let _ ← cut text first place; return .spanEnd
    else if c = '\x7b' then do let _ ← cut text first place; return .field (place + 1)
    else .ok (.span first)
  | .field first =>
    if c = '\x7d' then do
      let field ← cut text first place
      if isField field then return .fieldEnd else throw .unreadable
    else .ok (.field first)
  | .fieldEnd => if c = ']' then .ok .spanEnd else .error .unreadable
  | .spanEnd => if c = '=' then .ok (.level (place + 1)) else .error .unreadable
  | .level first => .ok (.level first)

/-- The end of a directive. -/
def finish (text : List Char) : DirectivePart → Except Refusal Unit
  | .target | .spanEnd => .ok ()
  | .level first => do
    let name ← cut text first (String.ofList text).utf8ByteSize
    if name.isEmpty || isLevel name then return () else throw .unreadable
  | _ => .error .unreadable

/-- **A directive** that can be read. -/
def checkDirective (text : List Char) : Except Refusal Unit := do
  finish text (← (places 0 (Text.trim text)).foldlM (step text) .start)

/-! ## Filters -/

/-- **A filter** that can be read; empty directives are skipped. -/
def check (text : String) : Except Refusal Unit :=
  ((text.toList.splitOn ',').filter fun s => !s.isEmpty).forM checkDirective

end ProbeRecorder.LogFilter
