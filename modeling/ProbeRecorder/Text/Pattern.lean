import ProbeRecorder.Text.Alphanumeric
import ProbeRecorder.Text.Hex

/-!
# `ProbeRecorder.Text.Pattern` — regular expressions that can be read

The values of the fields in a log filter are regular expressions. Here it is said which texts are such
expressions; nothing is matched against them.

## Contents
- **Escapes.** `Escaped`, `escape?`.
- **Classes.** `classEnd?`, for sets of characters in brackets, which may be nested.
- **Groups.** `groupStart?`, with names and flags.
- **Patterns.** `isPattern`.
-/

namespace ProbeRecorder.Text.Pattern

/-! ## Escapes -/

/-- **What an escape stands for.** -/
inductive Escaped where
  | char (c : Char)
  | set
  | place

/-- The character whose code point has the given number of hexadecimal digits. -/
def codePoint? (count : Nat) (s : List Char) : Option (Escaped × List Char) := do
  let digits := s.take count
  let n ← if digits.length = count then hexNumber? digits else none
  if h : n.isValidChar then return (.char (Char.ofNatAux n h), s.drop count) else none

/-- The letters of the general categories, each with all that belongs to it. -/
def categoryLetters : List Char := "clmnpsz".toList

/-- **An escape** after its backslash. Word boundaries are not among them. -/
def escape? : List Char → Option (Escaped × List Char)
  | [] => none
  | 'x' :: rest => codePoint? 2 rest
  | 'u' :: rest => codePoint? 4 rest
  | 'U' :: rest => codePoint? 8 rest
  | c :: rest =>
    if c = 'p' ∨ c = 'P' then
      match rest with
      | letter :: rest => if categoryLetters.contains letter.toLower then some (.set, rest) else none
      | [] => none
    else if "dswDSW".toList.contains c then some (.set, rest)
    else if "aftnrv".toList.contains c then some (.char c, rest)
    else if c = 'A' ∨ c = 'z' then some (.place, rest)
    else if c.toNat < 0x80 ∧ !c.isAlphanum ∧ c ≠ '<' ∧ c ≠ '>' then some (.char c, rest)
    else none

/-! ## Classes -/

/-- One member of a class, and the character that it is if it is one. -/
def member? : List Char → Option (Option Char × List Char)
  | '\\' :: rest => do
    match ← escape? rest with
    | (.char c, rest) => return (some c, rest)
    | (.set, rest) => return (none, rest)
    | (.place, _) => none
  | c :: rest => some (some c, rest)
  | [] => none

/-- A member, or all characters between two. -/
def range? (s : List Char) : Option (List Char) := do
  let (first, rest) ← member? s
  match rest with
  | '-' :: ']' :: _ | '-' :: '-' :: _ => return rest
  | '-' :: rest =>
    let (last, rest) ← member? rest
    if (← first) ≤ (← last) then return rest else none
  | _ => return rest

/-- What follows an opening bracket and means itself: minus signs, or else a closing bracket. -/
def classStart (s : List Char) : List Char :=
  let body := match s with
    | '^' :: rest => rest
    | s => s
  match body with
  | ']' :: rest => rest
  | s => s.dropWhile (· == '-')

/-- **The text after a class**, of which `depth` brackets are open, in at most `limit` steps. -/
def classEnd? : (limit depth : Nat) → List Char → Option (List Char)
  | 0, _, _ => none
  | _ + 1, _, [] => none
  | limit + 1, depth, '[' :: rest => classEnd? limit (depth + 1) (classStart rest)
  | limit + 1, depth, ']' :: rest => if depth ≤ 1 then some rest else classEnd? limit (depth - 1) rest
  | limit + 1, depth, '&' :: '&' :: rest => classEnd? limit depth rest
  | limit + 1, depth, '-' :: '-' :: rest => classEnd? limit depth rest
  | limit + 1, depth, '~' :: '~' :: rest => classEnd? limit depth rest
  | limit + 1, depth, s => do classEnd? limit depth (← range? s)

/-! ## Groups -/

/-- The text after the name of a group. -/
def groupName? (s : List Char) : Option (List Char) :=
  let isInner (c : Char) : Bool := isAlphanumeric c || c == '_' || c == '.' || c == '[' || c == ']'
  let name := s.takeWhile (· != '>')
  match name with
  | first :: more =>
    if (isAlphanumeric first || first == '_') && !first.isDigit && more.all isInner then
      match s.dropWhile (· != '>') with
      | _ :: rest => some rest
      | [] => none
    else none
  | [] => none

/-- The flags that can be set, and the sign that takes them back. -/
def flagLetters : List Char := "imsUuRx-".toList

/-- **The start of a group** after its bracket; whether it opens one, or only sets flags. -/
def groupStart? : List Char → Option (Bool × List Char)
  | '?' :: 'P' :: '<' :: rest => (groupName? rest).map (true, ·)
  | '?' :: '<' :: rest => (groupName? rest).map (true, ·)
  | '?' :: rest =>
    let isEnd (c : Char) : Bool := c == ':' || c == ')'
    let flags := rest.takeWhile fun c => !isEnd c
    if flags.all flagLetters.contains && decide flags.Nodup && flags.getLast? ≠ some '-' then
      match rest.dropWhile fun c => !isEnd c with
      | ':' :: after => some (true, after)
      | _ :: after => if flags.isEmpty then none else some (false, after)
      | [] => none
    else none
  | s => some (true, s)

/-! ## Patterns -/

/-- The rest of a pattern, in at most `limit` steps; `groups` of them wait for their end, and `repeatable`
    says whether there is something that can be repeated. -/
def isRest : (limit groups : Nat) → (repeatable : Bool) → List Char → Bool
  | 0, _, _, _ => false
  | _ + 1, groups, _, [] => groups == 0
  | limit + 1, groups, repeatable, c :: rest =>
    if c = '\\' then
      match escape? rest with
      | some (_, rest) => isRest limit groups true rest
      | none => false
    else if c = '[' then
      match classEnd? (rest.length + 1) 1 (classStart rest) with
      | some rest => isRest limit groups true rest
      | none => false
    else if c = '(' then
      match groupStart? rest with
      | some (true, rest) => isRest limit (groups + 1) false rest
      | some (false, rest) => isRest limit groups false rest
      | none => false
    else if c = ')' then 0 < groups && isRest limit (groups - 1) true rest
    else if c = '|' then isRest limit groups false rest
    else if c = '*' ∨ c = '+' ∨ c = '?' then
      let rest := match rest with
        | '?' :: rest => rest
        | rest => rest
      repeatable && isRest limit groups true rest
    else c != '\x7b' && isRest limit groups true rest

/-- **A text that is a regular expression.** -/
def isPattern (s : List Char) : Bool := isRest (s.length + 1) 0 false s

end ProbeRecorder.Text.Pattern
