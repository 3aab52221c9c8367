/-!
# `ProbeRecorder.Toml.Reader` — reading TOML text, one piece at a time

A reader takes what it can use from the front of a text and gives back the rest.

## Contents
- **Faults.** `Fault`, where reading stopped and why; `Fault.report`, the text shown for it.
- **Readers.** `Reader`; `depthLimit`; `expect`, `skipBlanks`, `skipLines`, `endOfLine`.
-/

namespace ProbeRecorder.Toml

/-! ## Faults -/

/-- **Where reading stopped**, as the number of characters left, and why. -/
structure Fault where
  left : Nat
  reason : List String
  deriving DecidableEq, Repr

/-- A list of things that were expected. -/
def expected (what : List String) : String := "expected " ++ ", ".intercalate what

/-- A character as it is named in a list of expectations. -/
def quoted (s : String) : String := String.ofList ('\x60' :: s.toList ++ ['\x60'])

/-- What may follow at the end of a line. -/
def lineEndExpected : List String := [expected ["newline", quoted "#"]]

/-- Spaces. -/
def gap (n : Nat) : String := String.ofList (List.replicate n ' ')

/-- The number of the line in which a text ends, its start, and the column. -/
def locate (before : List Char) : Nat × Nat :=
  (before.count '\n', (before.reverse.takeWhile (· != '\n')).length)

/-- **The report of a fault**: the place, the line with a mark below it, and the reason. -/
def Fault.report (f : Fault) (text : List Char) : String :=
  let (line, column) := locate (text.take (text.length - f.left))
  let content := String.ofList ((text.splitOn '\n')[line]?.getD [])
  let number := toString (line + 1)
  let margin := gap (number.length + 1) ++ "|"
  "\n".intercalate
    (["TOML parse error at line " ++ number ++ ", column " ++ toString (column + 1), margin,
      number ++ " | " ++ content, margin ++ gap (column + 1) ++ "^"] ++ f.reason) ++ "\n"

/-! ## Readers -/

/-- **A reader** of a value, from the front of a text. -/
abbrev Reader (α : Type) := List Char → Except Fault (α × List Char)

/-- Stops reading here. -/
def stop {α : Type} (reason : List String) (s : List Char) : Except Fault α :=
  .error ⟨s.length, reason⟩

/-- The reason given where too much is nested. -/
def tooDeep : String := "recursion limit exceeded"

/-- Tables and arrays that may be nested. -/
def depthLimit : Nat := 79

/-- Reads one character. -/
def expect (c : Char) (reason : List String) : Reader Unit
  | d :: rest => if d = c then .ok ((), rest) else stop reason (d :: rest)
  | [] => stop reason []

/-- Blanks within a line. -/
def isBlankChar (c : Char) : Bool := c == ' ' || c == '\t'

def skipBlanks (s : List Char) : List Char := s.dropWhile isBlankChar

/-- Characters that may stand in comments and in strings of one line. -/
def isTextChar (c : Char) : Bool := c == '\t' || (0x20 ≤ c.toNat && c.toNat != 0x7f)

/-- The text after a line break, if it starts with one. -/
def lineBreak? : List Char → Option (List Char)
  | '\n' :: rest => some rest
  | '\r' :: '\n' :: rest => some rest
  | _ => none

/-- The text after a comment, if there is one here. -/
def skipComment : List Char → List Char
  | '#' :: rest => rest.dropWhile isTextChar
  | s => s

/-- **The end of a line**: blanks, a comment, and a line break or the end of the text. -/
def endOfLine : Reader Unit := fun s =>
  let after := skipComment (skipBlanks s)
  match lineBreak? after with
  | some rest => .ok ((), rest)
  | none => if after.isEmpty then .ok ((), []) else stop lineEndExpected after

/-- Blanks, comments and line breaks, at most `limit` lines of them. -/
def skipLinesUpTo : (limit : Nat) → List Char → List Char
  | 0, s => s
  | limit + 1, s =>
    let after := skipComment (skipBlanks s)
    match lineBreak? after with
    | some rest => skipLinesUpTo limit rest
    | none => after

/-- Blanks, comments and line breaks. -/
def skipLines (s : List Char) : List Char := skipLinesUpTo (s.length + 1) s

end ProbeRecorder.Toml
