import ProbeRecorder.Json.Token
import ProbeRecorder.Toml.Reader

/-!
# `ProbeRecorder.Toml.Text` — strings and keys

## Contents
- **Escapes.** `escape?`.
- **Strings.** Basic and literal ones, on one line or several; `readString`.
- **Keys.** `readKey`, a path of bare and quoted parts; `readPath`, one that is not too long.
-/

namespace ProbeRecorder.Toml

/-! ## Escapes -/

/-- The character with a code point, given in hexadecimal. -/
def codePoint? (digits : List Char) : Option Char := do
  let n ← Text.hexNumber? digits
  if h : n.isValidChar then return Char.ofNatAux n h else none

/-- What a letter after a backslash stands for. -/
def simpleEscape? : Char → Option Char
  | 'b' => some '\x08'
  | 't' => some '\t'
  | 'n' => some '\n'
  | 'f' => some '\x0c'
  | 'r' => some '\r'
  | '"' => some '"'
  | '\\' => some '\\'
  | _ => none

def badEscape : List String := ["invalid escape sequence"]

/-- Puts a character in front of what a reader found. -/
def prepend (c : Char) (found : Except Fault (List Char × List Char)) :
    Except Fault (List Char × List Char) :=
  found.map fun (text, rest) => (c :: text, rest)

/-! ## Strings -/

/-- A basic string after its opening quote. -/
def basicText : Reader (List Char)
  | '"' :: rest => .ok ([], rest)
  | '\\' :: 'u' :: a :: b :: c :: d :: rest =>
    match codePoint? [a, b, c, d] with
    | some ch => prepend ch (basicText rest)
    | none => stop badEscape rest
  | '\\' :: 'U' :: a :: b :: c :: d :: e :: f :: g :: h :: rest =>
    match codePoint? [a, b, c, d, e, f, g, h] with
    | some ch => prepend ch (basicText rest)
    | none => stop badEscape rest
  | '\\' :: c :: rest =>
    match simpleEscape? c with
    | some ch => prepend ch (basicText rest)
    | none => stop badEscape (c :: rest)
  | c :: rest =>
    if isTextChar c then prepend c (basicText rest) else stop ["invalid basic string"] (c :: rest)
  | [] => stop ["invalid basic string"] []

/-- A literal string after its opening quote. -/
def literalText : Reader (List Char)
  | '\'' :: rest => .ok ([], rest)
  | c :: rest =>
    if isTextChar c then prepend c (literalText rest) else stop ["invalid literal string"] (c :: rest)
  | [] => stop ["invalid literal string"] []

/-- The end of a string of several lines: three quotes, with up to two more that belong to the text. -/
def closing? (quote : Char) (s : List Char) : Option (List Char × List Char) :=
  let run := min (s.takeWhile (· == quote)).length 5
  if run < 3 then none else some (List.replicate (run - 3) quote, s.drop run)

/-- A backslash before this text joins lines. -/
def joinsLines (s : List Char) : Bool := (lineBreak? (skipBlanks s)).isSome

/-- A basic string of several lines; while `joining`, blanks and line breaks are left out. -/
def basicLines (joining : Bool) : Reader (List Char)
  | [] => stop ["invalid multiline basic string"] []
  | '\\' :: rest =>
    if joinsLines rest then basicLines true rest
    else match rest with
      | 'u' :: a :: b :: c :: d :: after =>
        match codePoint? [a, b, c, d] with
        | some ch => prepend ch (basicLines false after)
        | none => stop badEscape after
      | 'U' :: a :: b :: c :: d :: e :: f :: g :: h :: after =>
        match codePoint? [a, b, c, d, e, f, g, h] with
        | some ch => prepend ch (basicLines false after)
        | none => stop badEscape after
      | c :: after =>
        match simpleEscape? c with
        | some ch => prepend ch (basicLines false after)
        | none => stop badEscape (c :: after)
      | [] => stop badEscape []
  | '\r' :: '\n' :: rest =>
    if joining then basicLines true rest else prepend '\n' (basicLines false rest)
  | c :: rest =>
    match closing? '"' (c :: rest) with
    | some found => .ok found
    | none =>
      if joining && (isBlankChar c || c == '\n') then basicLines true rest
      else if isTextChar c || c == '\n' then prepend c (basicLines false rest)
      else stop ["invalid multiline basic string"] (c :: rest)

/-- A literal string of several lines. -/
def literalLines : Reader (List Char)
  | [] => stop ["invalid multiline literal string"] []
  | '\r' :: '\n' :: rest => prepend '\n' (literalLines rest)
  | c :: rest =>
    match closing? '\'' (c :: rest) with
    | some found => .ok found
    | none =>
      if isTextChar c || c == '\n' then prepend c (literalLines rest)
      else stop ["invalid multiline literal string"] (c :: rest)

/-- A line break right after the opening quotes does not belong to the text. -/
def skipFirstBreak (s : List Char) : List Char := (lineBreak? s).getD s

/-- What is expected where a value or a key should be. -/
def stringExpected : List String := ["invalid string", expected [quoted "\"", quoted "'"]]

/-- **A string** of any kind. -/
def readString : Reader (List Char)
  | '"' :: '"' :: '"' :: rest => basicLines false (skipFirstBreak rest)
  | '\'' :: '\'' :: '\'' :: rest => literalLines (skipFirstBreak rest)
  | '"' :: rest => basicText rest
  | '\'' :: rest => literalText rest
  | s => stop stringExpected s

/-! ## Keys -/

/-- Characters of a bare key. -/
def isBareChar (c : Char) : Bool := c.isAlphanum || c == '_' || c == '-'

/-- One part of a key. -/
def readKeyPart : Reader String
  | '"' :: rest => (basicText rest).map fun (text, rest) => (String.ofList text, rest)
  | '\'' :: rest => (literalText rest).map fun (text, rest) => (String.ofList text, rest)
  | s =>
    let bare := s.takeWhile isBareChar
    if bare.isEmpty then stop ["invalid key"] s
    else .ok (String.ofList bare, s.dropWhile isBareChar)

/-- The further parts of a key, at most `limit` of them. -/
def readKeyParts : (limit : Nat) → Reader (List String)
  | 0, s => .ok ([], s)
  | limit + 1, s =>
    match skipBlanks s with
    | '.' :: rest => do
      let (part, rest) ← readKeyPart (skipBlanks rest)
      let (parts, rest) ← readKeyParts limit rest
      return (part :: parts, rest)
    | rest => .ok ([], rest)

/-- **A key**: parts with points between them. -/
def readKey : Reader (String × List String) := fun s => do
  let (part, rest) ← readKeyPart (skipBlanks s)
  let (parts, rest) ← readKeyParts rest.length rest
  return ((part, parts), rest)

/-- A key that does not lead too deep; `reason` is given for one that does. -/
def readPath (reason : List String) : Reader (String × List String) := fun s => do
  let (path, rest) ← readKey s
  if path.2.length < depthLimit then return (path, rest) else stop reason s

end ProbeRecorder.Toml
