import ProbeRecorder.Json.Basic
import ProbeRecorder.Number.Layout
import ProbeRecorder.Text.Hex

/-!
# `ProbeRecorder.Json.Printer` — JSON text

## Contents
- **Strings.** `escapeChar`, `renderText`.
- **Compact text.** `Json.render`.
- **Indented text.** `Json.renderPretty`.
-/

namespace ProbeRecorder.Json

/-! ## Strings and numbers -/

/-- One character of a string literal; only the quote, the backslash and controls are escaped. -/
def escapeChar (c : Char) : List Char :=
  if c = '"' then ['\\', '"']
  else if c = '\\' then ['\\', '\\']
  else if c = '\x08' then ['\\', 'b']
  else if c = '\x0c' then ['\\', 'f']
  else if c = '\n' then ['\\', 'n']
  else if c = '\r' then ['\\', 'r']
  else if c = '\t' then ['\\', 't']
  else if c.toNat < 0x20 then '\\' :: 'u' :: '0' :: '0' :: Text.hexDigits 2 c.toNat
  else [c]

/-- A string literal. -/
def renderText (s : List Char) : List Char := '"' :: (s.flatMap escapeChar ++ ['"'])

/-- An integer in decimal. -/
def renderInt : Int → List Char
  | .ofNat n => Number.decimalDigits n
  | .negSucc n => '-' :: Number.decimalDigits (n + 1)

/-- What is written before an item: nothing before the first one. -/
def comma (first : Bool) : List Char := if first then [] else [',']

/-! ## Compact text -/

mutual

/-- **Compact text.** -/
def render : Json → List Char
  | .null => ['n', 'u', 'l', 'l']
  | .bool true => ['t', 'r', 'u', 'e']
  | .bool false => ['f', 'a', 'l', 's', 'e']
  | .int n => renderInt n
  | .double bits => Number.jsonLayout.writeBits Number.binary64 bits.toNat
  | .single bits => Number.jsonSingleLayout.writeBits Number.binary32 bits.toNat
  | .str s => renderText s.toList
  | .arr items => '[' :: (renderItems true items ++ [']'])
  | .obj fields => '\x7b' :: (renderFields true fields ++ ['\x7d'])

/-- Items with commas between them. -/
def renderItems (first : Bool) : List Json → List Char
  | [] => []
  | v :: rest => comma first ++ render v ++ renderItems false rest

/-- Fields with commas between them. -/
def renderFields (first : Bool) : List (String × Json) → List Char
  | [] => []
  | (k, v) :: rest =>
    comma first ++ renderText k.toList ++ ':' :: render v ++ renderFields false rest

end

/-! ## Indented text -/

/-- A line break and the indentation of a nesting level. -/
def newline (level : Nat) : List Char := '\n' :: List.replicate (2 * level) ' '

mutual

/-- **Indented text**, two spaces a level; empty brackets stay closed up. -/
def renderPretty (level : Nat) : Json → List Char
  | .arr [] => ['[', ']']
  | .arr (v :: rest) =>
    '[' :: (prettyItems (level + 1) true (v :: rest) ++ newline level ++ [']'])
  | .obj [] => ['\x7b', '\x7d']
  | .obj (f :: rest) =>
    '\x7b' :: (prettyFields (level + 1) true (f :: rest) ++ newline level ++ ['\x7d'])
  | .null => render .null
  | .bool b => render (.bool b)
  | .int n => render (.int n)
  | .double bits => render (.double bits)
  | .single bits => render (.single bits)
  | .str s => render (.str s)

/-- Items, each on its own line. -/
def prettyItems (level : Nat) (first : Bool) : List Json → List Char
  | [] => []
  | v :: rest =>
    comma first ++ newline level ++ renderPretty level v ++ prettyItems level false rest

/-- Fields, each on its own line. -/
def prettyFields (level : Nat) (first : Bool) : List (String × Json) → List Char
  | [] => []
  | (k, v) :: rest =>
    comma first ++ newline level ++ renderText k.toList ++ ':' :: ' ' :: renderPretty level v
      ++ prettyFields level false rest

end

/-- Compact text as a string. -/
def compact (v : Json) : String := String.ofList (render v)

/-- Indented text as a string. -/
def pretty (v : Json) : String := String.ofList (renderPretty 0 v)

end ProbeRecorder.Json
