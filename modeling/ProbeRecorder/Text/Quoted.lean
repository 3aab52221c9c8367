import ProbeRecorder.Text.Printable

/-!
# `ProbeRecorder.Text.Quoted` — quoted diagnostic text

Strings and characters shown for diagnosis stand in quotes; what would be unreadable or ambiguous there
is escaped.

## Contents
- **Escapes.** `escapeChar`, with the quote that delimits the text.
- **Quoting.** `quoteString`, `quoteChar`.
-/

namespace ProbeRecorder.Text

/-- A code point in hexadecimal, in braces after `\u`. -/
def codePointEscape (c : Char) : List Char :=
  '\\' :: 'u' :: '\x7b' :: (Nat.toDigits 16 c.toNat ++ ['\x7d'])

/-- One character inside text delimited by `quote`. -/
def escapeChar (quote c : Char) : List Char :=
  if c = Char.ofNat 0 then ['\\', '0']
  else if c = '\t' then ['\\', 't']
  else if c = '\r' then ['\\', 'r']
  else if c = '\n' then ['\\', 'n']
  else if c = '\\' then ['\\', '\\']
  else if c = quote then ['\\', c]
  else if isExtending c then codePointEscape c
  else if isPrintable c then [c]
  else codePointEscape c

/-- A string in double quotes. -/
def quoteString (s : List Char) : List Char :=
  '"' :: (s.flatMap (escapeChar '"') ++ ['"'])

/-- A character in single quotes. -/
def quoteChar (c : Char) : List Char :=
  '\'' :: (escapeChar '\'' c ++ ['\''])

end ProbeRecorder.Text
