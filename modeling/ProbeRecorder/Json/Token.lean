import ProbeRecorder.Json.Basic
import ProbeRecorder.Text.Hex

/-!
# `ProbeRecorder.Json.Token` — the lexical grammar of JSON

Characters are read one at a time; the reader's mode says what it is inside of. Escapes are kept as
written, so that text which is only skipped can be accepted without making sense of its surrogates.

## Contents
- **Tokens.** `TextItem`, `Token`.
- **Reading.** `Lexer`, the mode between two characters; `Lexer.step` and `Lexer.finish`.
- **Text.** `decodeItems?`, which pairs surrogates.
-/

namespace ProbeRecorder.Json

/-- What a string literal is made of: characters, and code units written in hexadecimal. -/
inductive TextItem where
  | char (c : Char)
  | unit (n : Nat)
  deriving DecidableEq, Repr

/-- **Tokens.** -/
inductive Token where
  | beginArray
  | endArray
  | beginObject
  | endObject
  | comma
  | colon
  | null
  | bool (b : Bool)
  | number (n : Number.Numeral)
  | text (items : List TextItem)
  deriving DecidableEq, Repr

/-- Parts of a numeral; each names what was read last. -/
inductive NumeralPart where
  | sign
  | zero
  | whole
  | point
  | fraction
  | mark
  | markSign (negative : Bool)
  | exponent (negative : Bool)
  deriving DecidableEq, Repr

/-- **Mode of the reader** between two characters. Texts and digits read so far are kept last first. -/
inductive Lexer where
  | between
  | word (rest : List Char) (token : Token)
  | number (part : NumeralPart) (negative : Bool) (whole fraction : List Nat) (exponent : Nat)
  | text (items : List TextItem)
  | escape (items : List TextItem)
  | hex (items : List TextItem) (digits value : Nat)
  deriving DecidableEq, Repr

/-- White space between tokens. -/
def isSpace (c : Char) : Bool := c == ' ' || c == '\t' || c == '\n' || c == '\r'

def digitValue? (c : Char) : Option Nat := if c.isDigit then some (c.toNat - '0'.toNat) else none

/-- The character a one-letter escape stands for. -/
def simpleEscape? : Char → Option Char
  | '"' => some '"'
  | '\\' => some '\\'
  | '/' => some '/'
  | 'b' => some '\x08'
  | 'f' => some '\x0c'
  | 'n' => some '\n'
  | 'r' => some '\r'
  | 't' => some '\t'
  | _ => none

namespace Lexer

/-- The first character of a token, or white space. -/
def start (c : Char) : Option (Lexer × List Token) :=
  if isSpace c then some (between, [])
  else match c with
    | '[' => some (between, [.beginArray])
    | ']' => some (between, [.endArray])
    | '\x7b' => some (between, [.beginObject])
    | '\x7d' => some (between, [.endObject])
    | ',' => some (between, [.comma])
    | ':' => some (between, [.colon])
    | '"' => some (text [], [])
    | 'n' => some (word ['u', 'l', 'l'] .null, [])
    | 't' => some (word ['r', 'u', 'e'] (.bool true), [])
    | 'f' => some (word ['a', 'l', 's', 'e'] (.bool false), [])
    | '-' => some (number .sign true [] [] 0, [])
    | '0' => some (number .zero false [0] [] 0, [])
    | _ => (digitValue? c).map fun d => (number .whole false [d] [] 0, [])

/-- The numeral read so far, if it may end here. -/
def numeral? : NumeralPart → Bool → List Nat → List Nat → Nat → Option Token
  | .zero, neg, w, f, _ => some (.number ⟨neg, w.reverse, f.reverse, none⟩)
  | .whole, neg, w, f, _ => some (.number ⟨neg, w.reverse, f.reverse, none⟩)
  | .fraction, neg, w, f, _ => some (.number ⟨neg, w.reverse, f.reverse, none⟩)
  | .exponent down, neg, w, f, e =>
    some (.number ⟨neg, w.reverse, f.reverse, some (if down then Int.negOfNat e else e)⟩)
  | _, _, _, _, _ => none

/-- One more character of a numeral, or nothing when `c` does not continue it. -/
def continue? (part : NumeralPart) (neg : Bool) (w f : List Nat) (e : Nat) (c : Char) : Option Lexer :=
  match part, digitValue? c with
  | .sign, some 0 => some (number .zero neg [0] f e)
  | .sign, some d => some (number .whole neg [d] f e)
  | .whole, some d => some (number .whole neg (d :: w) f e)
  | .point, some d => some (number .fraction neg w [d] e)
  | .fraction, some d => some (number .fraction neg w (d :: f) e)
  | .mark, some d => some (number (.exponent false) neg w f d)
  | .markSign down, some d => some (number (.exponent down) neg w f d)
  | .exponent down, some d => some (number (.exponent down) neg w f (10 * e + d))
  | .mark, none =>
    if c = '+' then some (number (.markSign false) neg w f e)
    else if c = '-' then some (number (.markSign true) neg w f e)
    else none
  | part, none =>
    let wholeEnds := part = .zero ∨ part = .whole
    if c = '.' ∧ wholeEnds then some (number .point neg w f e)
    else if (c = 'e' ∨ c = 'E') ∧ (wholeEnds ∨ part = .fraction) then some (number .mark neg w f e)
    else none
  | .zero, some _ => none

/-- **One character.** The next mode and the tokens that are complete now. -/
def step (mode : Lexer) (c : Char) : Option (Lexer × List Token) :=
  match mode with
  | between => start c
  | word [] _ => none
  | word [last] token => if c = last then some (between, [token]) else none
  | word (next :: rest) token => if c = next then some (word rest token, []) else none
  | number part neg w f e =>
    match continue? part neg w f e c with
    | some mode => some (mode, [])
    | none => do
      let token ← numeral? part neg w f e
      let (mode, tokens) ← start c
      return (mode, token :: tokens)
  | text items =>
    if c = '"' then some (between, [.text items.reverse])
    else if c = '\\' then some (escape items, [])
    else if c.toNat < 0x20 then none
    else some (text (.char c :: items), [])
  | escape items =>
    if c = 'u' then some (hex items 0 0, [])
    else (simpleEscape? c).map fun decoded => (text (.char decoded :: items), [])
  | hex items digits value =>
    (Text.hexValue? c).map fun d =>
      let value := 16 * value + d
      if digits = 3 then (text (.unit value :: items), []) else (hex items (digits + 1) value, [])

/-- The tokens completed by the end of the input, if it may end in this mode. -/
def finish : Lexer → Option (List Token)
  | between => some []
  | number part neg w f e => (numeral? part neg w f e).map ([·])
  | _ => none

end Lexer

/-! ## Text of string literals -/

/-- **Decodes a literal.** A high surrogate must be followed at once by a low one; neither may stand
    alone. -/
def decodeItems? : List TextItem → Option (List Char)
  | [] => some []
  | .char c :: rest => (decodeItems? rest).map (c :: ·)
  | .unit high :: rest =>
    if 0xd800 ≤ high ∧ high < 0xdc00 then
      match rest with
      | .unit low :: rest =>
        if 0xdc00 ≤ low ∧ low < 0xe000 then
          (decodeItems? rest).map (Char.ofNat (0x10000 + (high - 0xd800) * 0x400 + (low - 0xdc00)) :: ·)
        else none
      | _ => none
    else if 0xdc00 ≤ high ∧ high < 0xe000 then none
    else (decodeItems? rest).map (Char.ofNat high :: ·)

end ProbeRecorder.Json
