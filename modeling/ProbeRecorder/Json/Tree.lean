import ProbeRecorder.Json.Token

/-!
# `ProbeRecorder.Json.Tree` — the tree a JSON text spells

Tokens are assembled on a stack of open brackets, so that nesting of any depth is read. What the tree
means, and how deep it may be, is decided by whoever reads it.

## Contents
- **Trees.** `Tree`.
- **Assembly.** `Level`, `Position`, `Builder` and its `push`.
- **Reading.** `Tree.parse?`.
- **Values.** `Tree.toJson?`, bounded in depth, and `Json.parse?`.
-/

namespace ProbeRecorder.Json

/-- **Syntax trees.** Literals are kept as written, and so are repeated keys. -/
inductive Tree where
  | null
  | bool (b : Bool)
  | number (n : Number.Numeral)
  | text (items : List TextItem)
  | array (items : List Tree)
  | object (fields : List (List TextItem × Tree))
  deriving Repr, Inhabited

/-! ## Assembly -/

/-- An open bracket with what was read inside it, last first. -/
inductive Level where
  | array (items : List Tree)
  | object (fields : List (List TextItem × Tree))
  | member (fields : List (List TextItem × Tree)) (key : List TextItem)
  deriving Repr

/-- What may follow next. -/
inductive Position where
  /-- A value must follow. -/
  | value
  /-- An array was opened: a value or its end. -/
  | valueOrEnd
  /-- An object was opened: a key or its end. -/
  | keyOrEnd
  | key
  | colon
  /-- A value inside a bracket is complete: a comma or the end. -/
  | separator
  /-- The outermost value is complete. -/
  | done (v : Tree)
  deriving Repr

/-- The state of assembly. -/
structure Builder where
  stack : List Level
  position : Position
  deriving Repr

namespace Builder

/-- Before the first token. -/
def initial : Builder := ⟨[], .value⟩

/-- A value is complete. -/
def complete (stack : List Level) (v : Tree) : Option Builder :=
  match stack with
  | [] => some ⟨[], .done v⟩
  | .array items :: rest => some ⟨.array (v :: items) :: rest, .separator⟩
  | .member fields key :: rest => some ⟨.object ((key, v) :: fields) :: rest, .separator⟩
  | .object _ :: _ => none

/-- The innermost bracket is closed. -/
def closeArray : List Level → Option Builder
  | .array items :: rest => complete rest (.array items.reverse)
  | _ => none

def closeObject : List Level → Option Builder
  | .object fields :: rest => complete rest (.object fields.reverse)
  | _ => none

/-- A value starts. -/
def pushValue (stack : List Level) : Token → Option Builder
  | .null => complete stack .null
  | .bool b => complete stack (.bool b)
  | .number n => complete stack (.number n)
  | .text items => complete stack (.text items)
  | .beginArray => some ⟨.array [] :: stack, .valueOrEnd⟩
  | .beginObject => some ⟨.object [] :: stack, .keyOrEnd⟩
  | _ => none

/-- A key of the innermost object. -/
def pushKey (stack : List Level) : Token → Option Builder
  | .text key =>
    match stack with
    | .object fields :: rest => some ⟨.member fields key :: rest, .colon⟩
    | _ => none
  | _ => none

/-- **One token.** -/
def push (b : Builder) (t : Token) : Option Builder :=
  match b.position with
  | .value => pushValue b.stack t
  | .valueOrEnd => if t = .endArray then closeArray b.stack else pushValue b.stack t
  | .keyOrEnd => if t = .endObject then closeObject b.stack else pushKey b.stack t
  | .key => pushKey b.stack t
  | .colon => if t = .colon then some ⟨b.stack, .value⟩ else none
  | .separator =>
    match t, b.stack with
    | .comma, .array _ :: _ => some ⟨b.stack, .value⟩
    | .comma, .object _ :: _ => some ⟨b.stack, .key⟩
    | .endArray, stack => closeArray stack
    | .endObject, stack => closeObject stack
    | _, _ => none
  | .done _ => none

/-- The tree, once complete. -/
def result? (b : Builder) : Option Tree :=
  match b.position with
  | .done v => some v
  | _ => none

end Builder

/-! ## Reading -/

/-- Lexer and builder together. -/
structure Reader where
  lexer : Lexer
  builder : Builder

/-- Reads one character. -/
def Reader.step (r : Reader) (c : Char) : Option Reader := do
  let (lexer, tokens) ← r.lexer.step c
  let builder ← tokens.foldlM Builder.push r.builder
  return ⟨lexer, builder⟩

/-- The tree at the end of the input. -/
def Reader.finish? (r : Reader) : Option Tree := do
  let tokens ← r.lexer.finish
  let builder ← tokens.foldlM Builder.push r.builder
  builder.result?

namespace Tree

/-- **The tree a text spells**, if it is one JSON text. -/
def parse? (s : List Char) : Option Tree := do
  let r ← s.foldlM Reader.step ⟨.between, .initial⟩
  r.finish?

/-- Nesting allowed in values that are kept: fewer than this many brackets. -/
def depthLimit : Nat := 128

mutual

/-- **The value of a tree.** Literals must make sense, numbers must be in range, and opening a bracket
    takes one from `depth`, which must stay positive. -/
def toJson? (depth : Nat) : Tree → Option Json
  | .null => some .null
  | .bool b => some (.bool b)
  | .number n => Json.ofNumeral? n
  | .text items => (decodeItems? items).map fun s => .str (String.ofList s)
  | .array items =>
    if depth ≤ 1 then none else (itemsToJson? (depth - 1) items).map .arr
  | .object fields =>
    if depth ≤ 1 then none else (fieldsToJson? (depth - 1) fields).map Json.ofFields

/-- The values of array items. -/
def itemsToJson? (depth : Nat) : List Tree → Option (List Json)
  | [] => some []
  | v :: rest => do
    let v ← toJson? depth v
    let rest ← itemsToJson? depth rest
    return v :: rest

/-- The fields of an object, as written. -/
def fieldsToJson? (depth : Nat) : List (List TextItem × Tree) → Option (List (String × Json))
  | [] => some []
  | (key, v) :: rest => do
    let key ← decodeItems? key
    let v ← toJson? depth v
    let rest ← fieldsToJson? depth rest
    return (String.ofList key, v) :: rest

end

end Tree

/-- **Reads a free-form value.** -/
def parse? (s : List Char) : Option Json := do
  (← Tree.parse? s).toJson? Tree.depthLimit

end ProbeRecorder.Json
