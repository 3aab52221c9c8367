import ProbeRecorder.Toml.Scalar
import ProbeRecorder.Toml.Table
import ProbeRecorder.Toml.Text

/-!
# `ProbeRecorder.Toml.Value` — values

## Contents
- **Arrays.** `readItems`.
- **Inline tables.** `readPairs`, `inlineTable`.
- **Values.** `readValue`, to a bounded depth.
-/

namespace ProbeRecorder.Toml

/-! ## Arrays -/

/-- The items of an array after its opening bracket, at most `limit` of them; a comma may follow the last
    one. -/
def readItems (item : Reader Setting) : (limit : Nat) → Reader (List Setting)
  | 0, s => stop ["invalid array"] s
  | limit + 1, s =>
    match skipLines s with
    | ']' :: rest => .ok ([], rest)
    | start => do
      let (value, rest) ← item start
      match skipLines rest with
      | ',' :: rest =>
        let (values, rest) ← readItems item limit rest
        return (value :: values, rest)
      | ']' :: rest => return ([value], rest)
      | rest => stop ["invalid array", expected [quoted "]"]] rest

/-! ## Inline tables -/

/-- A pair of an inline table. -/
structure Pair where
  path : String × List String
  value : Setting

/-- A key, an equals sign and a value. -/
def readPair (item : Reader Setting) : Reader Pair := fun s => do
  let (path, rest) ← readPath [tooDeep] s
  let ((), rest) ← expect '=' [expected [quoted ".", quoted "="]] rest
  let (value, rest) ← item (skipBlanks rest)
  return (⟨path, value⟩, rest)

/-- The pairs of an inline table after its opening brace, at most `limit` of them. -/
def readPairs (item : Reader Setting) : (limit : Nat) → Reader (List Pair)
  | 0, s => stop ["invalid inline table"] s
  | limit + 1, s => do
    let (pair, rest) ← readPair item s
    match skipBlanks rest with
    | ',' :: rest =>
      let (pairs, rest) ← readPairs item limit rest
      return (pair :: pairs, rest)
    | '\x7d' :: rest => return ([pair], rest)
    | rest => stop ["invalid inline table", expected [quoted "\x7d"]] rest

/-- The table that pairs make up; no key may be given twice. -/
def inlineTable (pairs : List Pair) : Except String Setting := do
  let fields ← pairs.foldlM (fun fs p => Table.addPair p.path.1 p.path.2 p.value [] fs) []
  Table.setting (.table .dotted fields)

/-! ## Values -/

/-- **Reads a value.** Arrays and inline tables may be nested to the given depth. -/
def readValue : (depth : Nat) → Reader Setting
  | 0, '[' :: rest => stop [tooDeep] rest
  | 0, '\x7b' :: rest => stop [tooDeep] rest
  | depth + 1, '[' :: rest => do
    let (items, rest) ← readItems (readValue depth) (rest.length + 1) rest
    return (.list items, rest)
  | depth + 1, '\x7b' :: rest => do
    match skipBlanks rest with
    | '\x7d' :: rest => return (.table [], rest)
    | start =>
      let (pairs, rest) ← readPairs (readValue depth) (start.length + 1) start
      match inlineTable pairs with
      | .ok value => return (value, rest)
      | .error reason => stop [reason] start
  | _, c :: rest =>
    if startsScalar c then readScalar (c :: rest)
    else (readString (c :: rest)).map fun (text, rest) => (.text (String.ofList text), rest)
  | _, [] => stop stringExpected []

end ProbeRecorder.Toml
