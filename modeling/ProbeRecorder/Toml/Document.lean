import ProbeRecorder.Toml.Value

/-!
# `ProbeRecorder.Toml.Document` — whole documents

## Contents
- **Statements.** `Statement`: a pair or one of the two kinds of headers; `readStatement`.
- **Building.** `Document`, the tables so far and the one that is open; `Document.apply`.
- **Reading.** `Toml.read`.
-/

namespace ProbeRecorder.Toml

/-! ## Statements -/

/-- **Statements** of a document. -/
inductive Statement where
  | pair (p : Pair)
  | header (path : String × List String)
  | element (path : String × List String)

def headerFault (reason : List String) : List String := "invalid table header" :: reason

/-- A header after its opening brackets, of which there are `brackets`. -/
def readHeader (brackets : List Char) : Reader (String × List String) := fun s => do
  let reason := headerFault [expected [quoted ".", quoted (String.ofList brackets)]]
  let (path, rest) ← readPath (headerFault [tooDeep]) s
  let ((), rest) ← brackets.foldlM (fun (acc : Unit × List Char) c => expect c reason acc.2) ((), rest)
  let ((), rest) ← (endOfLine rest).mapError fun f => { f with reason := headerFault f.reason }
  return (path, rest)

/-- **Reads a statement**, to the end of its line. -/
def readStatement : Reader Statement
  | '[' :: '[' :: rest => do
    let (path, rest) ← readHeader [']', ']'] rest
    return (.element path, rest)
  | '[' :: rest => do
    let (path, rest) ← readHeader [']'] rest
    return (.header path, rest)
  | s => do
    let (pair, rest) ← readPair (readValue depthLimit) s
    let ((), rest) ← endOfLine rest
    return (.pair pair, rest)

/-! ## Building -/

/-- **A document under construction.** -/
structure Document where
  fields : Fields
  /-- The path of the table that pairs are added to. -/
  current : List String

namespace Document

def empty : Document := ⟨[], []⟩

/-- All parts of a key but the last, and the last. -/
def splitPath (path : String × List String) : List String × String :=
  match path.2.getLast? with
  | none => ([], path.1)
  | some last => (path.1 :: path.2.dropLast, last)

/-- **One more statement.** -/
def apply (d : Document) : Statement → Except (List String) Document
  | .pair p =>
    match Table.within (Table.addPair p.path.1 p.path.2 p.value d.current) d.current d.fields with
    | .ok fields => .ok { d with fields := fields }
    | .error reason => .error [reason]
  | .header path =>
    let (before, last) := splitPath path
    match Table.within (Table.addHeader last before) before d.fields with
    | .ok fields => .ok ⟨fields, before ++ [last]⟩
    | .error reason => .error (headerFault [reason])
  | .element path =>
    let (before, last) := splitPath path
    match Table.within (Table.addElement last before) before d.fields with
    | .ok fields => .ok ⟨fields, before ++ [last]⟩
    | .error reason => .error (headerFault [reason])

end Document

/-! ## Reading -/

/-- Reads the statements of a text, at most `limit` of them. -/
def readStatements : (limit : Nat) → Document → List Char → Except Fault Document
  | 0, _, s => stop ["invalid document"] s
  | limit + 1, d, s =>
    match skipLines s with
    | [] => .ok d
    | start => do
      let (statement, rest) ← readStatement start
      match d.apply statement with
      | .ok d => readStatements limit d rest
      | .error reason => stop reason start

/-- **Reads a document**: the fields of its root table. A byte order mark at its start is skipped. -/
def read (text : List Char) : Except Fault (List (String × Setting)) := do
  let body := match text with
    | '\ufeff' :: rest => rest
    | s => s
  let d ← readStatements (body.length + 1) .empty body
  match Table.setting (.table .header d.fields) with
  | .ok (.table fields) => return fields
  | .ok _ => stop ["invalid document"] []
  | .error reason => stop [reason] []

end ProbeRecorder.Toml
