import ProbeRecorder.Toml.Scalar

/-!
# `ProbeRecorder.Toml.Table` — tables under construction

A table may be opened by a header, by a dotted key, or implicitly by a longer header. Which of these it was
decides who may add to it later.

## Contents
- **Nodes.** `Node`, `TableOrigin`.
- **Pairs.** `Table.addPair`.
- **Headers.** `Table.addHeader`, `Table.addElement`, and `Table.within`, which finds an open table.
- **Result.** `Table.setting`.
-/

namespace ProbeRecorder.Toml

/-- **Who opened a table.** -/
inductive TableOrigin where
  /-- A longer header. -/
  | implicit
  /-- A dotted key. -/
  | dotted
  /-- A header of its own. -/
  | header
  deriving DecidableEq, Repr

/-- **A node**: a value, a table, or an array of tables with the latest first. -/
inductive Node where
  | value (v : Setting)
  | table (origin : TableOrigin) (fields : List (String × Node))
  | tables (items : List (List (String × Node)))

/-- The fields of a table. -/
abbrev Fields := List (String × Node)

namespace Table

/-- Replaces a field, or adds it at the end. -/
def put (key : String) (node : Node) : Fields → Fields
  | [] => [(key, node)]
  | (k, n) :: rest => if k = key then (key, node) :: rest else (k, n) :: put key node rest

/-- What a value is, in words. -/
def typeName : Setting → String
  | .blank => "none"
  | .bool _ => "boolean"
  | .int _ => "integer"
  | .float _ => "float"
  | .text _ => "string"
  | .list _ => "array"
  | .table _ => "inline table"

/-- The place of a repeated key. -/
def place (path : List String) : String :=
  if path.isEmpty then " in document root" else " in table " ++ quoted (".".intercalate path)

def duplicate (key : String) : String := "duplicate key " ++ quoted key

/-- The error of going on below something that is no table. -/
def notATable (path : List String) (v : Setting) : String :=
  "dotted key " ++ quoted (".".intercalate path) ++ " attempted to extend non-table type ("
    ++ typeName v ++ ")"

/-! ## Pairs -/

/-- **Adds a value** under a dotted key. The table it lands in must be the one that the key is written
    in, or one that a dotted key opened; `path` names the former. -/
def addPair (key : String) (more : List String) (value : Setting) (path : List String) (fields : Fields) :
    Except String Fields :=
  match more with
  | [] =>
    match fields.lookup key with
    | none => .ok (put key (.value value) fields)
    | some _ => .error (duplicate key ++ place path)
  | next :: further =>
    match fields.lookup key with
    | none => do
      return put key (.table .dotted (← addPair next further value path [])) fields
    | some (.table .dotted inner) => do
      return put key (.table .dotted (← addPair next further value path inner)) fields
    | some (.table .implicit inner) =>
      if further.isEmpty then .error (duplicate next)
      else do
        return put key (.table .implicit (← addPair next further value path inner)) fields
    | some (.tables (latest :: earlier)) =>
      if further.isEmpty then .error (duplicate next)
      else do
        return put key (.tables ((← addPair next further value path latest) :: earlier)) fields
    | some (.value v) => .error (notATable [key] v)
    | some _ => .error (duplicate key)
  termination_by more

/-! ## Headers -/

/-- **Changes the table at the end of a path**; missing tables are opened implicitly, and of an array of
    tables the latest is meant. -/
def within (change : Fields → Except String Fields) : (path : List String) → Fields → Except String Fields
  | [], fields => change fields
  | key :: rest, fields =>
    match fields.lookup key with
    | none => do return put key (.table .implicit (← within change rest [])) fields
    | some (.table origin inner) => do
      return put key (.table origin (← within change rest inner)) fields
    | some (.tables (latest :: earlier)) => do
      return put key (.tables ((← within change rest latest) :: earlier)) fields
    | some (.tables []) => .error (duplicate key)
    | some (.value v) => .error (notATable [key] v)

/-- **A header** opens a table once. What a longer header opened implicitly is kept. -/
def addHeader (key : String) (path : List String) (fields : Fields) : Except String Fields :=
  match fields.lookup key with
  | none => .ok (put key (.table .header []) fields)
  | some (.table .implicit inner) => .ok (put key (.table .header inner) fields)
  | some _ => .error (duplicate key ++ place path)

/-- **A double header** opens one more table of an array. -/
def addElement (key : String) (path : List String) (fields : Fields) : Except String Fields :=
  match fields.lookup key with
  | none => .ok (put key (.tables [[]]) fields)
  | some (.tables items) => .ok (put key (.tables ([] :: items)) fields)
  | some _ => .error (duplicate key ++ place path)

/-! ## Result -/

/-- A table that starts with this key is a date in disguise. -/
def dateKey : String := "$__toml_private_datetime"

/-- What the first field of a table makes of it: a date, or with other keys nothing. -/
def disguisedDate? : Fields → Option (Except String Setting)
  | (key, node) :: _ =>
    if key = dateKey then
      match node with
      | .value (.text s) => some (dateSetting s)
      | _ => some (.error "invalid datetime")
    else none
  | [] => none

mutual

/-- **The setting** that a node stands for. -/
def setting : Node → Except String Setting
  | .value v => .ok v
  | .table _ fields =>
    match disguisedDate? fields with
    | some date => date
    | none => (settings fields).map .table
  | .tables items => (elements items).map fun xs => .list xs.reverse

/-- The settings of the fields of a table. -/
def settings : Fields → Except String (List (String × Setting))
  | [] => .ok []
  | (key, node) :: rest => do return (key, ← setting node) :: (← settings rest)

/-- The tables of an array, latest first. -/
def elements : List Fields → Except String (List Setting)
  | [] => .ok []
  | fields :: rest => do
    let item ← match disguisedDate? fields with
      | some date => date
      | none => (settings fields).map .table
    return item :: (← elements rest)

end

end Table
end ProbeRecorder.Toml
