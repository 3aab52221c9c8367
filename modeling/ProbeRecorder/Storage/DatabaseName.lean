import ProbeRecorder.Text.Hex

/-!
# `ProbeRecorder.Storage.DatabaseName` — what a database is called

A database is named by its path, or by a URI that holds the path and says how the database is opened.

## Contents
- **Names.** `DatabaseName`.
- **URIs.** Authority, path and options: `afterAuthority?`, `percentDecoded`, `DatabaseName.withOption?`.
- **Reading.** `DatabaseName.ofText?`.
-/

namespace ProbeRecorder

/-- **What a name says**: where the database is, and whether it is made if it is missing. -/
structure DatabaseName where
  path : String
  isMade : Bool
  deriving DecidableEq, Repr

namespace DatabaseName

/-- The path of a database that is kept in memory alone. -/
def inMemory : String := ":memory:"

/-- The database is kept only as long as it is open. -/
def isTransient (n : DatabaseName) : Bool := n.path = "" || n.path = inMemory

/-! ## URIs -/

/-- How a URI begins. -/
def scheme : List Char := "file:".toList

/-- The path and what follows it, after an authority that is this machine. -/
def afterAuthority? : List Char → Option (List Char)
  | '/' :: '/' :: rest =>
    let authority := String.ofList (rest.takeWhile (· != '/'))
    if authority = "" ∨ authority = "localhost" then some (rest.dropWhile (· != '/')) else none
  | s => some s

/-- The value of a byte that is a hexadecimal digit. -/
def digit? (b : UInt8) : Option Nat := Text.hexValue? (Char.ofNat b.toNat)

/-- Every percent sign with two digits after it becomes one byte. -/
def percentDecoded : Bytes → Bytes
  | a :: b :: c :: rest =>
    match if a.toNat = '%'.toNat then digit? b else none, digit? c with
    | some high, some low => (16 * high + low).toUInt8 :: percentDecoded rest
    | _, _ => a :: percentDecoded (b :: c :: rest)
  | rest => rest

/-- The ways to open a database that can be named, and whether they make it. -/
def modes : List (String × Bool) := [("ro", false), ("rw", false), ("rwc", true)]

/-- One option of a URI. One that nobody knows changes nothing. -/
def withOption? (n : DatabaseName) (option : List Char) : Option DatabaseName :=
  let value := String.ofList ((option.dropWhile (· != '=')).drop 1)
  match String.ofList (option.takeWhile (· != '=')) with
  | "mode" =>
    if value = "memory" then some { n with path := inMemory }
    else (modes.lookup value).map fun isMade => { n with isMade := isMade }
  | "cache" => if value = "shared" ∨ value = "private" then some n else none
  | _ => some n

/-! ## Reading -/

/-- **Reads a name.** -/
def ofText? (text : String) : Option DatabaseName :=
  if scheme.isPrefixOf text.toList then do
    let body ← afterAuthority? (text.toList.drop scheme.length)
    let body := body.takeWhile (· != '#')
    let bytes := Text.utf8 (String.ofList (body.takeWhile (· != '?')))
    let path ← Text.ofUtf8? (percentDecoded bytes)
    let options := ((body.dropWhile (· != '?')).drop 1).splitOn '&'
    options.foldlM withOption? ⟨path, true⟩
  else some ⟨text, true⟩

end DatabaseName
end ProbeRecorder
