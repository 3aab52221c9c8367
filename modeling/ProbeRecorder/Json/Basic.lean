import ProbeRecorder.Number.Numeral

/-!
# `ProbeRecorder.Json.Basic` — JSON values

## Contents
- **Values.** `Json`; numbers are integers or floating-point patterns.
- **Objects.** `insertField`, which keeps free-form objects sorted and lets the last of two equal keys win.
- **Numbers.** `Json.ofNumeral?`, the value a numeral denotes.
- **Conversions.** `Json.ofBytes`, `Json.ofDouble`, `Json.ofSingle`.
-/

namespace ProbeRecorder

/-- **JSON values.** Objects keep their fields in the order they are written in. -/
inductive Json where
  | null
  | bool (b : Bool)
  | int (n : Int)
  /-- A double-precision number, by its pattern. -/
  | double (bits : UInt64)
  /-- A single-precision number, by its pattern; reading never produces one. -/
  | single (bits : UInt32)
  | str (s : String)
  | arr (items : List Json)
  | obj (fields : List (String × Json))
  deriving BEq, Repr, Inhabited

namespace Json

/-! ## Objects -/

/-- Puts a field into a list sorted by key; a field with the same key is replaced. Keys are ordered by
    code point, which is also the order of their UTF-8 bytes. -/
def insertField (key : String) (value : Json) : List (String × Json) → List (String × Json)
  | [] => [(key, value)]
  | (k, v) :: rest =>
    if key = k then (key, value) :: rest
    else if key < k then (key, value) :: (k, v) :: rest
    else (k, v) :: insertField key value rest

/-- A free-form object: fields sorted by key, the last one of each key. -/
def ofFields (fields : List (String × Json)) : Json :=
  .obj (fields.foldl (fun acc (k, v) => insertField k v acc) [])

/-! ## Numbers -/

/-- The integers that stay integers: those of signed and of unsigned words. -/
def keepsInt (n : Int) : Bool := (Number.signed 64).contains n || (Number.unsigned 64).contains n

/-- The value of a numeral: an integer where it is written as one and is in range, else a number in
    double precision. Minus zero is a floating-point number; too large a numeral has no value. -/
def ofNumeral? (n : Number.Numeral) : Option Json :=
  let signed : Int := if n.negative then Int.negOfNat n.wholeValue else n.wholeValue
  if n.isIntegral && keepsInt signed && !(n.negative && signed == 0) then
    some (.int signed)
  else n.scaled?.map .double

/-! ## Conversions -/

/-- An array of byte values. -/
def ofBytes (bytes : List UInt8) : Json := .arr (bytes.map fun b => .int b.toNat)

/-- A number as a free-form value; numbers that are not finite have none and become null. -/
def ofDouble (bits : UInt64) : Json :=
  if Number.binary64.isFinite bits.toNat then .double bits else .null

/-- The single-precision number as a free-form value, which knows double precision only. -/
def ofSingle (bits : UInt32) : Json := ofDouble (Number.widen bits)

end Json
end ProbeRecorder
