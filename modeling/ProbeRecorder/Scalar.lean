import ProbeRecorder.Json.Printer
import ProbeRecorder.Probe
import ProbeRecorder.Text.Quoted

/-!
# `ProbeRecorder.Scalar` — primitive values and their 64-bit form

## Contents
- **Scalars.** `Scalar`; floating-point numbers are kept as bit patterns.
- **Event value.** `encode` into 64 bits and `decode?` back, by the static type of the probe.
- **Comparison.** `sameBits` and `numericallyEqual`.
- **Records.** `toJson`, `decoder`, `describe`.
-/

namespace ProbeRecorder

/-- **Primitive values.** -/
inductive Scalar where
  | bool (b : Bool)
  | byte (n : Int8)
  | short (n : Int16)
  | char (c : Char)
  | int (n : Int32)
  | long (n : Int64)
  | float (bits : UInt32)
  | double (bits : UInt64)
  deriving DecidableEq, Repr

namespace Scalar

/-! ## Event value -/

/-- **The 64-bit form.** Integers keep their value, floating-point numbers their bits. -/
def encode : Scalar → Int64
  | .bool b => if b then 1 else 0
  | .byte n => n.toInt64
  | .short n => n.toInt64
  | .char c => Int64.ofNat c.toNat
  | .int n => n.toInt64
  | .long n => n
  | .float bits => Int64.ofNat bits.toNat
  | .double bits => bits.toInt64

/-- The value as a natural number below a bound. -/
def below? (bound : Nat) (raw : Int64) : Option Nat :=
  let n := raw.toInt
  if 0 ≤ n ∧ n < bound then some n.toNat else none

/-- The value is a signed word of this many bits. -/
def fits (bits : Nat) (raw : Int64) : Bool := (Number.signed bits).contains raw.toInt

/-- A code point that is no surrogate. -/
def char? (n : Nat) : Option Char := if h : n.isValidChar then some (Char.ofNatAux n h) else none

/-- **Decodes** the 64-bit form of a value of the given static type; `none` for what no value of that
    type encodes to. -/
def decode? (kind : ValueKind) (raw : Int64) : Option Scalar :=
  match kind with
  | .boolean => if raw = 0 then some (.bool false) else if raw = 1 then some (.bool true) else none
  | .byte => if fits 8 raw then some (.byte raw.toInt8) else none
  | .short => if fits 16 raw then some (.short raw.toInt16) else none
  | .char => ((below? UInt32.size raw).bind char?).map .char
  | .integer => if fits 32 raw then some (.int raw.toInt32) else none
  | .long => some (.long raw)
  | .float => (below? UInt32.size raw).map fun n => .float n.toUInt32
  | .double => some (.double raw.toUInt64)
  | .void | .object => none

/-- The static type. -/
def kind : Scalar → ValueKind
  | .bool _ => .boolean
  | .byte _ => .byte
  | .short _ => .short
  | .char _ => .char
  | .int _ => .integer
  | .long _ => .long
  | .float _ => .float
  | .double _ => .double

/-! ## Comparison -/

/-- **Bitwise equality**; a NaN equals itself. -/
def sameBits (a b : Scalar) : Bool := a.kind = b.kind && a.encode = b.encode

/-- Equality of floating-point patterns: zeros are equal, a NaN equals nothing. -/
def equalPatterns (fmt : Number.BinaryFormat) (a b : Nat) : Bool :=
  !fmt.isNaN a && !fmt.isNaN b && (a == b || (fmt.isZero a && fmt.isZero b))

/-- **Numeric equality** of scalars of one type. -/
def numericallyEqual : Scalar → Scalar → Bool
  | .float a, .float b => equalPatterns Number.binary32 a.toNat b.toNat
  | .double a, .double b => equalPatterns Number.binary64 a.toNat b.toNat
  | a, b => a = b

/-! ## Records -/

/-- The name of the type in records. -/
def typeName : Scalar → String
  | .bool _ => "bool"
  | .byte _ => "byte"
  | .short _ => "short"
  | .char _ => "char"
  | .int _ => "int"
  | .long _ => "long"
  | .float _ => "float"
  | .double _ => "double"

/-- The value alone. -/
def valueJson : Scalar → Json
  | .bool b => .bool b
  | .byte n => .int n.toInt
  | .short n => .int n.toInt
  | .char c => .str (String.ofList [c])
  | .int n => .int n.toInt
  | .long n => .int n.toInt
  | .float bits => .single bits
  | .double bits => .double bits

def toJson (s : Scalar) : Json := .obj [("type", .str s.typeName), ("value", s.valueJson)]

/-- Decoders of the value, by type name. -/
def valueDecoders : List (String × Json.Decoder Scalar) :=
  let via {α : Type} (d : Json.Decoder α) (make : α → Scalar) : Json.Decoder Scalar :=
    fun depth t => (d depth t).map make
  [("bool", via .bool .bool), ("byte", via .int8 .byte), ("short", via .int16 .short),
   ("char", via .char .char), ("int", via .int32 .int), ("long", via .int64 .long),
   ("float", via .single .float), ("double", via .double .double)]

/-- In an object the type may follow its value. -/
def decoder : Json.Decoder Scalar := fun depth t => do
  let f ← Json.Decoder.record ["type", "value"] depth t
  let value ← f.required 0 (.choice valueDecoders)
  f.required 1 value

/-- The scalar as shown in diagnostic text. -/
def describe : Scalar → List Char
  | .bool b => "Bool(".toList ++ (toString b).toList ++ [')']
  | .byte n => "Byte(".toList ++ Json.renderInt n.toInt ++ [')']
  | .short n => "Short(".toList ++ Json.renderInt n.toInt ++ [')']
  | .char c => "Char(".toList ++ Text.quoteChar c ++ [')']
  | .int n => "Int(".toList ++ Json.renderInt n.toInt ++ [')']
  | .long n => "Long(".toList ++ Json.renderInt n.toInt ++ [')']
  | .float bits =>
    "Float(".toList ++ Number.debugLayout.writeBits Number.binary32 bits.toNat ++ [')']
  | .double bits =>
    "Double(".toList ++ Number.debugLayout.writeBits Number.binary64 bits.toNat ++ [')']

end Scalar
end ProbeRecorder
