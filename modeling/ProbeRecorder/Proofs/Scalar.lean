import Mathlib.Algebra.Group.Nat.Defs
import Mathlib.Algebra.Ring.Int.Defs
import ProbeRecorder.Scalar

/-!
# `ProbeRecorder.Proofs.Scalar` — scalars and their 64-bit form

Every scalar is read back from its 64-bit form, and every form that is read belongs to the scalar that it
gives. What a static type does not admit is no form of any of its scalars.

## Contents
- **Forms.** `ValueKind.Admits`, the numbers that a static type admits; `Scalar.pattern`, the bits of a
  scalar in its own width.
- **Words.** Reading a narrow word out of a wide one (`Scalar.fits_iff`, `Scalar.below?_eq_some_iff`,
  `Scalar.char?_eq_some_iff`).
- **There and back.** `Scalar.decode?_encode`, `Scalar.encode_of_decode?`.
- **Bits.** `Scalar.sameBits_iff_eq`, `Scalar.eq_iff_pattern`.
- **Bijection.** `Scalar.encode_bijective`.
-/

namespace ProbeRecorder

/-! ## Forms -/

/-- **The numbers that a static type admits** as 64-bit forms. The two wide types admit all of them, and
    what is not primitive admits none. -/
def ValueKind.Admits (n : Int) : ValueKind → Prop
  | .boolean => n = 0 ∨ n = 1
  | .byte => -2 ^ 7 ≤ n ∧ n < 2 ^ 7
  | .short => -2 ^ 15 ≤ n ∧ n < 2 ^ 15
  | .char => 0 ≤ n ∧ n.toNat.isValidChar
  | .integer => -2 ^ 31 ≤ n ∧ n < 2 ^ 31
  | .float => 0 ≤ n ∧ n < 2 ^ 32
  | .long | .double => True
  | .void | .object => False

namespace Scalar

/-- **The bits of a scalar** in its own width, as a number. -/
def pattern : Scalar → Nat
  | .bool b => b.toNat
  | .byte n => n.toUInt8.toNat
  | .short n => n.toUInt16.toNat
  | .char c => c.toNat
  | .int n => n.toUInt32.toNat
  | .long n => n.toUInt64.toNat
  | .float bits => bits.toNat
  | .double bits => bits.toNat

/-! ## Words -/

theorem fits_iff (bits : Nat) (raw : Int64) :
    fits bits raw = true ↔ -2 ^ (bits - 1) ≤ raw.toInt ∧ raw.toInt < 2 ^ (bits - 1) := by
  rw [fits, Number.Range.contains_iff]
  show -((2 ^ (bits - 1) : Nat) : Int) ≤ _ ∧ _ ≤ ((2 ^ (bits - 1) : Nat) : Int) - 1 ↔ _
  rw [Int.le_sub_one_iff]
  push_cast
  rfl

theorem below?_eq_some_iff (bound : Nat) (raw : Int64) (n : Nat) :
    below? bound raw = some n ↔ raw.toInt = n ∧ n < bound := by
  rw [below?]
  by_cases inside : 0 ≤ raw.toInt ∧ raw.toInt < bound
  · simp only [if_pos inside, Option.some.injEq]
    omega
  · simp only [if_neg inside]
    constructor
    · intro none
      cases none
    · rintro ⟨same, small⟩
      omega

theorem char?_eq_some_iff (n : Nat) (c : Char) : char? n = some c ↔ c.toNat = n := by
  rw [char?]
  constructor
  · intro found
    by_cases valid : n.isValidChar
    · rw [dif_pos valid] at found
      cases found
      rfl
    · rw [dif_neg valid] at found
      cases found
  · rintro rfl
    exact dif_pos c.valid

theorem toInt_ofNat_char (c : Char) : (Int64.ofNat c.toNat).toInt = c.toNat := by
  apply Int64.toInt_ofNat_of_lt
  have := c.val.toNat_lt
  show c.val.toNat < _
  omega

theorem toInt_ofNat_word (bits : UInt32) : (Int64.ofNat bits.toNat).toInt = bits.toNat := by
  apply Int64.toInt_ofNat_of_lt
  have := bits.toNat_lt
  omega

/-- A narrow word that is read out of a wide one has its value, if the value fits. -/
theorem bmod_eq_of_fits {bits : Nat} {raw : Int64} (positive : 0 < bits) (h : fits bits raw = true) :
    raw.toInt.bmod (2 ^ bits) = raw.toInt := by
  obtain ⟨low, high⟩ := (fits_iff bits raw).1 h
  obtain ⟨half, rfl⟩ : ∃ half, bits = half + 1 := ⟨bits - 1, by omega⟩
  rw [Nat.add_sub_cancel] at low high
  apply Int.bmod_eq_of_le
  · push_cast
    omega
  · push_cast
    omega

/-! ## There and back -/

/-- **Every scalar is read back** from its 64-bit form. -/
theorem decode?_encode (s : Scalar) : decode? s.kind s.encode = some s := by
  cases s with
  | bool b => cases b <;> rfl
  | byte n =>
      have fit : fits 8 n.toInt64 = true := by
        rw [fits_iff, n.toInt_toInt64]
        exact ⟨n.le_toInt, n.toInt_lt⟩
      show (if fits 8 n.toInt64 then some (byte n.toInt64.toInt8) else none) = _
      rw [if_pos fit, n.toInt8_toInt64]
  | short n =>
      have fit : fits 16 n.toInt64 = true := by
        rw [fits_iff, n.toInt_toInt64]
        exact ⟨n.le_toInt, n.toInt_lt⟩
      show (if fits 16 n.toInt64 then some (short n.toInt64.toInt16) else none) = _
      rw [if_pos fit, n.toInt16_toInt64]
  | char c =>
      have small : below? UInt32.size (Int64.ofNat c.toNat) = some c.toNat :=
        (below?_eq_some_iff _ _ _).2 ⟨toInt_ofNat_char c, c.val.toNat_lt⟩
      show ((below? UInt32.size (Int64.ofNat c.toNat)).bind char?).map char = _
      rw [small, Option.bind_some, (char?_eq_some_iff _ c).2 rfl]
      rfl
  | int n =>
      have fit : fits 32 n.toInt64 = true := by
        rw [fits_iff, n.toInt_toInt64]
        exact ⟨n.le_toInt, n.toInt_lt⟩
      show (if fits 32 n.toInt64 then some (int n.toInt64.toInt32) else none) = _
      rw [if_pos fit, n.toInt32_toInt64]
  | long n => rfl
  | float bits =>
      have small : below? UInt32.size (Int64.ofNat bits.toNat) = some bits.toNat :=
        (below?_eq_some_iff _ _ _).2 ⟨toInt_ofNat_word bits, bits.toNat_lt⟩
      show (below? UInt32.size (Int64.ofNat bits.toNat)).map (fun n => float n.toUInt32) = _
      rw [small, Option.map_some]
      exact congrArg (some <| float ·) UInt32.ofNat_toNat
  | double bits =>
      show some (double bits.toInt64.toUInt64) = _
      rw [bits.toUInt64_toInt64]

/-- **What is read** is of the type that was asked for, and has the form that it was read from. -/
theorem encode_of_decode? {d : ValueKind} {raw : Int64} {t : Scalar} (h : decode? d raw = some t) :
    t.kind = d ∧ t.encode = raw := by
  cases d with
  | void => cases h
  | boolean =>
      rw [decode?] at h
      by_cases zero : raw = 0
      · rw [if_pos zero] at h
        cases h
        exact ⟨rfl, zero.symm⟩
      · rw [if_neg zero] at h
        by_cases one : raw = 1
        · rw [if_pos one] at h
          cases h
          exact ⟨rfl, one.symm⟩
        · rw [if_neg one] at h
          cases h
  | byte =>
      obtain ⟨fit, same⟩ := Option.ite_none_right_eq_some.1 h
      cases same
      refine ⟨rfl, Int64.toInt_inj.1 ?_⟩
      rw [encode, Int8.toInt_toInt64, Int64.toInt_toInt8, bmod_eq_of_fits (by decide) fit]
  | char =>
      obtain ⟨c, found, rfl⟩ := Option.map_eq_some_iff.1 h
      obtain ⟨n, small, valid⟩ := Option.bind_eq_some_iff.1 found
      obtain ⟨value, -⟩ := (below?_eq_some_iff _ _ _).1 small
      refine ⟨rfl, Int64.toInt_inj.1 ?_⟩
      rw [encode, toInt_ofNat_char, value, (char?_eq_some_iff n c).1 valid]
  | short =>
      obtain ⟨fit, same⟩ := Option.ite_none_right_eq_some.1 h
      cases same
      refine ⟨rfl, Int64.toInt_inj.1 ?_⟩
      rw [encode, Int16.toInt_toInt64, Int64.toInt_toInt16, bmod_eq_of_fits (by decide) fit]
  | integer =>
      obtain ⟨fit, same⟩ := Option.ite_none_right_eq_some.1 h
      cases same
      refine ⟨rfl, Int64.toInt_inj.1 ?_⟩
      rw [encode, Int32.toInt_toInt64, Int64.toInt_toInt32, bmod_eq_of_fits (by decide) fit]
  | long =>
      cases h
      exact ⟨rfl, rfl⟩
  | float =>
      obtain ⟨n, small, rfl⟩ := Option.map_eq_some_iff.1 h
      obtain ⟨value, bound⟩ := (below?_eq_some_iff _ _ _).1 small
      refine ⟨rfl, Int64.toInt_inj.1 ?_⟩
      rw [encode, toInt_ofNat_word, value, Nat.toUInt32_eq, UInt32.toNat_ofNat', Nat.mod_eq_of_lt bound]
  | double =>
      cases h
      exact ⟨rfl, raw.toInt64_toUInt64⟩
  | object => cases h

/-- **Decoding**: exactly the scalar of the type that has the form is read. -/
theorem decode?_eq_some_iff (d : ValueKind) (raw : Int64) (t : Scalar) :
    decode? d raw = some t ↔ t.kind = d ∧ t.encode = raw := by
  constructor
  · exact encode_of_decode?
  · rintro ⟨rfl, rfl⟩
    exact t.decode?_encode

/-- What is not read is the form of no scalar of the type. -/
theorem decode?_eq_none_iff (d : ValueKind) (raw : Int64) :
    decode? d raw = none ↔ ¬ ∃ s : Scalar, s.kind = d ∧ s.encode = raw := by
  rw [Option.eq_none_iff_forall_ne_some]
  constructor
  · rintro none ⟨s, form⟩
    exact none s ((decode?_eq_some_iff d raw s).2 form)
  · intro none s found
    exact none ⟨s, (decode?_eq_some_iff d raw s).1 found⟩

/-- What a type admits is read. -/
theorem isSome_decode?_iff (d : ValueKind) (raw : Int64) :
    (decode? d raw).isSome ↔ d.Admits raw.toInt := by
  cases d with
  | void => simp [decode?, ValueKind.Admits]
  | boolean =>
      have zero : raw = 0 ↔ raw.toInt = 0 := by rw [← Int64.toInt_inj]; rfl
      have one : raw = 1 ↔ raw.toInt = 1 := by rw [← Int64.toInt_inj]; rfl
      rw [ValueKind.Admits, ← zero, ← one, decode?]
      by_cases isZero : raw = 0
      · simp [isZero]
      · by_cases isOne : raw = 1 <;> simp [isZero, isOne]
  | byte => simpa [decode?, ValueKind.Admits] using fits_iff 8 raw
  | char =>
      show (((below? UInt32.size raw).bind char?).map char).isSome = true ↔ _
      rw [Option.isSome_map, Option.isSome_iff_exists]
      constructor
      · rintro ⟨c, found⟩
        obtain ⟨n, small, valid⟩ := Option.bind_eq_some_iff.1 found
        obtain ⟨value, -⟩ := (below?_eq_some_iff _ _ _).1 small
        rw [ValueKind.Admits, value, Int.toNat_natCast, ← (char?_eq_some_iff n c).1 valid]
        exact ⟨Int.natCast_nonneg _, c.valid⟩
      · rintro ⟨low, valid⟩
        have bound : raw.toInt.toNat < UInt32.size := by
          show _ < 4294967296
          rcases valid with h | h <;> omega
        refine ⟨Char.ofNatAux raw.toInt.toNat valid, Option.bind_eq_some_iff.2 ⟨raw.toInt.toNat, ?_, ?_⟩⟩
        · exact (below?_eq_some_iff _ _ _).2 ⟨(Int.toNat_of_nonneg low).symm, bound⟩
        · exact dif_pos valid
  | short => simpa [decode?, ValueKind.Admits] using fits_iff 16 raw
  | integer => simpa [decode?, ValueKind.Admits] using fits_iff 32 raw
  | long => simp [decode?, ValueKind.Admits]
  | float =>
      show ((below? UInt32.size raw).map fun n => float n.toUInt32).isSome = true ↔ _
      rw [Option.isSome_map, below?, apply_ite Option.isSome]
      simp [ValueKind.Admits, UInt32.size]
  | double => simp [decode?, ValueKind.Admits]
  | object => simp [decode?, ValueKind.Admits]

/-! ## Bits -/

theorem sameBits_iff (a b : Scalar) : a.sameBits b = true ↔ a.kind = b.kind ∧ a.encode = b.encode := by
  rw [sameBits, Bool.and_eq_true, decide_eq_true_iff, decide_eq_true_iff]

/-- Scalars of one type and one form are the same scalar, since both are what is read from the form. -/
theorem sameBits_iff_eq (a b : Scalar) : a.sameBits b = true ↔ a = b := by
  rw [sameBits_iff]
  constructor
  · rintro ⟨kind, form⟩
    have read : decode? b.kind b.encode = some a := by
      rw [← kind, ← form, a.decode?_encode]
    exact Option.some.inj (read.symm.trans b.decode?_encode)
  · rintro rfl
    exact ⟨rfl, rfl⟩

/-- A scalar is its type and its bits. -/
theorem eq_iff_pattern (a b : Scalar) : a = b ↔ a.kind = b.kind ∧ a.pattern = b.pattern := by
  constructor
  · rintro rfl
    exact ⟨rfl, rfl⟩
  · rintro ⟨kind, bits⟩
    have toNat_injective : ∀ x y : Bool, x.toNat = y.toNat → x = y := by decide
    cases a with
    | bool a =>
        cases b <;> cases kind
        exact congrArg bool (toNat_injective _ _ bits)
    | byte a =>
        cases b <;> cases kind
        exact congrArg byte (Function.LeftInverse.injective Int8.toInt8_toUInt8 (UInt8.toNat_inj.1 bits))
    | short a =>
        cases b <;> cases kind
        exact congrArg short (Function.LeftInverse.injective Int16.toInt16_toUInt16 (UInt16.toNat_inj.1 bits))
    | char a =>
        cases b <;> cases kind
        exact congrArg char (Char.toNat_inj.1 bits)
    | int a =>
        cases b <;> cases kind
        exact congrArg int (Function.LeftInverse.injective Int32.toInt32_toUInt32 (UInt32.toNat_inj.1 bits))
    | long a =>
        cases b <;> cases kind
        exact congrArg long (Function.LeftInverse.injective Int64.toInt64_toUInt64 (UInt64.toNat_inj.1 bits))
    | float a =>
        cases b <;> cases kind
        exact congrArg float (UInt32.toNat_inj.1 bits)
    | double a =>
        cases b <;> cases kind
        exact congrArg double (UInt64.toNat_inj.1 bits)

/-! ## Bijection -/

/-- **The 64-bit form is a bijection** between the scalars of a type and what decoding accepts for it, and
    that is what the type admits. Hence two scalars are the same bit by bit exactly if their types and
    their bits are. -/
theorem encode_bijective :
    (∀ s : Scalar, ∃ t, decode? s.kind s.encode = some t ∧ t.sameBits s) ∧
      (∀ d raw t, decode? d raw = some t ↔ t.kind = d ∧ t.encode = raw) ∧
      (∀ d raw, decode? d raw = none ↔ ¬ ∃ s : Scalar, s.kind = d ∧ s.encode = raw) ∧
      (∀ d raw, (∃ s : Scalar, s.kind = d ∧ s.encode = raw) ↔ d.Admits raw.toInt) ∧
      ∀ a b : Scalar, a.sameBits b ↔ a.kind = b.kind ∧ a.pattern = b.pattern := by
  refine ⟨?_, decode?_eq_some_iff, decode?_eq_none_iff, ?_, ?_⟩
  · intro s
    exact ⟨s, s.decode?_encode, (sameBits_iff_eq s s).2 rfl⟩
  · intro d raw
    rw [← isSome_decode?_iff, Option.isSome_iff_exists]
    simp only [decode?_eq_some_iff]
  · intro a b
    rw [sameBits_iff_eq, eq_iff_pattern]

end Scalar
end ProbeRecorder
