import ProbeRecorder.Json.Decoder
import ProbeRecorder.Proofs.Json.Parsing

/-!
# `ProbeRecorder.Proofs.Json.Decoding` — typed values read back from printed ones

## Contents
- **Words.** Integers of machine words (`Decoder.int_tree`, and one lemma for each width).
- **Texts and lists.** `Decoder.string_tree`, `Decoder.list_tree`.
- **Records.** `Fields.place_tree`, a field put into its slot.
-/

namespace ProbeRecorder.Json

/-! ## Words -/

theorem contains_signed {n : Int} {bits : Nat} (hl : -(Number.halfWords bits : Int) ≤ n)
    (hh : n < Number.halfWords bits) : (Number.signed bits).contains n = true :=
  (Number.Range.contains_iff _ n).2 ⟨hl, Int.le_sub_one_of_lt hh⟩

theorem contains_unsigned {n bits : Nat} (h : n < Nat.pow 2 bits) :
    (Number.unsigned bits).contains n = true := by
  rw [Number.Range.contains_iff]
  exact ⟨Int.natCast_nonneg n, Int.le_sub_one_of_lt (Int.ofNat_lt.2 h)⟩

theorem keepsInt_of_signed {n : Int} (h : (Number.signed 64).contains n = true) : keepsInt n = true := by
  unfold keepsInt
  rw [h]
  rfl

theorem keepsInt_of_unsigned {n : Int} (h : (Number.unsigned 64).contains n = true) : keepsInt n = true := by
  unfold keepsInt
  rw [h]
  exact Bool.or_true _

theorem contains_int32 (n : Int32) : (Number.signed 32).contains n.toInt = true := by
  have hl : (-2147483648 : Int) ≤ n.toInt := n.le_toInt
  have hh : n.toInt < (2147483648 : Int) := n.toInt_lt
  exact contains_signed hl hh

theorem contains_int64 (n : Int64) : (Number.signed 64).contains n.toInt = true := by
  have hl : (-9223372036854775808 : Int) ≤ n.toInt := n.le_toInt
  have hh : n.toInt < (9223372036854775808 : Int) := n.toInt_lt
  exact contains_signed hl hh

/-- A shorter word is a longer one too. -/
theorem keepsInt_int32 (n : Int32) : keepsInt n.toInt = true := by
  have h := contains_int64 n.toInt64
  rw [Int32.toInt_toInt64] at h
  exact keepsInt_of_signed h

theorem keepsInt_int64 (n : Int64) : keepsInt n.toInt = true := keepsInt_of_signed (contains_int64 n)

theorem keepsInt_uint64 (n : UInt64) : keepsInt n.toNat = true :=
  keepsInt_of_unsigned (contains_unsigned n.toNat_lt)

theorem keepsInt_uint8 (n : UInt8) : keepsInt n.toNat = true := by
  have h := keepsInt_uint64 n.toUInt64
  rw [UInt8.toNat_toUInt64] at h
  exact h

namespace Decoder

/-- **An integer is read back** when it lies in the range that is asked for. -/
theorem int_tree {range : Number.Range} {n : Int} (depth : Nat) (hk : keepsInt n = true)
    (hr : range.contains n = true) : int range depth (tree (.int n)) = some n := by
  show int range depth (.number (numeralOf n)) = some n
  simp only [int, ofNumeral?_numeralOf hk]
  exact if_pos hr

theorem int32_tree (depth : Nat) (n : Int32) : int32 depth (tree (.int n.toInt)) = some n := by
  unfold int32
  rw [int_tree depth (keepsInt_int32 n) (contains_int32 n)]
  exact congrArg some (Int32.ofInt_toInt n)

theorem int64_tree (depth : Nat) (n : Int64) : int64 depth (tree (.int n.toInt)) = some n := by
  unfold int64
  rw [int_tree depth (keepsInt_int64 n) (contains_int64 n)]
  exact congrArg some (Int64.ofInt_toInt n)

theorem uint8_tree (depth : Nat) (n : UInt8) : uint8 depth (tree (.int n.toNat)) = some n := by
  unfold uint8
  rw [int_tree depth (keepsInt_uint8 n) (contains_unsigned n.toNat_lt)]
  exact congrArg some UInt8.ofNat_toNat

theorem uint64_tree (depth : Nat) (n : UInt64) : uint64 depth (tree (.int n.toNat)) = some n := by
  unfold uint64
  rw [int_tree depth (keepsInt_uint64 n) (contains_unsigned n.toNat_lt)]
  exact congrArg some UInt64.ofNat_toNat

/-! ## Texts and lists -/

theorem string_tree (depth : Nat) (s : String) : string depth (tree (.str s)) = some s := by
  show (decodeItems? (s.toList.map textItem)).map String.ofList = some s
  rw [decodeItems?_textItems]
  exact congrArg some (String.ofList_toList)

/-- **A list is read back** when its items are. -/
theorem list_tree {α : Type} {d : Decoder α} {print : α → Json} {depth : Nat} (hd : 1 < depth) (xs : List α)
    (items : ∀ x ∈ xs, d (depth - 1) (tree (print x)) = some x) :
    list d depth (tree (.arr (xs.map print))) = some xs := by
  show (if depth ≤ 1 then none else (itemTrees (xs.map print)).mapM (d (depth - 1))) = some xs
  rw [if_neg (Nat.not_le.mpr hd), itemTrees_eq, List.map_map]
  induction xs with
  | nil => rfl
  | cons x rest ih =>
      have hx := items x List.mem_cons_self
      have hrest := ih fun y hy => items y (List.mem_cons_of_mem _ hy)
      rw [List.map_cons, List.mapM_cons, hrest]
      show (d (depth - 1) (tree (print x))).bind _ = _
      rw [hx]
      rfl

end Decoder

/-! ## Records -/

/-- **A field is put into its slot** if nothing was put there before. -/
theorem Fields.place_tree {names : List String} {slots : List (Option Tree)} {key : String} {index : Nat}
    (t : Tree) (known : names.contains key = true) (place : names.idxOf key = index)
    (free : slots[index]? = some none) :
    Fields.place names slots (key.toList.map textItem, t) = some (slots.set index (some t)) := by
  unfold Fields.place
  rw [decodeItems?_textItems]
  show (if names.contains (String.ofList key.toList) = true then _ else _) = _
  rw [String.ofList_toList, if_pos known, place, free]

/-- One field, and then the others. -/
theorem Fields.foldlM_place_cons {names : List String} {slots : List (Option Tree)} {key : String}
    (index : Nat) (t : Tree) (rest : List (List TextItem × Tree)) (known : names.contains key = true)
    (place : names.idxOf key = index) (free : slots[index]? = some none) :
    ((key.toList.map textItem, t) :: rest).foldlM (Fields.place names) slots =
      rest.foldlM (Fields.place names) (slots.set index (some t)) := by
  rw [List.foldlM_cons, Fields.place_tree t known place free]
  rfl

end ProbeRecorder.Json
