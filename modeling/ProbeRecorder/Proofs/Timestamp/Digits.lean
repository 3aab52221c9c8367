import Mathlib.Algebra.Group.Nat.Defs
import Mathlib.Data.Char
import Mathlib.Data.List.Lex
import ProbeRecorder.Number.Plain
import ProbeRecorder.Proofs.Json.Lexing
import ProbeRecorder.Timestamp

/-!
# `ProbeRecorder.Proofs.Timestamp.Digits` — numbers in a fixed number of digits

Numbers of equally many digits are in the order of their texts. A fraction is cut off behind its last group of
digits that is not zero; with the zeros put back, it has nine digits like any other.

## Contents
- **Lists in order.** `lex_append`, `not_lex_zeros`.
- **Places.** `Number.places`, so many last digits of a number: their value, their order, and zeros at their
  end.
- **Padded numbers.** `padded_eq`; `padded_append_lt` and `padded_mark_lt`, for what follows a number too.
- **Fractions.** `exists_fraction`, the digits that are shown; `fraction_append_lt`.
-/

namespace ProbeRecorder

/-! ## Lists in order -/

/-- Lists of one length that are in order stay so, whatever follows. -/
theorem lex_append {α : Type} {r : α → α → Prop} {p q : List α} (h : List.Lex r p q)
    (same : p.length = q.length) (s t : List α) : List.Lex r (p ++ s) (q ++ t) := by
  induction h with
  | nil => cases same
  | cons _ ih => exact .cons (ih (Nat.succ.inj same))
  | rel first => exact .rel first

/-- Nothing that is as long stands before zeros. -/
theorem not_lex_zeros {p : List Nat} {n : Nat} (long : n ≤ p.length) :
    ¬List.Lex (· < ·) p (List.replicate n 0) := by
  induction p generalizing n with
  | nil =>
      rw [Nat.le_zero.mp long]
      exact nofun
  | cons d p ih =>
      cases n with
      | zero => exact nofun
      | succ n =>
          rintro (_ | first | rest)
          · exact Nat.not_lt_zero d first
          · exact ih (Nat.le_of_succ_le_succ long) rest

/-! ## Places -/

namespace Number

/-- **The last digits** of a number, so many of them, most significant first. -/
def places : Nat → Nat → List Nat
  | 0, _ => []
  | width + 1, n => places width (n / 10) ++ [n % 10]

theorem length_places (width n : Nat) : (places width n).length = width := by
  induction width generalizing n with
  | zero => rfl
  | succ width ih => rw [places, List.length_append, ih, List.length_singleton]

theorem places_lt (width n : Nat) : ∀ d ∈ places width n, d < 10 := by
  induction width generalizing n with
  | zero => exact fun _ h => nomatch h
  | succ width ih =>
      intro d hd
      rw [places, List.mem_append, List.mem_singleton] at hd
      rcases hd with front | rfl
      · exact ih (n / 10) d front
      · exact Nat.mod_lt n (by decide)

theorem places_zero (width : Nat) : places width 0 = List.replicate width 0 := by
  induction width with
  | zero => rfl
  | succ width ih => rw [places, Nat.zero_div, ih, List.replicate_succ']

/-- **Places spell the number** that fits into them. -/
theorem digitsValue_places {width n : Nat} (h : n < 10 ^ width) : digitsValue (places width n) = n := by
  induction width generalizing n with
  | zero =>
      rw [Nat.pow_zero, Nat.lt_one_iff] at h
      exact h.symm
  | succ width ih =>
      have front := ih (n := n / 10) (by rw [Nat.pow_succ] at h; omega)
      unfold digitsValue at front ⊢
      rw [places, List.foldl_append, front]
      show 10 * (n / 10) + n % 10 = n
      omega

/-- **Smaller numbers come first.** -/
theorem places_lex {width a b : Nat} (h : a < b) (fits : b < 10 ^ width) :
    List.Lex (· < ·) (places width a) (places width b) := by
  induction width generalizing a b with
  | zero =>
      rw [Nat.pow_zero] at fits
      omega
  | succ width ih =>
      rw [places, places]
      rw [Nat.pow_succ] at fits
      rcases Nat.lt_or_eq_of_le (Nat.div_le_div_right (c := 10) (Nat.le_of_lt h)) with front | front
      · have same : (places width (a / 10)).length = (places width (b / 10)).length := by
          rw [length_places, length_places]
        exact lex_append (ih front (by omega)) same _ _
      · rw [front]
        exact List.Lex.append_left _ (.rel (by omega)) _

/-- **Zeros at the end.** -/
theorem places_mul (width zeros n : Nat) :
    places (width + zeros) (n * 10 ^ zeros) = places width n ++ List.replicate zeros 0 := by
  induction zeros with
  | zero => rw [Nat.pow_zero, Nat.mul_one]; exact (List.append_nil _).symm
  | succ zeros ih =>
      have front : n * 10 ^ (zeros + 1) / 10 = n * 10 ^ zeros := by
        rw [Nat.pow_succ, ← Nat.mul_assoc, Nat.mul_div_cancel _ (by decide)]
      have last : n * 10 ^ (zeros + 1) % 10 = 0 := by
        rw [Nat.pow_succ, ← Nat.mul_assoc, Nat.mul_mod_left]
      rw [← Nat.add_assoc, places, front, last, ih, List.append_assoc, List.replicate_succ']

/-- The digits of a number are its places behind leading zeros. -/
theorem zeros_digitsOf {width n : Nat} (h : n < 10 ^ width) (positive : 0 < width) :
    List.replicate (width - (digitsOf n).length) 0 ++ digitsOf n = places width n := by
  induction width generalizing n with
  | zero => cases positive
  | succ width ih =>
      unfold digitsOf
      rw [places]
      by_cases small : n < 10
      · rw [if_pos small, Nat.div_eq_of_lt small, places_zero, Nat.mod_eq_of_lt small]
        rfl
      · have inner : 0 < width := by
          rcases Nat.eq_zero_or_pos width with rfl | inner
          · exact absurd h small
          · exact inner
        have front := ih (n := n / 10) (by rw [Nat.pow_succ] at h; omega) inner
        rw [if_neg small, List.length_append, List.length_singleton, Nat.add_sub_add_right, ← front,
          List.append_assoc]

/-! ## Digits as text -/

theorem isDigit_digitChar : ∀ d < 10, (Nat.digitChar d).isDigit = true := by decide

theorem toNat_digitChar : ∀ d < 10, (Nat.digitChar d).toNat - '0'.toNat = d := by decide

theorem digits?_digitChars {digits : List Nat} (present : digits ≠ []) (h : ∀ d ∈ digits, d < 10) :
    digits? (digits.map Nat.digitChar) = some digits := by
  have all : (digits.map Nat.digitChar).all Char.isDigit = true := by
    rw [List.all_map, List.all_eq_true]
    exact fun d hd => isDigit_digitChar d (h d hd)
  have values : (digits.map Nat.digitChar).map (fun c => c.toNat - '0'.toNat) = digits := by
    rw [List.map_map]
    exact (List.map_congr_left fun d hd => toNat_digitChar d (h d hd)).trans (List.map_id digits)
  rw [digits?, all, values]
  simp [present]

theorem digitChar_lt : ∀ e < 10, ∀ d < e, Nat.digitChar d < Nat.digitChar e := by decide

theorem zero_le_digitChar : ∀ d < 10, '0' ≤ Nat.digitChar d := by decide

/-- **Digits are in the order of their values.** -/
theorem digitChars_lex {p q : List Nat} (small : ∀ d ∈ q, d < 10) (h : List.Lex (· < ·) p q) :
    List.Lex (· < ·) (p.map Nat.digitChar) (q.map Nat.digitChar) := by
  induction h with
  | nil => exact .nil
  | cons _ ih => exact .cons (ih fun d hd => small d (List.mem_cons_of_mem _ hd))
  | @rel d _ e _ less => exact .rel (digitChar_lt e (small e List.mem_cons_self) d less)

/-- **Zeros may be cut off at the end**: with a mark below all digits behind what is left, the order is the same. -/
theorem digitChars_cut_lex {p q : List Nat} (small : ∀ d ∈ q, d < 10) {i j : Nat}
    (same : p.length + i = q.length + j)
    (h : List.Lex (· < ·) (p ++ List.replicate i 0) (q ++ List.replicate j 0)) {mark : Char} (low : mark < '0')
    (s t : List Char) :
    List.Lex (· < ·) (p.map Nat.digitChar ++ mark :: s) (q.map Nat.digitChar ++ mark :: t) := by
  -- While both have digits the lists are compared as before. Where one ends, the zeros that were cut off it stand
  -- before any digits of the other, as the mark does; that the other ends first, the order excludes.
  induction p generalizing q with
  | nil =>
      cases q with
      | nil =>
          have long : j ≤ (List.replicate i 0).length := by simpa using same.ge
          exact absurd h (not_lex_zeros long)
      | cons e q => exact .rel (lt_of_lt_of_le low (zero_le_digitChar e (small e List.mem_cons_self)))
  | cons d p ih =>
      cases q with
      | nil =>
          have long : j ≤ (d :: p ++ List.replicate i 0).length := by simpa [Nat.add_right_comm] using same.ge
          exact absurd h (not_lex_zeros long)
      | cons e q =>
          have tails : p.length + i = q.length + j := by simpa [Nat.add_right_comm] using same
          rcases h with _ | less | rest
          · exact .rel (digitChar_lt e (small e List.mem_cons_self) d less)
          · exact .cons (ih (fun d hd => small d (List.mem_cons_of_mem _ hd)) tails rest)

end Number

/-! ## Padded numbers -/

namespace Timestamp

variable {width a b n : Nat} {s t : List Char} {mark : Char}

theorem padded_eq (fits : n < 10 ^ width) (positive : 0 < width) :
    padded width n = (Number.places width n).map Nat.digitChar := by
  rw [padded, Number.decimalDigits_eq, List.length_map, ← Number.zeros_digitsOf fits positive, List.map_append,
    List.map_replicate]
  rfl

theorem length_padded (fits : n < 10 ^ width) (positive : 0 < width) : (padded width n).length = width := by
  rw [padded_eq fits positive, List.length_map, Number.length_places]

/-- **A number and what follows it** are in order, if the number is, or what follows it after the same number. -/
theorem padded_append_lt (fits : b < 10 ^ width) (positive : 0 < width) (h : a < b ∨ a = b ∧ s < t) :
    padded width a ++ s < padded width b ++ t := by
  rcases h with less | ⟨rfl, rest⟩
  · have same := (length_padded (Nat.lt_trans less fits) positive).trans (length_padded fits positive).symm
    rw [padded_eq (Nat.lt_trans less fits) positive, padded_eq fits positive] at same ⊢
    exact lex_append (Number.digitChars_lex (Number.places_lt width b) (Number.places_lex less fits)) same s t
  · exact List.Lex.append_left _ rest _

/-- The same with a mark behind the number. -/
theorem padded_mark_lt (fits : b < 10 ^ width) (positive : 0 < width) (mark : Char) (h : a < b ∨ a = b ∧ s < t) :
    padded width a ++ mark :: s < padded width b ++ mark :: t := by
  refine padded_append_lt fits positive ?_
  rcases h with less | ⟨same, rest⟩
  · exact .inl less
  · exact .inr ⟨same, .cons rest⟩

/-! ## Fractions -/

/-- **The digits that a fraction shows**: whole groups of three, of which only zeros are left out. -/
structure Shows (n : Nat) (digits : List Nat) : Prop where
  groups : digits.length = 3 ∨ digits.length = 6 ∨ digits.length = 9
  small : ∀ d ∈ digits, d < 10
  text : fraction n = '.' :: digits.map Nat.digitChar
  nine : digits ++ List.replicate (9 - digits.length) 0 = Number.places 9 n

theorem shows_of_multiple {width zeros m : Nat} (nine : width + zeros = 9)
    (groups : width = 3 ∨ width = 6 ∨ width = 9) (fits : m < 10 ^ width)
    (text : fraction (m * 10 ^ zeros) = '.' :: padded width m) :
    Shows (m * 10 ^ zeros) (Number.places width m) where
  groups := by rwa [Number.length_places]
  small := Number.places_lt width m
  text := by rw [text, padded_eq fits (by omega)]
  nine := by rw [Number.length_places, ← nine, Number.places_mul, Nat.add_sub_cancel_left]

/-- **A fraction that is not zero** shows digits. -/
theorem exists_shows (positive : n ≠ 0) (fits : n < 10 ^ 9) : ∃ digits, Shows n digits := by
  by_cases thousandths : n % 1000000 = 0
  · obtain ⟨m, rfl⟩ : ∃ m, n = m * 10 ^ 6 := ⟨n / 10 ^ 6, by omega⟩
    refine ⟨_, shows_of_multiple rfl (.inl rfl) (by omega) ?_⟩
    have cut : m * 10 ^ 6 / 1000000 = m := Nat.mul_div_cancel m (by decide)
    rw [fraction, if_neg positive, if_pos thousandths, cut]
  by_cases millionths : n % 1000 = 0
  · obtain ⟨m, rfl⟩ : ∃ m, n = m * 10 ^ 3 := ⟨n / 10 ^ 3, by omega⟩
    refine ⟨_, shows_of_multiple rfl (.inr (.inl rfl)) (by omega) ?_⟩
    have cut : m * 10 ^ 3 / 1000 = m := Nat.mul_div_cancel m (by decide)
    rw [fraction, if_neg positive, if_neg thousandths, if_pos millionths, cut]
  · have whole : n * 10 ^ 0 = n := Nat.mul_one n
    refine ⟨_, whole ▸ shows_of_multiple rfl (.inr (.inr rfl)) fits ?_⟩
    rw [whole, fraction, if_neg positive, if_neg thousandths, if_neg millionths]

/-- No, three, six or nine digits are shown, and a point in front of them. -/
theorem length_fraction (fits : n < 10 ^ 9) :
    (fraction n).length = 0 ∨ (fraction n).length = 4 ∨ (fraction n).length = 7 ∨ (fraction n).length = 10 := by
  by_cases whole : n = 0
  · rw [fraction, if_pos whole]
    exact .inl rfl
  · obtain ⟨digits, shown⟩ := exists_shows whole fits
    have groups := shown.groups
    rw [shown.text, List.length_cons, List.length_map]
    omega

/-- **Fractions are in order**, with a mark below the point behind them. -/
theorem fraction_append_lt (h : a < b) (fits : b < 10 ^ 9) (low : mark < '.') :
    fraction a ++ mark :: s < fraction b ++ mark :: t := by
  obtain ⟨digits, shown⟩ := exists_shows (Nat.ne_of_gt (Nat.zero_lt_of_lt h)) fits
  rw [shown.text]
  by_cases whole : a = 0
  · rw [whole, fraction, if_pos rfl]
    exact .rel low
  · obtain ⟨before, shownBefore⟩ := exists_shows whole (Nat.lt_trans h fits)
    have order := Number.places_lex h fits
    rw [← shownBefore.nine, ← shown.nine] at order
    have same : before.length + (9 - before.length) = digits.length + (9 - digits.length) := by
      have := shown.groups
      have := shownBefore.groups
      omega
    rw [shownBefore.text]
    exact .cons (Number.digitChars_cut_lex shown.small same order (lt_trans low (by decide)) s t)

end Timestamp

end ProbeRecorder
