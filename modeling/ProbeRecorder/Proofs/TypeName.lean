import Mathlib.Algebra.Group.Nat.Even
import Mathlib.Data.List.Chain
import ProbeRecorder.TypeName

/-!
# `ProbeRecorder.Proofs.TypeName` — the dotted form of names

The dotted form has no pair of colons left, so a second rewriting changes nothing. Rewriting does not commute
with appending: a run of colons is paired from its left end, and what follows can take its last colon away. It
does commute where the first part ends with an even number of colons.

## Contents
- **Equations.** `dotted_cons`, and which names have an empty dotted form (`dotted_eq_nil_iff`).
- **No pairs.** `Unpaired`; `unpaired_dotted` and `dotted_dotted`.
- **Appending.** `trailingColons` and `dotted_append`.
-/

namespace ProbeRecorder.TypeName

variable {name rest : List Char} {c : Char}

/-! ## Equations -/

@[simp] theorem dotted_pair (rest : List Char) : dotted (':' :: ':' :: rest) = '.' :: dotted rest := by
  rw [dotted]

/-- A character that does not begin a pair stays. -/
theorem dotted_cons (single : ¬ (c = ':' ∧ rest.head? = some ':')) :
    dotted (c :: rest) = c :: dotted rest := by
  rw [dotted]
  rintro r rfl rfl
  exact single ⟨rfl, rfl⟩

/-- **Every name is empty, or begins with a pair of colons, or with a character that stays.** -/
theorem dotted_induction {motive : List Char → Prop} (nil : motive [])
    (pair : ∀ rest, motive rest → motive (':' :: ':' :: rest))
    (single : ∀ c rest, ¬ (c = ':' ∧ rest.head? = some ':') → motive rest → motive (c :: rest))
    (name : List Char) : motive name := by
  induction name using dotted.induct with
  | case1 rest ih => exact pair rest ih
  | case2 c rest apart ih =>
      refine single c rest ?_ ih
      rintro ⟨rfl, next⟩
      obtain ⟨tail, rfl⟩ := List.head?_eq_some_iff.mp next
      exact apart tail rfl rfl
  | case3 => exact nil

theorem dotted_eq_nil_iff : dotted name = [] ↔ name = [] := by
  induction name using dotted_induction with
  | nil => exact Iff.rfl
  | pair rest _ => simp
  | single c rest apart _ => simp [dotted_cons apart]

/-! ## No pairs -/

/-- **Unpaired** colons: none follows another one. -/
def Unpaired (name : List Char) : Prop := name.IsChain fun a b => ¬ (a = ':' ∧ b = ':')

theorem unpaired_cons :
    Unpaired (c :: rest) ↔ ¬ (c = ':' ∧ rest.head? = some ':') ∧ Unpaired rest := by
  unfold Unpaired
  rw [List.isChain_cons]
  refine and_congr_left fun _ => ?_
  constructor
  · rintro h ⟨rfl, next⟩
    exact h ':' next ⟨rfl, rfl⟩
  · rintro h b next ⟨rfl, rfl⟩
    exact h ⟨rfl, next⟩

/-- A colon at the front of the dotted form was there before. -/
theorem head?_dotted (h : (dotted name).head? = some ':') : name.head? = some ':' := by
  induction name using dotted_induction with
  | nil => exact h
  | pair rest _ => rfl
  | single c rest apart _ =>
      rw [dotted_cons apart] at h
      exact h

/-- **The dotted form has no pair of colons.** -/
theorem unpaired_dotted (name : List Char) : Unpaired (dotted name) := by
  induction name using dotted_induction with
  | nil => exact List.isChain_nil
  | pair rest ih =>
      rw [dotted_pair, unpaired_cons]
      exact ⟨fun h => absurd h.1 (by decide), ih⟩
  | single c rest apart ih =>
      rw [dotted_cons apart, unpaired_cons]
      exact ⟨fun h => apart ⟨h.1, head?_dotted h.2⟩, ih⟩

theorem dotted_of_unpaired (h : Unpaired name) : dotted name = name := by
  induction name with
  | nil => rfl
  | cons c rest ih =>
      obtain ⟨apart, later⟩ := unpaired_cons.mp h
      rw [dotted_cons apart, ih later]

/-- **Rewriting twice** is rewriting once. -/
@[simp] theorem dotted_dotted (name : List Char) : dotted (dotted name) = dotted name :=
  dotted_of_unpaired (unpaired_dotted name)

/-! ## Appending -/

/-- **The colons at the end of a name.** -/
def trailingColons (name : List Char) : Nat := (name.reverse.takeWhile (· = ':')).length

theorem trailingColons_cons (c : Char) (rest : List Char) :
    trailingColons (c :: rest) =
      if trailingColons rest = rest.length then rest.length + if c = ':' then 1 else 0
      else trailingColons rest := by
  unfold trailingColons
  rw [List.reverse_cons, List.takeWhile_append, List.length_reverse]
  split
  · rw [List.length_append, List.length_reverse]
    by_cases colon : c = ':' <;> simp [colon]
  · rfl

theorem trailingColons_le (name : List Char) : trailingColons name ≤ name.length := by
  have sublist : (name.reverse.takeWhile (· = ':')).Sublist name.reverse := List.takeWhile_sublist _
  rw [← List.length_reverse]
  exact sublist.length_le

/-- A name that consists of its trailing colons begins with one. -/
theorem head?_of_trailingColons (all : trailingColons name = name.length) (inhabited : name ≠ []) :
    name.head? = some ':' := by
  cases name with
  | nil => exact absurd rfl inhabited
  | cons c rest =>
      rw [trailingColons_cons] at all
      by_cases colon : c = ':'
      · rw [colon]
        rfl
      · rw [if_neg colon, List.length_cons] at all
        have bound := trailingColons_le rest
        split at all <;> omega

/-- A pair of colons in front keeps the parity of the trailing colons. -/
theorem even_trailingColons_pair (rest : List Char) :
    Even (trailingColons (':' :: ':' :: rest)) ↔ Even (trailingColons rest) := by
  rw [trailingColons_cons, trailingColons_cons]
  by_cases all : trailingColons rest = rest.length
  · simp [all, Nat.even_add_one]
  · have bound := trailingColons_le rest
    rw [if_neg all, if_neg (by rw [List.length_cons]; omega)]

/-- A character in front that begins no pair, and is not a lonely colon, keeps the trailing colons. -/
theorem trailingColons_single (apart : ¬ (c = ':' ∧ rest.head? = some ':'))
    (other : ¬ (c = ':' ∧ rest = [])) : trailingColons (c :: rest) = trailingColons rest := by
  rw [trailingColons_cons]
  split
  · rename_i all
    rw [if_neg, all, Nat.add_zero]
    intro colon
    exact apart ⟨colon, head?_of_trailingColons all fun h => other ⟨colon, h⟩⟩
  · rfl

/-- **Appending** commutes with rewriting after an even number of colons. -/
theorem dotted_append (even : Even (trailingColons name)) (suffix : List Char) :
    dotted (name ++ suffix) = dotted name ++ dotted suffix := by
  induction name using dotted_induction with
  | nil => rfl
  | pair rest ih =>
      rw [even_trailingColons_pair] at even
      rw [List.cons_append, List.cons_append, dotted_pair, dotted_pair, ih even, List.cons_append]
  | single c rest apart ih =>
      -- A lonely colon at the end would be an odd run.
      have other : ¬ (c = ':' ∧ rest = []) := by
        rintro ⟨rfl, rfl⟩
        exact Nat.not_even_one even
      rw [trailingColons_single apart other] at even
      have apart' : ¬ (c = ':' ∧ (rest ++ suffix).head? = some ':') := by
        rintro ⟨colon, next⟩
        cases rest with
        | nil => exact other ⟨colon, rfl⟩
        | cons d r => exact apart ⟨colon, next⟩
      rw [List.cons_append, dotted_cons apart', dotted_cons apart, ih even, List.cons_append]

end ProbeRecorder.TypeName
