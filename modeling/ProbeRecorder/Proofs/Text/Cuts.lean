import Mathlib.Data.List.Infix
import Mathlib.Data.List.TakeWhile
import ProbeRecorder.Text.Blank

/-!
# `ProbeRecorder.Proofs.Text.Cuts` — cutting a text

A text is cut at the first place where a character stands, or white space is cut off its ends. Trimming gives
a text that neither starts nor ends with white space, and it undoes the writing of such a text with white
space around it.

## Contents
- **At a character.** The parts before and behind it (`takeWhile_ne_append_cons`, `dropWhile_ne_append_cons`).
- **One end.** `trimStart_append`, `trimStart_eq_self`; the other end is the same, read backwards
  (`trimEnd_eq`).
- **Both ends.** The result is trimmed (`isTrimmed_trim`); white space around a trimmed text is what is cut
  off (`trim_around`).
-/

namespace ProbeRecorder.Text

variable {s before after : List Char} {c : Char}

/-! ## At a character -/

theorem ne_of_free (free : c ∉ s) : ∀ d ∈ s, (d != c) = true := by
  intro d hd
  rw [bne_iff_ne]
  rintro rfl
  exact free hd

/-- A text without the character is not cut. -/
theorem takeWhile_ne_eq_self (free : c ∉ s) : s.takeWhile (· != c) = s :=
  List.takeWhile_eq_self_iff.mpr (ne_of_free free)

/-- **What stands before the first place** of a character. -/
theorem takeWhile_ne_append_cons (free : c ∉ s) (t : List Char) : (s ++ c :: t).takeWhile (· != c) = s := by
  rw [List.takeWhile_append_of_pos (ne_of_free free), List.takeWhile_cons_of_neg (by simp), List.append_nil]

/-- **What begins at the first place** of a character. -/
theorem dropWhile_ne_append_cons (free : c ∉ s) (t : List Char) :
    (s ++ c :: t).dropWhile (· != c) = c :: t := by
  rw [List.dropWhile_append_of_pos (ne_of_free free), List.dropWhile_cons_of_neg (by simp)]

/-! ## One end -/

/-- White space in front is cut off. -/
theorem trimStart_append (blank : ∀ c ∈ before, isBlank c = true) (s : List Char) :
    trimStart (before ++ s) = trimStart s :=
  List.dropWhile_append_of_pos blank

theorem trimStart_eq_self (solid : ∀ c, s.head? = some c → isBlank c = false) : trimStart s = s := by
  cases s with
  | nil => rfl
  | cons c rest => exact List.dropWhile_cons_of_neg (by simp [solid c rfl])

theorem head?_trimStart (s : List Char) : ∀ c, (trimStart s).head? = some c → isBlank c = false := by
  intro c first
  have cut := List.head?_dropWhile_not isBlank s
  rw [trimStart] at first
  rwa [first] at cut

/-- The end of a text is the start of the reversed text. -/
theorem trimEnd_eq (s : List Char) : trimEnd s = (trimStart s.reverse).reverse := rfl

theorem trimEnd_prefix (s : List Char) : trimEnd s <+: s := by
  rw [trimEnd_eq, ← List.reverse_suffix, List.reverse_reverse]
  exact List.dropWhile_suffix _

/-! ## Both ends -/

/-- **Trimming** leaves no white space at either end. -/
theorem isTrimmed_trim (s : List Char) : IsTrimmed (trim s) := by
  constructor
  · intro c first
    obtain ⟨cut, split⟩ := trimEnd_prefix (trimStart s)
    apply head?_trimStart s
    rw [← split, List.head?_append]
    show ((trim s).head?.or cut.head?) = some c
    rw [first, Option.some_or]
  · intro c last
    rw [trim, trimEnd_eq, List.getLast?_reverse] at last
    exact head?_trimStart _ c last

/-- **White space around a trimmed text** is cut off, and nothing else. -/
theorem trim_around (blankBefore : ∀ c ∈ before, isBlank c = true) (trimmed : IsTrimmed s)
    (blankAfter : ∀ c ∈ after, isBlank c = true) : trim (before ++ s ++ after) = s := by
  rw [trim, List.append_assoc, trimStart_append blankBefore]
  cases s with
  | nil =>
      -- Nothing but white space: the start takes all of it.
      rw [List.nil_append, ← List.append_nil after, trimStart_append blankAfter]
      rfl
  | cons c rest =>
      have start : trimStart (c :: rest ++ after) = c :: rest ++ after :=
        trimStart_eq_self fun d first => trimmed.1 d first
      have blankReversed : ∀ d ∈ after.reverse, isBlank d = true :=
        fun d hd => blankAfter d (List.mem_reverse.mp hd)
      have last : ∀ d, (c :: rest).reverse.head? = some d → isBlank d = false := by
        intro d first
        rw [List.head?_reverse] at first
        exact trimmed.2 d first
      rw [start, trimEnd_eq, List.reverse_append, trimStart_append blankReversed, trimStart_eq_self last,
        List.reverse_reverse]

/-- A trimmed text stays as it is. -/
theorem trim_eq_self (trimmed : IsTrimmed s) : trim s = s := by
  have none : ∀ c ∈ ([] : List Char), isBlank c = true := fun _ h => nomatch h
  have inside := trim_around none trimmed none
  rwa [List.nil_append, List.append_nil] at inside

end ProbeRecorder.Text
