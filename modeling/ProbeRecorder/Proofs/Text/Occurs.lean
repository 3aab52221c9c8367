import Mathlib.Data.List.Infix
import ProbeRecorder.Text.Blank
import ProbeRecorder.Text.Occurs
import ProbeRecorder.Text.Upcase

/-!
# `ProbeRecorder.Proofs.Text.Occurs` — what can stand across a cut

A word that occurs in a text may lie across the place where the text was put together, unless there is a
character at that place which the word does not have. Such a character is a comma between two parts, and all
white space around a text, which upper-casing leaves alone.

## Contents
- **Occurrence.** `occurs` decides `List.IsInfix` (`occurs_iff_infix`).
- **Separators.** `infix_append_cons_iff` for two parts, `infix_intercalate_iff` for many; characters in front
  of a text or behind it (`infix_append_iff_right`, `infix_append_iff_left`).
- **Upper case.** White space is its own upper case (`upcaseChar_blank`).
- **Trimming.** What was cut off is white space (`exists_around_trim`), so words without white space occur in
  a text exactly if they occur in it when it is trimmed (`infix_upcase_trim_iff`).
-/

namespace ProbeRecorder.Text

variable {word s t : List Char} {c : Char}

/-! ## Occurrence -/

theorem occurs_iff_infix : occurs word s = true ↔ word <:+: s := by
  rw [occurs_iff]
  exact exists₂_congr fun _ _ => eq_comm

/-! ## Separators -/

/-- **No word lies across a separator** that it does not have. -/
theorem infix_append_cons_iff (separate : c ∉ word) :
    word <:+: s ++ c :: t ↔ word <:+: s ∨ word <:+: t := by
  constructor
  · intro h
    rcases List.infix_append_iff.mp h with h | h | ⟨l₁, l₂, rfl, hs, ht⟩
    · exact .inl h
    · rcases List.infix_cons_iff.mp h with h | h
      · -- A word at the front of the second part begins with the separator, or is empty.
        rcases List.prefix_cons_iff.mp h with rfl | ⟨rest, rfl, _⟩
        · exact .inl List.nil_infix
        · exact absurd List.mem_cons_self separate
      · exact .inr h
    · rcases List.prefix_cons_iff.mp ht with rfl | ⟨rest, rfl, _⟩
      · rw [List.append_nil]
        exact .inl hs.isInfix
      · exact absurd (List.mem_append_right _ List.mem_cons_self) separate
  · rintro (h | h)
    · exact h.trans (List.prefix_append _ _).isInfix
    · exact h.trans ((List.suffix_cons c t).trans (List.suffix_append _ _)).isInfix

/-- Words in a text that is put together of parts. -/
theorem infix_intercalate_iff (separate : c ∉ word) (present : word ≠ []) (parts : List (List Char)) :
    word <:+: List.intercalate [c] parts ↔ ∃ part ∈ parts, word <:+: part := by
  induction parts with
  | nil => simp [present]
  | cons part rest ih =>
      cases rest with
      | nil => simp [List.intercalate_singleton]
      | cons next rest =>
          rw [List.intercalate_cons_cons, List.append_assoc, List.singleton_append,
            infix_append_cons_iff separate, ih]
          simp

/-- The characters of a text that is put together. -/
theorem mem_intercalate {d : Char} (parts : List (List Char)) (h : d ∈ List.intercalate [c] parts) :
    d = c ∨ ∃ part ∈ parts, d ∈ part := by
  induction parts with
  | nil => exact nomatch h
  | cons part rest ih =>
      cases rest with
      | nil =>
          rw [List.intercalate_singleton] at h
          exact .inr ⟨part, List.mem_cons_self, h⟩
      | cons next rest =>
          rw [List.intercalate_cons_cons, List.append_assoc, List.mem_append, List.singleton_append,
            List.mem_cons] at h
          rcases h with h | rfl | h
          · exact .inr ⟨part, List.mem_cons_self, h⟩
          · exact .inl rfl
          · exact (ih h).imp_right fun ⟨other, hother, hd⟩ => ⟨other, List.mem_cons_of_mem _ hother, hd⟩

/-- Characters in front of a text, none of which a word has. -/
theorem infix_append_iff_right (present : word ≠ []) (separate : ∀ c ∈ s, c ∉ word) :
    word <:+: s ++ t ↔ word <:+: t := by
  induction s with
  | nil => exact Iff.rfl
  | cons c rest ih =>
      have first := infix_append_cons_iff (s := []) (t := rest ++ t) (separate c List.mem_cons_self)
      rw [List.nil_append] at first
      rw [List.cons_append, first, ih fun d hd => separate d (List.mem_cons_of_mem _ hd), List.infix_nil]
      exact or_iff_right present

/-- Characters behind a text, none of which a word has. -/
theorem infix_append_iff_left (present : word ≠ []) (separate : ∀ c ∈ t, c ∉ word) :
    word <:+: s ++ t ↔ word <:+: s := by
  cases t with
  | nil => rw [List.append_nil]
  | cons c rest =>
      have behind := infix_append_iff_right (t := []) present
        fun d hd => separate d (List.mem_cons_of_mem c hd)
      rw [List.append_nil, List.infix_nil] at behind
      rw [infix_append_cons_iff (separate c List.mem_cons_self), behind]
      exact or_iff_left present

/-! ## Upper case -/

/-- The code points of white space. -/
def blankCodes : List Nat :=
  [0x9, 0xa, 0xb, 0xc, 0xd, 0x20, 0x85, 0xa0, 0x1680, 0x2000, 0x2001, 0x2002, 0x2003, 0x2004, 0x2005, 0x2006,
   0x2007, 0x2008, 0x2009, 0x200a, 0x2028, 0x2029, 0x202f, 0x205f, 0x3000]

theorem mem_blankCodes (blank : isBlank c = true) : c.toNat ∈ blankCodes := by
  simp only [isBlank, Bool.or_eq_true, Bool.and_eq_true, decide_eq_true_eq, beq_iff_eq] at blank
  simp only [blankCodes, List.mem_cons, List.not_mem_nil, or_false]
  omega

theorem upcaseChar_blankCodes : ∀ n ∈ blankCodes, upcaseChar (Char.ofNat n) = [Char.ofNat n] := by
  decide +kernel

theorem upcaseChar_blank (blank : isBlank c = true) : upcaseChar c = [c] := by
  have h := upcaseChar_blankCodes c.toNat (mem_blankCodes blank)
  rwa [Char.ofNat_toNat] at h

/-- Characters that are their own upper case. -/
theorem upcase_eq_self (own : ∀ c ∈ s, upcaseChar c = [c]) : upcase s = s := by
  unfold upcase
  rw [List.flatMap_congr own, List.flatMap_singleton']

/-! ## Trimming -/

/-- **What trimming cuts off** is white space. -/
theorem exists_around_trim (s : List Char) : ∃ before after, s = before ++ trim s ++ after ∧
    (∀ c ∈ before, isBlank c = true) ∧ ∀ c ∈ after, isBlank c = true := by
  refine ⟨s.takeWhile isBlank, ((trimStart s).reverse.takeWhile isBlank).reverse, ?_, ?_, ?_⟩
  · have back : trim s ++ ((trimStart s).reverse.takeWhile isBlank).reverse = trimStart s := by
      unfold trim trimEnd
      rw [← List.reverse_append, List.takeWhile_append_dropWhile, List.reverse_reverse]
    rw [List.append_assoc, back]
    exact List.takeWhile_append_dropWhile.symm
  · exact fun c hc => List.all_eq_true.mp List.all_takeWhile c hc
  · exact fun c hc => List.all_eq_true.mp List.all_takeWhile c (List.mem_reverse.mp hc)

/-- **Words without white space** are not touched by trimming. -/
theorem infix_upcase_trim_iff (present : word ≠ []) (solid : ∀ c ∈ word, isBlank c = false)
    (s : List Char) : word <:+: upcase (trim s) ↔ word <:+: upcase s := by
  obtain ⟨before, after, hs, hbefore, hafter⟩ := exists_around_trim s
  have apart : ∀ l : List Char, (∀ c ∈ l, isBlank c = true) → upcase l = l ∧ ∀ c ∈ l, c ∉ word := by
    intro l blank
    refine ⟨upcase_eq_self fun c hc => upcaseChar_blank (blank c hc), fun c hc hword => ?_⟩
    have := blank c hc
    rw [solid c hword] at this
    cases this
  obtain ⟨hup, hword⟩ := apart before hbefore
  obtain ⟨hup', hword'⟩ := apart after hafter
  have hcase : upcase s = before ++ upcase (trim s) ++ after := by
    conv_lhs => rw [hs]
    rw [upcase_append, upcase_append, hup, hup']
  rw [hcase, infix_append_iff_left present hword', infix_append_iff_right present hword]

end ProbeRecorder.Text
