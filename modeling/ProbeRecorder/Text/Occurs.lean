/-!
# `ProbeRecorder.Text.Occurs` — one text inside another

## Contents
- **Occurrence.** `occurs`, decided by trying every suffix, with `occurs_iff`.
-/

namespace ProbeRecorder.Text

/-- The pattern stands somewhere in the text. -/
def occurs (pattern : List Char) : List Char → Bool
  | [] => pattern.isEmpty
  | c :: rest => pattern.isPrefixOf (c :: rest) || occurs pattern rest

/-- **Occurrence** means that the text is the pattern with something before and after it. -/
theorem occurs_iff (pattern s : List Char) :
    occurs pattern s = true ↔ ∃ before after, s = before ++ pattern ++ after := by
  induction s with
  | nil =>
    simp only [occurs, List.isEmpty_iff]
    constructor
    · rintro rfl; exact ⟨[], [], rfl⟩
    · rintro ⟨b, a, h⟩
      have h' := congrArg List.length h
      simp at h'
      exact List.eq_nil_of_length_eq_zero (by omega)
  | cons c rest ih =>
    simp only [occurs, Bool.or_eq_true, List.isPrefixOf_iff_prefix, ih]
    constructor
    · rintro (⟨a, h⟩ | ⟨b, a, h⟩)
      · exact ⟨[], a, by simp [h]⟩
      · exact ⟨c :: b, a, by simp [h]⟩
    · rintro ⟨b, a, h⟩
      cases b with
      | nil => exact .inl ⟨a, by simpa using h.symm⟩
      | cons d b =>
        simp only [List.cons_append, List.cons.injEq] at h
        exact .inr ⟨b, a, h.2⟩

end ProbeRecorder.Text
