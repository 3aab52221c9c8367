/-!
# `ProbeRecorder.Text.Utf8` — texts as bytes

## Contents
- **Bytes.** `Bytes`, a list of bytes.
- **Coding.** `utf8`, `ofUtf8?`; reading back what was written succeeds (`ofUtf8?_utf8`).
- **Prefixes.** The bytes of a text begin those of another exactly if the text does (`utf8_prefix_iff`).
-/

namespace ProbeRecorder

/-- **Bytes.** -/
abbrev Bytes := List UInt8

namespace Text

/-- The UTF-8 form of a text. -/
def utf8 (s : String) : Bytes := s.toByteArray.data.toList

/-- The text of bytes that are well-formed UTF-8. -/
def ofUtf8? (bytes : Bytes) : Option String := String.fromUTF8? ⟨bytes.toArray⟩

@[simp] theorem ofUtf8?_utf8 (s : String) : ofUtf8? (utf8 s) = some s := by
  simp [ofUtf8?, utf8, String.fromUTF8?, s.isValidUTF8, String.fromUTF8]

@[simp] theorem utf8_inj {s t : String} : utf8 s = utf8 t ↔ s = t := by
  constructor
  · intro h
    exact Option.some.inj (by rw [← ofUtf8?_utf8 s, h, ofUtf8?_utf8])
  · rintro rfl
    rfl

theorem utf8_append (s t : String) : utf8 (s ++ t) = utf8 s ++ utf8 t := by
  simp [utf8]

/-- **No text ends inside a character of another one**: what begins a text byte by byte begins it character by
    character. -/
theorem utf8_prefix_iff {s t : String} : utf8 s <+: utf8 t ↔ s.toList <+: t.toList := by
  constructor
  · rintro ⟨rest, h⟩
    refine List.isPrefix_of_utf8Encode_append_eq_utf8Encode ⟨rest.toArray⟩ ?_
    rw [String.utf8Encode_toList, String.utf8Encode_toList]
    apply ByteArray.ext
    apply Array.toList_inj.mp
    rw [ByteArray.data_append, Array.toList_append]
    exact h
  · rintro ⟨rest, h⟩
    refine ⟨utf8 (String.ofList rest), ?_⟩
    rw [← utf8_append, utf8_inj, ← String.toList_inj, String.toList_append, String.toList_ofList]
    exact h

end Text
end ProbeRecorder
