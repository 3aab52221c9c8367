import ProbeRecorder.Probe
import ProbeRecorder.Proofs.Text.Cuts
import ProbeRecorder.Proofs.Text.Occurs

/-!
# `ProbeRecorder.Proofs.Attributes` — reading back what was written as attributes

Attributes are written as segments with commas between them. A segment is a pair, with white space around its
key and around its value, or a text without an equals sign, which says nothing. Every text is written so, and
the attribute of a probe under a key is the value of the first pair with that key.

## Contents
- **Segments.** `Blanks`, `Pair`, `Segment` and how they are written (`Segment.joined`).
- **Reading.** Cutting a written segment gives the sides of its pair (`splitPair_written`), and these the pair
  (`Pair.trim_left`, `Pair.trim_right`); cutting the text gives the segments (`splitOn_joined`).
- **Every text** is written so (`exists_joined`).
- **Attributes.** `Probe.attributeValue_joined`.
-/

namespace ProbeRecorder

namespace Attribute

/-! ## Segments -/

/-- White space, as much as one likes. -/
def Blanks := { s : List Char // ∀ c ∈ s, Text.isBlank c = true }

/-- **A pair as it is written**: key and value, and the white space around them. -/
structure Pair where
  beforeKey : Blanks
  key : List Char
  afterKey : Blanks
  beforeValue : Blanks
  value : List Char
  afterValue : Blanks
  keyTrimmed : Text.IsTrimmed key
  keyFree : ',' ∉ key ∧ '=' ∉ key
  valueTrimmed : Text.IsTrimmed value
  /-- A value may have equals signs in it. -/
  valueFree : ',' ∉ value

/-- **A segment**: a pair, or a text that is none. -/
inductive Segment where
  | text (s : List Char) (free : ',' ∉ s ∧ '=' ∉ s)
  | pair (p : Pair)

namespace Pair

/-- The side of the key. -/
def left (p : Pair) : List Char := p.beforeKey.val ++ p.key ++ p.afterKey.val

/-- The side of the value. -/
def right (p : Pair) : List Char := p.beforeValue.val ++ p.value ++ p.afterValue.val

theorem trim_left (p : Pair) : Text.trim p.left = p.key :=
  Text.trim_around p.beforeKey.property p.keyTrimmed p.afterKey.property

theorem trim_right (p : Pair) : Text.trim p.right = p.value :=
  Text.trim_around p.beforeValue.property p.valueTrimmed p.afterValue.property

end Pair

namespace Segment

/-- What stands between the commas. -/
def written : Segment → List Char
  | text s _ => s
  | pair p => p.left ++ '=' :: p.right

/-- The pair of a segment, if it is one. -/
def pair? : Segment → Option Pair
  | text _ _ => none
  | pair p => some p

/-- **The text of some segments.** -/
def joined (segments : List Segment) : List Char := List.intercalate [','] (segments.map written)

end Segment

/-! ## Reading -/

theorem Blanks.not_mem (b : Blanks) {c : Char} (solid : Text.isBlank c = false) : c ∉ b.val := by
  intro h
  have blank := b.property c h
  rw [solid] at blank
  cases blank

/-- A character that is no white space stands on a side only if it stands in its middle. -/
theorem Blanks.not_mem_around (before after : Blanks) {c : Char} {s : List Char}
    (solid : Text.isBlank c = false) (free : c ∉ s) : c ∉ before.val ++ s ++ after.val := by
  rw [List.mem_append, List.mem_append, not_or, not_or]
  exact ⟨⟨before.not_mem solid, free⟩, after.not_mem solid⟩

theorem Segment.not_mem_written (s : Segment) : ',' ∉ s.written := by
  cases s with
  | text s free => exact free.1
  | pair p =>
      have left : ',' ∉ p.left := p.beforeKey.not_mem_around p.afterKey (by decide) p.keyFree.1
      have right : ',' ∉ p.right := p.beforeValue.not_mem_around p.afterValue (by decide) p.valueFree
      rw [Segment.written, List.mem_append, List.mem_cons, not_or, not_or]
      exact ⟨left, by decide, right⟩

/-- **Cutting at the first equals sign** gives the sides of a pair, and nothing for other segments. -/
theorem splitPair_written (s : Segment) :
    Probe.splitPair s.written = s.pair?.map fun p => (p.left, p.right) := by
  cases s with
  | text s free =>
      have none : s.contains '=' = false := by simpa using free.2
      rw [Segment.written, Probe.splitPair, none]
      rfl
  | pair p =>
      have free : '=' ∉ p.left := p.beforeKey.not_mem_around p.afterKey (by decide) p.keyFree.2
      have some : (p.left ++ '=' :: p.right).contains '=' = true := by simp
      rw [Segment.written, Probe.splitPair, if_pos some, Text.takeWhile_ne_append_cons free,
        Text.dropWhile_ne_append_cons free]
      rfl

/-- **Cutting at the commas** gives the segments back. -/
theorem splitOn_joined {segments : List Segment} (present : segments ≠ []) :
    (Segment.joined segments).splitOn ',' = segments.map Segment.written := by
  apply List.splitOn_intercalate
  · intro l hl
    obtain ⟨s, _, rfl⟩ := List.mem_map.mp hl
    exact s.not_mem_written
  · simpa using present

/-- The first pair with a key, found among the sides of the pairs. -/
theorem findAttribute_written (key : List Char) (segments : List Segment) :
    Probe.findAttribute key (segments.map Segment.written) =
      ((segments.filterMap Segment.pair?).find? fun p => p.key = key).map (·.value) := by
  have sides : (segments.map Segment.written).filterMap Probe.splitPair =
      (segments.filterMap Segment.pair?).map fun p => (p.left, p.right) := by
    rw [List.filterMap_map, List.map_filterMap]
    exact List.filterMap_congr fun s _ => splitPair_written s
  have test : (fun sides : List Char × List Char => Text.trim sides.1 == key) ∘
      (fun p : Pair => (p.left, p.right)) = fun p => decide (p.key = key) := by
    funext p
    show (Text.trim p.left == key) = decide (p.key = key)
    rw [p.trim_left, beq_eq_decide]
  have value : (fun sides : List Char × List Char => Text.trim sides.2) ∘
      (fun p : Pair => (p.left, p.right)) = Pair.value := funext Pair.trim_right
  rw [Probe.findAttribute, sides, List.find?_map, Option.map_map, test, value]

/-! ## Every text -/

/-- A text has its trimmed form in white space. -/
theorem exists_blanks_around (s : List Char) :
    ∃ before after : Blanks, s = before.val ++ Text.trim s ++ after.val := by
  obtain ⟨before, after, split, blankBefore, blankAfter⟩ := Text.exists_around_trim s
  exact ⟨⟨before, blankBefore⟩, ⟨after, blankAfter⟩, split⟩

/-- A character that a text has not, its trimmed form has not. -/
theorem not_mem_trim {s : List Char} {c : Char} (free : c ∉ s) : c ∉ Text.trim s := by
  obtain ⟨before, after, split⟩ := exists_blanks_around s
  intro h
  apply free
  rw [split]
  exact List.mem_append_left _ (List.mem_append_right _ h)

/-- **Every text without commas** is a written segment. -/
theorem exists_written {s : List Char} (free : ',' ∉ s) : ∃ segment : Segment, segment.written = s := by
  by_cases equals : '=' ∈ s
  · obtain ⟨left, right, rfl, first⟩ := List.eq_append_cons_of_mem equals
    rw [List.mem_append, List.mem_cons, not_or, not_or] at free
    obtain ⟨beforeKey, afterKey, splitLeft⟩ := exists_blanks_around left
    obtain ⟨beforeValue, afterValue, splitRight⟩ := exists_blanks_around right
    refine ⟨.pair {
      beforeKey := beforeKey
      key := Text.trim left
      afterKey := afterKey
      beforeValue := beforeValue
      value := Text.trim right
      afterValue := afterValue
      keyTrimmed := Text.isTrimmed_trim left
      keyFree := ⟨not_mem_trim free.1, not_mem_trim first⟩
      valueTrimmed := Text.isTrimmed_trim right
      valueFree := not_mem_trim free.2.2 }, ?_⟩
    show beforeKey.val ++ Text.trim left ++ afterKey.val ++
      '=' :: (beforeValue.val ++ Text.trim right ++ afterValue.val) = _
    rw [← splitLeft, ← splitRight]
  · exact ⟨.text s ⟨free, equals⟩, rfl⟩

/-- **Every text** is written in segments. -/
theorem exists_joined (s : List Char) : ∃ segments, segments ≠ [] ∧ Segment.joined segments = s := by
  -- Induction on the length: what stands behind the first comma is shorter.
  generalize size : s.length = n
  induction n using Nat.strongRecOn generalizing s with
  | ind n ih =>
    by_cases comma : ',' ∈ s
    · obtain ⟨first, rest, rfl, free⟩ := List.eq_append_cons_of_mem comma
      have shorter : rest.length < n := by
        rw [List.length_append, List.length_cons] at size
        omega
      obtain ⟨segment, rfl⟩ := exists_written free
      obtain ⟨segments, present, rfl⟩ := ih _ shorter rest rfl
      obtain ⟨next, others, rfl⟩ := List.exists_cons_of_ne_nil present
      refine ⟨segment :: next :: others, List.cons_ne_nil _ _, ?_⟩
      rw [Segment.joined, List.map_cons, List.map_cons, List.intercalate_cons_cons, List.append_assoc]
      rfl
    · obtain ⟨segment, rfl⟩ := exists_written comma
      exact ⟨[segment], List.cons_ne_nil _ _, List.intercalate_singleton⟩

end Attribute

/-! ## Attributes -/

namespace Probe

open Attribute

/-- **Attributes read back.** Whatever segments the attributes of a probe are joined from, the value under a
    key is that of the first pair with this key, and there is none if no pair has it. All attributes are
    joined from segments. -/
theorem attributeValue_joined :
    (∀ (p : Probe) (segments : List Segment) (key : List Char),
      ({ p with attributes := String.ofList (Segment.joined segments) } : Probe).attributeValue key =
        ((segments.filterMap Segment.pair?).find? fun q => q.key = key).map (·.value)) ∧
      ∀ attributes : String, ∃ segments, String.ofList (Segment.joined segments) = attributes := by
  constructor
  · intro p segments key
    rw [attributeValue, String.toList_ofList]
    cases segments with
    | nil => rfl
    | cons s rest => rw [splitOn_joined (List.cons_ne_nil s rest), findAttribute_written]
  · intro attributes
    obtain ⟨segments, _, whole⟩ := exists_joined attributes.toList
    exact ⟨segments, by rw [whole, String.ofList_toList]⟩

end Probe
end ProbeRecorder
