import ProbeRecorder.Export.Format
import ProbeRecorder.Payload
import ProbeRecorder.Proofs.Json.RoundTrip

/-!
# `ProbeRecorder.Proofs.Export.Payloads` — encoded values as they are shown

What the JSON codec writes into a payload is shown as the value it was made from, whatever stands in its texts
and keys, and so are the diagnostics. Only a value with too many brackets open at a time comes out as text.

## Contents
- **Payloads.** `renderPayload_ofJson`, and `renderPayload_diagnostic` for failures and errors.
- **Structure.** `Json.Shown` and `encoded_shown`, for every value without fractions.
- **Depth.** `Json.bracketed`, the first of which that is not shown as structure has 128 brackets
  (`deep_structure_shown_as_text`).
-/

namespace ProbeRecorder

/-! ## Payloads -/

/-- **A value as a payload** is shown as the value, or as its text where it is nested too deep to be read. -/
theorem renderPayload_ofJson {v : Json} (integral : v.Integral) :
    renderPayload (Payload.ofJson v) =
      if v.nesting < Json.Tree.depthLimit then v else .str v.compact := by
  have text : v.compact.toList = v.render := String.toList_ofList
  unfold renderPayload Payload.ofJson
  rw [Text.ofUtf8?_utf8]
  show (Json.parse? v.compact.toList).getD _ = _
  rw [text, Json.parse?_render integral]
  split <;> rfl

/-- The keys of a diagnostic are sorted. -/
theorem integral_diagnostic (error message : String) :
    (Json.obj [("error", .str error), ("message", .str message)]).Integral := by
  have sorted : "error" < "message" := by decide
  refine .obj (List.pairwise_pair.mpr sorted) fun f hf => ?_
  simp only [List.mem_cons, List.not_mem_nil, or_false] at hf
  rcases hf with rfl | rfl
  · exact .str error
  · exact .str message

/-- **A diagnostic** is shown with exactly its two keys, and with its texts unchanged. -/
theorem renderPayload_diagnostic (error message : String) :
    renderPayload (Payload.diagnostic error message) =
      .obj [("error", .str error), ("message", .str message)] := by
  have shallow : (Json.obj [("error", .str error), ("message", .str message)]).nesting = 1 := rfl
  have rendered := renderPayload_ofJson (integral_diagnostic error message)
  rw [shallow, if_pos (by decide)] at rendered
  exact rendered

/-! ## Structure -/

/-- **A value is shown as structure** by its payload, exactly if fewer than 128 brackets are open at a time. -/
structure Json.Shown (v : Json) (payload : Bytes) : Prop where
  exact : renderPayload payload = v ↔ v.nesting < Json.Tree.depthLimit
  /-- Neither its text nor its bytes are shown in place of the value. -/
  structured : v.nesting < Json.Tree.depthLimit → ∀ w, w = .str v.compact ∨ w = .ofBytes payload →
    renderPayload payload = w → v = w
  tooDeep : Json.Tree.depthLimit ≤ v.nesting → renderPayload payload = .str v.compact

/-- **What the codec encodes is shown as structure**, and so is what is written in place of a value. -/
theorem encoded_shown {v : Json} (integral : v.Integral) (typeName message : String) :
    (∃ payload, Codec.json.encode v = .ok payload ∧ v.Shown payload) ∧
      renderPayload (Payload.failure message) =
        .obj [("error", .str "failed to serialize object"), ("message", .str message)] ∧
      renderPayload (Payload.asyncError typeName message) =
        .obj [("error", .str typeName), ("message", .str message)] := by
  have rendered := renderPayload_ofJson integral
  refine ⟨⟨Payload.ofJson v, rfl, ?_, ?_, ?_⟩, renderPayload_diagnostic _ message,
    renderPayload_diagnostic typeName message⟩
  · constructor
    · intro shown
      -- A text has no brackets, so a value that is shown as its text is not nested too deep.
      by_cases deep : v.nesting < Json.Tree.depthLimit
      · exact deep
      · rw [rendered, if_neg deep] at shown
        rw [← shown]
        exact (show 0 < Json.Tree.depthLimit by decide)
    · intro shallow
      rw [rendered, if_pos shallow]
  · intro shallow w _ shown
    rw [rendered, if_pos shallow] at shown
    exact shown
  · intro deep
    rw [rendered, if_neg (Nat.not_lt.mpr deep)]

/-- Controls, a backslash, an empty key and the greatest integers come through. -/
theorem encoded_shown_escapes :
    let v : Json := .obj [("", .arr [.int (-9223372036854775808), .int 18446744073709551615, .null]),
      ("\"\\\n", .obj []), ("k", .str "\x00\x1f\x7f")]
    v.Integral ∧ (∃ payload, Codec.json.encode v = .ok payload ∧ renderPayload payload = v) := by
  intro v
  have integral : v.Integral := by
    refine .obj (by decide) ?_
    simp only [List.mem_cons, List.not_mem_nil, or_false, forall_eq_or_imp, forall_eq]
    refine ⟨.arr ?_, .obj .nil ?_, .str _⟩
    · simp only [List.mem_cons, List.not_mem_nil, or_false, forall_eq_or_imp, forall_eq]
      exact ⟨.int (by decide), .int (by decide), .null⟩
    · exact fun _ h => nomatch h
  obtain ⟨⟨payload, encoded, shown⟩, -⟩ := encoded_shown integral "String" "\n"
  exact ⟨integral, payload, encoded, shown.exact.mpr (by decide)⟩

/-! ## Depth -/

/-- An empty array inside so many others. -/
def Json.bracketed : Nat → Json
  | 0 => .arr []
  | n + 1 => .arr [bracketed n]

theorem Json.nesting_bracketed (n : Nat) : (Json.bracketed n).nesting = n + 1 := by
  induction n with
  | zero => rfl
  | succ n ih =>
      show max (Json.bracketed n).nesting 0 + 1 = _
      rw [ih, Nat.max_zero]

theorem Json.integral_bracketed (n : Nat) : (Json.bracketed n).Integral := by
  induction n with
  | zero => exact .arr fun _ h => nomatch h
  | succ n ih => exact .arr fun v hv => (List.mem_singleton.mp hv) ▸ ih

/-- **Structure is shown as text**: 128 brackets, one inside the other, are encoded and not read back, while 127
    are. -/
theorem deep_structure_shown_as_text :
    (Json.bracketed 127).Integral ∧ Codec.json.encode (.bracketed 127) = .ok (Payload.ofJson (.bracketed 127)) ∧
      renderPayload (Payload.ofJson (.bracketed 127)) = .str (Json.bracketed 127).compact ∧
      renderPayload (Payload.ofJson (.bracketed 127)) ≠ .bracketed 127 ∧
      renderPayload (Payload.ofJson (.bracketed 126)) = .bracketed 126 := by
  have deep := renderPayload_ofJson (Json.integral_bracketed 127)
  have shallow := renderPayload_ofJson (Json.integral_bracketed 126)
  rw [Json.nesting_bracketed] at deep shallow
  rw [if_neg (by decide)] at deep
  rw [if_pos (by decide)] at shallow
  refine ⟨Json.integral_bracketed 127, rfl, deep, ?_, shallow⟩
  rw [deep]
  exact fun h => nomatch h

end ProbeRecorder
