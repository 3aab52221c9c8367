import ProbeRecorder.Export.Calls
import ProbeRecorder.Proofs.Json.Spacing

/-!
# `ProbeRecorder.Proofs.Export.Formats` — both formats tell the same

The log is exported as one indented array, or with one record on each line. The lines and the items of the array
are the same text, up to white space that is no part of a string.

## Contents
- **Lines.** `renderItems_eq_intercalate`, the items of an array with commas between them.
- **Agreement.** `ExportFormat.Agree`, of any records (`render_agrees`), and with it of events and of calls
  (`exports_agree`).
-/

namespace ProbeRecorder

/-! ## Lines -/

/-- **The items of an array** are joined by commas. -/
theorem Json.renderItems_eq_intercalate (items : List Json) :
    Json.renderItems true items = [','].intercalate (items.map Json.render) := by
  cases items with
  | nil => rfl
  | cons v rest =>
      show v.render ++ Json.renderItems false rest = _
      -- Every later item brings its own comma.
      induction rest generalizing v with
      | nil =>
          rw [Json.renderItems, List.append_nil]
          exact List.intercalate_singleton.symm
      | cons w rest ih =>
          have others := ih w
          rw [List.map_cons] at others
          rw [Json.renderItems, List.map_cons, List.map_cons, List.intercalate_cons_cons, ← others,
            List.append_assoc, List.append_assoc]
          rfl

/-! ## Agreement -/

namespace ExportFormat

/-- **Two texts agree** on the lines of some records: the one has each of them on a line of its own, and the
    other joins them to an array when its white space is removed. -/
structure Agree (lines : List (List Char)) (array separate : List Char) : Prop where
  separate : separate = lines.flatMap fun l => l ++ ['\n']
  /-- The line ends are the only line breaks. -/
  single : ∀ l ∈ lines, '\n' ∉ l
  array : Json.withoutSpace .outside array = '[' :: ([','].intercalate lines ++ [']'])

/-- **The two formats agree** on all records. -/
theorem render_agrees (records : List Json) :
    Agree (records.map Json.render) (ExportFormat.json.render records) (ExportFormat.jsonLines.render records) where
  separate := by
    rw [List.flatMap_map]
    rfl
  single := by
    intro l hl
    obtain ⟨v, -, rfl⟩ := List.mem_map.mp hl
    exact v.newline_not_mem_render
  array := by
    have spaced := Json.withoutSpace_renderPretty (.arr records) 0 []
    rw [List.append_nil, Json.render, Json.renderItems_eq_intercalate] at spaced
    rw [ExportFormat.render, spaced]
    exact List.append_nil _

end ExportFormat

/-- **The two exports agree**, of every list of events and of every list of calls: whatever stands in payloads,
    outcomes and names of threads, there is one line for each record, in order. -/
theorem exports_agree (events : List Event) (calls : List Call) :
    ExportFormat.Agree (events.map fun e => e.exportJson.render) (exportEvents .json events)
        (exportEvents .jsonLines events) ∧
      ExportFormat.Agree (calls.map fun c => c.toJson.render) (exportCalls .json calls)
        (exportCalls .jsonLines calls) := by
  have ofEvents := ExportFormat.render_agrees (events.map Event.exportJson)
  have ofCalls := ExportFormat.render_agrees (calls.map Call.toJson)
  rw [List.map_map] at ofEvents ofCalls
  exact ⟨ofEvents, ofCalls⟩

end ProbeRecorder
