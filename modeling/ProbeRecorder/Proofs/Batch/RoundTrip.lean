import ProbeRecorder.Batch.Codec
import ProbeRecorder.Proofs.Json.Decoding

/-!
# `ProbeRecorder.Proofs.Batch.RoundTrip` — batches read back

## Contents
- **Readability.** The records of entries stay within what is read (`Entry.readable_toJson`).
- **Entries.** `Event.decoder_fields`, `Entry.decoder_tree`.
- **Batches.** `Batch.ofText?_text`, for every list of entries.
-/

namespace ProbeRecorder

open Json

/-! ## Readability -/

theorem readableFields_append (depth : Nat) (fields more : List (String × Json)) :
    readableFields depth (fields ++ more) = (readableFields depth fields && readableFields depth more) := by
  induction fields with
  | nil => rfl
  | cons f rest ih =>
      obtain ⟨k, v⟩ := f
      rw [List.cons_append, readableFields, readableFields, ih, Bool.and_assoc]

/-- Printed integers are readable anywhere. -/
theorem readableItems_ints {α : Type} (number : α → Int) (keeps : ∀ a, keepsInt (number a) = true)
    (depth : Nat) (as : List α) : readableItems depth (as.map fun a => .int (number a)) = true := by
  induction as with
  | nil => rfl
  | cons a rest ih =>
      rw [List.map_cons, readableItems, ih, readable, keeps]
      rfl

namespace Event

/-- The record of an event nests one list of bytes. -/
theorem readable_jsonFields (e : Event) {depth : Nat} (h : 1 < depth) :
    readableFields depth e.jsonFields = true := by
  have hprobe := keepsInt_int32 e.probe
  have hvalue := keepsInt_int64 e.value
  have htime := keepsInt_uint64 e.timestamp
  unfold jsonFields
  rw [readableFields_append, readableFields_append, readableFields_append]
  cases e.payload with
  | none => cases e.isAnchor <;> simp [readableFields, readable, hprobe, hvalue, htime]
  | some bytes =>
      have hbytes := readableItems_ints (fun b : UInt8 => (b.toNat : Int)) keepsInt_uint8 (depth - 1) bytes
      cases e.isAnchor <;>
        simp [readableFields, readable, hprobe, hvalue, htime, Json.ofBytes, hbytes, h]

end Event

theorem Entry.readable_toJson (e : Entry) {depth : Nat} (h : 2 < depth) : e.toJson.readable depth = true := by
  have hd : 1 < depth - 1 := by omega
  have hd' : 1 < depth := by omega
  cases e with
  | event e =>
      rw [Entry.toJson, readable, readableFields, e.readable_jsonFields hd, decide_eq_true hd']
      rfl
  | weave c probes =>
      have hprobes := readableItems_ints Int32.toInt keepsInt_int32 (depth - 1 - 1) probes
      simp [Entry.toJson, Entry.idsJson, readable, readableFields, keepsInt_int32, hprobes, hd, hd']

/-! ## Entries -/

namespace Event

/-- The trees of the fields of an event, in the record's order. -/
def slots (e : Event) : List (Option Tree) :=
  [some (tree (.int e.probe.toInt)), some (tree (.int e.value.toInt)),
   e.payload.map fun bytes => tree (Json.ofBytes bytes), some (tree (.int e.timestamp.toNat)),
   some (tree (.str e.thread)), if e.isAnchor then some (tree (.bool true)) else none]

theorem place_jsonFields (e : Event) :
    (fieldTrees e.jsonFields).foldlM (Fields.place fieldNames) (fieldNames.map fun _ => none) =
      some e.slots := by
  obtain ⟨probe, value, payload, timestamp, thread, isAnchor⟩ := e
  cases payload <;> cases isAnchor <;>
    simp only [jsonFields, fieldTrees, List.cons_append, List.nil_append, if_true, Bool.false_eq_true,
      if_false]
  all_goals rw [Fields.foldlM_place_cons 0 _ _ (by decide) (by decide) rfl,
    Fields.foldlM_place_cons 1 _ _ (by decide) (by decide) rfl]
  -- A payload comes next if there is one, and the anchor flag last if it is set.
  case none.false =>
    rw [Fields.foldlM_place_cons 3 _ _ (by decide) (by decide) rfl,
      Fields.foldlM_place_cons 4 _ _ (by decide) (by decide) rfl]
    rfl
  case none.true =>
    rw [Fields.foldlM_place_cons 3 _ _ (by decide) (by decide) rfl,
      Fields.foldlM_place_cons 4 _ _ (by decide) (by decide) rfl,
      Fields.foldlM_place_cons 5 _ _ (by decide) (by decide) rfl]
    rfl
  case some.false =>
    rw [Fields.foldlM_place_cons 2 _ _ (by decide) (by decide) rfl,
      Fields.foldlM_place_cons 3 _ _ (by decide) (by decide) rfl,
      Fields.foldlM_place_cons 4 _ _ (by decide) (by decide) rfl]
    rfl
  case some.true =>
    rw [Fields.foldlM_place_cons 2 _ _ (by decide) (by decide) rfl,
      Fields.foldlM_place_cons 3 _ _ (by decide) (by decide) rfl,
      Fields.foldlM_place_cons 4 _ _ (by decide) (by decide) rfl,
      Fields.foldlM_place_cons 5 _ _ (by decide) (by decide) rfl]
    rfl

theorem kind_not_mem (e : Event) : "kind" ∉ e.jsonFields.map Prod.fst := by
  obtain ⟨probe, value, payload, timestamp, thread, isAnchor⟩ := e
  cases payload <;> cases isAnchor <;>
    · simp only [jsonFields, List.cons_append, List.nil_append, if_true, Bool.false_eq_true, if_false,
        List.map_cons, List.map_nil]
      decide

/-- **The fields of an event are read back.** -/
theorem decoder_fields (e : Event) {depth : Nat} (h : 2 < depth) :
    Event.decoder depth (.object (fieldTrees e.jsonFields)) = some e := by
  have hrecord : Decoder.record fieldNames depth (.object (fieldTrees e.jsonFields)) =
      some ⟨depth - 1, e.slots⟩ := by
    show (if depth ≤ 1 then none else _) = _
    rw [if_neg (by omega), e.place_jsonFields]
    rfl
  have hpayload : (⟨depth - 1, e.slots⟩ : Fields).orElse 2 (.optional (.list .uint8)) none =
      some e.payload := by
    unfold Fields.orElse slots
    cases e.payload with
    | none => rfl
    | some bytes =>
        have hbytes : Decoder.list .uint8 (depth - 1) (tree (Json.ofBytes bytes)) = some bytes :=
          Decoder.list_tree (by omega) bytes fun b _ => Decoder.uint8_tree _ b
        exact congrArg (Option.map some) hbytes
  have hanchor : (⟨depth - 1, e.slots⟩ : Fields).orElse 5 .bool false = some e.isAnchor := by
    unfold Fields.orElse slots
    cases e.isAnchor <;> rfl
  have hprobe : (⟨depth - 1, e.slots⟩ : Fields).required 0 .int32 = some e.probe :=
    Decoder.int32_tree _ e.probe
  have hvalue : (⟨depth - 1, e.slots⟩ : Fields).required 1 .int64 = some e.value :=
    Decoder.int64_tree _ e.value
  have htime : (⟨depth - 1, e.slots⟩ : Fields).required 3 .uint64 = some e.timestamp :=
    Decoder.uint64_tree _ e.timestamp
  have hthread : (⟨depth - 1, e.slots⟩ : Fields).required 4 .string = some e.thread :=
    Decoder.string_tree (depth - 1) e.thread
  unfold Event.decoder
  rw [hrecord]
  simp only [Option.bind_eq_bind, Option.bind_some, Option.pure_def, hprobe, hvalue, hpayload, htime,
    hthread, hanchor]

end Event

namespace Entry

/-- **The fields of a registration are read back.** -/
theorem weaveDecoder_fields (c : ClassId) (probes : List ProbeId) {depth : Nat} (h : 2 < depth) :
    weaveDecoder depth (.object (fieldTrees [("class_id", .int c.toInt), ("probe_ids", idsJson probes)])) =
      some (.weave c probes) := by
  have hrecord : Decoder.record ["class_id", "probe_ids"] depth
      (.object (fieldTrees [("class_id", .int c.toInt), ("probe_ids", idsJson probes)])) =
        some ⟨depth - 1, [some (tree (.int c.toInt)), some (tree (idsJson probes))]⟩ := by
    show (if depth ≤ 1 then none else _) = _
    rw [if_neg (by omega)]
    simp only [fieldTrees]
    rw [Fields.foldlM_place_cons 0 _ _ (by decide) (by decide) rfl,
      Fields.foldlM_place_cons 1 _ _ (by decide) (by decide) rfl]
    rfl
  have hclass : Decoder.int32 (depth - 1) (tree (.int c.toInt)) = some c := Decoder.int32_tree _ c
  have hprobes : Decoder.list .int32 (depth - 1) (tree (idsJson probes)) = some probes :=
    Decoder.list_tree (by omega) probes fun p _ => Decoder.int32_tree _ p
  unfold weaveDecoder
  rw [hrecord]
  show (Decoder.int32 (depth - 1) (tree (.int c.toInt))).bind (fun c =>
    (Decoder.list .int32 (depth - 1) (tree (idsJson probes))).bind fun ids => some (weave c ids)) = _
  rw [hclass, hprobes]
  rfl

/-- A key is read as it was printed. -/
theorem named_key (key : String) :
    ((decodeItems? (key.toList.map textItem)).map String.ofList == some "kind") = (key == "kind") := by
  rw [decodeItems?_textItems, Option.map_some, String.ofList_toList]
  rfl

/-- **The kind decides** how the other fields are read. -/
theorem decoder_object {kind : String} {d : Json.Decoder Entry} {fields : List (String × Json)} {depth : Nat}
    (known : kinds.lookup kind = some d) (others : "kind" ∉ fields.map Prod.fst)
    (readable : (Json.obj (("kind", .str kind) :: fields)).readable depth = true) :
    decoder depth (tree (.obj (("kind", .str kind) :: fields))) = d depth (.object (fieldTrees fields)) := by
  have hkind : kindDecoder depth (tree (.str kind)) = some d := by
    unfold kindDecoder
    rw [Decoder.string_tree]
    exact known
  -- The kind is the only field of its name, so the others are what is left when it is taken out.
  have hnone : ∀ f ∈ fieldTrees fields,
      ((decodeItems? f.1).map String.ofList == some "kind") = false := by
    intro f hf
    rw [fieldTrees_eq] at hf
    obtain ⟨g, hg, rfl⟩ := List.mem_map.mp hf
    refine (named_key g.1).trans (beq_eq_false_iff_ne.mpr fun he => others ?_)
    rw [← he]
    exact List.mem_map_of_mem hg
  have hrest : (fieldTrees fields).filter
      (fun f => (decodeItems? f.1).map String.ofList == some "kind") = [] :=
    List.filter_eq_nil_iff.mpr fun f hf => by rw [hnone f hf]; exact Bool.false_ne_true
  have hothers : (fieldTrees fields).filter
      (fun f => !((decodeItems? f.1).map String.ofList == some "kind")) = fieldTrees fields :=
    List.filter_eq_self.mpr fun f hf => by rw [hnone f hf]; rfl
  have hfirst := named_key "kind"
  -- The whole record must make a value before its kind is looked for.
  obtain ⟨w, hw⟩ := exists_toJson?_tree _ readable
  unfold decoder
  rw [hw]
  simp only [tree, fieldTrees, List.filter_cons, hfirst, hrest, hothers]
  show (kindDecoder depth (tree (.str kind))).bind (fun d => d depth (.object (fieldTrees fields))) = _
  rw [hkind]
  rfl

/-- **An entry is read back** from the tree of its record. -/
theorem decoder_tree (e : Entry) {depth : Nat} (h : 2 < depth) : decoder depth (tree e.toJson) = some e := by
  have readable := e.readable_toJson h
  cases e with
  | event e =>
      have hread := e.decoder_fields h
      rw [toJson, decoder_object rfl e.kind_not_mem readable, hread]
      rfl
  | weave c probes =>
      have hothers :
          "kind" ∉ [("class_id", Json.int c.toInt), ("probe_ids", idsJson probes)].map Prod.fst := by
        show "kind" ∉ ["class_id", "probe_ids"]
        decide
      rw [toJson, decoder_object rfl hothers readable]
      exact weaveDecoder_fields c probes h

end Entry

namespace Batch

/-- **The record of a batch is read back**, whatever is in it. -/
theorem ofText?_text (entries : List Entry) : ofText? (Text.utf8 (text entries)) = some entries := by
  have readable : (Json.arr (entries.map Entry.toJson)).readable Tree.depthLimit = true := by
    rw [Json.readable, decide_eq_true (by decide), Bool.true_and]
    induction entries with
    | nil => rfl
    | cons e rest ih =>
        rw [List.map_cons, readableItems, ih, e.readable_toJson (by decide)]
        rfl
  have hlist : Decoder.list Entry.decoder Tree.depthLimit (tree (.arr (entries.map Entry.toJson))) =
      some entries := Decoder.list_tree (by decide) entries fun e _ => e.decoder_tree (by decide)
  have htext : (text entries).toList = render (.arr (entries.map Entry.toJson)) := String.toList_ofList
  unfold ofText?
  rw [Text.ofUtf8?_utf8]
  show ((Tree.parse? (text entries).toList).bind fun t => Decoder.list Entry.decoder Tree.depthLimit t) = _
  rw [htext, Tree.parse?_render _ readable]
  exact hlist

end Batch
end ProbeRecorder
