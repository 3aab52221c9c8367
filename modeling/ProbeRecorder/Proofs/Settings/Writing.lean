import Mathlib.Tactic.Common
import ProbeRecorder.Settings.Layer

/-!
# `ProbeRecorder.Proofs.Settings.Writing` — where a write goes

A key of a source is written into one field of the root: what stands there afterwards depends on the value
and on what stood there before, and nothing else changes.

## Contents
- **Fields.** A field after another was set (`Setting.field?_putField`).
- **Kinds.** `Setting.isTable`.
- **Places.** `Setting.target`, the field of the root and the steps behind it that a key means;
  `Setting.placed`, what stands at a place after a write (`Setting.writeAt_field`, `Setting.write_eq`).
- **Dependence.** Writes look at the fields and the items of what was there, and at nothing else
  (`Setting.assign_congr`, `Setting.writeAt_congr`).
- **Sources.** `Setting.layer_cons`, `Setting.layer_append`.
-/

namespace ProbeRecorder.Setting

/-! ## Fields -/

theorem lookup_cons_of_ne {key k : String} (h : k ≠ key) (value : Setting) (fs : List (String × Setting)) :
    ((key, value) :: fs).lookup k = fs.lookup k := by
  have apart : (k == key) = false := beq_false_of_ne h
  rw [List.lookup_cons, apart]

theorem mem_of_lookup {fs : List (String × Setting)} {k : String} {s : Setting}
    (h : fs.lookup k = some s) : (k, s) ∈ fs := by
  obtain ⟨before, after, rfl, -⟩ := List.lookup_eq_some_iff.mp h
  simp

theorem lookup_replaceField (key k : String) (value : Setting) (fs : List (String × Setting)) :
    (replaceField key value fs).lookup k = if k = key then some value else fs.lookup k := by
  induction fs with
  | nil =>
      rw [replaceField]
      by_cases same : k = key
      · rw [if_pos same, same]
        exact List.lookup_cons_self
      · rw [if_neg same, lookup_cons_of_ne same]
  | cons entry rest ih =>
      obtain ⟨name, old⟩ := entry
      rw [replaceField]
      by_cases here : name = key
      · rw [if_pos here, here]
        by_cases same : k = key
        · rw [if_pos same, same]
          exact List.lookup_cons_self
        · rw [if_neg same, lookup_cons_of_ne same, lookup_cons_of_ne same]
      · rw [if_neg here]
        by_cases first : k = name
        · have other : k ≠ key := fun same => here (first.symm.trans same)
          rw [if_neg other, first, List.lookup_cons_self, List.lookup_cons_self]
        · rw [lookup_cons_of_ne first, ih, lookup_cons_of_ne first]

theorem field?_putField (s value : Setting) (key k : String) :
    (s.putField key value).field? k = if k = key then some value else s.field? k :=
  lookup_replaceField key k value s.fields

theorem field?_putField_self (s value : Setting) (key : String) :
    (s.putField key value).field? key = some value := by
  rw [field?_putField, if_pos rfl]

theorem field?_putField_of_ne {s value : Setting} {key k : String} (h : k ≠ key) :
    (s.putField key value).field? k = s.field? k := by
  rw [field?_putField, if_neg h]

/-! ## Kinds -/

def isTable : Setting → Bool
  | table _ => true
  | _ => false

theorem eq_table_of_isTable {s : Setting} (h : s.isTable = true) : s = table s.fields := by
  cases s with
  | table fs => rfl
  | blank => cases h
  | bool b => cases h
  | int n => cases h
  | float bits => cases h
  | text t => cases h
  | list items => cases h

/-! ## Places -/

/-- **What stands at a place** after a write, by what stood there before. -/
def placed (value : Setting) : List SettingStep → Option Setting → Setting
  | [], old =>
    match value with
    | table incoming => assignAll incoming (old.getD (table []))
    | value => value
  | step :: rest, old => writeAt value (step :: rest) (old.getD blank)

/-- What is no table replaces what was there. -/
theorem placed_of_not_isTable {value : Setting} (h : value.isTable = false) (old : Option Setting) :
    placed value [] old = value := by
  cases value with
  | table fs => cases h
  | blank => rfl
  | bool b => rfl
  | int n => rfl
  | float bits => rfl
  | text t => rfl
  | list items => rfl

theorem assign_eq (key : String) (value s : Setting) :
    assign key value s = s.putField (lowered key) (placed value [] (s.field? (lowered key))) := by
  cases value <;> simp [assign, placed]

theorem writeAt_field (value s : Setting) (key : String) (rest : List SettingStep) :
    writeAt value (.field key :: rest) s =
      s.putField (lowered key) (placed value rest (s.field? (lowered key))) := by
  cases rest with
  | nil => rw [writeAt, assign_eq]
  | cons step rest => rfl

/-- **What a key means**: a field of the root, and steps from there. -/
def target (key : String) : String × List SettingStep :=
  match SettingPath.ofKey? key with
  | some path => (lowered path.key, path.steps)
  | none => (lowered key, [])

/-- **A write** sets one field of the root. -/
theorem write_eq (root : Setting) (key : String) (value : Setting) :
    root.write key value =
      root.putField (target key).1 (placed value (target key).2 (root.field? (target key).1)) := by
  rw [write, target]
  cases SettingPath.ofKey? key with
  | none => exact assign_eq key value root
  | some path => exact writeAt_field value root path.key path.steps

theorem field?_write (root : Setting) (key k : String) (value : Setting) :
    (root.write key value).field? k =
      if k = (target key).1 then some (placed value (target key).2 (root.field? k)) else root.field? k := by
  rw [write_eq, field?_putField]
  by_cases same : k = (target key).1
  · rw [if_pos same, if_pos same, same]
  · rw [if_neg same, if_neg same]

/-! ## Dependence -/

theorem putField_congr {s t : Setting} (fields : s.fields = t.fields) (key : String) (value : Setting) :
    s.putField key value = t.putField key value := by
  rw [putField, putField, fields]

theorem field?_congr {s t : Setting} (fields : s.fields = t.fields) (key : String) :
    s.field? key = t.field? key := by
  rw [field?, field?, fields]

theorem assign_congr {s t : Setting} (fields : s.fields = t.fields) (key : String) (value : Setting) :
    assign key value s = assign key value t := by
  rw [assign_eq, assign_eq, field?_congr fields, putField_congr fields]

theorem updateItem_congr {s t : Setting} (items : s.items = t.items) (index : Int)
    (change : Setting → Setting) : s.updateItem index change = t.updateItem index change := by
  rw [updateItem, updateItem, items]

/-- **A write behind a place** depends on the fields and the items that are there. -/
theorem writeAt_congr {s t : Setting} (fields : s.fields = t.fields) (items : s.items = t.items)
    (value : Setting) (step : SettingStep) (rest : List SettingStep) :
    writeAt value (step :: rest) s = writeAt value (step :: rest) t := by
  cases step with
  | field key => rw [writeAt_field, writeAt_field, field?_congr fields, putField_congr fields]
  | item index => exact updateItem_congr items index _

/-- Behind a place that is empty, a write makes a table or a list anyway. -/
theorem placed_cons (value : Setting) (step : SettingStep) (rest : List SettingStep) (old : Option Setting) :
    placed value (step :: rest) old = writeAt value (step :: rest) (old.getD (table [])) := by
  cases old with
  | none => exact writeAt_congr (s := blank) (t := table []) rfl rfl value step rest
  | some s => rfl

/-! ## Sources -/

theorem layer_nil (root : Setting) : root.layer [] = root := rfl

theorem layer_cons (root : Setting) (entry : String × Setting) (source : List (String × Setting)) :
    root.layer (entry :: source) = (root.write entry.1 entry.2).layer source := rfl

theorem layer_append (root : Setting) (first second : List (String × Setting)) :
    root.layer (first ++ second) = (root.layer first).layer second := List.foldl_append

/-- The root is a table, whatever is laid on top of it. -/
theorem isTable_layer {root : Setting} (h : root.isTable = true) (source : List (String × Setting)) :
    (root.layer source).isTable = true := by
  induction source generalizing root with
  | nil => exact h
  | cons entry rest ih =>
      rw [layer_cons]
      apply ih
      rw [write_eq]
      rfl

end ProbeRecorder.Setting
