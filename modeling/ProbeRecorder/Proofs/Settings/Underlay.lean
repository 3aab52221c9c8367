import ProbeRecorder.Proofs.Settings.Writing

/-!
# `ProbeRecorder.Proofs.Settings.Underlay` — sources on top of defaults

The same sources are laid on two trees, one that begins with defaults and one that begins with nothing.
The trees then differ only in places where the sources give nothing, and there the first has its default.

## Contents
- **Relation.** `Setting.Underlaid`, for a given number of levels of tables.
- **One write.** `Setting.Underlaid.placed`, what is written at a place of both trees.
- **Sources.** `Setting.layer_underlaid`.
-/

namespace ProbeRecorder.Setting

/-! ## Relation -/

/-- Nothing is given at a place: it is empty, or holds a table without fields. -/
def vacant : Option Setting → Bool
  | none => true
  | some (table []) => true
  | some _ => false

/-- **What stands at a place** of a tree with defaults, and of one without them. The two are the same, or
    the first is the default and nothing is given; or both are tables, and so for each of their fields. -/
def Underlaid : (depth : Nat) → (standard full own : Option Setting) → Prop
  | 0, standard, full, own =>
    full = own ∨
      ∃ s, standard = some s ∧ full = some s ∧ s.fields = [] ∧ s.items = [] ∧ vacant own = true
  | depth + 1, standard, full, own =>
    full = own ∨
      ∃ fs gs, full = some (table fs) ∧ own.getD (table []) = table gs ∧
        ∀ k, Underlaid depth (standard.bind (·.field? k)) (fs.lookup k) (gs.lookup k)

theorem Underlaid.refl (depth : Nat) (standard s : Option Setting) : Underlaid depth standard s s := by
  cases depth <;> exact .inl rfl

theorem vacant_of_not_isTable {s : Setting} (h : s.isTable = false) : vacant (some s) = false := by
  cases s with
  | table fs => cases h
  | blank => rfl
  | bool b => rfl
  | int n => rfl
  | float bits => rfl
  | text t => rfl
  | list items => rfl

theorem vacant_getD {own : Option Setting} (h : vacant own = true) : own.getD (table []) = table [] := by
  match own, h with
  | none, _ => rfl
  | some (table []), _ => rfl

/-! ## One write -/

/-- Two trees keep in step at all fields when both are written at one of them. -/
theorem underlaid_putField {depth : Nat} {standard : Option Setting} {t u : Setting}
    (below : ∀ k, Underlaid depth (standard.bind (·.field? k)) (t.field? k) (u.field? k))
    {key : String} {v w : Setting} (here : Underlaid depth (standard.bind (·.field? key)) (some v) (some w)) :
    ∀ k, Underlaid depth (standard.bind (·.field? k)) ((t.putField key v).field? k)
      ((u.putField key w).field? k) := by
  intro k
  rw [field?_putField, field?_putField]
  by_cases same : k = key
  · rw [if_pos same, if_pos same, same]
    exact here
  · rw [if_neg same, if_neg same]
    exact below k

namespace Underlaid

variable {standard full own : Option Setting}

/-- At a leaf: whatever is written replaces the default, but for a table without fields. -/
theorem placed_leaf (h : Underlaid 0 standard full own) (value : Setting) (steps : List SettingStep) :
    Underlaid 0 standard (some (placed value steps full)) (some (placed value steps own)) := by
  obtain same | ⟨s, isStandard, rfl, noFields, noItems, nothing⟩ := h
  · exact .inl (by rw [same])
  cases steps with
  | cons step rest =>
      left
      rw [placed_cons, placed_cons, vacant_getD nothing]
      exact congrArg some (writeAt_congr noFields noItems value step rest)
  | nil =>
      cases value with
      | table incoming =>
          -- Without fields to assign, the default stays, and the other place is still vacant.
          simp only [placed, vacant_getD nothing, Option.getD_some]
          cases incoming with
          | nil => exact .inr ⟨s, isStandard, rfl, noFields, noItems, rfl⟩
          | cons entry rest =>
              left
              rw [assignAll, assignAll, assign_congr (t := table []) noFields]
      | blank => exact .inl rfl
      | bool b => exact .inl rfl
      | int n => exact .inl rfl
      | float bits => exact .inl rfl
      | text t => exact .inl rfl
      | list items => exact .inl rfl

variable {depth : Nat}

/-- Fields are assigned to both tables one by one. -/
theorem assignAll_tables
    (preserved : ∀ {standard full own : Option Setting}, Underlaid depth standard full own →
      ∀ value steps, Underlaid depth standard (some (placed value steps full)) (some (placed value steps own)))
    (incoming : List (String × Setting)) (fs gs : List (String × Setting))
    (below : ∀ k, Underlaid depth (standard.bind (·.field? k)) (fs.lookup k) (gs.lookup k)) :
    Underlaid (depth + 1) standard (some (assignAll incoming (table fs)))
      (some (assignAll incoming (table gs))) := by
  induction incoming generalizing fs gs with
  | nil => exact .inr ⟨fs, gs, rfl, rfl, below⟩
  | cons entry rest ih =>
      rw [assignAll, assignAll, assign_eq, assign_eq]
      apply ih
      exact underlaid_putField (t := table fs) (u := table gs) below (preserved (below _) entry.2 [])

/-- **One write at the same place of both trees** keeps them in step. -/
theorem placed (h : Underlaid depth standard full own) (value : Setting) (steps : List SettingStep) :
    Underlaid depth standard (some (placed value steps full)) (some (placed value steps own)) := by
  -- By levels: a write at a table is one at a field of it, which is a level further down.
  induction depth generalizing standard full own value steps with
  | zero => exact placed_leaf h value steps
  | succ depth ih =>
      obtain same | ⟨fs, gs, rfl, ownTable, below⟩ := h
      · exact .inl (by rw [same])
      cases steps with
      | cons step rest =>
          rw [placed_cons, placed_cons, ownTable, Option.getD_some]
          cases step with
          | item index => exact .inl (congrArg some (updateItem_congr rfl index _))
          | field key =>
              rw [writeAt_field, writeAt_field]
              right
              refine ⟨_, _, rfl, rfl, ?_⟩
              exact underlaid_putField (t := table fs) (u := table gs) below (ih (below _) value rest)
      | nil =>
          cases value with
          | table incoming =>
              simp only [Setting.placed, ownTable, Option.getD_some]
              exact assignAll_tables ih incoming fs gs below
          | blank => exact .inl rfl
          | bool b => exact .inl rfl
          | int n => exact .inl rfl
          | float bits => exact .inl rfl
          | text t => exact .inl rfl
          | list items => exact .inl rfl

end Underlaid

/-! ## Sources -/

/-- **A source on top of both trees** keeps them in step at every field of the root. -/
theorem layer_underlaid {depth : Nat} {standard full own : Setting}
    (h : ∀ k, Underlaid depth (standard.field? k) (full.field? k) (own.field? k))
    (source : List (String × Setting)) (k : String) :
    Underlaid depth (standard.field? k) ((full.layer source).field? k) ((own.layer source).field? k) := by
  induction source generalizing full own with
  | nil => exact h k
  | cons entry rest ih =>
      rw [layer_cons, layer_cons]
      apply ih
      intro k
      rw [write_eq, write_eq]
      have here := (h (target entry.1).1).placed entry.2 (target entry.1).2
      exact @underlaid_putField depth (some standard) full own h _ _ _ here k

end ProbeRecorder.Setting
