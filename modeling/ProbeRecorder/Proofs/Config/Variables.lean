import ProbeRecorder.Proofs.Config.Fields
import ProbeRecorder.Proofs.Settings.Readings

/-!
# `ProbeRecorder.Proofs.Config.Variables` — what environment variables set

The variables are written one after another. A field keeps the value of its variable unless a later one
reaches the same place, and the other variables leave what was there before.

## Contents
- **Reach.** `Setting.Avoids`: a key that leads past a field.
- **Values.** `Environment.Gives`: a variable for the field, after which no other reaches the field
  (`ConfigField.heldIn?_of_gives`).
- **Known variables.** `Environment.Known`; `ConfigField.variableValue?`, and what a section is after
  variables that are known (`ConfigField.heldIn?_source`).
-/

namespace ProbeRecorder

/-! ## Reach -/

namespace Setting

/-- **A key leads past a field**: to another section, or to another field of the same section. -/
def Avoids (sectionName name key : String) : Prop :=
  (target key).1 = sectionName → ∃ k rest, (target key).2 = .field k :: rest ∧ lowered k ≠ name

variable {sectionName name key : String}

theorem sectionAt_write_of_ne (h : (target key).1 ≠ sectionName) (root value : Setting) :
    (root.write key value).sectionAt sectionName = root.sectionAt sectionName := by
  rw [sectionAt, sectionAt, field?_write, if_neg (Ne.symm h)]

theorem sectionAt_write_field {k : String} {rest : List SettingStep} (h : (target key).1 = sectionName)
    (steps : (target key).2 = .field k :: rest) (root value : Setting) :
    (root.write key value).sectionAt sectionName =
      (root.sectionAt sectionName).putField (lowered k)
        (placed value rest ((root.sectionAt sectionName).field? (lowered k))) := by
  rw [sectionAt, field?_write, if_pos h.symm, Option.getD_some, steps, placed_cons, writeAt_field]
  rfl

/-- **A write past a field** leaves it, and leaves its section a table. -/
theorem write_of_avoids (h : Avoids sectionName name key) (root value : Setting) :
    ((root.write key value).sectionAt sectionName).field? name = (root.sectionAt sectionName).field? name ∧
      ((root.sectionAt sectionName).isTable = true →
        ((root.write key value).sectionAt sectionName).isTable = true) := by
  by_cases here : (target key).1 = sectionName
  · obtain ⟨k, rest, steps, other⟩ := h here
    rw [sectionAt_write_field here steps]
    exact ⟨field?_putField_of_ne (Ne.symm other), fun _ => rfl⟩
  · rw [sectionAt_write_of_ne here]
    exact ⟨rfl, id⟩

theorem layer_of_avoids {source : List (String × Setting)}
    (h : ∀ entry ∈ source, Avoids sectionName name entry.1) (root : Setting) :
    ((root.layer source).sectionAt sectionName).field? name = (root.sectionAt sectionName).field? name ∧
      ((root.sectionAt sectionName).isTable = true →
        ((root.layer source).sectionAt sectionName).isTable = true) := by
  induction source generalizing root with
  | nil => exact ⟨rfl, id⟩
  | cons entry rest ih =>
      rw [List.forall_mem_cons] at h
      have first := write_of_avoids h.1 root entry.2
      have others := ih h.2 (root.write entry.1 entry.2)
      rw [layer_cons]
      exact ⟨others.1.trans first.1, fun table => others.2 (first.2 table)⟩

theorem layer_elsewhere {source : List (String × Setting)}
    (h : ∀ entry ∈ source, (target entry.1).1 ≠ sectionName) (root : Setting) :
    (root.layer source).sectionAt sectionName = root.sectionAt sectionName := by
  induction source generalizing root with
  | nil => rfl
  | cons entry rest ih =>
      rw [List.forall_mem_cons] at h
      rw [layer_cons, ih h.2, sectionAt_write_of_ne h.1]

def isList : Setting → Bool
  | list _ => true
  | _ => false

theorem heldAt?_of_not_isList {s : Setting} (h : s.isList = false) (place : Nat) :
    s.heldAt? name place = s.field? name := by
  cases s with
  | list items => cases h
  | table fs => rfl
  | blank => rfl
  | bool b => rfl
  | int n => rfl
  | float bits => rfl
  | text t => rfl

theorem field?_of_isList {s : Setting} (h : s.isList = true) : s.field? name = none := by
  cases s with
  | list items => rfl
  | table fs => cases h
  | blank => rfl
  | bool b => rfl
  | int n => rfl
  | float bits => rfl
  | text t => rfl

theorem heldAt?_of_isTable {s : Setting} (h : s.isTable = true) (place : Nat) :
    s.heldAt? name place = s.field? name := by
  rw [eq_table_of_isTable h]
  rfl

theorem heldAt?_of_field? {s held : Setting} (h : s.field? name = some held)
    (place : Nat) : s.heldAt? name place = some held := by
  cases kind : s.isList with
  | true => exact nomatch (field?_of_isList kind).symm.trans h
  | false => exact (heldAt?_of_not_isList kind place).trans h

end Setting

/-! ## Values -/

namespace Environment

/-- **Variables that spare a field**: none of them reaches it. -/
def Spares (environment : List (String × String)) (F : ConfigField) : Prop :=
  ∀ v ∈ environment, ∀ key, key? v.1 = some key → Setting.Avoids F.sectionName F.name key

theorem spares_nil (F : ConfigField) : Spares [] F := by
  intro v mem
  cases mem

/-- **An environment gives a text for a field**: in a variable for its key, after which the field is
    spared. -/
def Gives (environment : List (String × String)) (F : ConfigField) (text : String) : Prop :=
  ∃ before name after, environment = before ++ (name, text) :: after ∧ key? name = some F.key ∧
    Spares after F

theorem mem_source {environment : List (String × String)} {entry : String × Setting}
    (h : entry ∈ source environment) : ∃ v ∈ environment, key? v.1 = some entry.1 := by
  obtain ⟨v, mem, made⟩ := List.mem_filterMap.mp h
  obtain ⟨key, isKey, rfl⟩ := Option.map_eq_some_iff.mp made
  exact ⟨v, mem, isKey⟩

theorem source_append_cons {name key : String} (isKey : key? name = some key)
    (before : List (String × String)) (text : String) (after : List (String × String)) :
    source (before ++ (name, text) :: after) = source before ++ (key, value key text) :: source after := by
  have made : setting? (name, text) = some (key, value key text) := by rw [setting?, isKey, Option.map_some]
  rw [source, List.filterMap_append, List.filterMap_cons_some made]
  rfl

end Environment

namespace ConfigField

open Environment (Gives key? source value)

variable {F : ConfigField} {environment : List (String × String)}

/-- A variable is written into one field of its section. -/
theorem sectionAt_write (mem : F ∈ all) (text : String) (root : Setting) :
    (root.write F.key (value F.key text)).sectionAt F.sectionName =
      (root.sectionAt F.sectionName).putField F.name (value F.key text) := by
  have leads := target_key F mem
  have written := Setting.sectionAt_write_field (congrArg Prod.fst leads) (congrArg Prod.snd leads) root
    (value F.key text)
  rw [lowered_name F mem, Setting.placed_of_not_isTable (Environment.isTable_value _ _)] at written
  exact written

/-- **The section of a field that is given** is a table, in which the field has the given value. -/
theorem sectionAt_of_gives (mem : F ∈ all) {text : String} (h : Gives environment F text) (root : Setting) :
    ((root.layer (source environment)).sectionAt F.sectionName).isTable = true ∧
      ((root.layer (source environment)).sectionAt F.sectionName).field? F.name =
        some (value F.key text) := by
  obtain ⟨before, name, after, rfl, isKey, past⟩ := h
  have avoid : ∀ entry ∈ source after, Setting.Avoids F.sectionName F.name entry.1 := by
    intro entry there
    obtain ⟨v, memAfter, isKey⟩ := Environment.mem_source there
    exact past v memAfter _ isKey
  have later := Setting.layer_of_avoids avoid
    ((root.layer (source before)).write F.key (value F.key text))
  rw [sectionAt_write mem] at later
  rw [Environment.source_append_cons isKey, Setting.layer_append, Setting.layer_cons]
  exact ⟨later.2 rfl, later.1.trans (Setting.field?_putField_self _ _ _)⟩

/-- **A field that is given holds its value.** -/
theorem heldIn?_of_gives (mem : F ∈ all) {text : String} (h : Gives environment F text) (root : Setting) :
    F.heldIn? (root.layer (source environment)) = some (value F.key text) := by
  obtain ⟨table, held⟩ := sectionAt_of_gives mem h root
  rw [heldIn?, Setting.heldAt?_of_isTable table, held]

end ConfigField

/-! ## Known variables -/

/-- **Variables that are known**: each one with the prefix is for a field, and no two of them differ in
    the case of their letters only. -/
structure Environment.Known (environment : List (String × String)) : Prop where
  field : ∀ v ∈ environment, (Environment.key? v.1).isSome = true →
    ∃ F ∈ ConfigField.all, Setting.lowered v.1 = F.variableName
  distinct : environment.Pairwise fun v w =>
    (Environment.key? v.1).isSome = true → Setting.lowered v.1 ≠ Setting.lowered w.1

namespace ConfigField

open Environment (Gives Known key? source value)

/-- The value of the variable for the field. -/
def variableValue? (F : ConfigField) (environment : List (String × String)) : Option Setting :=
  (environment.find? fun v => Setting.lowered v.1 = F.variableName).map fun v => value F.key v.2

/-- A variable is given for some field of the section. -/
def sectionGiven (sectionName : String) (environment : List (String × String)) : Bool :=
  all.any fun F => F.sectionName = sectionName && (F.variableValue? environment).isSome

variable {F G : ConfigField} {environment : List (String × String)}

/-- A known variable that is not for a field leads past it. -/
theorem avoids_of_ne (memG : G ∈ all) (h : G.variableName ≠ F.variableName) :
    Setting.Avoids F.sectionName F.name G.key := by
  intro sameSection
  rw [target_key G memG] at sameSection ⊢
  refine ⟨G.name, [], rfl, ?_⟩
  rw [lowered_name G memG]
  intro sameName
  apply h
  rw [variableName, variableName, sameName]
  exact congrArg (fun s => "probelog__" ++ s ++ "__" ++ F.name) sameSection

theorem avoids_of_known (known : Known environment) {v : String × String}
    (there : v ∈ environment) (other : Setting.lowered v.1 ≠ F.variableName) {key : String}
    (isKey : key? v.1 = some key) : Setting.Avoids F.sectionName F.name key := by
  obtain ⟨G, memG, isG⟩ := known.field v there (Option.isSome_of_eq_some isKey)
  obtain rfl := Option.some.inj ((key?_of_lowered memG isG).symm.trans isKey)
  exact avoids_of_ne memG (isG ▸ other)

/-- **The value of a known variable is given.** -/
theorem gives_of_variableValue? (mem : F ∈ all) (known : Known environment) {s : Setting}
    (h : F.variableValue? environment = some s) :
    ∃ text, s = value F.key text ∧ Gives environment F text := by
  obtain ⟨⟨name, text⟩, found, rfl⟩ := Option.map_eq_some_iff.mp h
  obtain ⟨isF, before, after, rfl, -⟩ := List.find?_eq_some_iff_append.mp found
  have isF : Setting.lowered name = F.variableName := of_decide_eq_true isF
  have isKey := key?_of_lowered mem isF
  refine ⟨text, rfl, before, name, after, rfl, isKey, ?_⟩
  intro v there key isKey'
  -- The variables behind it have other names, and so they are for other fields.
  have apart := (List.pairwise_cons.mp (List.pairwise_append.mp known.distinct).2.1).1 v there
  have other : Setting.lowered v.1 ≠ F.variableName := by
    intro same
    exact apart (Option.isSome_of_eq_some isKey) (isF.trans same.symm)
  exact avoids_of_known known (List.mem_append_right _ (List.mem_cons_of_mem _ there)) other isKey'

theorem ne_of_variableValue?_none (h : F.variableValue? environment = none) {v : String × String}
    (there : v ∈ environment) : Setting.lowered v.1 ≠ F.variableName := by
  have absent := List.find?_eq_none.mp (Option.map_eq_none_iff.mp h) v there
  simpa using absent

theorem isTable_of_sectionGiven {sectionName : String} (known : Known environment)
    (given : sectionGiven sectionName environment = true) (root : Setting) :
    ((root.layer (source environment)).sectionAt sectionName).isTable = true := by
  obtain ⟨G, memG, isGiven⟩ := List.any_eq_true.mp given
  rw [Bool.and_eq_true, decide_eq_true_eq] at isGiven
  obtain ⟨rfl, isGiven⟩ := isGiven
  obtain ⟨s, hs⟩ := Option.isSome_iff_exists.mp isGiven
  obtain ⟨text, -, gives⟩ := gives_of_variableValue? memG known hs
  exact (sectionAt_of_gives memG gives root).1

theorem sectionAt_of_not_sectionGiven {sectionName : String} (known : Known environment)
    (notGiven : ¬sectionGiven sectionName environment = true) (root : Setting) :
    (root.layer (source environment)).sectionAt sectionName = root.sectionAt sectionName := by
  apply Setting.layer_elsewhere
  intro entry there sameSection
  apply notGiven
  obtain ⟨v, memV, isKey⟩ := Environment.mem_source there
  obtain ⟨G, memG, isG⟩ := known.field v memV (Option.isSome_of_eq_some isKey)
  have isKeyG := Option.some.inj ((key?_of_lowered memG isG).symm.trans isKey)
  rw [← isKeyG, target_key G memG] at sameSection
  refine List.any_eq_true.mpr ⟨G, memG, ?_⟩
  rw [Bool.and_eq_true, decide_eq_true_eq]
  refine ⟨sameSection, ?_⟩
  cases hG : G.variableValue? environment with
  | some s => rfl
  | none => exact absurd isG (ne_of_variableValue?_none hG memV)

/-- **A section after known variables**: a field has the value of its variable. Without a variable it has
    what was there, which in a list counts only as long as no variable is given for the section. -/
theorem heldIn?_source (mem : F ∈ all) (known : Known environment) (root : Setting) :
    F.heldIn? (root.layer (source environment)) =
      (F.variableValue? environment).or
        (if sectionGiven F.sectionName environment then (root.sectionAt F.sectionName).field? F.name
          else F.heldIn? root) := by
  cases hvalue : F.variableValue? environment with
  | some s =>
      obtain ⟨text, rfl, gives⟩ := gives_of_variableValue? mem known hvalue
      rw [heldIn?_of_gives mem gives, Option.some_or]
  | none =>
      rw [Option.none_or]
      by_cases given : sectionGiven F.sectionName environment = true
      · -- The section is a table now, and no variable reached the field in it.
        have past : ∀ entry ∈ source environment, Setting.Avoids F.sectionName F.name entry.1 := by
          intro entry there
          obtain ⟨v, memV, isKey⟩ := Environment.mem_source there
          exact avoids_of_known known memV (ne_of_variableValue?_none hvalue memV) isKey
        have table := isTable_of_sectionGiven known given root
        rw [if_pos given, heldIn?, Setting.heldAt?_of_isTable table, (Setting.layer_of_avoids past root).1]
      · rw [if_neg given, heldIn?, heldIn?, sectionAt_of_not_sectionGiven known given]

end ConfigField
end ProbeRecorder
