import ProbeRecorder.Config.Load
import ProbeRecorder.Proofs.Settings.Writing

/-!
# `ProbeRecorder.Proofs.Config.Fields` — the fields of a configuration, one by one

A configuration is read section by section, and a section field by field. Each field has a place in the
settings, a way in which its setting is read, and a default.

## Contents
- **Places.** `Setting.heldAt?`, what a section holds for a field; `Setting.sectionAt`.
- **Sections.** A configuration is read from settings exactly when each of its sections is
  (`Config.ofSettings?_eq_some_iff`).
- **Loading.** What a configuration that is loaded was read from (`Config.load_eq_ok_iff`).
- **Fields.** `ConfigField`, `TextField` and the list of them all, `ConfigField.all`.
- **Reading.** Every field of a configuration is read from what the settings hold for it
  (`ConfigField.all_read`).
- **Names.** `ConfigField.key`, `ConfigField.variableName`.
-/

namespace ProbeRecorder

/-! ## Places -/

namespace Setting

/-- **What a section holds for a field**: a list by the place of the field, a table by its name. -/
def heldAt? (name : String) (place : Nat) : Setting → Option Setting
  | list items => items[place]?
  | s => s.field? name

/-- The section with the given name; one that is not there is empty. -/
def sectionAt (root : Setting) (name : String) : Setting := (root.field? name).getD (table [])

end Setting

namespace Config

/-! ## Sections -/

theorem fieldOr_names (names : List String) (fields : List (String × Setting)) {index : Nat} {name : String}
    (named : names[index]? = some name) {α : Type} (read : Setting → Option α) (standard : α) :
    fieldOr (names.map fun name => fields.lookup name) index read standard =
      match fields.lookup name with
      | some s => read s
      | none => some standard := by
  rw [fieldOr, List.getElem?_map, named]
  rfl

/-- **A field is read from what its section holds for it.** -/
theorem fieldOr_heldAt {names : List String} {s : Setting} {fields : List (Option Setting)}
    (there : sectionFields? names s = some fields) {index : Nat} {name : String}
    (named : names[index]? = some name) {α : Type} (read : Setting → Option α) (standard : α) :
    fieldOr fields index read standard =
      match s.heldAt? name index with
      | some held => read held
      | none => some standard := by
  cases s with
  | table fs =>
      obtain rfl := Option.some.inj there
      exact fieldOr_names names fs named read standard
  | list items =>
      obtain rfl := Option.some.inj there
      have held : (items.map some)[index]?.join = items[index]? := by
        rw [List.getElem?_map]
        cases items[index]? <;> rfl
      rw [fieldOr, held]
      rfl
  | blank => cases there
  | bool b => cases there
  | int n => cases there
  | float bits => cases there
  | text t => cases there

/-- A section that is missing is read like one without fields. -/
theorem fieldOr_sectionAt (root : Setting) (index : Nat) {name : String}
    (named : sectionNames[index]? = some name) {α : Type} (read : Setting → Option α) (standard : α)
    (empty : read (.table []) = some standard) :
    fieldOr (sectionNames.map fun name => root.fields.lookup name) index read standard =
      read (root.sectionAt name) := by
  rw [fieldOr_names sectionNames root.fields named, Setting.sectionAt, Setting.field?]
  cases root.fields.lookup name with
  | none => exact empty.symm
  | some s => rfl

/-- **A configuration is read** from a table when each section is. -/
theorem ofSettings?_eq_some_iff {root : Setting} (table : root.isTable = true) {c : Config} :
    ofSettings? root = some c ↔
      readCapture (root.sectionAt "capture") = some c.capture ∧
      readRecording (root.sectionAt "recording") = some c.recording ∧
      readStorage (root.sectionAt "storage") = some c.storage ∧
      readIdentity (root.sectionAt "identity") = some c.identity ∧
      readExclusion (root.sectionAt "exclusion") = some c.exclusion ∧
      readLogging (root.sectionAt "logging") = some c.logging := by
  have there : sectionFields? sectionNames root =
      some (sectionNames.map fun name => root.fields.lookup name) := by
    rw [Setting.eq_table_of_isTable table]
    rfl
  simp only [ofSettings?, there, Option.bind_eq_bind, Option.bind_some, Option.pure_def,
    Option.bind_eq_some_iff, Option.some.injEq]
  rw [← fieldOr_sectionAt root 0 rfl readCapture {} rfl, ← fieldOr_sectionAt root 1 rfl readRecording {} rfl,
    ← fieldOr_sectionAt root 2 rfl readStorage {} rfl, ← fieldOr_sectionAt root 3 rfl readIdentity {} rfl,
    ← fieldOr_sectionAt root 4 rfl readExclusion {} rfl, ← fieldOr_sectionAt root 5 rfl readLogging {} rfl]
  constructor
  · rintro ⟨_, capture, _, recording, _, storage, _, identity, _, exclusion, _, logging, rfl⟩
    exact ⟨capture, recording, storage, identity, exclusion, logging⟩
  · rintro ⟨capture, recording, storage, identity, exclusion, logging⟩
    exact ⟨_, capture, _, recording, _, storage, _, identity, _, exclusion, _, logging, rfl⟩

/-! ## Loading -/

/-- The settings of the file, if there is one. -/
def fileSettings : Option (String × String) → Except RecorderError (List (String × Setting))
  | some (name, content) => fileSource name content
  | none => pure []

/-- The settings of a file and of the environment, on top of the defaults. -/
def layered (settings : List (String × Setting)) (environment : List (String × String)) : Setting :=
  standardSettings.layer (settings ++ Environment.source environment)

theorem layered_eq (settings : List (String × Setting)) (environment : List (String × String)) :
    layered settings environment =
      (standardSettings.layer settings).layer (Environment.source environment) :=
  Setting.layer_append _ _ _

theorem isTable_layered (settings : List (String × Setting)) (environment : List (String × String)) :
    (layered settings environment).isTable = true :=
  Setting.isTable_layer rfl _

/-- What is made of a configuration that was read: it is refused unless it is valid. -/
def accepted (found : Option Config) : Except RecorderError Config :=
  found.elim (.error (configError "a setting does not have the form that is wanted"))
    fun c => c.validate.bind fun _ => .ok c

theorem load_eq (file : Option (String × String)) (environment : List (String × String)) :
    load file environment = (fileSettings file).bind fun settings =>
      accepted (ofSettings? (layered settings environment)) := by
  simp only [load, layered_eq]
  cases file with
  | none =>
      rw [fileSettings, pure_bind]
      show _ = accepted (ofSettings? ((standardSettings.layer []).layer (Environment.source environment)))
      generalize ofSettings? ((standardSettings.layer []).layer (Environment.source environment)) = found
      cases found <;> rfl
  | some f =>
      obtain ⟨name, content⟩ := f
      dsimp only [fileSettings]
      cases fileSource name content with
      | error fault => rfl
      | ok settings =>
          simp only [bind, Except.bind]
          generalize ofSettings? ((standardSettings.layer settings).layer (Environment.source environment)) =
            found
          cases found <;> rfl

/-- **A configuration is loaded** when the file can be read and all settings together make a configuration
    that is valid. -/
theorem load_eq_ok_iff {file : Option (String × String)} {environment : List (String × String)}
    {c : Config} :
    load file environment = .ok c ↔
      ∃ settings, fileSettings file = .ok settings ∧
        ofSettings? (layered settings environment) = some c ∧ c.validate = .ok () := by
  rw [load_eq]
  cases fileSettings file with
  | error fault => simp [Except.bind]
  | ok settings =>
      simp only [Except.bind, Except.ok.injEq, exists_eq_left']
      cases ofSettings? (layered settings environment) with
      | none => simp [accepted]
      | some d =>
          simp only [accepted, Option.elim_some, Option.some.injEq]
          cases valid : d.validate with
          | error fault =>
              constructor
              · intro h
                cases h
              · rintro ⟨rfl, ok⟩
                rw [valid] at ok
                cases ok
          | ok u =>
              simp only [Except.bind, Except.ok.injEq]
              constructor
              · rintro rfl
                exact ⟨rfl, valid⟩
              · exact And.left

end Config

/-! ## Fields -/

/-- **Field of a configuration**: the place of its setting, by names and by number, how a setting is read
    for it, and where in the configuration its value is. -/
structure ConfigField where
  Value : Type
  sectionName : String
  name : String
  place : Nat
  read : Setting → Option Value
  get : Config → Value
  /-- A table without fields is no value. -/
  read_empty : read (.table []) = none

/-- **Field that is a text.** -/
structure TextField where
  sectionName : String
  name : String
  place : Nat
  get : Config → String

namespace TextField

def events : TextField := ⟨"capture", "events", 0, fun c => c.capture.events⟩
def baseDir : TextField := ⟨"storage", "base_dir", 0, fun c => c.storage.baseDir⟩
def dbName : TextField := ⟨"storage", "db_name", 1, fun c => c.storage.dbName⟩
def eventsDir : TextField := ⟨"storage", "events_dir", 2, fun c => c.storage.eventsDir⟩
def level : TextField := ⟨"logging", "level", 0, fun c => c.logging.level⟩

/-- **All fields that are texts.** -/
def all : List TextField := [events, baseDir, dbName, eventsDir, level]

/-- As one of all fields. -/
def field (F : TextField) : ConfigField :=
  ⟨String, F.sectionName, F.name, F.place, Setting.asText?, F.get, rfl⟩

end TextField

namespace ConfigField

/-- Field that is a count. -/
def count (sectionName name : String) (place : Nat) (get : Config → UInt64) : ConfigField :=
  ⟨UInt64, sectionName, name, place, Config.count?, get, rfl⟩

/-- Field that is one of the given names. -/
def choice {α : Type} (names : List (String × α)) (sectionName name : String) (place : Nat)
    (get : Config → α) : ConfigField :=
  ⟨α, sectionName, name, place, Setting.asChoice? names, get, rfl⟩

def captureFields : List ConfigField :=
  [TextField.events.field,
   choice DetailLevel.named "capture" "detail_level" 1 fun c => c.capture.detailLevel]

def recordingFields : List ConfigField :=
  [choice RecordingMode.named "recording" "mode" 0 fun c => c.recording.mode,
   count "recording" "completion_timeout_ms" 1 fun c => c.recording.completionTimeoutMs,
   count "recording" "batch_size" 2 fun c => c.recording.batchSize,
   count "recording" "flush_interval_ms" 3 fun c => c.recording.flushIntervalMs,
   count "recording" "max_queue_size" 4 fun c => c.recording.maxQueueSize,
   choice CompressionLevel.named "recording" "compression_level" 5 fun c => c.recording.compressionLevel]

def storageFields : List ConfigField :=
  [TextField.baseDir.field, TextField.dbName.field, TextField.eventsDir.field]

def identityFields : List ConfigField :=
  [count "identity" "capacity" 0 fun c => c.identity.capacity,
   count "identity" "type_cache_capacity" 1 fun c => c.identity.typeCacheCapacity]

/-- The types that are excluded besides the built-in ones. -/
def extraPrefixes : ConfigField :=
  ⟨List String, "exclusion", "extra_prefixes", 0, Setting.asTexts?, fun c => c.exclusion.extraPrefixes, rfl⟩

def loggingFields : List ConfigField :=
  [TextField.level.field, choice LogFormat.named "logging" "format" 1 fun c => c.logging.format]

/-- **All fields.** -/
def all : List ConfigField :=
  captureFields ++ recordingFields ++ storageFields ++ identityFields ++ [extraPrefixes] ++ loggingFields

theorem field_mem_all : ∀ F ∈ TextField.all, F.field ∈ all := by
  simp [TextField.all, all, captureFields, storageFields, loggingFields]

theorem extraPrefixes_mem_all : extraPrefixes ∈ all := by simp [all]

/-! ## Reading -/

/-- The value when nothing is configured. -/
def standard (F : ConfigField) : F.Value := F.get {}

/-- What settings hold for the field. -/
def heldIn? (F : ConfigField) (root : Setting) : Option Setting :=
  (root.sectionAt F.sectionName).heldAt? F.name F.place

/-- The value that is read from what is held for the field, if anything is. -/
def readHeld (F : ConfigField) : Option Setting → Option F.Value
  | some s => F.read s
  | none => some F.standard

variable {c : Config} {root : Setting}

theorem captureFields_read (h : Config.readCapture (root.sectionAt "capture") = some c.capture) :
    ∀ F ∈ captureFields, F.readHeld (F.heldIn? root) = some (F.get c) := by
  simp only [Config.readCapture, Option.bind_eq_bind, Option.pure_def, Option.bind_eq_some_iff,
    Option.some.injEq] at h
  obtain ⟨fields, there, events, hevents, level, hlevel, made⟩ := h
  rw [Config.fieldOr_heldAt there rfl] at hevents hlevel
  simp only [captureFields, List.forall_mem_cons]
  refine ⟨?_, ?_, List.forall_mem_nil _⟩
  · exact hevents.trans (congrArg (fun x => some x.events) made)
  · exact hlevel.trans (congrArg (fun x => some x.detailLevel) made)

theorem recordingFields_read (h : Config.readRecording (root.sectionAt "recording") = some c.recording) :
    ∀ F ∈ recordingFields, F.readHeld (F.heldIn? root) = some (F.get c) := by
  simp only [Config.readRecording, Option.bind_eq_bind, Option.pure_def, Option.bind_eq_some_iff,
    Option.some.injEq] at h
  obtain ⟨fields, there, mode, hmode, timeout, htimeout, size, hsize, interval, hinterval, limit, hlimit,
    level, hlevel, made⟩ := h
  rw [Config.fieldOr_heldAt there rfl] at hmode htimeout hsize hinterval hlimit hlevel
  simp only [recordingFields, List.forall_mem_cons]
  refine ⟨?_, ?_, ?_, ?_, ?_, ?_, List.forall_mem_nil _⟩
  · exact hmode.trans (congrArg (fun x => some x.mode) made)
  · exact htimeout.trans (congrArg (fun x => some x.completionTimeoutMs) made)
  · exact hsize.trans (congrArg (fun x => some x.batchSize) made)
  · exact hinterval.trans (congrArg (fun x => some x.flushIntervalMs) made)
  · exact hlimit.trans (congrArg (fun x => some x.maxQueueSize) made)
  · exact hlevel.trans (congrArg (fun x => some x.compressionLevel) made)

theorem storageFields_read (h : Config.readStorage (root.sectionAt "storage") = some c.storage) :
    ∀ F ∈ storageFields, F.readHeld (F.heldIn? root) = some (F.get c) := by
  simp only [Config.readStorage, Option.bind_eq_bind, Option.pure_def, Option.bind_eq_some_iff,
    Option.some.injEq] at h
  obtain ⟨fields, there, base, hbase, db, hdb, events, hevents, made⟩ := h
  rw [Config.fieldOr_heldAt there rfl] at hbase hdb hevents
  simp only [storageFields, List.forall_mem_cons]
  refine ⟨?_, ?_, ?_, List.forall_mem_nil _⟩
  · exact hbase.trans (congrArg (fun x => some x.baseDir) made)
  · exact hdb.trans (congrArg (fun x => some x.dbName) made)
  · exact hevents.trans (congrArg (fun x => some x.eventsDir) made)

theorem identityFields_read (h : Config.readIdentity (root.sectionAt "identity") = some c.identity) :
    ∀ F ∈ identityFields, F.readHeld (F.heldIn? root) = some (F.get c) := by
  simp only [Config.readIdentity, Option.bind_eq_bind, Option.pure_def, Option.bind_eq_some_iff,
    Option.some.injEq] at h
  obtain ⟨fields, there, capacity, hcapacity, types, htypes, made⟩ := h
  rw [Config.fieldOr_heldAt there rfl] at hcapacity htypes
  simp only [identityFields, List.forall_mem_cons]
  refine ⟨?_, ?_, List.forall_mem_nil _⟩
  · exact hcapacity.trans (congrArg (fun x => some x.capacity) made)
  · exact htypes.trans (congrArg (fun x => some x.typeCacheCapacity) made)

theorem extraPrefixes_read (h : Config.readExclusion (root.sectionAt "exclusion") = some c.exclusion) :
    extraPrefixes.readHeld (extraPrefixes.heldIn? root) = some (extraPrefixes.get c) := by
  simp only [Config.readExclusion, Option.bind_eq_bind, Option.pure_def, Option.bind_eq_some_iff,
    Option.some.injEq] at h
  obtain ⟨fields, there, prefixes, hprefixes, made⟩ := h
  rw [Config.fieldOr_heldAt there rfl] at hprefixes
  exact hprefixes.trans (congrArg (fun x => some x.extraPrefixes) made)

theorem loggingFields_read (h : Config.readLogging (root.sectionAt "logging") = some c.logging) :
    ∀ F ∈ loggingFields, F.readHeld (F.heldIn? root) = some (F.get c) := by
  simp only [Config.readLogging, Option.bind_eq_bind, Option.pure_def, Option.bind_eq_some_iff,
    Option.some.injEq] at h
  obtain ⟨fields, there, level, hlevel, format, hformat, made⟩ := h
  rw [Config.fieldOr_heldAt there rfl] at hlevel hformat
  simp only [loggingFields, List.forall_mem_cons]
  refine ⟨?_, ?_, List.forall_mem_nil _⟩
  · exact hlevel.trans (congrArg (fun x => some x.level) made)
  · exact hformat.trans (congrArg (fun x => some x.format) made)

/-- **Every field is read** from what the settings hold for it, or has its default. -/
theorem all_read (table : root.isTable = true) (h : Config.ofSettings? root = some c) :
    ∀ F ∈ all, F.readHeld (F.heldIn? root) = some (F.get c) := by
  obtain ⟨capture, recording, storage, identity, exclusion, logging⟩ :=
    (Config.ofSettings?_eq_some_iff table).mp h
  simp only [all, List.forall_mem_append]
  refine ⟨⟨⟨⟨⟨?_, ?_⟩, ?_⟩, ?_⟩, ?_⟩, ?_⟩
  · exact captureFields_read capture
  · exact recordingFields_read recording
  · exact storageFields_read storage
  · exact identityFields_read identity
  · exact List.forall_mem_singleton.mpr (extraPrefixes_read exclusion)
  · exact loggingFields_read logging

/-- **The defaults**, read as settings, are the defaults. -/
theorem standardSettings_read : Config.ofSettings? Config.standardSettings = some {} :=
  (Config.ofSettings?_eq_some_iff rfl).mpr ⟨rfl, rfl, rfl, rfl, rfl, rfl⟩

/-! ## Names -/

/-- The key of the field among settings. -/
def key (F : ConfigField) : String := F.sectionName ++ "." ++ F.name

/-- The name of the variable for the field, in lower case. -/
def variableName (F : ConfigField) : String := "probelog__" ++ F.sectionName ++ "__" ++ F.name

/-- The key of a field leads to it. -/
theorem target_key : ∀ F ∈ all, Setting.target F.key = (F.sectionName, [.field F.name]) := by
  decide +kernel

theorem lowered_name : ∀ F ∈ all, Setting.lowered F.name = F.name := by decide +kernel

theorem lowered_variableName : ∀ F ∈ all, Setting.lowered F.variableName = F.variableName := by
  decide +kernel

theorem key?_variableName : ∀ F ∈ all, Environment.key? F.variableName = some F.key := by decide +kernel

/-- **The variable of a field** means its key, whatever the case of the letters. -/
theorem key?_of_lowered {F : ConfigField} (mem : F ∈ all) {name : String}
    (h : Setting.lowered name = F.variableName) : Environment.key? name = some F.key := by
  rw [← key?_variableName F mem, Environment.key?, Environment.key?, h, lowered_variableName F mem]

end ConfigField
end ProbeRecorder
