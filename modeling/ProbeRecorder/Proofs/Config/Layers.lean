import ProbeRecorder.Proofs.Config.Variables
import ProbeRecorder.Proofs.Settings.Underlay

/-!
# `ProbeRecorder.Proofs.Config.Layers` — which source a field comes from

Every field of a configuration that was loaded has the value of its variable, or else that of the file, or
else its default, whatever the other fields are. One thing interferes: a file may give a section as a list,
by place, and a variable for any field of the section makes a table of it, in which the items of the list
are lost.

## Contents
- **File.** `Config.ownSettings`, what a file says by itself; `ConfigField.fileValue?`.
- **Defaults.** A field has its default where the other sources say nothing (`ConfigField.readHeld_given`).
- **Validity.** `Config.Positive`.
- **Layers.** `ConfigField.Lost`, and which source each field comes from (`Config.load_layered`).
- **One section in two forms.** Two short files, read statement by statement (`Toml.readStatements_step`), and
  the field that one of them loses (`Config.baseDir_lost`).
-/

namespace ProbeRecorder

/-! ## File -/

/-- What is given at a place; a table without fields gives nothing. -/
def Setting.given? (held : Option Setting) : Option Setting := if vacant held then none else held

/-- **What a file says by itself**; without a file, nothing. -/
def Config.ownSettings (file : Option (String × String)) : Setting :=
  match fileSettings file with
  | .ok settings => (Setting.table []).layer settings
  | .error _ => .table []

/-- What the file says about the field, by its name or by its place. -/
def ConfigField.fileValue? (F : ConfigField) (file : Option (String × String)) : Option Setting :=
  Setting.given? (F.heldIn? (Config.ownSettings file))

/-! ## Defaults -/

/-- The defaults are tables of scalars. -/
theorem Config.standardSettings_flat : standardSettings.fields.all (fun entry =>
    entry.2.isTable && entry.2.fields.all fun f => f.2.fields.isEmpty && f.2.items.isEmpty) = true := rfl

/-- At first there are the defaults in one tree, and nothing in the other. -/
theorem Config.standardSettings_underlaid (k : String) :
    Setting.Underlaid 1 (standardSettings.field? k) (standardSettings.field? k)
      ((Setting.table []).field? k) := by
  cases h : standardSettings.field? k with
  | none => exact .refl 1 none none
  | some s =>
      have flat := List.all_eq_true.mp standardSettings_flat (k, s) (Setting.mem_of_lookup h)
      rw [Bool.and_eq_true] at flat
      obtain ⟨table, scalars⟩ := flat
      right
      refine ⟨s.fields, [], congrArg some (Setting.eq_table_of_isTable table), rfl, ?_⟩
      intro name
      cases hname : s.fields.lookup name with
      | none => exact .refl 0 _ none
      | some f =>
          have scalar := List.all_eq_true.mp scalars (name, f) (Setting.mem_of_lookup hname)
          rw [Bool.and_eq_true, List.isEmpty_iff, List.isEmpty_iff] at scalar
          exact .inr ⟨f, hname, rfl, scalar.1, scalar.2, rfl⟩

namespace ConfigField

variable {F : ConfigField}

/-- A table without fields is never read, so that it may as well not be there. -/
theorem readHeld_given? {held : Option Setting} {v : F.Value} (read : F.readHeld held = some v) :
    F.readHeld (Setting.given? held) = some v := by
  unfold Setting.given?
  by_cases nothing : Setting.vacant held = true
  · match held, nothing with
    | none, _ => exact read
    | some (.table []), _ => exact nomatch F.read_empty.symm.trans read
  · rw [if_neg nothing]
    exact read

/-- **A default is read as the default.** -/
theorem read_standard (mem : F ∈ all) {s : Setting}
    (h : (Config.standardSettings.field? F.sectionName).bind (·.field? F.name) = some s) :
    F.read s = some F.standard := by
  obtain ⟨s', there, held⟩ := Option.bind_eq_some_iff.mp h
  have read := all_read rfl standardSettings_read F mem
  rw [heldIn?, Setting.sectionAt, there, Option.getD_some, Setting.heldAt?_of_field? held] at read
  exact read

/-- **A field is read from what the sources give**, and is the default where they give nothing. -/
theorem readHeld_underlaid (mem : F ∈ all) {full own : Setting}
    (h : Setting.Underlaid 1 (Config.standardSettings.field? F.sectionName) (full.field? F.sectionName)
      (own.field? F.sectionName))
    {v : F.Value} (read : F.readHeld (F.heldIn? full) = some v) :
    F.readHeld (Setting.given? (F.heldIn? own)) = some v := by
  obtain same | ⟨fs, gs, isTable, ownTable, below⟩ := h
  · rw [heldIn?, Setting.sectionAt, same] at read
    exact readHeld_given? read
  · -- Both sections are tables, and are compared field by field.
    rw [heldIn?, Setting.sectionAt, isTable] at read
    rw [heldIn?, Setting.sectionAt, ownTable]
    obtain same | ⟨s, isStandard, held, -, -, nothing⟩ := below F.name
    · apply readHeld_given?
      exact (congrArg F.readHeld same).symm.trans read
    · have absent : Setting.given? (gs.lookup F.name) = none := if_pos nothing
      have standardRead : F.read s = some v := (congrArg F.readHeld held).symm.trans read
      have isDefault := (read_standard mem isStandard).symm.trans standardRead
      exact (congrArg F.readHeld absent).trans isDefault

end ConfigField

/-! ## Validity -/

/-- **Sizes, capacities and the flush interval are positive.** -/
structure Config.Positive (c : Config) : Prop where
  batchSize : 0 < c.recording.batchSize
  maxQueueSize : 0 < c.recording.maxQueueSize
  flushIntervalMs : 0 < c.recording.flushIntervalMs
  capacity : 0 < c.identity.capacity
  typeCacheCapacity : 0 < c.identity.typeCacheCapacity

theorem Config.positive_of_validate {c : Config} (h : c.validate = .ok ()) : c.Positive := by
  have positive (n : UInt64) (ne : n ≠ 0) : 0 < n := UInt64.pos_iff_ne_zero.mpr ne
  unfold validate at h
  split at h
  · cases h
  split at h
  · cases h
  split at h
  · cases h
  split at h
  · cases h
  next batch limit interval capacities =>
    rw [not_or] at capacities
    exact ⟨positive _ batch, positive _ limit, positive _ interval, positive _ capacities.1,
      positive _ capacities.2⟩

/-- **The switch** has no say but in the mode. -/
theorem Config.applySwitch_eq (c : Config) (switch : Option String) :
    ∃ mode, c.applySwitch switch = { c with recording := { c.recording with mode } } := by
  unfold applySwitch
  split
  · exact ⟨.discard, rfl⟩
  · exact ⟨c.recording.mode, rfl⟩

/-! ## Layers -/

namespace ConfigField

variable {F : ConfigField} {file : Option (String × String)} {environment : List (String × String)}

/-- **The value of the file is lost**: it is given by place, there is a variable for some field of its
    section, and none for the field itself. -/
structure Lost (F : ConfigField) (file : Option (String × String)) (environment : List (String × String)) :
    Prop where
  byPlace : ((Config.ownSettings file).sectionAt F.sectionName).isList = true
  given : (F.fileValue? file).isSome = true
  replaced : sectionGiven F.sectionName environment = true
  absent : F.variableValue? environment = none

theorem not_isTable_of_variableValue? {s : Setting} (h : F.variableValue? environment = some s) :
    s.isTable = false := by
  obtain ⟨v, -, rfl⟩ := Option.map_eq_some_iff.mp h
  exact Environment.isTable_value F.key v.2

/-- What the file and the known variables give for a field. -/
theorem given?_source (mem : F ∈ all) (known : Environment.Known environment)
    (kept : ¬F.Lost file environment) :
    Setting.given?
        (F.heldIn? ((Config.ownSettings file).layer (Environment.source environment))) =
      (F.variableValue? environment).or (F.fileValue? file) := by
  rw [heldIn?_source mem known]
  cases hvalue : F.variableValue? environment with
  | some s =>
      have whole := Setting.vacant_of_not_isTable (not_isTable_of_variableValue? hvalue)
      rw [Option.some_or, Option.some_or, Setting.given?, whole]
      rfl
  | none =>
      rw [Option.none_or, Option.none_or]
      by_cases replaced : sectionGiven F.sectionName environment = true
      · rw [if_pos replaced]
        cases byPlace : ((Config.ownSettings file).sectionAt F.sectionName).isList with
        | false => rw [fileValue?, heldIn?, Setting.heldAt?_of_not_isList byPlace]
        | true =>
            cases given : F.fileValue? file with
            | none => rw [Setting.field?_of_isList byPlace]; rfl
            | some s => exact absurd ⟨byPlace, by rw [given]; rfl, replaced, hvalue⟩ kept
      · rw [if_neg replaced]
        rfl

theorem given?_source_of_lost (mem : F ∈ all) (known : Environment.Known environment)
    (lost : F.Lost file environment) :
    Setting.given?
      (F.heldIn? ((Config.ownSettings file).layer (Environment.source environment))) = none := by
  rw [heldIn?_source mem known, lost.absent, Option.none_or, if_pos lost.replaced,
    Setting.field?_of_isList lost.byPlace]
  rfl

/-- **Every field that was loaded** is read from what the file and the variables give for it. -/
theorem get_of_load {c : Config} (h : Config.load file environment = .ok c) (mem : F ∈ all) :
    F.readHeld (Setting.given?
      (F.heldIn? ((Config.ownSettings file).layer (Environment.source environment)))) = some (F.get c) := by
  obtain ⟨settings, isFile, isConfig, -⟩ := Config.load_eq_ok_iff.mp h
  have read := all_read (Config.isTable_layered settings environment) isConfig F mem
  have inStep := Setting.layer_underlaid Config.standardSettings_underlaid
    (settings ++ Environment.source environment) F.sectionName
  have own : Config.ownSettings file = (Setting.table []).layer settings := by
    rw [Config.ownSettings, isFile]
  rw [own, ← Setting.layer_append]
  exact readHeld_underlaid mem inStep read

end ConfigField

/-- **Where the fields of a configuration come from**: each from its variable, else from the file, else
    from the defaults; and from the defaults when the value of the file is lost. -/
structure Config.Layered (file : Option (String × String)) (environment : List (String × String))
    (c : Config) : Prop where
  layered : ∀ F ∈ ConfigField.all, ¬F.Lost file environment →
    F.readHeld ((F.variableValue? environment).or (F.fileValue? file)) = some (F.get c)
  lost : ∀ F ∈ ConfigField.all, F.Lost file environment → F.get c = F.standard

/-- **Each field comes from one source**, with variables that are known. -/
theorem Config.layered_of_load {file : Option (String × String)} {environment : List (String × String)}
    {c : Config} (known : Environment.Known environment) (loaded : load file environment = .ok c) :
    Layered file environment c where
  layered F mem kept := by
    rw [← ConfigField.given?_source mem known kept]
    exact ConfigField.get_of_load loaded mem
  lost F mem lost := by
    have read := ConfigField.get_of_load loaded mem
    rw [ConfigField.given?_source_of_lost mem known lost] at read
    exact (Option.some.inj read).symm

/-- **Sources that agree on a field** give it the same value, whatever they say about other fields. -/
theorem Config.Layered.get_eq {file file' : Option (String × String)}
    {environment environment' : List (String × String)} {c d : Config} (hc : Layered file environment c)
    (hd : Layered file' environment' d) {F : ConfigField} (mem : F ∈ ConfigField.all)
    (kept : ¬F.Lost file environment) (kept' : ¬F.Lost file' environment')
    (sameVariable : F.variableValue? environment = F.variableValue? environment')
    (sameFile : F.fileValue? file = F.fileValue? file') : F.get c = F.get d := by
  have first := hc.layered F mem kept
  rw [sameVariable, sameFile] at first
  exact Option.some.inj (first.symm.trans (hd.layered F mem kept'))

/-- **A configuration that was loaded** is valid, and the switch has a say in nothing but its mode. With
    known variables each of its fields comes from one source, and it agrees with every other one on the
    fields that the sources agree on, unless a value of the file is lost. -/
theorem Config.load_layered {file : Option (String × String)} {environment : List (String × String)}
    {c : Config} (loaded : load file environment = .ok c) :
    c.Positive ∧
    (∀ switch, ∃ mode, c.applySwitch switch = { c with recording := { c.recording with mode } }) ∧
    (Environment.Known environment → Layered file environment c ∧
      ∀ file' environment' d, Environment.Known environment' → load file' environment' = .ok d →
        ∀ F ∈ ConfigField.all, ¬F.Lost file environment → ¬F.Lost file' environment' →
          F.variableValue? environment = F.variableValue? environment' →
          F.fileValue? file = F.fileValue? file' → F.get c = F.get d) := by
  obtain ⟨-, -, -, valid⟩ := load_eq_ok_iff.mp loaded
  refine ⟨positive_of_validate valid, applySwitch_eq c, fun known => ?_⟩
  have own := layered_of_load known loaded
  refine ⟨own, ?_⟩
  intro file' environment' d known' loaded' F mem kept kept' sameVariable sameFile
  exact own.get_eq (layered_of_load known' loaded') mem kept kept' sameVariable sameFile

/-! ## One section in two forms -/

namespace Toml

/-- **One more statement** of a text. -/
theorem readStatements_step {limit : Nat} {d next : Document} {s start rest : List Char} {statement : Statement}
    (skipped : skipLines s = start) (some : start ≠ []) (reads : readStatement start = .ok (statement, rest))
    (applied : d.apply statement = .ok next) :
    readStatements (limit + 1) d s = readStatements limit next rest := by
  rw [readStatements, skipped]
  cases start with
  | nil => exact absurd rfl some
  | cons c cs => simp only [reads, applied, bind, Except.bind]

/-- The end of a text. -/
theorem readStatements_end {limit : Nat} {d : Document} {s : List Char} (skipped : skipLines s = []) :
    readStatements (limit + 1) d s = .ok d := by
  rw [readStatements, skipped]

/-- A text without a byte order mark is read statement by statement. -/
theorem read_of_statements {text : List Char} {d : Document} {fields : List (String × Setting)}
    (unmarked : text.head? ≠ some '\ufeff') (reads : readStatements (text.length + 1) .empty text = .ok d)
    (holds : Table.setting (.table .header d.fields) = .ok (.table fields)) : read text = .ok fields := by
  unfold read
  split
  · exact absurd rfl unmarked
  · simp only [reads, holds, bind, Except.bind, pure, Except.pure]

end Toml

namespace Config

theorem fileSettings_of_read {name content : String} {fields : List (String × Setting)}
    (reads : Toml.read content.toList = .ok fields) : fileSettings (some (name, content)) = .ok fields := by
  simp only [fileSettings, fileSource, reads]

/-- A file that gives a field of a section by its name. -/
def fileByName : Option (String × String) := some ("probelog.toml", "[storage]\nbase_dir = \"a\"\n")

/-- A file that gives the same field by its place. -/
def fileByPlace : Option (String × String) := some ("probelog.toml", "storage = [\"a\"]\n")

/-- An environment that gives another field of the section. -/
def eventsDirGiven : List (String × String) := [("PROBELOG__STORAGE__EVENTS_DIR", "e")]

theorem fileByName_settings :
    fileSettings fileByName = .ok [("storage", .table [("base_dir", .text "a")])] := by
  -- The header opens a table, and the pair is put into it.
  have header : Toml.Document.empty.apply (.header ("storage", [])) =
      .ok ⟨[("storage", .table .header [])], ["storage"]⟩ := by
    simp [Toml.Document.apply, Toml.Document.empty, Toml.Document.splitPath, Toml.Table.within,
      Toml.Table.addHeader, Toml.Table.put]
  have pair : Toml.Document.apply ⟨[("storage", .table .header [])], ["storage"]⟩
      (.pair ⟨("base_dir", []), .text "a"⟩) =
      .ok ⟨[("storage", .table .header [("base_dir", .value (.text "a"))])], ["storage"]⟩ := by
    simp [Toml.Document.apply, Toml.Table.within, Toml.Table.addPair, Toml.Table.put]
  refine fileSettings_of_read (Toml.read_of_statements
    (d := ⟨[("storage", .table .header [("base_dir", .value (.text "a"))])], ["storage"]⟩) (by decide) ?_ ?_)
  · exact (Toml.readStatements_step rfl (by decide) rfl header).trans
      ((Toml.readStatements_step rfl (by decide) rfl pair).trans (Toml.readStatements_end rfl))
  · simp [Toml.Table.setting, Toml.Table.settings, Toml.Table.disguisedDate?, Toml.Table.dateKey, bind,
      Except.bind, Except.map, pure, Except.pure]

theorem fileByPlace_settings : fileSettings fileByPlace = .ok [("storage", .list [.text "a"])] := by
  have pair : Toml.Document.empty.apply (.pair ⟨("storage", []), .list [.text "a"]⟩) =
      .ok ⟨[("storage", .value (.list [.text "a"]))], []⟩ := by
    simp [Toml.Document.apply, Toml.Document.empty, Toml.Table.within, Toml.Table.addPair, Toml.Table.put]
  refine fileSettings_of_read (Toml.read_of_statements (by decide)
    ((Toml.readStatements_step rfl (by decide) rfl pair).trans (Toml.readStatements_end rfl)) ?_)
  simp [Toml.Table.setting, Toml.Table.settings, Toml.Table.disguisedDate?, Toml.Table.dateKey, bind,
    Except.bind, Except.map, pure, Except.pure]

theorem eventsDirGiven_source :
    Environment.source eventsDirGiven = [("storage.events_dir", .text "e")] := rfl

theorem eventsDirGiven_known : Environment.Known eventsDirGiven where
  field v mem _ := by
    obtain rfl := List.mem_singleton.mp mem
    exact ⟨TextField.eventsDir.field, ConfigField.field_mem_all _ (by simp [TextField.all]), by decide⟩
  distinct := List.pairwise_singleton _ _

theorem none_known : Environment.Known [] where
  field v mem := by cases mem
  distinct := .nil

theorem target_storage : Setting.target "storage" = ("storage", []) := rfl

theorem target_eventsDir : Setting.target "storage.events_dir" = ("storage", [.field "events_dir"]) :=
  ConfigField.target_key _ (ConfigField.field_mem_all TextField.eventsDir (by simp [TextField.all]))

theorem load_fileByName :
    load fileByName eventsDirGiven = .ok { storage := { baseDir := "a", eventsDir := "e" } } := by
  refine load_eq_ok_iff.mpr ⟨_, fileByName_settings, ?_, rfl⟩
  rw [ofSettings?_eq_some_iff (isTable_layered _ _), layered, eventsDirGiven_source, Setting.layer_append,
    Setting.layer_cons, Setting.layer_cons, Setting.layer_nil, Setting.layer_nil, Setting.write_eq,
    target_eventsDir, Setting.write_eq, target_storage]
  exact ⟨rfl, rfl, rfl, rfl, rfl, rfl⟩

theorem load_fileByPlace : load fileByPlace [] = .ok { storage := { baseDir := "a" } } := by
  refine load_eq_ok_iff.mpr ⟨_, fileByPlace_settings, ?_, rfl⟩
  exact (ofSettings?_eq_some_iff (isTable_layered _ _)).mpr ⟨rfl, rfl, rfl, rfl, rfl, rfl⟩

theorem load_fileByPlace_eventsDirGiven :
    load fileByPlace eventsDirGiven = .ok { storage := { eventsDir := "e" } } := by
  refine load_eq_ok_iff.mpr ⟨_, fileByPlace_settings, ?_, rfl⟩
  rw [ofSettings?_eq_some_iff (isTable_layered _ _), layered, eventsDirGiven_source, Setting.layer_append,
    Setting.layer_cons, Setting.layer_cons, Setting.layer_nil, Setting.layer_nil, Setting.write_eq,
    target_eventsDir, Setting.write_eq, target_storage]
  exact ⟨rfl, rfl, rfl, rfl, rfl, rfl⟩

theorem fileValue?_fileByName :
    TextField.baseDir.field.fileValue? fileByName = some (.text "a") := by
  rw [ConfigField.fileValue?, ownSettings, fileByName_settings]
  rfl

theorem fileValue?_fileByPlace :
    TextField.baseDir.field.fileValue? fileByPlace = some (.text "a") := by
  rw [ConfigField.fileValue?, ownSettings, fileByPlace_settings]
  rfl

/-- By its name, the field of the file stands beside that of the variable; it is the same as by its place
    as long as there is no variable. -/
theorem load_layered_baseDir : ∃ c d, load fileByName eventsDirGiven = .ok c ∧ load fileByPlace [] = .ok d ∧
    c.Positive ∧ Layered fileByName eventsDirGiven c ∧
    TextField.baseDir.field.get c = TextField.baseDir.field.get d ∧
    c.storage = { baseDir := "a", eventsDir := "e" } := by
  obtain ⟨positive, -, whenKnown⟩ := load_layered load_fileByName
  obtain ⟨layered, agrees⟩ := whenKnown eventsDirGiven_known
  refine ⟨_, _, load_fileByName, load_fileByPlace, positive, layered, ?_, rfl⟩
  apply agrees fileByPlace [] _ none_known load_fileByPlace
  · exact ConfigField.field_mem_all _ (by simp [TextField.all])
  · intro lost
    have byPlace := lost.byPlace
    rw [ownSettings, fileByName_settings] at byPlace
    cases byPlace
  · intro lost
    cases lost.replaced
  · rfl
  · exact fileValue?_fileByName.trans fileValue?_fileByPlace.symm

/-- By its place, it is lost to a variable for another field of the section. -/
theorem baseDir_lost : ∃ c d, load fileByPlace [] = .ok c ∧ load fileByPlace eventsDirGiven = .ok d ∧
    Environment.Known [] ∧ Environment.Known eventsDirGiven ∧
    TextField.baseDir.field.variableValue? [] = none ∧
    TextField.baseDir.field.variableValue? eventsDirGiven = none ∧
    c.storage.baseDir = "a" ∧ d.storage.baseDir = ".probelog" :=
  ⟨_, _, load_fileByPlace, load_fileByPlace_eventsDirGiven, none_known, eventsDirGiven_known, rfl, rfl,
    rfl, rfl⟩

end Config
end ProbeRecorder
