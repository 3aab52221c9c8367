import ProbeRecorder.Proofs.Config.Variables

/-!
# `ProbeRecorder.Proofs.Config.Texts` — texts that come from variables

A setting that is a text gets the text of its variable, unless that reads as a truth value or a number in
another form than it is written in. Texts for a list are joined by commas, and come back one by one, unless
there is a single one that reads as a truth value or a number; then nothing is loaded at all.

## Contents
- **Single texts.** `TextField.get_eq_arriving`.
- **Lists of texts.** What a list in a variable changes (`Config.load_joined`), and that a list that is
  mistaken is not loaded (`ConfigField.not_mistaken_of_load`).
- **Texts.** `Config.load_texts`.
-/

namespace ProbeRecorder

open Environment (Gives Mistaken Spares Verbatim arriving key? listKey source value)

variable {file : Option (String × String)} {environment : List (String × String)} {c : Config}

/-- **A field that is given** has its value from there. -/
theorem ConfigField.read_of_gives {F : ConfigField} (mem : F ∈ all) {text : String}
    (gives : Gives environment F text) (loaded : Config.load file environment = .ok c) :
    F.read (value F.key text) = some (F.get c) := by
  obtain ⟨settings, -, isConfig, -⟩ := Config.load_eq_ok_iff.mp loaded
  have read := all_read (Config.isTable_layered settings environment) isConfig F mem
  rw [Config.layered_eq, heldIn?_of_gives mem gives] at read
  exact read

/-! ## Single texts -/

namespace TextField

theorem key_ne_listKey : ∀ F ∈ all, F.field.key ≠ listKey := by decide

/-- **A text that is given** arrives. -/
theorem get_eq_arriving {F : TextField} (mem : F ∈ all) {text : String}
    (gives : Gives environment F.field text) (loaded : Config.load file environment = .ok c) :
    F.get c = arriving text := by
  have read := ConfigField.read_of_gives (ConfigField.field_mem_all F mem) gives loaded
  exact Option.some.inj (read.symm.trans (Environment.asText?_value (key_ne_listKey F mem) text))

end TextField

/-! ## Lists of texts -/

variable {texts : List String}

namespace ConfigField

theorem key_extraPrefixes : extraPrefixes.key = listKey := rfl

/-- **Texts that are given, joined by commas**, come back. -/
theorem get_eq_texts (present : texts ≠ []) (free : ∀ t ∈ texts, ',' ∉ t.toList) (clear : ¬Mistaken texts)
    (gives : Gives environment extraPrefixes (",".intercalate texts))
    (loaded : Config.load file environment = .ok c) : c.exclusion.extraPrefixes = texts := by
  have read := read_of_gives extraPrefixes_mem_all gives loaded
  rw [key_extraPrefixes, Environment.value_joined present free clear] at read
  exact Option.some.inj (read.symm.trans (Environment.asTexts?_texts texts))

/-- **Nothing is loaded** with texts that are mistaken. -/
theorem not_mistaken_of_load (gives : Gives environment extraPrefixes (",".intercalate texts))
    (loaded : Config.load file environment = .ok c) : ¬Mistaken texts := by
  intro mistaken
  have read := read_of_gives extraPrefixes_mem_all gives loaded
  rw [key_extraPrefixes] at read
  exact nomatch (Environment.value_mistaken mistaken).symm.trans read

end ConfigField

/-- What a later source does to a field of the root depends on that field alone. -/
theorem Setting.field?_layer_congr {t u : Setting} {k : String} (same : t.field? k = u.field? k)
    (later : List (String × Setting)) : (t.layer later).field? k = (u.layer later).field? k := by
  induction later generalizing t u with
  | nil => exact same
  | cons entry rest ih =>
      rw [layer_cons, layer_cons]
      apply ih
      rw [field?_write, field?_write, same]

namespace Config

variable {before after : List (String × String)} {name : String} {F : ConfigField}

/-- **A variable** leaves the sections of other fields as they are. -/
theorem sectionAt_insert (mem : F ∈ ConfigField.all) (isKey : key? name = some F.key)
    (settings : List (String × Setting)) (before : List (String × String)) (text : String)
    (after : List (String × String)) {sectionName : String} (other : sectionName ≠ F.sectionName) :
    (layered settings (before ++ (name, text) :: after)).sectionAt sectionName =
      (layered settings (before ++ after)).sectionAt sectionName := by
  have without : source (before ++ after) = source before ++ source after := List.filterMap_append
  have leftAlone (root : Setting) :
      (root.write F.key (value F.key text)).field? sectionName = root.field? sectionName := by
    rw [Setting.field?_write, ConfigField.target_key F mem, if_neg other]
  rw [layered_eq, layered_eq, Environment.source_append_cons isKey, without, Setting.layer_append,
    Setting.layer_append, Setting.layer_cons, Setting.sectionAt, Setting.sectionAt,
    Setting.field?_layer_congr (leftAlone _)]

theorem readExclusion_of_isTable {s held : Setting} (table : s.isTable = true)
    (there : s.field? "extra_prefixes" = some held) (read : held.asTexts? = some texts) :
    readExclusion s = some { extraPrefixes := texts } := by
  have fields : sectionFields? ExclusionConfig.fieldNames s =
      some (ExclusionConfig.fieldNames.map fun name => s.fields.lookup name) := by
    rw [Setting.eq_table_of_isTable table]
    rfl
  rw [readExclusion, fields]
  simp only [Option.bind_eq_bind, Option.bind_some, Option.pure_def]
  rw [fieldOr_heldAt fields rfl, Setting.heldAt?_of_isTable table, there]
  simp only [read, Option.bind_some]

/-- **A list of texts in a variable** replaces the one that would be loaded without it, and changes nothing
    else. -/
theorem load_joined (present : texts ≠ []) (free : ∀ t ∈ texts, ',' ∉ t.toList) (clear : ¬Mistaken texts)
    (isKey : key? name = some listKey) (spared : Spares after ConfigField.extraPrefixes)
    (loaded : load file (before ++ after) = .ok c) :
    load file (before ++ (name, ",".intercalate texts) :: after) =
      .ok { c with exclusion := { extraPrefixes := texts } } := by
  obtain ⟨settings, isFile, isConfig, valid⟩ := load_eq_ok_iff.mp loaded
  refine load_eq_ok_iff.mpr ⟨settings, isFile, ?_, valid⟩
  have elsewhere (sectionName : String) (other : sectionName ≠ "exclusion") :=
    sectionAt_insert ConfigField.extraPrefixes_mem_all isKey settings before (",".intercalate texts) after
      other
  rw [ofSettings?_eq_some_iff (isTable_layered _ _)] at isConfig ⊢
  obtain ⟨capture, recording, storage, identity, -, logging⟩ := isConfig
  have gives : Gives (before ++ (name, ",".intercalate texts) :: after) ConfigField.extraPrefixes
      (",".intercalate texts) := ⟨before, name, after, rfl, isKey, spared⟩
  have ⟨table, there⟩ := ConfigField.sectionAt_of_gives ConfigField.extraPrefixes_mem_all gives
    (standardSettings.layer settings)
  rw [ConfigField.key_extraPrefixes, Environment.value_joined present free clear] at there
  -- Only one of the sections is not read as before.
  refine ⟨?_, ?_, ?_, ?_, ?_, ?_⟩
  · rw [elsewhere "capture" (by decide)]
    exact capture
  · rw [elsewhere "recording" (by decide)]
    exact recording
  · rw [elsewhere "storage" (by decide)]
    exact storage
  · rw [elsewhere "identity" (by decide)]
    exact identity
  · rw [layered_eq]
    exact readExclusion_of_isTable table there (Environment.asTexts?_texts texts)
  · rw [elsewhere "logging" (by decide)]
    exact logging

/-! ## Texts -/

/-- **Texts from variables.** A text arrives, unchanged exactly when it is written in the form in which it
    is read. Texts without commas, joined by commas, are loaded as they were given, and without a change
    to any other setting, but not if they are mistaken. -/
theorem load_texts (file : Option (String × String)) (before after : List (String × String))
    (name : String) :
    (∀ F ∈ TextField.all, key? name = some F.field.key → Spares after F.field →
      ∀ text c, load file (before ++ (name, text) :: after) = .ok c →
        F.get c = arriving text ∧ (F.get c = text ↔ Verbatim text)) ∧
    (key? name = some listKey → Spares after ConfigField.extraPrefixes →
      ∀ texts, texts ≠ [] → (∀ t ∈ texts, ',' ∉ t.toList) →
        (∀ c, load file (before ++ (name, ",".intercalate texts) :: after) = .ok c →
          ¬Mistaken texts ∧ c.exclusion.extraPrefixes = texts) ∧
        (¬Mistaken texts → ∀ c, load file (before ++ after) = .ok c →
          load file (before ++ (name, ",".intercalate texts) :: after) =
            .ok { c with exclusion := { extraPrefixes := texts } })) := by
  constructor
  · intro F mem isKey spared text c loaded
    have gives : Gives (before ++ (name, text) :: after) F.field text :=
      ⟨before, name, after, rfl, isKey, spared⟩
    have arrives := TextField.get_eq_arriving mem gives loaded
    rw [arrives]
    exact ⟨rfl, Environment.arriving_eq_iff text⟩
  · intro isKey spared texts present free
    constructor
    · intro c loaded
      have gives : Gives (before ++ (name, ",".intercalate texts) :: after) ConfigField.extraPrefixes
          (",".intercalate texts) := ⟨before, name, after, rfl, isKey, spared⟩
      have clear := ConfigField.not_mistaken_of_load gives loaded
      exact ⟨clear, ConfigField.get_eq_texts present free clear gives loaded⟩
    · intro clear c loaded
      exact load_joined present free clear isKey spared loaded

/-! ## Two variables -/

/-- The variable for the name of the database, alone. -/
def dbNameGiven (text : String) : List (String × String) := [("PROBELOG__STORAGE__DB_NAME", text)]

/-- The variable for more types to exclude, alone. -/
def extraPrefixesGiven (text : String) : List (String × String) :=
  [("PROBELOG__EXCLUSION__EXTRA_PREFIXES", text)]

theorem dbName_mem : TextField.dbName ∈ TextField.all := by simp [TextField.all]

theorem key?_dbName : key? "PROBELOG__STORAGE__DB_NAME" = some TextField.dbName.field.key :=
  ConfigField.key?_of_lowered (ConfigField.field_mem_all _ dbName_mem) (by decide)

theorem key?_extraPrefixes : key? "PROBELOG__EXCLUSION__EXTRA_PREFIXES" = some listKey :=
  ConfigField.key?_of_lowered ConfigField.extraPrefixes_mem_all (by decide)

theorem load_nothing : load none [] = .ok {} :=
  load_eq_ok_iff.mpr ⟨[], rfl, ConfigField.standardSettings_read, rfl⟩

/-- The section of the database, when nothing but its name is given. -/
theorem sectionAt_dbNameGiven (text : String) :
    (layered [] (dbNameGiven text)).sectionAt "storage" =
      .table [("base_dir", .text ".probelog"), ("db_name", value TextField.dbName.field.key text),
        ("events_dir", .text "events")] := by
  have one : source (dbNameGiven text) =
      [(TextField.dbName.field.key, value TextField.dbName.field.key text)] :=
    Environment.source_append_cons key?_dbName [] text []
  rw [layered_eq, one, Setting.layer_nil, Setting.layer_cons, Setting.layer_nil]
  refine (ConfigField.sectionAt_write (ConfigField.field_mem_all _ dbName_mem) text standardSettings).trans ?_
  generalize value TextField.dbName.field.key text = v
  rfl

theorem load_dbNameGiven (text : String) :
    load none (dbNameGiven text) = .ok { storage := { dbName := arriving text } } := by
  have elsewhere (sectionName : String) (other : sectionName ≠ "storage") :=
    sectionAt_insert (ConfigField.field_mem_all _ dbName_mem) key?_dbName [] [] text [] other
  have read := Environment.asText?_value (TextField.key_ne_listKey _ dbName_mem) text
  refine load_eq_ok_iff.mpr ⟨[], rfl, ?_, rfl⟩
  rw [ofSettings?_eq_some_iff (isTable_layered _ _)]
  refine ⟨?_, ?_, ?_, ?_, ?_, ?_⟩
  · exact (congrArg readCapture (elsewhere "capture" (by decide))).trans rfl
  · exact (congrArg readRecording (elsewhere "recording" (by decide))).trans rfl
  · rw [sectionAt_dbNameGiven]
    exact congrArg (fun t : Option String => t.bind fun t => some ({ dbName := t } : StorageConfig)) read
  · exact (congrArg readIdentity (elsewhere "identity" (by decide))).trans rfl
  · exact (congrArg readExclusion (elsewhere "exclusion" (by decide))).trans rfl
  · exact (congrArg readLogging (elsewhere "logging" (by decide))).trans rfl

/-- A name with a letter that no number has, and two prefixes. -/
theorem load_texts_unchanged :
    (load none (dbNameGiven "events_2.db") = .ok { storage := { dbName := "events_2.db" } } ∧
      Verbatim "events_2.db") ∧
    load none (extraPrefixesGiven "a.b,c.d") = .ok { exclusion := { extraPrefixes := ["a.b", "c.d"] } } := by
  have arrives : arriving "events_2.db" = "events_2.db" := by
    rw [arriving, Environment.scalar?_of_mem (c := '_') rfl (by decide)]
    rfl
  have loaded := load_dbNameGiven "events_2.db"
  rw [arrives] at loaded
  obtain ⟨-, verbatim⟩ := (load_texts none [] [] "PROBELOG__STORAGE__DB_NAME").1 TextField.dbName dbName_mem
    key?_dbName (Environment.spares_nil _) "events_2.db" _ loaded
  obtain ⟨-, joined⟩ := (load_texts none [] [] "PROBELOG__EXCLUSION__EXTRA_PREFIXES").2
    key?_extraPrefixes (Environment.spares_nil _) ["a.b", "c.d"] (by simp) (by decide)
  have clear : ¬Mistaken ["a.b", "c.d"] := by
    rintro ⟨t, single, -⟩
    cases single
  exact ⟨⟨loaded, verbatim.mp rfl⟩, joined clear {} load_nothing⟩

/-- A name with leading zeros is another one when it arrives, and a prefix that is a number is not
    loaded. -/
theorem numeric_texts_changed :
    (∃ c, load none (dbNameGiven "007") = .ok c ∧ c.storage.dbName = "7") ∧
    ∀ c, load none (extraPrefixesGiven "42") ≠ .ok c := by
  constructor
  · exact ⟨_, load_dbNameGiven "007", by decide⟩
  · intro c loaded
    have gives : Gives (extraPrefixesGiven "42") ConfigField.extraPrefixes (",".intercalate ["42"]) :=
      ⟨[], _, [], rfl, key?_extraPrefixes, Environment.spares_nil _⟩
    exact ConfigField.not_mistaken_of_load gives loaded ⟨"42", rfl, by decide⟩

end Config
end ProbeRecorder
