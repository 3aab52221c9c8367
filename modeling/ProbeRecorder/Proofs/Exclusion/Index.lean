import ProbeRecorder.Exclusion.Index
import ProbeRecorder.Proofs.Exclusion.Trie
import ProbeRecorder.Proofs.TypeName

/-!
# `ProbeRecorder.Proofs.Exclusion.Index` — which types are excluded

An index compares dotted forms: a type is excluded exactly if the dotted form of an added name that is not empty
begins the dotted form of its name. So neither the order nor the spelling of the names matters. What begins a
name as it is written need not begin its dotted form; it does if it ends with an even number of colons.

## Contents
- **Dotted strings.** `dottedName_dottedName` and `dottedName_append`.
- **Names of an index.** `keptPrefixes`; `ExclusionIndex.Names`, kept by `add`, `extend` and `addBuiltin`.
- **Calls.** `ExclusionCall`, `ExclusionIndex.after`, and the names that calls add.
- **Exclusion.** `ExclusionIndex.Decides`, and `ExclusionIndex.after_decides`.
-/

namespace ProbeRecorder

/-! ## Dotted strings -/

@[simp] theorem toList_dottedName (name : String) : (dottedName name).toList = TypeName.dotted name.toList := by
  rw [dottedName, String.toList_ofList]

@[simp] theorem dottedName_dottedName (name : String) : dottedName (dottedName name) = dottedName name := by
  simp [← String.toList_inj]

theorem dottedName_eq_empty_iff {name : String} : dottedName name = "" ↔ name = "" := by
  rw [← String.toList_inj, ← String.toList_inj, toList_dottedName]
  exact TypeName.dotted_eq_nil_iff

theorem dottedName_append {name : String} (even : Even (TypeName.trailingColons name.toList))
    (suffix : String) : dottedName (name ++ suffix) = dottedName name ++ dottedName suffix := by
  rw [← String.toList_inj, String.toList_append, toList_dottedName, toList_dottedName, toList_dottedName,
    String.toList_append, TypeName.dotted_append even]

/-! ## Names of an index -/

/-- **The prefixes that names stand for**: their dotted forms, unless empty. -/
def keptPrefixes (names : List String) : List String := (names.map dottedName).filter (· ≠ "")

theorem mem_keptPrefixes {names : List String} {key : String} :
    key ∈ keptPrefixes names ↔ key ≠ "" ∧ ∃ name ∈ names, dottedName name = key := by
  simp [keptPrefixes, and_comm]

theorem keptPrefixes_append (names more : List String) :
    keptPrefixes (names ++ more) = keptPrefixes names ++ keptPrefixes more := by
  simp [keptPrefixes]

namespace ExclusionIndex

variable {index : ExclusionIndex} {names : List String} {name typeName : String}

/-- **The names that were added** to an index, with repetitions. -/
def Names (index : ExclusionIndex) (names : List String) : Prop :=
  index.trie.HasKeys (keptPrefixes names)

theorem empty_names : empty.Names [] := Trie.empty_hasKeys

theorem Names.add (named : index.Names names) (name : String) : (index.add name).Names (names ++ [name]) := by
  unfold Names ExclusionIndex.add
  rw [keptPrefixes_append]
  by_cases nothing : dottedName name = ""
  · have kept : keptPrefixes [name] = [] := by simp [keptPrefixes, nothing]
    rw [if_pos nothing, kept, List.append_nil]
    exact named
  · have kept : keptPrefixes [name] = [dottedName name] := by simp [keptPrefixes, nothing]
    rw [if_neg nothing, kept]
    exact Trie.HasKeys.insert named _

theorem Names.extend (named : index.Names names) (more : List String) :
    (index.extend more).Names (names ++ more) := by
  induction more generalizing index names with
  | nil =>
      rw [List.append_nil]
      exact named
  | cons name rest ih =>
      have later := ih (named.add name)
      rw [List.append_assoc] at later
      exact later

/-- The built-in list is in dotted form. -/
theorem dottedName_builtin : ∀ name ∈ builtinExclusions, dottedName name = name ∧ name ≠ "" := by
  decide +kernel

theorem extend_of_dotted (index : ExclusionIndex) (dotted : ∀ name ∈ names, dottedName name = name ∧ name ≠ "") :
    index.extend names = ⟨names.foldl (fun trie key => (trie.insert key).2) index.trie⟩ := by
  induction names generalizing index with
  | nil => rfl
  | cons name rest ih =>
      obtain ⟨same, inhabited⟩ := dotted name List.mem_cons_self
      have added : index.add name = ⟨(index.trie.insert name).2⟩ := by
        rw [ExclusionIndex.add, same, if_neg inhabited]
      show (index.add name).extend rest = _
      rw [ih _ fun other h => dotted other (List.mem_cons_of_mem _ h), added]
      rfl

/-- **The built-in list** is added as any other names are. -/
theorem addBuiltin_eq_extend (index : ExclusionIndex) : index.addBuiltin = index.extend builtinExclusions :=
  (extend_of_dotted index dottedName_builtin).symm

end ExclusionIndex

/-! ## Calls -/

/-- **A call that adds names.** -/
inductive ExclusionCall where
  | builtin
  | add (name : String)
  | extend (names : List String)

/-- The names that a call adds. -/
def ExclusionCall.names : ExclusionCall → List String
  | builtin => builtinExclusions
  | add name => [name]
  | extend names => names

/-- The names that calls add, in order. -/
def namesIn (calls : List ExclusionCall) : List String := calls.flatMap ExclusionCall.names

namespace ExclusionIndex

variable {index : ExclusionIndex} {names : List String} {name typeName : String}

/-- **One call.** -/
def serve (index : ExclusionIndex) : ExclusionCall → ExclusionIndex
  | .builtin => index.addBuiltin
  | .add name => index.add name
  | .extend names => index.extend names

/-- **The index after calls.** -/
def after (index : ExclusionIndex) (calls : List ExclusionCall) : ExclusionIndex := calls.foldl serve index

theorem Names.serve (named : index.Names names) (call : ExclusionCall) :
    (index.serve call).Names (names ++ call.names) := by
  cases call with
  | builtin =>
      rw [ExclusionIndex.serve, addBuiltin_eq_extend]
      exact named.extend _
  | add name => exact named.add name
  | extend names => exact named.extend names

theorem Names.after (named : index.Names names) (calls : List ExclusionCall) :
    (index.after calls).Names (names ++ namesIn calls) := by
  induction calls generalizing index names with
  | nil =>
      show index.Names (names ++ [])
      rw [List.append_nil]
      exact named
  | cons call rest ih =>
      have later := ih (named.serve call)
      rw [List.append_assoc] at later
      exact later

/-! ## Exclusion -/

theorem Names.isExcluded_iff (named : index.Names names) :
    index.isExcluded typeName = true ↔
      ∃ key ∈ keptPrefixes names, key.toList <+: TypeName.dotted typeName.toList := by
  rw [ExclusionIndex.isExcluded, Trie.HasKeys.hasPrefixOf named, toList_dottedName]

/-- **An index decides by names** which types are excluded. -/
structure Decides (index : ExclusionIndex) (names : List String) : Prop where
  isExcluded : ∀ typeName, index.isExcluded typeName = true ↔
    ∃ name ∈ names, dottedName name ≠ "" ∧
      TypeName.dotted name.toList <+: TypeName.dotted typeName.toList
  size : index.size = (keptPrefixes names).dedup.length
  /-- The spelling of the type does not matter. -/
  dotted : ∀ typeName, index.isExcluded typeName = index.isExcluded (dottedName typeName)
  /-- A name excludes all that continue it, where its last colon cannot be taken away. -/
  continued : ∀ name ∈ names, name ≠ "" → Even (TypeName.trailingColons name.toList) →
    ∀ rest, index.isExcluded (name ++ rest) = true
  /-- The empty name excludes nothing. -/
  empty : index.add "" = index

theorem Names.decides (named : index.Names names) : index.Decides names where
  isExcluded := by
    intro typeName
    rw [named.isExcluded_iff]
    constructor
    · rintro ⟨key, kept, begins⟩
      obtain ⟨inhabited, name, hname, rfl⟩ := mem_keptPrefixes.mp kept
      rw [toList_dottedName] at begins
      exact ⟨name, hname, inhabited, begins⟩
    · rintro ⟨name, hname, inhabited, begins⟩
      rw [← toList_dottedName] at begins
      exact ⟨_, mem_keptPrefixes.mpr ⟨inhabited, name, hname, rfl⟩, begins⟩
  size := Trie.HasKeys.size named
  dotted := by
    intro typeName
    simp [ExclusionIndex.isExcluded]
  continued := by
    intro name hname inhabited even rest
    have kept : dottedName name ∈ keptPrefixes names :=
      mem_keptPrefixes.mpr ⟨fun h => inhabited (dottedName_eq_empty_iff.mp h), name, hname, rfl⟩
    refine named.isExcluded_iff.mpr ⟨_, kept, ?_⟩
    rw [← toList_dottedName, dottedName_append even, String.toList_append]
    exact List.prefix_append _ _
  empty := by
    rw [ExclusionIndex.add, if_pos (dottedName_eq_empty_iff.mpr rfl)]

/-- **More prefixes** exclude more. -/
theorem Names.isExcluded_mono {other : ExclusionIndex} {others : List String} (named : index.Names names)
    (otherNamed : other.Names others) (more : ∀ key ∈ keptPrefixes names, key ∈ keptPrefixes others)
    (excluded : index.isExcluded typeName = true) : other.isExcluded typeName = true := by
  obtain ⟨key, kept, begins⟩ := named.isExcluded_iff.mp excluded
  exact otherNamed.isExcluded_iff.mpr ⟨key, more key kept, begins⟩

/-- **The same prefixes** exclude the same, and are as many. -/
theorem Names.congr {other : ExclusionIndex} {others : List String} (named : index.Names names)
    (otherNamed : other.Names others) (same : ∀ key, key ∈ keptPrefixes names ↔ key ∈ keptPrefixes others) :
    (∀ typeName, index.isExcluded typeName = other.isExcluded typeName) ∧ index.size = other.size := by
  constructor
  · intro typeName
    rw [← Bool.coe_iff_coe]
    constructor
    · exact named.isExcluded_mono otherNamed fun key => (same key).mp
    · exact otherNamed.isExcluded_mono named fun key => (same key).mpr
  · rw [named.decides.size, otherNamed.decides.size]
    refine List.Perm.length_eq ((List.perm_ext_iff_of_nodup (List.nodup_dedup _) (List.nodup_dedup _)).mpr ?_)
    intro key
    rw [List.mem_dedup, List.mem_dedup, same]

/-- **Exclusion**: after any calls an index decides by the names that they added. It depends on the prefixes that
    these stand for and on nothing else, and more calls never take an exclusion back. -/
theorem after_decides (calls : List ExclusionCall) :
    (empty.after calls).Decides (namesIn calls) ∧
      (∀ others, (∀ key, key ∈ keptPrefixes (namesIn calls) ↔ key ∈ keptPrefixes (namesIn others)) →
        (∀ typeName, (empty.after calls).isExcluded typeName = (empty.after others).isExcluded typeName) ∧
          (empty.after calls).size = (empty.after others).size) ∧
      ∀ more typeName, (empty.after calls).isExcluded typeName = true →
        ((empty.after calls).after more).isExcluded typeName = true := by
  have named := empty_names.after calls
  rw [List.nil_append] at named
  refine ⟨named.decides, fun others same => ?_, fun more typeName excluded => ?_⟩
  · have otherNamed := empty_names.after others
    rw [List.nil_append] at otherNamed
    exact named.congr otherNamed same
  · refine named.isExcluded_mono (named.after more) (fun key kept => ?_) excluded
    rw [keptPrefixes_append]
    exact List.mem_append_left _ kept

/-- A lonely colon at the end of a name is taken away by the colon that follows. -/
example : (empty.add "app:").isExcluded "app:Order" = true ∧
    (empty.add "app:").isExcluded "app::Order" = false ∧
    (empty.add "app::").isExcluded "app::Order" = true := by
  decide +kernel

end ExclusionIndex
end ProbeRecorder
