import ProbeRecorder.Error
import ProbeRecorder.Policy.Category
import ProbeRecorder.Json.Decoder
import ProbeRecorder.Text.Blank
import ProbeRecorder.Text.Occurs
import ProbeRecorder.Text.Upcase

/-!
# `ProbeRecorder.Policy.Capture` — which events are captured

## Contents
- **Policies.** `CapturePolicy`, a set of categories with three markers; `isValid`.
- **Configuration text.** `CapturePolicy.derive` reads one, `configText` writes one.
- **Narrowing.** `CapturePolicy.narrow`.
- **Records.** `toJson`, `decoder`.
-/

namespace ProbeRecorder

/-- **Capture policies.** -/
structure CapturePolicy where
  allows : Category → Bool
  /-- Configured to record nothing. -/
  disabled : Bool
  ignoresArrayInitializer : Bool
  entryExitOnly : Bool

namespace CapturePolicy

/-- Policies are equal when they allow the same categories and carry the same markers. -/
theorem ext {p q : CapturePolicy} (categories : ∀ c, p.allows c = q.allows c)
    (disabled : p.disabled = q.disabled)
    (ignores : p.ignoresArrayInitializer = q.ignoresArrayInitializer)
    (only : p.entryExitOnly = q.entryExitOnly) : p = q := by
  cases p; cases q
  have := funext categories
  simp_all

instance : DecidableEq CapturePolicy := fun p q =>
  if h : (∀ c ∈ Category.all, p.allows c = q.allows c) ∧ p.disabled = q.disabled
      ∧ p.ignoresArrayInitializer = q.ignoresArrayInitializer
      ∧ p.entryExitOnly = q.entryExitOnly then
    isTrue (ext (fun c => h.1 c c.mem_all) h.2.1 h.2.2.1 h.2.2.2)
  else isFalse (by rintro rfl; exact h ⟨fun _ _ => rfl, rfl, rfl, rfl⟩)

/-- The policy that allows the given categories. -/
def ofCategories (allows : Category → Bool) : CapturePolicy := ⟨allows, false, false, false⟩

/-- All flags off: nothing would be recorded, though nobody asked for that. -/
def empty : CapturePolicy := ofCategories fun _ => false

/-- The policy of a recorder that was switched off. -/
def off : CapturePolicy := { empty with disabled := true }

/-- The categories that are on. -/
def categories (p : CapturePolicy) : List Category := Category.all.filter p.allows

/-- **Valid** policies allow something, or are disabled on purpose. -/
def isValid (p : CapturePolicy) : Bool := p.disabled || Category.all.any p.allows

/-- Catch blocks are instrumented whenever something inside methods is. -/
def recordsCatch (p : CapturePolicy) : Bool :=
  p.allows .call || p.allows .field || p.allows .array || p.allows .label || p.allows .sync

/-! ## Configuration text -/

/-- The word for every category. -/
def allWord : List Char := ['A', 'L', 'L']

/-- The word for a disabled policy. -/
def noneWord : List Char := ['N', 'O', 'N', 'E']

/-- What the empty text stands for. -/
def standardCategories : List Category :=
  [.exec, .call, .field, .array, .sync, .object, .parameters]

/-- The policy a configuration text spells, valid or not. White space around it and case do not matter.
    Apart from three words, a category is on when its token occurs anywhere in the text. -/
def parse (config : String) : CapturePolicy :=
  let text := Text.upcase (Text.trim config.toList)
  if text = allWord then ofCategories fun _ => true
  else if text = [] then ofCategories fun c => standardCategories.contains c
  else if text = noneWord then off
  else ofCategories fun c => Text.occurs c.token text

/-- The error of a configuration text that would record nothing. -/
def nothingEnabled (subject : String) : RecorderError :=
  ⟨.policy, subject ++ " enables no event category"⟩

/-- A configuration text as it is shown in messages. -/
def quoted (config : String) : String := "'" ++ config ++ "'"

/-- **Derives a policy** from a configuration text. -/
def derive (config : String) : Except RecorderError CapturePolicy :=
  let p := parse config
  if p.isValid then .ok p else .error (nothingEnabled (quoted config))

/-- Tokens of the categories that are on, with commas between them. -/
def tokens (p : CapturePolicy) : List Char :=
  List.intercalate [','] (p.categories.map Category.token)

/-- **The configuration text** of a policy. -/
def configText (p : CapturePolicy) : List Char := if p.disabled then noneWord else p.tokens

/-- The policy as shown in messages. -/
def display (p : CapturePolicy) : String := "[" ++ String.ofList p.configText ++ "]"

/-! ## Narrowing -/

/-- **Narrows** a policy to a detail level. -/
def narrow (p : CapturePolicy) : DetailLevel → CapturePolicy
  | .normal => p
  | .ignoreArrayInitializer => { p with ignoresArrayInitializer := true }
  | .onlyEntryExit =>
    { p with allows := fun c => c = .exec && p.allows c, entryExitOnly := true }

/-- The policy of a configuration: derived from its text, narrowed, and still recording something. -/
def configured (config : String) (level : DetailLevel) : Except RecorderError CapturePolicy := do
  let p := (← derive config).narrow level
  if p.isValid then return p
  else throw ⟨.policy,
    quoted config ++ " enables no event category at detail level " ++ level.title⟩

/-! ## Records -/

/-- Names of the three markers. -/
def markerNames : List String := ["disabled", "ignore_array_initializer", "entry_exit_only"]

def toJson (p : CapturePolicy) : Json :=
  .obj ((Category.all.map fun c => (c.name, .bool (p.allows c)))
    ++ [("disabled", .bool p.disabled),
        ("ignore_array_initializer", .bool p.ignoresArrayInitializer),
        ("entry_exit_only", .bool p.entryExitOnly)])

/-- Every flag must be given. -/
def decoder : Json.Decoder CapturePolicy := fun depth t => do
  let f ← Json.Decoder.record (Category.all.map Category.name ++ markerNames) depth t
  let flags ← (List.range 10).mapM fun i => f.required i .bool
  let disabled ← f.required 10 .bool
  let ignores ← f.required 11 .bool
  let only ← f.required 12 .bool
  let allowed := (Category.all.zip flags).filter (·.2)
  return ⟨fun c => allowed.any (·.1 = c), disabled, ignores, only⟩

end CapturePolicy
end ProbeRecorder
