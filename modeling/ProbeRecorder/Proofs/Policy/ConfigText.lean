import ProbeRecorder.Proofs.Policy.Derivation

/-!
# `ProbeRecorder.Proofs.Policy.ConfigText` — policies written as texts

The text of a policy lists the tokens of its categories, and deriving from it gives these categories back: no
token occurs in another one. The exception is a policy that allows nothing although nobody disabled it. Its
text is empty, and the empty text stands for the standard categories.

## Contents
- **Tokens.** Which ones occur in the text of a policy (`occursIn_tokens_iff`).
- **Narrowed policies.** `CapturePolicy.narrowed` by several levels, and when they are valid
  (`isValid_narrowed_iff`).
- **Reading back.** `CapturePolicy.Reproduces`, of the `written` texts of valid policies and of no others
  (`configText_reproduces`); a policy whose text allows more than it does (`narrowed_text_allows_more`).
-/

namespace ProbeRecorder

/-! ## Tokens -/

/-- **No token occurs in another one.** -/
theorem Category.token_infix_iff {c d : Category} : c.token <:+: d.token ↔ c = d := by
  rw [← Text.occurs_iff_infix]
  cases c <;> cases d <;> decide

namespace CapturePolicy

variable {p q : CapturePolicy} {c : Category} {config : String}

theorem mem_categories : c ∈ p.categories ↔ p.allows c = true := by
  simp [categories, Category.mem_all]

/-- The characters of a text of tokens are capitals and commas. -/
theorem tokens_capitals (p : CapturePolicy) : ∀ ch ∈ p.tokens, Text.upcaseChar ch = [ch] := by
  intro ch hch
  rcases Text.mem_intercalate _ hch with rfl | ⟨part, hpart, hch⟩
  · decide
  · obtain ⟨d, -, rfl⟩ := List.mem_map.mp hpart
    exact (d.token_capitals ch hch).2.2

/-- **The text of a policy** has the tokens of its categories in it, and no others. -/
theorem occursIn_tokens_iff : c.OccursIn (String.ofList p.tokens) ↔ p.allows c = true := by
  unfold Category.OccursIn
  rw [String.toList_ofList, Text.upcase_eq_self p.tokens_capitals, tokens,
    Text.infix_intercalate_iff c.comma_not_mem_token c.token_ne_nil]
  constructor
  · rintro ⟨part, hpart, h⟩
    obtain ⟨d, hd, rfl⟩ := List.mem_map.mp hpart
    rw [Category.token_infix_iff.mp h]
    exact mem_categories.mp hd
  · exact fun h => ⟨c.token, List.mem_map_of_mem (mem_categories.mpr h), List.infix_rfl⟩

/-! ## Narrowed policies -/

/-- **Narrows** a policy to several detail levels, one after the other. -/
def narrowed (p : CapturePolicy) (levels : List DetailLevel) : CapturePolicy := levels.foldl narrow p

theorem isValid_iff : p.isValid = true ↔ p.disabled = true ∨ ∃ c, p.allows c = true := by
  simp [isValid, Category.mem_all]

theorem disabled_narrowed (p : CapturePolicy) (levels : List DetailLevel) :
    (p.narrowed levels).disabled = p.disabled := by
  induction levels generalizing p with
  | nil => rfl
  | cons level rest ih =>
      rw [narrowed, List.foldl_cons]
      refine (ih (p.narrow level)).trans ?_
      cases level <;> rfl

/-- Narrowing keeps all categories, or only entry and exit. -/
theorem allows_narrowed_iff (levels : List DetailLevel) : (p.narrowed levels).allows c = true ↔
    p.allows c = true ∧ (.onlyEntryExit ∈ levels → c = .exec) := by
  induction levels generalizing p with
  | nil => simp [narrowed]
  | cons level rest ih =>
      rw [narrowed, List.foldl_cons]
      refine (ih (p := p.narrow level)).trans ?_
      cases level with
      | normal => simp [narrow]
      | ignoreArrayInitializer => simp [narrow]
      | onlyEntryExit =>
          simp only [narrow, Bool.and_eq_true, decide_eq_true_eq, List.mem_cons, true_or, forall_const]
          constructor
          · exact fun h => ⟨h.1.2, h.1.1⟩
          · exact fun h => ⟨⟨h.2, h.1⟩, fun _ => h.2⟩

/-- What is derived was parsed and found valid. -/
theorem parse_of_derive (derived : derive config = .ok p) : p = parse config ∧ p.isValid = true := by
  unfold derive at derived
  simp only at derived
  split at derived
  · rename_i valid
    obtain rfl := Except.ok.inj derived
    exact ⟨rfl, valid⟩
  · cases derived

/-- A text that disables a policy switches no category on. -/
theorem not_allows_of_disabled (derived : derive config = .ok p)
    (disabled : p.disabled = true) (c : Category) : p.allows c = false := by
  rw [(parse_of_derive derived).1] at disabled ⊢
  unfold parse at disabled ⊢
  simp only at disabled ⊢
  -- Of the four kinds of texts, one disables.
  split_ifs at disabled ⊢
  · cases disabled
  · cases disabled
  · rfl
  · cases disabled

/-- **Narrowing leaves a policy valid**, unless only entry and exit are kept and they were not allowed. -/
theorem isValid_narrowed_iff (derived : derive config = .ok p) (levels : List DetailLevel) :
    (p.narrowed levels).isValid = true ↔
      p.disabled = true ∨ p.allows .exec = true ∨ .onlyEntryExit ∉ levels := by
  rw [isValid_iff, disabled_narrowed]
  simp only [allows_narrowed_iff]
  rcases isValid_iff.mp (parse_of_derive derived).2 with disabled | ⟨c, allowed⟩
  · simp only [disabled, true_or]
  · refine or_congr_right ⟨?_, ?_⟩
    · rintro ⟨d, hd, kept⟩
      by_cases only : .onlyEntryExit ∈ levels
      · exact .inl (kept only ▸ hd)
      · exact .inr only
    · rintro (exec | all)
      · exact ⟨.exec, exec, fun _ => rfl⟩
      · exact ⟨c, allowed, fun only => absurd only all⟩

/-! ## Reading back -/

/-- **Reading the text back** gives the categories of the policy and its marker for disabled ones. -/
def Reproduces (config : String) (q : CapturePolicy) : Prop :=
  ∃ r, derive config = .ok r ∧ (∀ c, r.allows c = q.allows c) ∧ r.disabled = q.disabled

/-- The configuration text of a policy, as it is written to a file. -/
def written (p : CapturePolicy) : String := String.ofList p.configText

theorem derive_standard (blank : spelled config = []) :
    derive config = .ok (ofCategories fun c => standardCategories.contains c) := by
  have parsed : parse config = ofCategories fun c => standardCategories.contains c := by
    show (if spelled config = allWord then _ else if spelled config = [] then _ else _) = _
    rw [blank, if_neg (by decide), if_pos rfl]
  unfold derive
  rw [parsed]
  rfl

/-- A valid policy is found in its text. -/
theorem reproduces_of_isValid (valid : q.isValid = true)
    (marked : q.disabled = true → ∀ c, q.allows c = false) : Reproduces q.written q := by
  cases disabled : q.disabled with
  | true =>
      have text : q.written = String.ofList noneWord := by
        rw [written, configText, if_pos disabled]
      refine ⟨off, ?_, fun c => (marked disabled c).symm, disabled.symm⟩
      rw [text]
      rfl
  | false =>
      have text : q.written = String.ofList q.tokens := by
        rw [written, configText, if_neg (by simp [disabled])]
      obtain ⟨c, hc⟩ := (isValid_iff.mp valid).resolve_left (by simp [disabled])
      have occurs := (occursIn_tokens_iff (p := q) (c := c)).mpr hc
      have derives := derives_of_plain (not_reserved_of_occursIn occurs)
      obtain ⟨allows, accepted, switched⟩ := derives.accepted ⟨c, occurs⟩
      refine ⟨ofCategories allows, text ▸ accepted, fun d => ?_, disabled.symm⟩
      exact Bool.eq_iff_iff.mpr ((switched d).trans occursIn_tokens_iff)

/-- Derived policies are valid, so an invalid one is found in no text. -/
theorem not_reproduces_of_invalid (invalid : ¬ q.isValid = true) (config : String) :
    ¬ Reproduces config q := by
  rintro ⟨r, derived, same, marker⟩
  refine invalid (isValid_iff.mpr ?_)
  rcases isValid_iff.mp (parse_of_derive derived).2 with disabled | ⟨c, hc⟩
  · exact .inl (marker ▸ disabled)
  · exact .inr ⟨c, same c ▸ hc⟩

/-- The text of an invalid policy is empty. -/
theorem written_of_invalid (invalid : ¬ q.isValid = true) : q.written = "" := by
  obtain ⟨enabled, nothing⟩ := not_or.mp (mt isValid_iff.mpr invalid)
  have none : q.categories = [] := List.filter_eq_nil_iff.mpr fun c _ h => nothing ⟨c, h⟩
  rw [written, configText, if_neg enabled, tokens, none]
  rfl

/-- **The text of a narrowed policy** gives the policy back if it is valid, and stands for the standard
    categories if it is not. -/
theorem configText_reproduces (derived : derive config = .ok p) (levels : List DetailLevel) :
    (Reproduces (p.narrowed levels).written (p.narrowed levels) ↔
      p.disabled = true ∨ p.allows .exec = true ∨ .onlyEntryExit ∉ levels) ∧
    ((p.narrowed levels).isValid = false →
      derive (p.narrowed levels).written = .ok (ofCategories fun c => standardCategories.contains c)) := by
  have marked : (p.narrowed levels).disabled = true → ∀ c, (p.narrowed levels).allows c = false := by
    intro disabled c
    rw [disabled_narrowed] at disabled
    have off := not_allows_of_disabled derived disabled c
    exact Bool.eq_false_iff.mpr fun h => by simp [(allows_narrowed_iff levels).mp h |>.1] at off
  refine ⟨?_, fun invalid => ?_⟩
  · rw [← isValid_narrowed_iff derived]
    constructor
    · intro reproduces
      by_contra invalid
      exact not_reproduces_of_invalid invalid _ reproduces
    · exact fun valid => reproduces_of_isValid valid marked
  · rw [written_of_invalid (Bool.eq_false_iff.mp invalid)]
    exact derive_standard (by decide)

/-- Lines are left out, and entry and exit are kept. -/
theorem configText_reproduces_entries : ∃ p, derive "exec+LINE" = .ok p ∧
    Reproduces (p.narrowed [.ignoreArrayInitializer, .onlyEntryExit]).written
      (p.narrowed [.ignoreArrayInitializer, .onlyEntryExit]) := by
  obtain ⟨p, derived, exec⟩ : ∃ p, derive "exec+LINE" = .ok p ∧ p.allows .exec = true :=
    ⟨parse "exec+LINE", by rfl, by decide⟩
  exact ⟨p, derived, (configText_reproduces derived _).1.mpr (.inr (.inl exec))⟩

/-- **A text that allows more.** Calls alone, narrowed to entry and exit, leave nothing; the text of that
    policy is empty and switches the standard categories on. -/
theorem narrowed_text_allows_more : ∃ p q r, derive "CALL" = .ok p ∧ q = p.narrowed [.onlyEntryExit] ∧
    (∀ c, q.allows c = false) ∧ derive q.written = .ok r ∧ r.allows .exec = true ∧
    ¬ Reproduces q.written q := by
  obtain ⟨p, derived, enabled, exec⟩ : ∃ p, derive "CALL" = .ok p ∧ p.disabled = false ∧
      p.allows .exec = false := ⟨parse "CALL", by rfl, by decide, by decide⟩
  have nothing : ∀ c, (p.narrowed [.onlyEntryExit]).allows c = false := by
    intro c
    refine Bool.eq_false_iff.mpr fun h => ?_
    obtain ⟨allowed, only⟩ := (allows_narrowed_iff _).mp h
    rw [only List.mem_cons_self, exec] at allowed
    cases allowed
  have invalid : ¬ (p.narrowed [.onlyEntryExit]).isValid = true := by
    rw [isValid_narrowed_iff derived]
    simp [enabled, exec]
  refine ⟨p, _, ofCategories fun c => standardCategories.contains c, derived, rfl, nothing, ?_, by decide,
    not_reproduces_of_invalid invalid _⟩
  rw [written_of_invalid invalid]
  exact derive_standard (by decide)

end CapturePolicy
end ProbeRecorder
