import ProbeRecorder.Config.Basic
import ProbeRecorder.Proofs.Text.Occurs

/-!
# `ProbeRecorder.Proofs.Policy.Derivation` — what a configuration text switches on

Apart from three reserved words, a text is searched for tokens, and each one that occurs anywhere switches its
category on. Tokens consist of capitals, so none is cut by trimming or lies across a comma.

## Contents
- **Tokens.** `Category.OccursIn`, whatever the case of the letters and the white space around the text; in
  longer texts, and in two texts with a comma between them (`occursIn_comma_iff`).
- **Derivation.** `CapturePolicy.Reserved` words; `CapturePolicy.Derives`, of every other text
  (`derives_of_plain`).
- **Union.** `derive_union`, all of this for texts that are put together, and for narrowed policies.
-/

namespace ProbeRecorder

/-! ## Tokens -/

/-- A text as it is searched: without the white space around it, and in upper case. -/
def CapturePolicy.spelled (config : String) : List Char := Text.upcase (Text.trim config.toList)

namespace Category

variable {c : Category} {s : String}

/-- **The token occurs** in a text, whatever the case of its letters. -/
def OccursIn (c : Category) (s : String) : Prop := c.token <:+: Text.upcase s.toList

theorem token_ne_nil (c : Category) : c.token ≠ [] := by cases c <;> decide

/-- The characters of a token are capitals: no white space, no comma, and their own upper case. -/
theorem token_capitals (c : Category) : ∀ ch ∈ c.token,
    Text.isBlank ch = false ∧ ch ≠ ',' ∧ Text.upcaseChar ch = [ch] := by
  have capitals : (c.token.all fun ch =>
      Text.isBlank ch = false ∧ ch ≠ ',' ∧ Text.upcaseChar ch = [ch]) = true := by cases c <;> decide
  intro ch hch
  exact of_decide_eq_true (List.all_eq_true.mp capitals ch hch)

theorem comma_not_mem_token (c : Category) : ',' ∉ c.token := fun h => (c.token_capitals ',' h).2.1 rfl

/-- **Trimming cuts no token.** -/
theorem infix_spelled_iff : c.token <:+: CapturePolicy.spelled s ↔ c.OccursIn s :=
  Text.infix_upcase_trim_iff c.token_ne_nil (fun ch hch => (c.token_capitals ch hch).1) s.toList

theorem occursIn_append (h : c.OccursIn s) (x y : String) : c.OccursIn (x ++ s ++ y) := by
  unfold OccursIn at h ⊢
  rw [String.toList_append, String.toList_append, Text.upcase_append, Text.upcase_append]
  exact h.trans (List.infix_append _ _ _)

theorem upcase_comma (a b : String) :
    Text.upcase (a ++ "," ++ b).toList = Text.upcase a.toList ++ ',' :: Text.upcase b.toList := by
  rw [String.toList_append, String.toList_append, Text.upcase_append, Text.upcase_append,
    List.append_assoc]
  rfl

/-- **No token lies across a comma.** -/
theorem occursIn_comma_iff {a b : String} : c.OccursIn (a ++ "," ++ b) ↔ c.OccursIn a ∨ c.OccursIn b := by
  unfold OccursIn
  rw [upcase_comma]
  exact Text.infix_append_cons_iff c.comma_not_mem_token

end Category

namespace CapturePolicy

variable {s : String} {on : Category → Prop}

/-! ## Derivation -/

/-- **Reserved words** are read as a whole. -/
def Reserved (config : String) : Prop := spelled config ∈ [[], allWord, noneWord]

instance (config : String) : Decidable (Reserved config) :=
  inferInstanceAs (Decidable (spelled config ∈ [[], allWord, noneWord]))

/-- No reserved word has a token in it. -/
theorem not_infix_reserved (c : Category) : ∀ word ∈ [[], allWord, noneWord], ¬ c.token <:+: word := by
  intro word hword h
  have occurs := Text.occurs_iff_infix.mpr h
  revert occurs
  revert word
  cases c <;> decide

theorem not_reserved_of_occursIn {c : Category} (h : c.OccursIn s) : ¬ Reserved s := fun reserved =>
  not_infix_reserved c _ reserved (Category.infix_spelled_iff.mpr h)

theorem not_reserved_comma (a b : String) : ¬ Reserved (a ++ "," ++ b) := by
  intro reserved
  have comma : [','] <:+: spelled (a ++ "," ++ b) := by
    unfold spelled
    rw [Text.infix_upcase_trim_iff (by decide) (List.forall_mem_singleton.mpr (by decide)),
      Category.upcase_comma]
    exact ⟨_, _, by rw [List.append_assoc]; rfl⟩
  have member : ',' ∈ spelled (a ++ "," ++ b) := comma.subset List.mem_cons_self
  unfold Reserved at reserved
  generalize spelled (a ++ "," ++ b) = word at reserved member
  revert member
  revert word
  decide

/-- Other texts are searched for tokens. -/
theorem parse_of_plain (plain : ¬ Reserved s) :
    parse s = ofCategories fun c => Text.occurs c.token (spelled s) := by
  unfold Reserved at plain
  simp only [List.mem_cons, List.not_mem_nil, or_false, not_or] at plain
  obtain ⟨nonempty, notAll, notNone⟩ := plain
  show (if spelled s = allWord then _ else if spelled s = [] then _ else if spelled s = noneWord then _
    else _) = _
  rw [if_neg notAll, if_neg nonempty, if_neg notNone]
  rfl

/-- **A text switches on** the given categories and sets no marker. If there is none, it is refused. -/
structure Derives (config : String) (on : Category → Prop) : Prop where
  accepted : (∃ c, on c) →
    ∃ allows, derive config = .ok (ofCategories allows) ∧ ∀ c, allows c = true ↔ on c
  rejected : derive config = .error (nothingEnabled (quoted config)) ↔ ∀ c, ¬ on c

theorem isValid_ofCategories {allows : Category → Bool} :
    (ofCategories allows).isValid = true ↔ ∃ c, allows c = true := by
  simp [isValid, ofCategories, Category.mem_all]

theorem derives_of_parse {allows : Category → Bool} (parsed : parse s = ofCategories allows)
    (same : ∀ c, allows c = true ↔ on c) : Derives s on := by
  have derived : derive s = if (ofCategories allows).isValid then .ok (ofCategories allows)
      else .error (nothingEnabled (quoted s)) := by
    rw [← parsed]
    rfl
  have valid : (ofCategories allows).isValid = true ↔ ∃ c, on c := by
    rw [isValid_ofCategories]
    exact exists_congr same
  constructor
  · intro some
    exact ⟨allows, by rw [derived, if_pos (valid.mpr some)], same⟩
  · rw [derived, ← not_exists, ← valid]
    split <;> simp_all

/-- **Every text but the reserved words** switches on the categories whose tokens occur in it. -/
theorem derives_of_plain (plain : ¬ Reserved s) : Derives s fun c => c.OccursIn s :=
  derives_of_parse (parse_of_plain plain) fun _ =>
    Text.occurs_iff_infix.trans Category.infix_spelled_iff

/-! ## Union -/

/-- **A longer text** switches nothing off. -/
theorem derive_append {p : CapturePolicy} (plain : ¬ Reserved s) (derived : derive s = .ok p)
    (x y : String) :
    ∃ q, derive (x ++ s ++ y) = .ok q ∧ ∀ c, p.allows c = true → q.allows c = true := by
  have here := derives_of_plain plain
  have found : ∃ c : Category, c.OccursIn s := by
    by_contra none
    have refused := here.rejected.mpr (not_exists.mp none)
    rw [derived] at refused
    cases refused
  obtain ⟨allows, accepted, tokens⟩ := here.accepted found
  obtain rfl := Except.ok.inj (derived.symm.trans accepted)
  obtain ⟨c, hc⟩ := found
  have longer := derives_of_plain (not_reserved_of_occursIn (Category.occursIn_append hc x y))
  obtain ⟨allows', accepted', tokens'⟩ := longer.accepted ⟨c, Category.occursIn_append hc x y⟩
  refine ⟨_, accepted', fun d hd => (tokens' d).mpr ?_⟩
  exact Category.occursIn_append ((tokens d).mp hd) x y

theorem isValid_narrow_onlyEntryExit (p : CapturePolicy) :
    (p.narrow .onlyEntryExit).isValid = (p.disabled || p.allows .exec) := by
  simp [isValid, narrow, Category.all]

/-- Only entry and exit are wanted: the text must switch them on. -/
theorem configured_onlyEntryExit_iff (plain : ¬ Reserved s) :
    (∃ p, configured s .onlyEntryExit = .ok p) ↔ Category.exec.OccursIn s := by
  have here := derives_of_plain plain
  unfold configured
  by_cases found : ∃ c : Category, c.OccursIn s
  · obtain ⟨allows, accepted, tokens⟩ := here.accepted found
    have valid : ((ofCategories allows).narrow .onlyEntryExit).isValid = allows .exec :=
      isValid_narrow_onlyEntryExit _
    rw [accepted, ← tokens]
    show (∃ p, (if ((ofCategories allows).narrow .onlyEntryExit).isValid then _ else _) = Except.ok p) ↔ _
    rw [valid]
    cases allows .exec <;> simp [throw, throwThe, MonadExceptOf.throw, pure, Except.pure]
  · rw [here.rejected.mpr (not_exists.mp found)]
    constructor
    · rintro ⟨_, h⟩
      cases h
    · exact fun h => absurd ⟨_, h⟩ found

/-- **A configuration text is the union of its tokens.** -/
theorem derive_union (plain : ¬ Reserved s) :
    Derives s (fun c => c.OccursIn s) ∧
      (∀ a b, Derives (a ++ "," ++ b) fun c => c.OccursIn a ∨ c.OccursIn b) ∧
      (∀ x y p, derive s = .ok p →
        ∃ q, derive (x ++ s ++ y) = .ok q ∧ ∀ c, p.allows c = true → q.allows c = true) ∧
      ∀ config : Config, (∃ p, { config with capture := ⟨s, .onlyEntryExit⟩ }.capturePolicy = .ok p) ↔
        Category.exec.OccursIn s := by
  refine ⟨derives_of_plain plain, fun a b => ?_, fun x y p derived => derive_append plain derived x y,
    fun _ => configured_onlyEntryExit_iff plain⟩
  have united := derives_of_plain (not_reserved_comma a b)
  simpa only [Category.occursIn_comma_iff] using united

/-- White space, a ligature that is two capitals in upper case, and a token in small letters. -/
def ligatureText : String := "\u2003ﬁeld+exec\n"

theorem derive_union_ligature : ¬ Reserved ligatureText ∧
    ∃ allows, derive ligatureText = .ok (ofCategories allows) ∧ allows .field = true ∧ allows .exec = true ∧
      allows .line = false ∧
      ∃ p, { ({} : Config) with capture := ⟨ligatureText, .onlyEntryExit⟩ }.capturePolicy = .ok p := by
  have plain : ¬ Reserved ligatureText := by decide +kernel
  obtain ⟨derives, -, -, narrowed⟩ := derive_union plain
  have occurs : ∀ c : Category, Text.occurs c.token (Text.upcase ligatureText.toList) =
      decide (c = .field ∨ c = .exec) := by
    intro c
    cases c <;> decide +kernel
  have tokens : ∀ c : Category, c.OccursIn ligatureText ↔ c = .field ∨ c = .exec := by
    intro c
    rw [Category.OccursIn, ← Text.occurs_iff_infix, occurs, decide_eq_true_iff]
  obtain ⟨allows, accepted, switched⟩ := derives.accepted ⟨.exec, (tokens .exec).mpr (.inr rfl)⟩
  refine ⟨plain, allows, accepted, ?_, ?_, ?_, (narrowed {}).mpr ((tokens .exec).mpr (.inr rfl))⟩
  · exact (switched .field).mpr ((tokens .field).mpr (.inl rfl))
  · exact (switched .exec).mpr ((tokens .exec).mpr (.inr rfl))
  · exact Bool.eq_false_iff.mpr fun on => by simpa using (tokens .line).mp ((switched .line).mp on)

end CapturePolicy
end ProbeRecorder
