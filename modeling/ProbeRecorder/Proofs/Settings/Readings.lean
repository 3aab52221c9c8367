import ProbeRecorder.Proofs.Settings.Writing
import ProbeRecorder.Settings.Environment

/-!
# `ProbeRecorder.Proofs.Settings.Readings` — what becomes of the text of a variable

A text that reads as a truth value or as a number is taken for one, and written out again where a text is
wanted. What is written out need not be what was read.

## Contents
- **Scalars.** `Environment.scalar?`, what a text reads as; the value of a variable by cases
  (`Environment.value_of_scalar`, `Environment.value_text`, `Environment.value_list`).
- **Arrival.** `Environment.arriving`, the text that comes out, and the texts for which it is the one that
  went in (`Environment.Verbatim`, `Environment.arriving_eq_iff`).
- **Other characters.** A character that no number has (`Environment.scalar?_of_mem`).
- **Lists.** Texts that were joined by commas come back (`Environment.value_joined`), but for a single one
  that is taken for something else (`Environment.Mistaken`).
-/

namespace ProbeRecorder.Environment

open Setting (lowered)

/-! ## Scalars -/

/-- **What a text reads as**, when it is a truth value or a number. -/
def scalar? (text : String) : Option Setting :=
  if lowered text = "true" then some (.bool true)
  else if lowered text = "false" then some (.bool false)
  else match Number.plainInt? text.toList with
    | some n => some (.int n)
    | none => (Number.plainDouble? text.toList).map .float

/-- The parts of a text between its commas. -/
def parts (text : String) : List String := (text.toList.splitOn ',').map String.ofList

theorem value_eq (key text : String) :
    value key text =
      (scalar? text).getD (if key = listKey then .list ((parts text).map .text) else .text text) := by
  rw [value, scalar?, parts, List.map_map]
  by_cases true : lowered text = "true"
  · rw [if_pos true, if_pos true, Option.getD_some]
  by_cases false : lowered text = "false"
  · rw [if_neg true, if_neg true, if_pos false, if_pos false, Option.getD_some]
  rw [if_neg true, if_neg true, if_neg false, if_neg false]
  cases Number.plainInt? text.toList with
  | some n => rfl
  | none =>
      cases Number.plainDouble? text.toList with
      | some bits => rfl
      | none => rfl

theorem value_of_scalar {text : String} {s : Setting} (h : scalar? text = some s) (key : String) :
    value key text = s := by
  rw [value_eq, h, Option.getD_some]

theorem value_text {key text : String} (h : scalar? text = none) (other : key ≠ listKey) :
    value key text = .text text := by
  rw [value_eq, h, Option.getD_none, if_neg other]

theorem value_list {text : String} (h : scalar? text = none) :
    value listKey text = .list ((parts text).map .text) := by
  rw [value_eq, h, Option.getD_none, if_pos rfl]

/-- A scalar is one of four kinds. -/
theorem scalar?_cases {text : String} {s : Setting} (h : scalar? text = some s) :
    s = .bool true ∨ s = .bool false ∨ (∃ n, s = .int n) ∨ ∃ bits, s = .float bits := by
  rw [scalar?] at h
  split at h
  · exact .inl (Option.some.inj h).symm
  · split at h
    · exact .inr (.inl (Option.some.inj h).symm)
    · split at h
      · exact .inr (.inr (.inl ⟨_, (Option.some.inj h).symm⟩))
      · obtain ⟨bits, -, made⟩ := Option.map_eq_some_iff.mp h
        exact .inr (.inr (.inr ⟨bits, made.symm⟩))

/-- The value of a variable is no table. -/
theorem isTable_value (key text : String) : (value key text).isTable = false := by
  cases h : scalar? text with
  | none =>
      by_cases listed : key = listKey
      · rw [listed, value_list h]
        rfl
      · rw [value_text h listed]
        rfl
  | some s =>
      rw [value_of_scalar h]
      rcases scalar?_cases h with rfl | rfl | ⟨n, rfl⟩ | ⟨bits, rfl⟩ <;> rfl

/-! ## Arrival -/

/-- A number in double precision, written out. -/
def decimal (bits : UInt64) : String :=
  String.ofList (Number.plainLayout.writeBits Number.binary64 bits.toNat)

/-- **The text that arrives** where a text is wanted. -/
def arriving (text : String) : String := ((scalar? text).bind Setting.asText?).getD text

/-- **A text arrives** where one is wanted, though it may be another one. -/
theorem asText?_value {key : String} (other : key ≠ listKey) (text : String) :
    (value key text).asText? = some (arriving text) := by
  cases h : scalar? text with
  | none =>
      rw [value_text h other, arriving, h]
      rfl
  | some s =>
      rw [value_of_scalar h, arriving, h]
      rcases scalar?_cases h with rfl | rfl | ⟨n, rfl⟩ | ⟨bits, rfl⟩ <;> rfl

/-- **The texts that are written out as they were read**: truth values in lower case, whole numbers and
    others in the form in which they are written, and all texts that read as neither. -/
structure Verbatim (text : String) : Prop where
  truth : lowered text = "true" → text = "true"
  falsity : lowered text = "false" → text = "false"
  whole : ∀ n, Number.plainInt? text.toList = some n → text = toString n
  real : Number.plainInt? text.toList = none → ∀ bits, Number.plainDouble? text.toList = some bits →
    text = decimal bits

theorem verbatim_true : Verbatim "true" where
  truth _ := rfl
  falsity h := absurd h (by decide)
  whole n h := nomatch (show Number.plainInt? "true".toList = none from rfl) ▸ h
  real _ bits h := nomatch (show Number.plainDouble? "true".toList = none from rfl) ▸ h

theorem verbatim_false : Verbatim "false" where
  truth h := absurd h (by decide)
  falsity _ := rfl
  whole n h := nomatch (show Number.plainInt? "false".toList = none from rfl) ▸ h
  real _ bits h := nomatch (show Number.plainDouble? "false".toList = none from rfl) ▸ h

/-- **A text arrives unchanged** exactly when it is one of those. -/
theorem arriving_eq_iff (text : String) : arriving text = text ↔ Verbatim text := by
  -- By what the text reads as, in the order in which it is tried.
  by_cases truth : lowered text = "true"
  · have arrives : arriving text = "true" := by rw [arriving, scalar?, if_pos truth]; rfl
    rw [arrives]
    exact ⟨fun same => same ▸ verbatim_true, fun verbatim => (verbatim.truth truth).symm⟩
  by_cases falsity : lowered text = "false"
  · have arrives : arriving text = "false" := by rw [arriving, scalar?, if_neg truth, if_pos falsity]; rfl
    rw [arrives]
    exact ⟨fun same => same ▸ verbatim_false, fun verbatim => (verbatim.falsity falsity).symm⟩
  cases whole : Number.plainInt? text.toList with
  | some n =>
      have arrives : arriving text = toString n := by
        rw [arriving, scalar?, if_neg truth, if_neg falsity, whole]; rfl
      rw [arrives]
      constructor
      · intro same
        refine ⟨fun h => absurd h truth, fun h => absurd h falsity, ?_, fun none => ?_⟩
        · intro m isInt
          rw [← Option.some.inj (whole.symm.trans isInt), same]
        · exact nomatch whole.symm.trans none
      · intro verbatim
        exact (verbatim.whole n whole).symm
  | none =>
      cases real : Number.plainDouble? text.toList with
      | some bits =>
          have arrives : arriving text = decimal bits := by
            rw [arriving, scalar?, if_neg truth, if_neg falsity, whole, real]; rfl
          rw [arrives]
          constructor
          · intro same
            refine ⟨fun h => absurd h truth, fun h => absurd h falsity, ?_, fun _ bits' isReal => ?_⟩
            · intro m isInt
              exact nomatch whole.symm.trans isInt
            · rw [← Option.some.inj (real.symm.trans isReal), same]
          · intro verbatim
            exact (verbatim.real whole bits real).symm
      | none =>
          have arrives : arriving text = text := by
            rw [arriving, scalar?, if_neg truth, if_neg falsity, whole, real]; rfl
          refine ⟨fun _ => ⟨fun h => absurd h truth, fun h => absurd h falsity, ?_, ?_⟩, fun _ => arrives⟩
          · intro m isInt
            exact nomatch whole.symm.trans isInt
          · intro _ bits isReal
            exact nomatch real.symm.trans isReal

/-! ## Other characters -/

/-- Characters of which no truth value and no number is made. -/
def isForeign (c : Char) : Bool := !(c.isAlphanum || c == '.' || c == '+' || c == '-')

variable {c : Char} {s : List Char}

/-- None of them is a letter or a digit. -/
theorem not_isAlphanum_of_isForeign (foreign : isForeign c = true) :
    (c.isUpper || c.isLower || c.isDigit) = false := by
  have outside : (c.isAlphanum || c == '.' || c == '+' || c == '-') = false := by
    rwa [isForeign, Bool.not_eq_true'] at foreign
  simp only [Bool.or_eq_false_iff] at outside
  exact outside.1.1.1

theorem toLower_of_isForeign (foreign : isForeign c = true) : c.toLower = c := by
  have notUpper : c.isUpper = false := by
    have plain := not_isAlphanum_of_isForeign foreign
    simp only [Bool.or_eq_false_iff] at plain
    exact plain.1.1
  exact dif_neg (of_decide_eq_false notUpper)

theorem not_isDigit_of_isForeign (foreign : isForeign c = true) : c.isDigit = false :=
  (Bool.or_eq_false_iff.mp (not_isAlphanum_of_isForeign foreign)).2

theorem ne_of_isForeign (foreign : isForeign c = true) {d : Char} (own : isForeign d = false) : c ≠ d := by
  rintro rfl
  rw [own] at foreign
  cases foreign

/-- A word of other letters is not what such a text is in lower case. -/
theorem lowered_ne (foreign : isForeign c = true) {text : String} (mem : c ∈ text.toList) {word : String}
    (own : word.toList.any isForeign = false) : lowered text ≠ word := by
  rintro rfl
  have there : c ∈ (lowered text).toList := by
    rw [lowered, String.toList_ofList, List.mem_map]
    exact ⟨c, mem, toLower_of_isForeign foreign⟩
  exact List.any_eq_false.mp own c there foreign

theorem digits?_of_mem (foreign : isForeign c = true) (mem : c ∈ s) : Number.digits? s = none := by
  have notAll : s.all Char.isDigit = false := by
    rw [List.all_eq_false]
    exact ⟨c, mem, by simp [not_isDigit_of_isForeign foreign]⟩
  rw [Number.digits?, notAll, Bool.not_false, Bool.or_true, if_pos rfl]

theorem looseDigits?_of_mem (foreign : isForeign c = true) (mem : c ∈ s) : Number.looseDigits? s = none := by
  have notEmpty : s.isEmpty = false := by
    cases s with
    | nil => cases mem
    | cons d rest => rfl
  rw [Number.looseDigits?, notEmpty]
  exact digits?_of_mem foreign mem

theorem mem_splitSign (foreign : isForeign c = true) (mem : c ∈ s) : c ∈ (Number.splitSign s).2 := by
  unfold Number.splitSign
  split
  · exact (List.mem_cons.mp mem).resolve_left (ne_of_isForeign foreign rfl)
  · exact (List.mem_cons.mp mem).resolve_left (ne_of_isForeign foreign rfl)
  · exact mem

theorem plainInt?_of_mem (foreign : isForeign c = true) (mem : c ∈ s) : Number.plainInt? s = none := by
  have body := digits?_of_mem foreign (mem_splitSign foreign mem)
  simp only [Number.plainInt?, body, Option.bind_eq_bind, Option.bind_none]

theorem plainExponent?_of_mem (foreign : isForeign c = true) (mem : c ∈ s) :
    Number.plainExponent? s = none := by
  have body := digits?_of_mem foreign (mem_splitSign foreign mem)
  simp only [Number.plainExponent?, body, Option.bind_eq_bind, Option.bind_none]

/-- Past the character where a search ends. -/
theorem mem_drop_dropWhile {p : Char → Bool} (passed : p c = true) (mem : c ∈ s.dropWhile p) :
    c ∈ (s.dropWhile p).drop 1 := by
  induction s with
  | nil => cases mem
  | cons d rest ih =>
      by_cases go : p d = true
      · rw [List.dropWhile_cons_of_pos go] at mem ⊢
        exact ih mem
      · rw [List.dropWhile_cons_of_neg go] at mem ⊢
        exact (List.mem_cons.mp mem).resolve_left fun same => go (same ▸ passed)

/-- Such a character stands on one side of the point or the other. -/
theorem mantissa_of_mem (foreign : isForeign c = true) (mem : c ∈ s) :
    Number.looseDigits? (s.takeWhile (· != '.')) = none ∨
      Number.looseDigits? ((s.dropWhile (· != '.')).drop 1) = none := by
  have notPoint : (c != '.') = true := bne_iff_ne.mpr (ne_of_isForeign foreign rfl)
  rw [← List.takeWhile_append_dropWhile (p := (· != '.')) (l := s), List.mem_append] at mem
  obtain mem | mem := mem
  · exact .inl (looseDigits?_of_mem foreign mem)
  · exact .inr (looseDigits?_of_mem foreign (mem_drop_dropWhile notPoint mem))

theorem plainNumeral?_of_mem (foreign : isForeign c = true) (mem : c ∈ s) (negative : Bool) :
    Number.plainNumeral? negative s = none := by
  have unmarked : (!(c == 'e' || c == 'E')) = true := by
    simp [ne_of_isForeign (d := 'e') foreign rfl, ne_of_isForeign (d := 'E') foreign rfl]
  rw [← List.takeWhile_append_dropWhile (p := fun c => !(c == 'e' || c == 'E')) (l := s),
    List.mem_append] at mem
  simp only [Number.plainNumeral?, Option.bind_eq_bind]
  obtain mem | mem := mem
  · obtain whole | fraction := mantissa_of_mem foreign mem
    · split <;> simp only [whole, Option.bind_none, Option.bind_fun_none]
    · split <;> simp only [fraction, Option.bind_none, Option.bind_fun_none]
  · have inExponent := mem_drop_dropWhile unmarked mem
    split
    · next none => rw [none] at mem; cases mem
    · next mark rest marked =>
        rw [marked, List.drop_one, List.tail_cons] at inExponent
        rw [plainExponent?_of_mem foreign inExponent, Option.map_none, Option.bind_none]

theorem namedDoubles_own :
    Number.namedDoubles.all (fun entry => !entry.1.toList.any isForeign) = true := rfl

theorem plainDouble?_of_mem (foreign : isForeign c = true) (mem : c ∈ s) : Number.plainDouble? s = none := by
  have body := mem_splitSign foreign mem
  have there : c ∈ (String.ofList (Number.splitSign s).2).toList := by
    rw [String.toList_ofList]
    exact body
  have unnamed : Number.namedDoubles.lookup (String.ofList ((Number.splitSign s).2.map Char.toLower)) =
      none := by
    rw [List.lookup_eq_none_iff]
    intro entry named
    have own := List.all_eq_true.mp namedDoubles_own entry named
    rw [Bool.not_eq_true'] at own
    have other := lowered_ne foreign there own
    rw [lowered, String.toList_ofList] at other
    exact bne_iff_ne.mpr other
  simp only [Number.plainDouble?, unnamed, plainNumeral?_of_mem foreign body, Option.map_none]

/-- **A text with such a character** reads as no scalar. -/
theorem scalar?_of_mem (foreign : isForeign c = true) {text : String} (mem : c ∈ text.toList) :
    scalar? text = none := by
  rw [scalar?, if_neg (lowered_ne foreign mem rfl), if_neg (lowered_ne foreign mem rfl),
    plainInt?_of_mem foreign mem, plainDouble?_of_mem foreign mem]
  rfl

/-! ## Lists -/

/-- The parts of a text that was joined from texts without commas. -/
theorem parts_intercalate {texts : List String} (present : texts ≠ [])
    (free : ∀ t ∈ texts, ',' ∉ t.toList) : parts (",".intercalate texts) = texts := by
  have separate : ∀ l ∈ texts.map String.toList, ',' ∉ l := by
    intro l mem
    obtain ⟨t, there, rfl⟩ := List.mem_map.mp mem
    exact free t there
  have split := List.splitOn_intercalate ',' separate (by simpa using present)
  rw [parts, String.toList_intercalate, show ",".toList = [','] from rfl, split, List.map_map]
  exact List.map_id'' (fun t => String.ofList_toList) texts

theorem asTexts?_texts (texts : List String) : (Setting.list (texts.map .text)).asTexts? = some texts := by
  rw [Setting.asTexts?]
  induction texts with
  | nil => rfl
  | cons t rest ih =>
      rw [List.map_cons, List.mapM_cons, ih]
      rfl

/-- **The texts that are mistaken**: a single one that reads as a truth value or a number. -/
def Mistaken (texts : List String) : Prop := ∃ t, texts = [t] ∧ (scalar? t).isSome = true

variable {texts : List String}

/-- **Texts that were joined by commas** come back, unless they are mistaken. -/
theorem value_joined (present : texts ≠ []) (free : ∀ t ∈ texts, ',' ∉ t.toList)
    (clear : ¬Mistaken texts) : value listKey (",".intercalate texts) = .list (texts.map .text) := by
  have noScalar : scalar? (",".intercalate texts) = none := by
    match texts, clear with
    | [], _ => rfl
    | [t], clear =>
        rw [String.intercalate_singleton]
        cases h : scalar? t with
        | none => rfl
        | some s => exact absurd ⟨t, rfl, by rw [h]; rfl⟩ clear
    | t :: u :: rest, _ =>
        refine scalar?_of_mem (c := ',') rfl ?_
        rw [String.intercalate_cons_cons, String.toList_append, String.toList_append]
        simp
  rw [value_list noScalar, parts_intercalate present free]

/-- A text that is mistaken is no list. -/
theorem value_mistaken (h : Mistaken texts) :
    (value listKey (",".intercalate texts)).asTexts? = none := by
  obtain ⟨t, rfl, isScalar⟩ := h
  obtain ⟨s, hs⟩ := Option.isSome_iff_exists.mp isScalar
  rw [String.intercalate_singleton, value_of_scalar hs]
  rcases scalar?_cases hs with rfl | rfl | ⟨n, rfl⟩ | ⟨bits, rfl⟩ <;> rfl

end ProbeRecorder.Environment
