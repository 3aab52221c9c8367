import ProbeRecorder.Proofs.Text.Cuts
import ProbeRecorder.Proofs.Text.Occurs
import ProbeRecorder.Proofs.TypeName

/-!
# `ProbeRecorder.Proofs.Identity.TypeKey` — one key for every spelling of a type

The latest instance of a type is kept under the simplified form of its name. Neither the spelling of the name
nor its type arguments have any part in it: the characters at which a name is cut, and the white space that is
trimmed, are no colons, so that no pair of colons lies across a cut, and rewriting the pairs commutes with
everything else that is done to a name.

## Contents
- **Pairs.** The dotted form has none (`not_infix_dotted`).
- **Rewriting.** It commutes with a cut in front of another character than a colon (`dotted_append_of_head`),
  with the words that a name has (`infix_dotted_iff`), with the cut before the type arguments
  (`takeWhile_dotted`) and with trimming (`trim_dotted`), so with all of them (`base_dotted`).
- **Keys.** `IsKey`; a key is its own key (`IsKey.simplify?`), and every key is one (`isKey_of_simplify?`).
- **Names.** Both spellings of a name (`simplify?_dotted`), all arguments of a type
  (`simplify?_arguments`), and both with what is said of keys (`simplify?_canonical`).
-/

namespace ProbeRecorder.TypeName

variable {name word rest key : List Char} {c : Char}

/-! ## Pairs -/

/-- Colons are unpaired exactly if no pair of them stands anywhere. -/
theorem unpaired_iff_free : Unpaired name ↔ ¬ [':', ':'] <:+: name := by
  induction name with
  | nil => simp [Unpaired]
  | cons c rest ih =>
      rw [unpaired_cons, ih, List.infix_cons_iff, not_or]
      refine and_congr_left fun _ => not_congr ?_
      rw [List.cons_prefix_cons, List.singleton_prefix_iff_head?_eq_some, eq_comm (a := c)]

theorem not_infix_dotted (name : List Char) : ¬ [':', ':'] <:+: dotted name :=
  unpaired_iff_free.mp (unpaired_dotted name)

/-! ## Rewriting -/

/-- **Appending** commutes with rewriting if what is appended begins with no colon. -/
theorem dotted_append_of_head (next : rest.head? ≠ some ':') :
    dotted (name ++ rest) = dotted name ++ dotted rest := by
  induction name using dotted_induction with
  | nil => rfl
  | pair name ih => rw [List.cons_append, List.cons_append, dotted_pair, dotted_pair, ih, List.cons_append]
  | single c name apart ih =>
      have apart' : ¬ (c = ':' ∧ (name ++ rest).head? = some ':') := by
        rintro ⟨colon, following⟩
        cases name with
        | nil => exact next following
        | cons d _ => exact apart ⟨colon, following⟩
      rw [List.cons_append, dotted_cons apart', dotted_cons apart, ih, List.cons_append]

/-- A name without colons in front. -/
theorem dotted_append_of_plain (plain : ':' ∉ name) : dotted (name ++ rest) = name ++ dotted rest := by
  induction name with
  | nil => rfl
  | cons c name ih =>
      rw [List.mem_cons, not_or] at plain
      rw [List.cons_append, dotted_cons fun pair => plain.1 pair.1.symm, ih plain.2, List.cons_append]

/-- Names without colons are not rewritten. -/
theorem dotted_eq_self (plain : ':' ∉ name) : dotted name = name := by
  have alone : dotted (name ++ []) = name ++ dotted [] := dotted_append_of_plain plain
  rwa [List.append_nil, dotted_eq_nil_iff.mpr rfl, List.append_nil] at alone

/-- Words without points and colons at the front of a name. -/
theorem prefix_dotted_iff (noPoint : '.' ∉ word) (noColon : ':' ∉ word) :
    word <+: dotted name ↔ word <+: name := by
  induction name using dotted_induction generalizing word with
  | nil => exact Iff.rfl
  | pair rest _ =>
      -- Such a word begins neither with the point nor with the colon, so it is empty.
      rw [dotted_pair]
      cases word with
      | nil => simp
      | cons w word =>
          have point : w ≠ '.' := fun h => noPoint (h ▸ List.mem_cons_self)
          have colon : w ≠ ':' := fun h => noColon (h ▸ List.mem_cons_self)
          simp [List.cons_prefix_cons, point, colon]
  | single c rest apart ih =>
      rw [dotted_cons apart]
      cases word with
      | nil => simp
      | cons w word =>
          rw [List.cons_prefix_cons, List.cons_prefix_cons,
            ih (fun h => noPoint (List.mem_cons_of_mem w h)) fun h => noColon (List.mem_cons_of_mem w h)]

/-- **Words without points and colons** occur in the dotted form exactly if they occur in the name. -/
theorem infix_dotted_iff (present : word ≠ []) (noPoint : '.' ∉ word) (noColon : ':' ∉ word) :
    word <:+: dotted name ↔ word <:+: name := by
  induction name using dotted_induction with
  | nil => exact Iff.rfl
  | pair rest ih =>
      have point := Text.infix_append_iff_right (s := ['.']) (t := dotted rest) present (by simpa using noPoint)
      have colons := Text.infix_append_iff_right (s := [':', ':']) (t := rest) present (by simpa using noColon)
      rw [dotted_pair]
      exact point.trans (ih.trans colons.symm)
  | single c rest apart ih =>
      rw [dotted_cons apart, List.infix_cons_iff, List.infix_cons_iff, ih, ← dotted_cons apart,
        prefix_dotted_iff noPoint noColon]

/-- The cut before the type arguments. -/
theorem takeWhile_dotted (name : List Char) :
    (dotted name).takeWhile (· != '<') = dotted (name.takeWhile (· != '<')) := by
  induction name using dotted_induction with
  | nil => rfl
  | pair rest ih => simpa using ih
  | single c rest apart ih =>
      rw [dotted_cons apart, List.takeWhile_cons, List.takeWhile_cons]
      split
      · have apart' : ¬ (c = ':' ∧ (rest.takeWhile (· != '<')).head? = some ':') := by
          rintro ⟨colon, next⟩
          refine apart ⟨colon, ?_⟩
          cases rest with
          | nil => exact next
          | cons d rest =>
              rw [List.takeWhile_cons] at next
              split at next
              · exact next
              · cases next
        rw [dotted_cons apart', ih]
      · rfl

/-- The last character of a name is the last of its rest, as long as there is a rest. -/
theorem getLast?_cons_iff {d : Char} :
    (d :: rest).getLast? = some c ↔ rest.getLast? = some c ∨ rest = [] ∧ d = c := by
  cases rest <;> simp

/-- The last character of the dotted form is a point, or that of the name. -/
theorem getLast?_dotted (last : (dotted name).getLast? = some c) : c = '.' ∨ name.getLast? = some c := by
  induction name using dotted_induction with
  | nil => exact .inr last
  | pair rest ih =>
      rw [dotted_pair, getLast?_cons_iff] at last
      rcases last with last | ⟨_, point⟩
      · refine (ih last).imp_right fun lastRest => ?_
        exact getLast?_cons_iff.mpr (.inl (getLast?_cons_iff.mpr (.inl lastRest)))
      · exact .inl point.symm
  | single d rest apart ih =>
      rw [dotted_cons apart, getLast?_cons_iff, dotted_eq_nil_iff] at last
      rcases last with last | single
      · exact (ih last).imp_right fun lastRest => getLast?_cons_iff.mpr (.inl lastRest)
      · exact .inr (getLast?_cons_iff.mpr (.inr single))

/-- The first character of the dotted form is a point, or that of the name. -/
theorem head?_dotted_cases (first : (dotted name).head? = some c) : c = '.' ∨ name.head? = some c := by
  induction name using dotted_induction with
  | nil => exact .inr first
  | pair rest _ =>
      rw [dotted_pair] at first
      exact .inl (Option.some.inj first).symm
  | single d rest apart _ =>
      rw [dotted_cons apart] at first
      exact .inr first

theorem isTrimmed_dotted (trimmed : Text.IsTrimmed name) : Text.IsTrimmed (dotted name) := by
  have point : Text.isBlank '.' = false := by decide
  constructor
  · intro c first
    rcases head?_dotted_cases first with rfl | first
    · exact point
    · exact trimmed.1 c first
  · intro c last
    rcases getLast?_dotted last with rfl | last
    · exact point
    · exact trimmed.2 c last

/-- White space has no colons. -/
theorem plain_of_blank (blank : ∀ c ∈ name, Text.isBlank c = true) : ':' ∉ name :=
  fun colon => absurd (blank _ colon) (by decide)

/-- **Trimming** commutes with rewriting. -/
theorem trim_dotted (name : List Char) : Text.trim (dotted name) = dotted (Text.trim name) := by
  obtain ⟨before, after, split, blankBefore, blankAfter⟩ := Text.exists_around_trim name
  have plainAfter := plain_of_blank blankAfter
  have next : after.head? ≠ some ':' := fun h => plainAfter (List.mem_of_mem_head? h)
  have rewritten : dotted name = before ++ dotted (Text.trim name) ++ after := by
    conv_lhs => rw [split]
    rw [List.append_assoc, dotted_append_of_plain (plain_of_blank blankBefore), dotted_append_of_head next,
      dotted_eq_self plainAfter, List.append_assoc]
  rw [rewritten]
  exact Text.trim_around blankBefore (isTrimmed_dotted (Text.isTrimmed_trim name)) blankAfter

theorem base_dotted (name : List Char) : base (dotted name) = dotted (base name) := by
  rw [base, takeWhile_dotted, trim_dotted, base]

/-! ## Keys -/

/-- **The name has no closure mark**, so that it is not the name of an anonymous function. -/
def IsNamed (name : List Char) : Prop := ¬ closureMark <:+: name

theorem simplify?_eq_some_iff :
    simplify? name = some key ↔ IsNamed name ∧ base name ≠ [] ∧ key = dotted (base name) := by
  unfold simplify? IsNamed
  rw [← Text.occurs_iff_infix]
  by_cases anonymous : Text.occurs closureMark name = true
  · simp [anonymous]
  · by_cases empty : base name = []
    · simp [anonymous, empty]
    · simp [anonymous, empty, eq_comm (a := key)]

/-- The closure mark has neither points nor colons, so that rewriting cannot make or break one. -/
theorem isNamed_dotted_iff : IsNamed (dotted name) ↔ IsNamed name :=
  not_congr (infix_dotted_iff (by decide) (by decide) (by decide))

/-- The base is a part of the name. -/
theorem base_infix_name (name : List Char) : base name <:+: name := by
  obtain ⟨before, after, split, _, _⟩ := Text.exists_around_trim (name.takeWhile (· != '<'))
  have inside : base name <:+: name.takeWhile (· != '<') := ⟨before, after, split.symm⟩
  exact inside.trans (List.takeWhile_prefix _).isInfix

/-- A bracket in the dotted form was there before. -/
theorem mem_of_mem_dotted (bracket : '<' ∈ dotted name) : '<' ∈ name := by
  rw [← List.singleton_infix_iff] at bracket ⊢
  exact (infix_dotted_iff (by decide) (by decide) (by decide)).mp bracket

theorem not_mem_base (name : List Char) : '<' ∉ base name := by
  intro bracket
  obtain ⟨before, after, split, _, _⟩ := Text.exists_around_trim (name.takeWhile (· != '<'))
  have cut : '<' ∈ name.takeWhile (· != '<') := by
    rw [split]
    exact List.mem_append_left _ (List.mem_append_right _ bracket)
  exact absurd (List.all_eq_true.mp List.all_takeWhile '<' cut) (by decide)

/-- **A key**: the form in which a name stands for all names of its type. -/
structure IsKey (key : List Char) : Prop where
  inhabited : key ≠ []
  trimmed : Text.IsTrimmed key
  bare : '<' ∉ key
  unpaired : ¬ [':', ':'] <:+: key
  named : IsNamed key

/-- **A key is its own key.** -/
theorem IsKey.simplify? (h : IsKey key) : simplify? key = some key := by
  have whole : base key = key := by
    rw [base, Text.takeWhile_ne_eq_self h.bare, Text.trim_eq_self h.trimmed]
  have same : dotted key = key := dotted_of_unpaired (unpaired_iff_free.mpr h.unpaired)
  exact simplify?_eq_some_iff.mpr ⟨h.named, whole.symm ▸ h.inhabited, by rw [whole, same]⟩

/-- **The simplified form of a name is a key.** -/
theorem isKey_of_simplify? (simplified : TypeName.simplify? name = some key) : IsKey key := by
  obtain ⟨named, inhabited, rfl⟩ := simplify?_eq_some_iff.mp simplified
  constructor
  · exact mt dotted_eq_nil_iff.mp inhabited
  · exact isTrimmed_dotted (Text.isTrimmed_trim _)
  · exact fun bracket => not_mem_base name (mem_of_mem_dotted bracket)
  · exact not_infix_dotted _
  · exact isNamed_dotted_iff.mpr fun mark => named (mark.trans (base_infix_name name))

/-! ## Names -/

/-- **Both spellings** of a name have the same simplified form. -/
theorem simplify?_dotted (name : List Char) : simplify? (dotted name) = simplify? name := by
  refine Option.ext fun key => ?_
  rw [simplify?_eq_some_iff, simplify?_eq_some_iff, base_dotted, isNamed_dotted_iff, Ne, dotted_eq_nil_iff,
    dotted_dotted]

/-- **Type arguments** have no part in the simplified form. -/
theorem simplify?_arguments {arguments : List Char} (bare : '<' ∉ name) (named : IsNamed name)
    (namedArguments : IsNamed arguments) : simplify? (name ++ '<' :: arguments) = simplify? name := by
  have namedAll : IsNamed (name ++ '<' :: arguments) := by
    unfold IsNamed
    rw [Text.infix_append_cons_iff (by decide)]
    exact not_or.mpr ⟨named, namedArguments⟩
  have cut : base (name ++ '<' :: arguments) = base name := by
    rw [base, Text.takeWhile_ne_append_cons bare, base, Text.takeWhile_ne_eq_self bare]
  refine Option.ext fun key => ?_
  rw [simplify?_eq_some_iff, simplify?_eq_some_iff, cut]
  exact and_congr_left' ⟨fun _ => named, fun _ => namedAll⟩

/-- **Names and keys.** Rewriting a name leaves no pair of colons, and is done in one go. The simplified form
    of a name, where it has one, is a key, its own simplified form, and that of the rewritten name. All
    arguments of a type give the key of the type without them. -/
theorem simplify?_canonical :
    (∀ name, ¬ [':', ':'] <:+: dotted name ∧ dotted (dotted name) = dotted name) ∧
      (∀ name key, simplify? name = some key →
        IsKey key ∧ simplify? key = some key ∧ simplify? (dotted name) = some key) ∧
      ∀ name arguments, '<' ∉ name → IsNamed name → IsNamed arguments →
        simplify? (name ++ '<' :: arguments) = simplify? name := by
  refine ⟨fun name => ⟨not_infix_dotted name, dotted_dotted name⟩, ?_, fun _ _ => simplify?_arguments⟩
  intro name key simplified
  have isKey := isKey_of_simplify? simplified
  exact ⟨isKey, isKey.simplify?, (simplify?_dotted name).trans simplified⟩

/-- Three colons, white space around the base, and arguments that have arguments. -/
theorem simplify?_canonical_nested :
    simplify? " app:::Map <K, app::V<T>>".toList = some "app.:Map".toList ∧ IsKey "app.:Map".toList ∧
      simplify? "app.:Map".toList = some "app.:Map".toList ∧
      simplify? (dotted " app:::Map <K, app::V<T>>".toList) = some "app.:Map".toList ∧
      '<' ∉ " app:::Map ".toList ∧ IsNamed " app:::Map ".toList ∧ IsNamed "K, app::V<T>>".toList ∧
      simplify? (" app:::Map ".toList ++ '<' :: "K, app::V<T>>".toList) =
        simplify? " app:::Map ".toList := by
  have simplified : simplify? " app:::Map <K, app::V<T>>".toList = some "app.:Map".toList := by decide
  have named : IsNamed " app:::Map ".toList := by
    rw [IsNamed, ← Text.occurs_iff_infix]
    decide
  have namedArguments : IsNamed "K, app::V<T>>".toList := by
    rw [IsNamed, ← Text.occurs_iff_infix]
    decide
  obtain ⟨_, keys, arguments⟩ := simplify?_canonical
  obtain ⟨isKey, again, spelled⟩ := keys _ _ simplified
  exact ⟨simplified, isKey, again, spelled, by decide, named, namedArguments,
    arguments _ _ (by decide) named namedArguments⟩

end ProbeRecorder.TypeName
