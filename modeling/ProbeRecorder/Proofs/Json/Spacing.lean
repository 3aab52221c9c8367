import ProbeRecorder.Json.Printer
import ProbeRecorder.Proofs.Json.Lexing

/-!
# `ProbeRecorder.Proofs.Json.Spacing` — white space in printed values

Indented text is compact text with white space in it, between tokens only. Compact text has none outside of
its string literals, and no line break anywhere: controls are escaped in literals.

## Contents
- **Removing.** `Json.withoutSpace`, which keeps string literals as they are.
- **Bare text.** `Json.Bare`, text without literals and without white space; numbers are written so.
- **Literals.** `withoutSpace_renderText`.
- **Values.** `withoutSpace_renderPretty` and `newline_not_mem_render`, for every value.
-/

namespace ProbeRecorder.Json

/-! ## Removing -/

/-- Where a reader stands who tells string literals from the text around them. -/
inductive Literal where
  | outside
  | inside
  /-- After a backslash. -/
  | escaped
  deriving DecidableEq, Repr

/-- Where the reader stands after a character. -/
def Literal.next : Literal → Char → Literal
  | outside, c => if c = '"' then inside else outside
  | inside, c => if c = '"' then outside else if c = '\\' then escaped else inside
  | escaped, _ => inside

/-- **The text without white space** outside of string literals. -/
def withoutSpace (l : Literal) : List Char → List Char
  | [] => []
  | c :: rest =>
    if l = .outside ∧ isSpace c = true then withoutSpace l rest else c :: withoutSpace (l.next c) rest

/-- Inside a literal everything is kept. -/
theorem withoutSpace_cons_of_within {l : Literal} (h : l ≠ .outside) (c : Char) (rest : List Char) :
    withoutSpace l (c :: rest) = c :: withoutSpace (l.next c) rest :=
  if_neg fun outside => h outside.1

/-- Outside everything is kept but white space. -/
theorem withoutSpace_cons_of_not_space {c : Char} (h : isSpace c = false) (rest : List Char) :
    withoutSpace .outside (c :: rest) = c :: withoutSpace (Literal.outside.next c) rest :=
  if_neg fun space => by simp [h] at space

/-! ## Bare text -/

/-- **Bare text**: no quote, and no white space. -/
def Bare (s : List Char) : Prop := ∀ c ∈ s, c ≠ '"' ∧ isSpace c = false

-- The instance is named: characters are finitely many, and deciding for all of them would not end.
instance (s : List Char) : Decidable (Bare s) := List.decidableBAll (fun c => c ≠ '"' ∧ isSpace c = false) s

theorem bare_append {s t : List Char} : Bare (s ++ t) ↔ Bare s ∧ Bare t := List.forall_mem_append

theorem bare_cons {c : Char} {s : List Char} : Bare (c :: s) ↔ (c ≠ '"' ∧ isSpace c = false) ∧ Bare s :=
  List.forall_mem_cons

/-- A part of bare text. -/
theorem Bare.of_subset {s t : List Char} (bare : Bare t) (part : s ⊆ t) : Bare s := fun c hc => bare c (part hc)

theorem withoutSpace_of_bare {s : List Char} (bare : Bare s) (rest : List Char) :
    withoutSpace .outside (s ++ rest) = s ++ withoutSpace .outside rest := by
  induction s with
  | nil => rfl
  | cons c s ih =>
      obtain ⟨hquote, hspace⟩ := bare c List.mem_cons_self
      have stays : Literal.outside.next c = .outside := if_neg hquote
      rw [List.cons_append, withoutSpace_cons_of_not_space hspace, stays,
        ih fun d hd => bare d (List.mem_cons_of_mem c hd)]
      rfl

theorem newline_not_mem_of_bare {s : List Char} (bare : Bare s) : '\n' ∉ s :=
  fun h => absurd (bare '\n' h).2 (by decide)

/-! ### Numbers -/

theorem bare_digitChar : ∀ d < 10, Nat.digitChar d ≠ '"' ∧ isSpace (Nat.digitChar d) = false := by decide

theorem bare_decimalDigits (n : Nat) : Bare (Number.decimalDigits n) := by
  intro c hc
  rw [Number.decimalDigits_eq] at hc
  obtain ⟨d, hd, rfl⟩ := List.mem_map.mp hc
  exact bare_digitChar d (Number.digitsOf_lt n d hd)

theorem bare_zeros (n : Nat) : Bare (List.replicate n '0') := by
  intro c hc
  rw [List.eq_of_mem_replicate hc]
  decide

theorem bare_positional (l : Number.Layout) {digits : List Char} (bare : Bare digits) (place : Int) :
    Bare (l.positional digits place) := by
  have ending : Bare (if l.keepsPoint then ['.', '0'] else []) := by
    cases l.keepsPoint <;> decide
  unfold Number.Layout.positional
  cases place with
  | negSucc n =>
      have zeros := bare_append.mpr ⟨bare_zeros n, bare⟩
      exact bare_cons.mpr ⟨by decide, bare_cons.mpr ⟨by decide, zeros⟩⟩
  | ofNat n =>
      simp only
      split
      · exact bare_append.mpr ⟨bare_append.mpr ⟨bare, bare_zeros _⟩, ending⟩
      · exact bare_append.mpr ⟨bare.of_subset (List.take_subset _ _),
          bare_cons.mpr ⟨by decide, bare.of_subset (List.drop_subset _ _)⟩⟩

theorem bare_scientific (l : Number.Layout) {digits : List Char} (bare : Bare digits) (place : Int) :
    Bare (l.scientific digits place) := by
  have sign : Bare (if place < 0 then ['-'] else if l.signsExponent then ['+'] else []) := by
    split
    · decide
    · cases l.signsExponent <;> decide
  have exponent : Bare ('e' :: ((if place < 0 then ['-'] else if l.signsExponent then ['+'] else []) ++
      Number.decimalDigits place.natAbs)) :=
    bare_cons.mpr ⟨by decide, bare_append.mpr ⟨sign, bare_decimalDigits _⟩⟩
  unfold Number.Layout.scientific
  -- A point comes after the first digit if there are more.
  match digits with
  | [] => exact exponent
  | [d] => exact bare_append.mpr ⟨bare, exponent⟩
  | d :: e :: rest =>
      obtain ⟨first, others⟩ := bare_cons.mp bare
      exact bare_append.mpr ⟨bare_cons.mpr ⟨first, bare_cons.mpr ⟨by decide, others⟩⟩, exponent⟩

/-- **Numbers are bare text**, if the names are that stand for values without digits. -/
theorem bare_writeBits {l : Number.Layout} (notANumber : Bare l.notANumber) (infinite : Bare l.infinite)
    (fmt : Number.BinaryFormat) (bits : Nat) : Bare (l.writeBits fmt bits) := by
  have sign : Bare (if fmt.isNegative bits then ['-'] else []) := by
    split <;> decide
  have write : ∀ d, Bare (l.write d) := by
    intro d
    have digits := bare_decimalDigits d.coefficient
    unfold Number.Layout.write
    simp only
    split
    · exact bare_positional l digits _
    · split
      · exact bare_positional l digits _
      · exact bare_scientific l digits _
  unfold Number.Layout.writeBits
  simp only
  split
  · exact notANumber
  · split
    · exact bare_append.mpr ⟨sign, write _⟩
    · split
      · exact infinite
      · exact bare_append.mpr ⟨sign, infinite⟩

theorem bare_renderInt (n : Int) : Bare (renderInt n) := by
  cases n with
  | ofNat n => exact bare_decimalDigits n
  | negSucc n => exact bare_cons.mpr ⟨by decide, bare_decimalDigits (n + 1)⟩

/-! ## Literals -/

theorem within_hexDigit : ∀ d < 16, Literal.inside.next (Nat.digitChar d) = .inside := by decide

/-- **A character of a literal** is kept as it is written. -/
theorem withoutSpace_escapeChar (c : Char) (rest : List Char) :
    withoutSpace .inside (escapeChar c ++ rest) = escapeChar c ++ withoutSpace .inside rest := by
  have keep : ∀ {l : Literal}, l ≠ .outside → ∀ (d : Char) (s : List Char),
      withoutSpace l (d :: s) = d :: withoutSpace (l.next d) s := fun h d s => withoutSpace_cons_of_within h d s
  have letter : ∀ d : Char,
      withoutSpace .inside ('\\' :: d :: rest) = '\\' :: d :: withoutSpace .inside rest := by
    intro d
    rw [keep (by decide), keep (by decide)]
    rfl
  unfold escapeChar
  -- The escapes of one letter come first.
  repeat (split; · exact letter _)
  split
  · have high := within_hexDigit (c.toNat / 16 % 16) (Nat.mod_lt _ (by decide))
    have low := within_hexDigit (c.toNat % 16) (Nat.mod_lt _ (by decide))
    show withoutSpace .inside ('\\' :: 'u' :: '0' :: '0' :: Nat.digitChar (c.toNat / 16 % 16) ::
      Nat.digitChar (c.toNat % 16) :: rest) = _
    rw [keep (by decide), show Literal.inside.next '\\' = .escaped from rfl, keep (by decide),
      show Literal.escaped.next 'u' = .inside from rfl, keep (by decide),
      show Literal.inside.next '0' = .inside from rfl, keep (by decide),
      show Literal.inside.next '0' = .inside from rfl, keep (by decide), high, keep (by decide), low]
    rfl
  · rename_i hquote hslash _ _ _ _ _ _
    have stays : Literal.inside.next c = .inside := by
      show (if c = '"' then _ else if c = '\\' then _ else _) = _
      rw [if_neg hquote, if_neg hslash]
    rw [List.singleton_append, keep (by decide), stays]
    rfl

/-- **A string literal** is kept as it is written. -/
theorem withoutSpace_renderText (s rest : List Char) :
    withoutSpace .outside (renderText s ++ rest) = renderText s ++ withoutSpace .outside rest := by
  have body : ∀ s : List Char, withoutSpace .inside (s.flatMap escapeChar ++ '"' :: rest) =
      s.flatMap escapeChar ++ '"' :: withoutSpace .outside rest := by
    intro s
    induction s with
    | nil => exact withoutSpace_cons_of_within (by decide) '"' rest
    | cons c s ih => rw [List.flatMap_cons, List.append_assoc, withoutSpace_escapeChar, ih, List.append_assoc]
  unfold renderText
  rw [List.cons_append, List.append_assoc, withoutSpace_cons_of_not_space (by decide)]
  show '"' :: withoutSpace .inside (s.flatMap escapeChar ++ '"' :: rest) = _
  rw [body, List.cons_append, List.append_assoc]
  rfl

theorem newline_ne_hexDigit : ∀ d < 16, Nat.digitChar d ≠ '\n' := by decide

/-- No line break is written as it is. -/
theorem newline_not_mem_escapeChar (c : Char) : '\n' ∉ escapeChar c := by
  unfold escapeChar
  repeat (split; · decide)
  split
  · have high := newline_ne_hexDigit (c.toNat / 16 % 16) (Nat.mod_lt _ (by decide))
    have low := newline_ne_hexDigit (c.toNat % 16) (Nat.mod_lt _ (by decide))
    show '\n' ∉ ['\\', 'u', '0', '0', Nat.digitChar (c.toNat / 16 % 16), Nat.digitChar (c.toNat % 16)]
    simp [high.symm, low.symm]
  · rename_i hbreak _ _ _
    exact fun h => hbreak (List.mem_singleton.mp h).symm

theorem newline_not_mem_renderText (s : List Char) : '\n' ∉ renderText s := by
  unfold renderText
  simp only [List.mem_cons, List.mem_append, List.mem_flatMap, List.not_mem_nil, or_false, not_or, not_exists,
    not_and]
  exact ⟨by decide, fun c _ => newline_not_mem_escapeChar c, by decide⟩

/-! ## Values -/

/-- A comma is kept. -/
theorem withoutSpace_comma (first : Bool) (rest : List Char) :
    withoutSpace .outside (comma first ++ rest) = comma first ++ withoutSpace .outside rest :=
  withoutSpace_of_bare (by cases first <;> decide) rest

/-- A line break and its indentation go. -/
theorem withoutSpace_newline (level : Nat) (rest : List Char) :
    withoutSpace .outside (newline level ++ rest) = withoutSpace .outside rest := by
  have indentation : ∀ n : Nat, withoutSpace .outside (List.replicate n ' ' ++ rest) =
      withoutSpace .outside rest := by
    intro n
    induction n with
    | zero => rfl
    | succ n ih => exact ih
  exact indentation (2 * level)

/-- A bracket, or the colon of a field. -/
theorem withoutSpace_mark {c : Char} (bare : Bare [c]) (rest : List Char) :
    withoutSpace .outside (c :: rest) = c :: withoutSpace .outside rest := withoutSpace_of_bare bare rest

mutual

/-- **Indented text without white space is compact text.** -/
theorem withoutSpace_renderPretty : ∀ (v : Json) (level : Nat) (rest : List Char),
    withoutSpace .outside (renderPretty level v ++ rest) = render v ++ withoutSpace .outside rest
  | .null, _, rest => withoutSpace_of_bare (s := render .null) (by decide) rest
  | .bool true, _, rest => withoutSpace_of_bare (s := render (.bool true)) (by decide) rest
  | .bool false, _, rest => withoutSpace_of_bare (s := render (.bool false)) (by decide) rest
  | .int n, _, rest => withoutSpace_of_bare (bare_renderInt n) rest
  | .double bits, _, rest => withoutSpace_of_bare (bare_writeBits (by decide) (by decide) _ _) rest
  | .single bits, _, rest => withoutSpace_of_bare (bare_writeBits (by decide) (by decide) _ _) rest
  | .str s, _, rest => withoutSpace_renderText s.toList rest
  | .arr [], _, rest => withoutSpace_of_bare (s := ['[', ']']) (by decide) rest
  | .arr (v :: more), level, rest => by
      have items := withoutSpace_prettyItems (v :: more) (level + 1) true (newline level ++ ']' :: rest)
      rw [withoutSpace_newline, withoutSpace_mark (by decide)] at items
      rw [renderPretty, render]
      simp only [List.cons_append, List.append_assoc, List.nil_append]
      rw [withoutSpace_mark (by decide), items]
  | .obj [], _, rest => withoutSpace_of_bare (s := ['\x7b', '\x7d']) (by decide) rest
  | .obj (f :: more), level, rest => by
      have fields := withoutSpace_prettyFields (f :: more) (level + 1) true (newline level ++ '\x7d' :: rest)
      rw [withoutSpace_newline, withoutSpace_mark (by decide)] at fields
      rw [renderPretty, render]
      simp only [List.cons_append, List.append_assoc, List.nil_append]
      rw [withoutSpace_mark (by decide), fields]

theorem withoutSpace_prettyItems : ∀ (items : List Json) (level : Nat) (first : Bool) (rest : List Char),
    withoutSpace .outside (prettyItems level first items ++ rest) =
      renderItems first items ++ withoutSpace .outside rest
  | [], _, _, _ => rfl
  | v :: more, level, first, rest => by
      rw [prettyItems, renderItems]
      simp only [List.append_assoc]
      rw [withoutSpace_comma, withoutSpace_newline, withoutSpace_renderPretty v level,
        withoutSpace_prettyItems more level false]

theorem withoutSpace_prettyFields : ∀ (fields : List (String × Json)) (level : Nat) (first : Bool)
    (rest : List Char), withoutSpace .outside (prettyFields level first fields ++ rest) =
      renderFields first fields ++ withoutSpace .outside rest
  | [], _, _, _ => rfl
  | (k, v) :: more, level, first, rest => by
      have space : ∀ s, withoutSpace .outside (' ' :: s) = withoutSpace .outside s := fun _ => rfl
      rw [prettyFields, renderFields]
      simp only [List.append_assoc, List.cons_append]
      rw [withoutSpace_comma, withoutSpace_newline, withoutSpace_renderText, withoutSpace_mark (by decide), space,
        withoutSpace_renderPretty v level, withoutSpace_prettyFields more level false]

end

theorem newline_not_mem_comma (first : Bool) : '\n' ∉ comma first := by
  cases first <;> decide

mutual

/-- **Compact text is one line.** -/
theorem newline_not_mem_render : ∀ v : Json, '\n' ∉ render v
  | .null => newline_not_mem_of_bare (s := render .null) (by decide)
  | .bool true => newline_not_mem_of_bare (s := render (.bool true)) (by decide)
  | .bool false => newline_not_mem_of_bare (s := render (.bool false)) (by decide)
  | .int n => newline_not_mem_of_bare (bare_renderInt n)
  | .double _ => newline_not_mem_of_bare (bare_writeBits (by decide) (by decide) _ _)
  | .single _ => newline_not_mem_of_bare (bare_writeBits (by decide) (by decide) _ _)
  | .str s => newline_not_mem_renderText s.toList
  | .arr items => by
      have inner := newline_not_mem_renderItems items true
      rw [render]
      simp [inner]
  | .obj fields => by
      have inner := newline_not_mem_renderFields fields true
      rw [render]
      simp [inner]

theorem newline_not_mem_renderItems : ∀ (items : List Json) (first : Bool), '\n' ∉ renderItems first items
  | [], _ => List.not_mem_nil
  | v :: rest, first => by
      have item := newline_not_mem_render v
      have others := newline_not_mem_renderItems rest false
      rw [renderItems]
      simp [newline_not_mem_comma first, item, others]

theorem newline_not_mem_renderFields : ∀ (fields : List (String × Json)) (first : Bool),
    '\n' ∉ renderFields first fields
  | [], _ => List.not_mem_nil
  | (k, v) :: rest, first => by
      have key := newline_not_mem_renderText k.toList
      have value := newline_not_mem_render v
      have others := newline_not_mem_renderFields rest false
      rw [renderFields]
      simp [newline_not_mem_comma first, key, value, others]

end

end ProbeRecorder.Json
