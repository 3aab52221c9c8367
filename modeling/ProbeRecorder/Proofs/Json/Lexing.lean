import ProbeRecorder.Json.Printer
import ProbeRecorder.Json.Token

/-!
# `ProbeRecorder.Proofs.Json.Lexing` — printed values, token by token

The lexer reads one character at a time, and a numeral ends only with the character after it. So what is said
about a printed value is said together with the text that follows it.

## Contents
- **Reading.** `Lexer.run`, all tokens of the rest of a text.
- **Digits.** `Number.digitsOf`, the digits that are printed, and the number they spell.
- **Integers.** `numeralOf`, and `run_renderInt`.
- **Strings.** `textItem`, what a printed character is read as; `decodeItems?_textItems`.
- **Values.** `Json.tokens`, and `run_render` for all values without floating-point numbers.
-/

namespace ProbeRecorder

/-! ## Digits -/

namespace Number

/-- **The digits of a number**, most significant first. -/
def digitsOf (n : Nat) : List Nat := if n < 10 then [n] else digitsOf (n / 10) ++ [n % 10]

theorem decimalDigits_eq (n : Nat) : decimalDigits n = (digitsOf n).map Nat.digitChar := by
  induction n using Nat.strongRecOn with
  | ind n ih =>
      unfold digitsOf decimalDigits
      by_cases h : n < 10
      · rw [if_pos h, Nat.toDigits_of_lt_base h]
        rfl
      · rw [if_neg h, List.map_append, Nat.toDigits_of_base_le (by decide) (Nat.le_of_not_lt h)]
        have hrec := ih (n / 10) (by omega)
        unfold decimalDigits at hrec
        rw [hrec]
        rfl

theorem digitsOf_lt (n : Nat) : ∀ d ∈ digitsOf n, d < 10 := by
  induction n using Nat.strongRecOn with
  | ind n ih =>
      intro d hd
      unfold digitsOf at hd
      by_cases h : n < 10
      · rw [if_pos h, List.mem_singleton] at hd
        omega
      · rw [if_neg h] at hd
        rcases List.mem_append.mp hd with hd | hd
        · exact ih (n / 10) (by omega) d hd
        · rw [List.mem_singleton.mp hd]
          exact Nat.mod_lt n (by decide)

/-- **The digits spell the number.** -/
theorem digitsValue_digitsOf (n : Nat) : digitsValue (digitsOf n) = n := by
  induction n using Nat.strongRecOn with
  | ind n ih =>
      unfold digitsOf
      by_cases h : n < 10
      · rw [if_pos h]
        exact Nat.zero_add n
      · have hrec := ih (n / 10) (by omega)
        unfold digitsValue at hrec ⊢
        rw [if_neg h, List.foldl_append, hrec]
        show 10 * (n / 10) + n % 10 = n
        omega

/-- Only zero starts with the digit zero. -/
theorem digitsOf_cons {n : Nat} (h : 0 < n) : ∃ d ds, digitsOf n = d :: ds ∧ d ≠ 0 := by
  induction n using Nat.strongRecOn with
  | ind n ih =>
      unfold digitsOf
      by_cases hlt : n < 10
      · rw [if_pos hlt]
        exact ⟨n, [], rfl, Nat.ne_of_gt h⟩
      · obtain ⟨d, ds, hd, hne⟩ := ih (n / 10) (by omega) (by omega)
        rw [if_neg hlt, hd]
        exact ⟨d, ds ++ [n % 10], rfl, hne⟩

end Number

namespace Json

/-! ## Reading -/

/-- **All tokens** of the rest of a text, read in the given mode. -/
def Lexer.run : Lexer → List Char → Option (List Token)
  | mode, [] => mode.finish
  | mode, c :: rest => (mode.step c).bind fun next => (next.1.run rest).map (next.2 ++ ·)

namespace Lexer

theorem run_cons_of_step {l k : Lexer} {c : Char} {tokens : List Token} (rest : List Char)
    (h : l.step c = some (k, tokens)) : l.run (c :: rest) = (k.run rest).map (tokens ++ ·) := by
  rw [run, h]
  rfl

/-- A character that completes no token. -/
theorem run_cons_of_silent {l k : Lexer} {c : Char} (rest : List Char) (h : l.step c = some (k, [])) :
    l.run (c :: rest) = k.run rest := by
  rw [run_cons_of_step rest h]
  cases k.run rest <;> rfl

/-! ## Integers -/

/-- What follows a value inside brackets, or nothing. -/
def Delimited (rest : List Char) : Prop :=
  rest = [] ∨ ∃ c after, rest = c :: after ∧ (c = ',' ∨ c = ']' ∨ c = '\x7d')

theorem start_digitChar : ∀ d < 10, d ≠ 0 →
    start (Nat.digitChar d) = some (number .whole false [d] [] 0, []) := by decide

theorem step_sign_digitChar : ∀ d < 10, d ≠ 0 →
    (number .sign true [] [] 0).step (Nat.digitChar d) = some (number .whole true [d] [] 0, []) := by decide

theorem digitValue?_digitChar : ∀ d < 10, digitValue? (Nat.digitChar d) = some d := by decide

/-- One more digit of a numeral. -/
theorem step_digitChar (negative : Bool) (whole : List Nat) {d : Nat} (h : d < 10) :
    (number .whole negative whole [] 0).step (Nat.digitChar d) =
      some (number .whole negative (d :: whole) [] 0, []) := by
  unfold step continue?
  rw [digitValue?_digitChar d h]

/-- A numeral is complete with what follows it. -/
theorem run_number_of_delimited {part : NumeralPart} (hpart : part = .zero ∨ part = .whole)
    (negative : Bool) (whole : List Nat) {rest : List Char} (h : Delimited rest) :
    (number part negative whole [] 0).run rest =
      (between.run rest).map (.number ⟨negative, whole.reverse, [], none⟩ :: ·) := by
  -- What ends the numeral also belongs to what follows: its own tokens come after the numeral.
  rcases h with rfl | ⟨c, after, rfl, hc⟩
  · rcases hpart with rfl | rfl <;> rfl
  · have hstep : (number part negative whole [] 0).step c =
        (between.step c).map fun next => (next.1, .number ⟨negative, whole.reverse, [], none⟩ :: next.2) := by
      rcases hpart with rfl | rfl <;> rcases hc with rfl | rfl | rfl <;> rfl
    unfold run
    rw [hstep]
    cases between.step c with
    | none => rfl
    | some next =>
        simp only [Option.map_some, Option.bind_some]
        cases next.1.run after <;> rfl

/-- The digits after the first one. -/
theorem run_digits (negative : Bool) (ds : List Nat) : ∀ (whole : List Nat) {rest : List Char},
    (∀ d ∈ ds, d < 10) → Delimited rest →
    (number .whole negative whole [] 0).run (ds.map Nat.digitChar ++ rest) =
      (between.run rest).map (.number ⟨negative, whole.reverse ++ ds, [], none⟩ :: ·) := by
  induction ds with
  | nil =>
      intro whole rest _ h
      rw [List.append_nil]
      exact run_number_of_delimited (.inr rfl) negative whole h
  | cons d ds ih =>
      intro whole rest hds h
      rw [List.map_cons, List.cons_append,
        run_cons_of_silent _ (step_digitChar negative whole (hds d List.mem_cons_self)),
        ih (d :: whole) (fun x hx => hds x (List.mem_cons_of_mem _ hx)) h, List.reverse_cons,
        List.append_assoc, List.singleton_append]

end Lexer

/-- **The numeral of an integer.** -/
def numeralOf : Int → Number.Numeral
  | .ofNat n => ⟨false, Number.digitsOf n, [], none⟩
  | .negSucc n => ⟨true, Number.digitsOf (n + 1), [], none⟩

namespace Lexer

theorem run_decimalDigits (n : Nat) {rest : List Char} (h : Delimited rest) :
    between.run (Number.decimalDigits n ++ rest) =
      (between.run rest).map (.number ⟨false, Number.digitsOf n, [], none⟩ :: ·) := by
  rw [Number.decimalDigits_eq]
  cases n with
  | zero =>
      have hzero : Number.digitsOf 0 = [0] := by
        unfold Number.digitsOf
        rfl
      rw [hzero]
      show between.run ('0' :: rest) = _
      rw [run_cons_of_silent (k := number .zero false [0] [] 0) rest rfl]
      exact run_number_of_delimited (.inl rfl) false [0] h
  | succ n =>
      obtain ⟨d, ds, hds, hne⟩ := Number.digitsOf_cons (Nat.succ_pos n)
      have hlt : ∀ x ∈ d :: ds, x < 10 := by
        rw [← hds]
        exact Number.digitsOf_lt (n + 1)
      rw [hds, List.map_cons, List.cons_append,
        run_cons_of_silent (l := between) _ (start_digitChar d (hlt d List.mem_cons_self) hne)]
      exact run_digits false ds [d] (fun x hx => hlt x (List.mem_cons_of_mem _ hx)) h

/-- **A printed integer** is read as its numeral. -/
theorem run_renderInt (n : Int) {rest : List Char} (h : Delimited rest) :
    between.run (renderInt n ++ rest) = (between.run rest).map (.number (numeralOf n) :: ·) := by
  cases n with
  | ofNat n => exact run_decimalDigits n h
  | negSucc n =>
      obtain ⟨d, ds, hds, hne⟩ := Number.digitsOf_cons (Nat.succ_pos n)
      have hlt : ∀ x ∈ d :: ds, x < 10 := by
        rw [← hds]
        exact Number.digitsOf_lt (n + 1)
      show between.run ('-' :: (Number.decimalDigits (n + 1) ++ rest)) =
        (between.run rest).map (.number ⟨true, Number.digitsOf (n + 1), [], none⟩ :: ·)
      rw [Number.decimalDigits_eq, run_cons_of_silent (k := number .sign true [] [] 0) _ rfl, hds,
        List.map_cons, List.cons_append,
        run_cons_of_silent _ (step_sign_digitChar d (hlt d List.mem_cons_self) hne)]
      exact run_digits true ds [d] (fun x hx => hlt x (List.mem_cons_of_mem _ hx)) h

end Lexer

/-! ## Strings -/

/-- The controls with an escape of one letter. -/
def hasLetter (c : Char) : Bool :=
  c = '\x08' || c = '\x0c' || c = '\n' || c = '\r' || c = '\t'

/-- **What a printed character is read as**: itself, or the code of a control without a letter. -/
def textItem (c : Char) : TextItem :=
  if c.toNat < 0x20 && !hasLetter c then .unit c.toNat else .char c

namespace Lexer

theorem hexValue?_digitChar : ∀ d < 16, Text.hexValue? (Nat.digitChar d) = some d := by decide

/-- Two hexadecimal digits after two zeros. -/
theorem run_hexDigits (items : List TextItem) {n : Nat} (h : n < 0x20) (rest : List Char) :
    (escape items).run ('u' :: '0' :: '0' :: (Text.hexDigits 2 n ++ rest)) =
      (text (.unit n :: items)).run rest := by
  have hdigits : Text.hexDigits 2 n = [Nat.digitChar (n / 16 % 16), Nat.digitChar (n % 16)] := rfl
  have hhigh : (hex items 2 0).step (Nat.digitChar (n / 16 % 16)) = some (hex items 3 (n / 16), []) := by
    unfold step
    rw [hexValue?_digitChar _ (Nat.mod_lt _ (by decide)), Nat.mod_eq_of_lt (by omega)]
    simp
  have hlow : (hex items 3 (n / 16)).step (Nat.digitChar (n % 16)) = some (text (.unit n :: items), []) := by
    unfold step
    rw [hexValue?_digitChar _ (Nat.mod_lt _ (by decide))]
    simp only [Option.map_some, if_true]
    rw [show 16 * (n / 16) + n % 16 = n by omega]
  rw [hdigits, List.cons_append, List.cons_append, List.nil_append,
    run_cons_of_silent (k := hex items 0 0) _ rfl, run_cons_of_silent (k := hex items 1 0) _ rfl,
    run_cons_of_silent (k := hex items 2 0) _ rfl, run_cons_of_silent _ hhigh, run_cons_of_silent _ hlow]

/-- **A printed character** is read as its item. -/
theorem run_escapeChar (c : Char) (items : List TextItem) (rest : List Char) :
    (text items).run (escapeChar c ++ rest) = (text (textItem c :: items)).run rest := by
  have letter : ∀ l : Char, (escape items).step l = some (text (.char c :: items), []) →
      textItem c = .char c →
      (text items).run ('\\' :: l :: rest) = (text (textItem c :: items)).run rest := by
    intro l hl hc
    rw [run_cons_of_silent (k := escape items) _ rfl, run_cons_of_silent _ hl, hc]
  -- One case for each escape with a letter, one for the other controls, and one for the character itself.
  unfold escapeChar
  split
  · rename_i h; subst h; exact letter '"' rfl rfl
  split
  · rename_i h; subst h; exact letter '\\' rfl rfl
  split
  · rename_i h; subst h; exact letter 'b' rfl rfl
  split
  · rename_i h; subst h; exact letter 'f' rfl rfl
  split
  · rename_i h; subst h; exact letter 'n' rfl rfl
  split
  · rename_i h; subst h; exact letter 'r' rfl rfl
  split
  · rename_i h; subst h; exact letter 't' rfl rfl
  split
  · rename_i hb hf hn hr ht hlow
    have hitem : textItem c = .unit c.toNat := by
      unfold textItem hasLetter
      simp [hb, hf, hn, hr, ht, hlow]
    rw [List.cons_append, run_cons_of_silent (k := escape items) _ rfl, hitem]
    exact run_hexDigits items hlow rest
  · rename_i hquote hslash _ _ _ _ _ hlow
    have hitem : textItem c = .char c := by
      unfold textItem
      simp [hlow]
    rw [hitem]
    refine run_cons_of_silent rest ?_
    show (if c = '"' then _ else if c = '\\' then _ else if c.toNat < 0x20 then _ else _) = _
    rw [if_neg hquote, if_neg hslash, if_neg hlow]

/-- **A printed text**, after its opening quote. -/
theorem run_text (cs : List Char) : ∀ (items : List TextItem) (rest : List Char),
    (text items).run (cs.flatMap escapeChar ++ '"' :: rest) =
      (between.run rest).map (.text (items.reverse ++ cs.map textItem) :: ·) := by
  induction cs with
  | nil =>
      intro items rest
      have hquote : (text items).step '"' = some (between, [.text items.reverse]) := rfl
      rw [List.map_nil, List.append_nil]
      exact run_cons_of_step rest hquote
  | cons c cs ih =>
      intro items rest
      rw [List.flatMap_cons, List.append_assoc, run_escapeChar, ih, List.reverse_cons, List.append_assoc,
        List.map_cons, List.singleton_append]

/-- **A printed string** is read as one token. -/
theorem run_renderText (cs rest : List Char) :
    between.run (renderText cs ++ rest) = (between.run rest).map (.text (cs.map textItem) :: ·) := by
  unfold renderText
  rw [List.cons_append, List.append_assoc, run_cons_of_silent (k := text []) _ rfl]
  exact run_text cs [] rest

end Lexer

/-- **The text of a printed string** is the string. -/
theorem decodeItems?_textItems (cs : List Char) : decodeItems? (cs.map textItem) = some cs := by
  induction cs with
  | nil => rfl
  | cons c cs ih =>
      rw [List.map_cons]
      by_cases h : (c.toNat < 0x20 && !hasLetter c) = true
      · have hlow : c.toNat < 0x20 := by
          rw [Bool.and_eq_true] at h
          exact of_decide_eq_true h.1
        rw [show textItem c = .unit c.toNat from if_pos h]
        unfold decodeItems?
        rw [if_neg (by omega), if_neg (by omega), ih, Char.ofNat_toNat]
        rfl
      · rw [show textItem c = .char c from if_neg h]
        unfold decodeItems?
        rw [ih]
        rfl

end Json
end ProbeRecorder
