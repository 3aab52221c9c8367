import ProbeRecorder.Json.Tree
import ProbeRecorder.Proofs.Json.Lexing

/-!
# `ProbeRecorder.Proofs.Json.Parsing` — reading printed values back

## Contents
- **Readable values.** `Json.readable`: integers of machine words, no floating-point numbers, and brackets no
  deeper than allowed.
- **Tokens.** `Json.tokens`, what the compact text of a value is read as (`run_render`).
- **Trees.** `Json.tree`, what the tokens are assembled to (`push_tokens`).
- **Reading.** `Tree.parse?_render`; the tree has a value (`exists_toJson?_tree`).
-/

namespace ProbeRecorder.Json

/-! ## Readable values -/

mutual

/-- **A value that reads back** when it is printed, inside so many brackets as leave `depth`. -/
def readable (depth : Nat) : Json → Bool
  | .null => true
  | .bool _ => true
  | .int n => keepsInt n
  | .double _ => false
  | .single _ => false
  | .str _ => true
  | .arr items => 1 < depth && readableItems (depth - 1) items
  | .obj fields => 1 < depth && readableFields (depth - 1) fields

def readableItems (depth : Nat) : List Json → Bool
  | [] => true
  | v :: rest => readable depth v && readableItems depth rest

def readableFields (depth : Nat) : List (String × Json) → Bool
  | [] => true
  | (_, v) :: rest => readable depth v && readableFields depth rest

end

/-! ## Tokens -/

/-- The comma before an item: none before the first one. -/
def commaToken (first : Bool) : List Token := if first then [] else [.comma]

mutual

/-- **The tokens of a value** in compact text. Floating-point numbers are left out. -/
def tokens : Json → List Token
  | .null => [.null]
  | .bool b => [.bool b]
  | .int n => [.number (numeralOf n)]
  | .double _ => []
  | .single _ => []
  | .str s => [.text (s.toList.map textItem)]
  | .arr items => .beginArray :: (itemTokens true items ++ [.endArray])
  | .obj fields => .beginObject :: (fieldTokens true fields ++ [.endObject])

def itemTokens (first : Bool) : List Json → List Token
  | [] => []
  | v :: rest => commaToken first ++ (tokens v ++ itemTokens false rest)

def fieldTokens (first : Bool) : List (String × Json) → List Token
  | [] => []
  | (k, v) :: rest =>
    commaToken first ++ (.text (k.toList.map textItem) :: .colon :: (tokens v ++ fieldTokens false rest))

end

namespace Lexer

/-- The rest of the tokens, after some are known. -/
theorem map_append_map (ts us : List Token) (o : Option (List Token)) :
    (o.map (us ++ ·)).map (ts ++ ·) = o.map (ts ++ us ++ ·) := by
  cases o with
  | none => rfl
  | some rest => exact congrArg some (List.append_assoc ts us rest).symm

theorem run_comma (first : Bool) (rest : List Char) :
    between.run (comma first ++ rest) = (between.run rest).map (commaToken first ++ ·) := by
  cases first with
  | true => cases h : between.run rest <;> exact h
  | false => exact run_cons_of_step rest (show between.step ',' = some (between, [.comma]) from rfl)

/-- A bracket or a colon. -/
theorem run_mark {c : Char} {t : Token} (h : between.step c = some (between, [t])) (rest : List Char) :
    between.run (c :: rest) = (between.run rest).map ([t] ++ ·) := run_cons_of_step rest h

/-- A word, after its first letter. -/
theorem run_word (t : Token) (rest : List Char) (cs : List Char) : cs ≠ [] →
    (word cs t).run (cs ++ rest) = (between.run rest).map ([t] ++ ·) := by
  induction cs with
  | nil => exact fun h => absurd rfl h
  | cons c cs ih =>
      intro _
      cases cs with
      | nil => exact run_cons_of_step rest (if_pos rfl)
      | cons d ds =>
          have hstep : (word (c :: d :: ds) t).step c = some (word (d :: ds) t, []) := if_pos rfl
          rw [List.cons_append, run_cons_of_silent _ hstep]
          exact ih (List.cons_ne_nil d ds)

theorem delimited_items (rest : List Json) (after : List Char) :
    Delimited (renderItems false rest ++ ']' :: after) := by
  cases rest with
  | nil => exact .inr ⟨']', after, rfl, .inr (.inl rfl)⟩
  | cons v rest =>
      rw [renderItems]
      exact .inr ⟨',', _, rfl, .inl rfl⟩

theorem delimited_fields (rest : List (String × Json)) (after : List Char) :
    Delimited (renderFields false rest ++ '\x7d' :: after) := by
  cases rest with
  | nil => exact .inr ⟨'\x7d', after, rfl, .inr (.inr rfl)⟩
  | cons f rest =>
      obtain ⟨k, v⟩ := f
      rw [renderFields]
      exact .inr ⟨',', _, rfl, .inl rfl⟩

mutual

/-- **Compact text is read as the tokens of its value.** -/
theorem run_render {depth : Nat} : ∀ (v : Json) {rest : List Char}, v.readable depth = true →
    Delimited rest → between.run (render v ++ rest) = (between.run rest).map (tokens v ++ ·)
  | .null, rest, _, _ =>
      (run_cons_of_silent (l := between) (k := word ['u', 'l', 'l'] .null) _ rfl).trans
        (run_word .null rest _ (List.cons_ne_nil _ _))
  | .bool true, rest, _, _ =>
      (run_cons_of_silent (l := between) (k := word ['r', 'u', 'e'] (.bool true)) _ rfl).trans
        (run_word (.bool true) rest _ (List.cons_ne_nil _ _))
  | .bool false, rest, _, _ =>
      (run_cons_of_silent (l := between) (k := word ['a', 'l', 's', 'e'] (.bool false)) _ rfl).trans
        (run_word (.bool false) rest _ (List.cons_ne_nil _ _))
  | .int n, _, _, h => run_renderInt n h
  | .double _, _, hr, _ => nomatch hr
  | .single _, _, hr, _ => nomatch hr
  | .str s, rest, _, _ => run_renderText s.toList rest
  | .arr items, rest, hr, _ => by
      rw [readable, Bool.and_eq_true] at hr
      rw [render, tokens, List.cons_append, List.append_assoc, List.singleton_append,
        run_mark (t := .beginArray) rfl, run_renderItems items true hr.2 rest, map_append_map]
      rfl
  | .obj fields, rest, hr, _ => by
      rw [readable, Bool.and_eq_true] at hr
      rw [render, tokens, List.cons_append, List.append_assoc, List.singleton_append,
        run_mark (t := .beginObject) rfl, run_renderFields fields true hr.2 rest, map_append_map]
      rfl

theorem run_renderItems {depth : Nat} : ∀ (items : List Json) (first : Bool),
    readableItems depth items = true → ∀ rest : List Char,
    between.run (renderItems first items ++ (']' :: rest)) =
      (between.run rest).map (itemTokens first items ++ [.endArray] ++ ·)
  | [], first, _, rest => run_mark (t := .endArray) rfl rest
  | v :: more, first, hr, rest => by
      rw [readableItems, Bool.and_eq_true] at hr
      rw [renderItems, itemTokens, List.append_assoc, List.append_assoc, run_comma,
        run_render v hr.1 (delimited_items more rest), run_renderItems more false hr.2 rest,
        map_append_map, map_append_map]
      simp only [List.append_assoc]

theorem run_renderFields {depth : Nat} : ∀ (fields : List (String × Json)) (first : Bool),
    readableFields depth fields = true → ∀ rest : List Char,
    between.run (renderFields first fields ++ ('\x7d' :: rest)) =
      (between.run rest).map (fieldTokens first fields ++ [.endObject] ++ ·)
  | [], first, _, rest => run_mark (t := .endObject) rfl rest
  | (k, v) :: more, first, hr, rest => by
      rw [readableFields, Bool.and_eq_true] at hr
      -- The key and the colon are read on their own; the value is followed by a comma or the last bracket.
      have hkey := run_renderText k.toList (':' :: (render v ++ (renderFields false more ++ '\x7d' :: rest)))
      rw [run_mark (t := .colon) rfl, run_render v hr.1 (delimited_fields more rest),
        run_renderFields more false hr.2 rest] at hkey
      rw [renderFields, fieldTokens]
      simp only [List.append_assoc, List.cons_append] at hkey ⊢
      rw [run_comma, hkey]
      cases between.run rest with
      | none => rfl
      | some ts => simp only [Option.map_some, List.nil_append]

end

end Lexer

/-! ## Trees -/

mutual

/-- **The tree of a value.** Floating-point numbers are left out. -/
def tree : Json → Tree
  | .null => .null
  | .bool b => .bool b
  | .int n => .number (numeralOf n)
  | .double _ => .null
  | .single _ => .null
  | .str s => .text (s.toList.map textItem)
  | .arr items => .array (itemTrees items)
  | .obj fields => .object (fieldTrees fields)

def itemTrees : List Json → List Tree
  | [] => []
  | v :: rest => tree v :: itemTrees rest

def fieldTrees : List (String × Json) → List (List TextItem × Tree)
  | [] => []
  | (k, v) :: rest => (k.toList.map textItem, tree v) :: fieldTrees rest

end

theorem itemTrees_eq (items : List Json) : itemTrees items = items.map tree := by
  induction items with
  | nil => rfl
  | cons v rest ih =>
      rw [itemTrees, ih]
      rfl

theorem fieldTrees_eq (fields : List (String × Json)) :
    fieldTrees fields = fields.map fun f => (f.1.toList.map textItem, tree f.2) := by
  induction fields with
  | nil => rfl
  | cons f rest ih =>
      rw [fieldTrees, ih]
      rfl

namespace Builder

/-- A value may follow. -/
def Expectant (p : Position) : Prop := p = .value ∨ p = .valueOrEnd

theorem push_of_expectant {p : Position} (h : Expectant p) (stack : List Level) {t : Token}
    (ht : t ≠ .endArray) : push ⟨stack, p⟩ t = pushValue stack t := by
  rcases h with rfl | rfl
  · rfl
  · exact if_neg ht

/-- One token, and then the others. -/
theorem foldlM_cons_of_push {b c : Builder} {t : Token} (ts : List Token) (h : b.push t = some c) :
    (t :: ts).foldlM push b = ts.foldlM push c := by
  rw [List.foldlM_cons, h]
  rfl

theorem foldlM_append_of_push {b c : Builder} {us : List Token} (ts : List Token)
    (h : us.foldlM push b = some c) : (us ++ ts).foldlM push b = ts.foldlM push c := by
  rw [List.foldlM_append, h]
  rfl

/-- One value as a single token. -/
theorem foldlM_single {p : Position} (h : Expectant p) (stack : List Level) {t : Token}
    (ht : t ≠ .endArray) : [t].foldlM push ⟨stack, p⟩ = pushValue stack t := by
  rw [List.foldlM_cons, push_of_expectant h stack ht]
  cases pushValue stack t <;> rfl

/-- Where the next item of an array stands. -/
def itemPosition (first : Bool) : Position := if first then .valueOrEnd else .separator

/-- Where the next field of an object stands. -/
def fieldPosition (first : Bool) : Position := if first then .keyOrEnd else .separator

mutual

/-- **The tokens of a value are assembled to its tree.** -/
theorem push_tokens {depth : Nat} : ∀ (v : Json) {p : Position} (stack : List Level),
    v.readable depth = true → Expectant p →
    (tokens v).foldlM push ⟨stack, p⟩ = complete stack (tree v)
  | .null, _, stack, _, h => foldlM_single (t := .null) h stack (fun h => nomatch h)
  | .bool b, _, stack, _, h => foldlM_single (t := .bool b) h stack (fun h => nomatch h)
  | .int n, _, stack, _, h => foldlM_single (t := .number (numeralOf n)) h stack (fun h => nomatch h)
  | .double _, _, _, hr, _ => nomatch hr
  | .single _, _, _, hr, _ => nomatch hr
  | .str s, _, stack, _, h =>
      foldlM_single (t := .text (s.toList.map textItem)) h stack (fun h => nomatch h)
  | .arr items, p, stack, hr, h => by
      rw [readable, Bool.and_eq_true] at hr
      -- The array stands on the stack, empty, and its items are put into it one by one.
      have hopen : push ⟨stack, p⟩ .beginArray = some ⟨.array [] :: stack, .valueOrEnd⟩ :=
        push_of_expectant h stack fun h => nomatch h
      rw [tokens, tree, foldlM_cons_of_push _ hopen]
      exact push_itemTokens items true stack [] hr.2
  | .obj fields, p, stack, hr, h => by
      rw [readable, Bool.and_eq_true] at hr
      have hopen : push ⟨stack, p⟩ .beginObject = some ⟨.object [] :: stack, .keyOrEnd⟩ :=
        push_of_expectant h stack fun h => nomatch h
      rw [tokens, tree, foldlM_cons_of_push _ hopen]
      exact push_fieldTokens fields true stack [] hr.2

theorem push_itemTokens {depth : Nat} : ∀ (items : List Json) (first : Bool) (stack : List Level)
    (done : List Tree), readableItems depth items = true →
    (itemTokens first items ++ [Token.endArray]).foldlM push ⟨.array done :: stack, itemPosition first⟩ =
      complete stack (.array (done.reverse ++ itemTrees items))
  | [], first, stack, done, _ => by
      rw [itemTokens, itemTrees, List.append_nil, List.nil_append, List.foldlM_cons]
      have hclose : push ⟨.array done :: stack, itemPosition first⟩ .endArray =
          complete stack (.array done.reverse) := by
        cases first <;> rfl
      rw [hclose]
      cases complete stack (.array done.reverse) <;> rfl
  | v :: more, first, stack, done, hr => by
      rw [readableItems, Bool.and_eq_true] at hr
      have hcomma : (commaToken first).foldlM push ⟨.array done :: stack, itemPosition first⟩ =
          some ⟨.array done :: stack, if first then .valueOrEnd else .value⟩ := by
        cases first <;> rfl
      have hvalue := push_tokens v (p := if first then .valueOrEnd else .value) (.array done :: stack) hr.1
        (by cases first with | true => exact .inr rfl | false => exact .inl rfl)
      have hmore := push_itemTokens more false stack (tree v :: done) hr.2
      rw [itemTokens, itemTrees, List.append_assoc, List.append_assoc, foldlM_append_of_push _ hcomma,
        foldlM_append_of_push _ hvalue]
      rw [List.reverse_cons, List.append_assoc, List.singleton_append] at hmore
      exact hmore

theorem push_fieldTokens {depth : Nat} : ∀ (fields : List (String × Json)) (first : Bool)
    (stack : List Level) (done : List (List TextItem × Tree)), readableFields depth fields = true →
    (fieldTokens first fields ++ [Token.endObject]).foldlM push ⟨.object done :: stack, fieldPosition first⟩ =
      complete stack (.object (done.reverse ++ fieldTrees fields))
  | [], first, stack, done, _ => by
      rw [fieldTokens, fieldTrees, List.append_nil, List.nil_append, List.foldlM_cons]
      have hclose : push ⟨.object done :: stack, fieldPosition first⟩ .endObject =
          complete stack (.object done.reverse) := by
        cases first <;> rfl
      rw [hclose]
      cases complete stack (.object done.reverse) <;> rfl
  | (k, v) :: more, first, stack, done, hr => by
      rw [readableFields, Bool.and_eq_true] at hr
      have hkey : (commaToken first ++ [Token.text (k.toList.map textItem), .colon]).foldlM push
          ⟨.object done :: stack, fieldPosition first⟩ =
            some ⟨.member done (k.toList.map textItem) :: stack, .value⟩ := by
        cases first <;> rfl
      have hvalue :=
        push_tokens v (p := .value) (.member done (k.toList.map textItem) :: stack) hr.1 (.inl rfl)
      have hmore := push_fieldTokens more false stack ((k.toList.map textItem, tree v) :: done) hr.2
      rw [List.reverse_cons, List.append_assoc, List.singleton_append] at hmore
      have hsplit : fieldTokens first ((k, v) :: more) ++ [Token.endObject] =
          (commaToken first ++ [Token.text (k.toList.map textItem), .colon]) ++
            (tokens v ++ (fieldTokens false more ++ [Token.endObject])) := by
        rw [fieldTokens]
        simp only [List.append_assoc, List.cons_append, List.nil_append]
      rw [hsplit, fieldTrees, foldlM_append_of_push _ hkey, foldlM_append_of_push _ hvalue]
      exact hmore

end

end Builder

/-! ## Reading -/

theorem Reader.step_eq (l : Lexer) (b : Builder) (c : Char) :
    Reader.step ⟨l, b⟩ c =
      (l.step c).bind fun next => (next.2.foldlM Builder.push b).map fun d => ⟨next.1, d⟩ := by
  unfold Reader.step
  cases l.step c with
  | none => rfl
  | some next =>
      show (next.2.foldlM Builder.push b).bind _ = (next.2.foldlM Builder.push b).map _
      cases next.2.foldlM Builder.push b <;> rfl

/-- Reading characters and assembling tokens can be told apart. -/
theorem Reader.foldlM_step (s : List Char) : ∀ (l : Lexer) (b : Builder),
    (s.foldlM Reader.step ⟨l, b⟩).bind Reader.finish? =
      (l.run s).bind fun ts => (ts.foldlM Builder.push b).bind Builder.result? := by
  induction s with
  | nil => exact fun l b => rfl
  | cons c rest ih =>
      intro l b
      rw [List.foldlM_cons, Lexer.run, Reader.step_eq]
      cases l.step c with
      | none => rfl
      | some next =>
          obtain ⟨k, ts⟩ := next
          rw [Option.bind_some, Option.bind_some]
          cases hts : ts.foldlM Builder.push b with
          | none =>
              -- The assembly is stuck, whatever comes later.
              cases k.run rest with
              | none => rfl
              | some us =>
                  rw [Option.map_some, Option.bind_some, List.foldlM_append, hts]
                  rfl
          | some d =>
              show (rest.foldlM Reader.step ⟨k, d⟩).bind Reader.finish? = _
              rw [ih]
              cases k.run rest with
              | none => rfl
              | some us =>
                  rw [Option.map_some, Option.bind_some, Option.bind_some,
                    Builder.foldlM_append_of_push us hts]

/-- **Compact text is read back** as the tree of its value. -/
theorem Tree.parse?_render {depth : Nat} (v : Json) (h : v.readable depth = true) :
    Tree.parse? (render v) = some (tree v) := by
  -- At the end of the text a numeral is complete, too.
  have hend : Lexer.Delimited [] := .inl rfl
  have hrun := Lexer.run_render v h hend
  rw [List.append_nil] at hrun
  unfold Tree.parse?
  refine (Reader.foldlM_step (render v) .between .initial).trans ?_
  rw [hrun]
  show ((tokens v ++ []).foldlM Builder.push ⟨[], .value⟩).bind Builder.result? = _
  rw [List.append_nil, Builder.push_tokens v [] h (.inl rfl)]
  rfl

/-- The numeral of an integer of a machine word denotes that integer. -/
theorem ofNumeral?_numeralOf {n : Int} (h : keepsInt n = true) :
    ofNumeral? (numeralOf n) = some (.int n) := by
  cases n with
  | ofNat n =>
      have hkeeps : keepsInt (n : Int) = true := h
      simp [ofNumeral?, numeralOf, Number.Numeral.wholeValue, Number.digitsValue_digitsOf,
        Number.Numeral.isIntegral, hkeeps]
  | negSucc n =>
      have hvalue : Int.negOfNat (n + 1) = Int.negSucc n := rfl
      have hne : Int.negSucc n ≠ 0 := fun h => nomatch h
      simp [ofNumeral?, numeralOf, Number.Numeral.wholeValue, Number.digitsValue_digitsOf,
        Number.Numeral.isIntegral, hvalue, h, hne]

mutual

/-- **The tree of a readable value has a value**, which may have its fields in another order. -/
theorem exists_toJson?_tree : ∀ (v : Json) {depth : Nat}, v.readable depth = true →
    ∃ w, (tree v).toJson? depth = some w
  | .null, _, _ => ⟨.null, rfl⟩
  | .bool b, _, _ => ⟨.bool b, rfl⟩
  | .int n, _, h => ⟨.int n, ofNumeral?_numeralOf h⟩
  | .double _, _, h => nomatch h
  | .single _, _, h => nomatch h
  | .str s, _, _ => by
      rw [tree, Tree.toJson?, decodeItems?_textItems]
      exact ⟨_, rfl⟩
  | .arr items, depth, h => by
      rw [readable, Bool.and_eq_true] at h
      have hdepth : 1 < depth := of_decide_eq_true h.1
      obtain ⟨ws, hws⟩ := exists_itemsToJson? items h.2
      rw [tree, Tree.toJson?, if_neg (Nat.not_le.mpr hdepth), hws]
      exact ⟨_, rfl⟩
  | .obj fields, depth, h => by
      rw [readable, Bool.and_eq_true] at h
      have hdepth : 1 < depth := of_decide_eq_true h.1
      obtain ⟨ws, hws⟩ := exists_fieldsToJson? fields h.2
      rw [tree, Tree.toJson?, if_neg (Nat.not_le.mpr hdepth), hws]
      exact ⟨_, rfl⟩

theorem exists_itemsToJson? : ∀ (items : List Json) {depth : Nat}, readableItems depth items = true →
    ∃ ws, Tree.itemsToJson? depth (itemTrees items) = some ws
  | [], _, _ => ⟨[], rfl⟩
  | v :: rest, _, h => by
      rw [readableItems, Bool.and_eq_true] at h
      obtain ⟨w, hw⟩ := exists_toJson?_tree v h.1
      obtain ⟨ws, hws⟩ := exists_itemsToJson? rest h.2
      rw [itemTrees, Tree.itemsToJson?, hw, hws]
      exact ⟨_, rfl⟩

theorem exists_fieldsToJson? : ∀ (fields : List (String × Json)) {depth : Nat},
    readableFields depth fields = true → ∃ ws, Tree.fieldsToJson? depth (fieldTrees fields) = some ws
  | [], _, _ => ⟨[], rfl⟩
  | (k, v) :: rest, _, h => by
      rw [readableFields, Bool.and_eq_true] at h
      obtain ⟨w, hw⟩ := exists_toJson?_tree v h.1
      obtain ⟨ws, hws⟩ := exists_fieldsToJson? rest h.2
      rw [fieldTrees, Tree.fieldsToJson?, decodeItems?_textItems, hw, hws]
      exact ⟨_, rfl⟩

end

end ProbeRecorder.Json
