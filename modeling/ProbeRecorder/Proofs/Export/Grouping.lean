import Mathlib.Data.List.Forall2
import ProbeRecorder.Export.Calls
import ProbeRecorder.Proofs.Correlation

/-!
# `ProbeRecorder.Proofs.Export.Grouping` — the join, anchor by anchor

`correlate` sorts the events of a log by spot first, and looks the outcomes of each call up. Here it is
compared with the plain join, which goes through the whole log again for every anchor. They agree on every
log, also on one that no recorder wrote.

## Contents
- **Groups.** The group of a spot (`getD_eventsBySpot`); leaving out one position (`map_fst_filter_zipIdx`).
- **Plain join.** `correlateFrom`, and `correlate_eq_correlateFrom`.
- **Positions.** `Call.MadeAt`, the call of an anchor at a position, and `correlate_made` for all of them.
-/

namespace ProbeRecorder

variable {table : AnchorTable} {events before after : List Event} {e : Event}

/-! ## Groups -/

/-- Adding events to groups, one after the other. -/
theorem getD_foldl_addToSpot (log : List (Event × Nat)) (spot : ProbeId × Int64) :
    ∀ spots : FiniteMap (ProbeId × Int64) (List (Event × Nat)),
      ((log.foldl addToSpot spots).get? spot).getD [] =
        (spots.get? spot).getD [] ++ log.filter fun x => x.1.spot = spot := by
  induction log with
  | nil => exact fun _ => (List.append_nil _).symm
  | cons x rest ih =>
      intro spots
      rw [List.foldl_cons, ih, addToSpot, FiniteMap.get?_put, List.filter_cons]
      by_cases here : x.1.spot = spot
      · simp [here]
      · simp [here, Ne.symm here]

/-- **The group of a spot** holds the events at it, in the order of the log. -/
theorem getD_eventsBySpot (events : List Event) (spot : ProbeId × Int64) :
    ((eventsBySpot events).get? spot).getD [] = events.zipIdx.filter fun x => x.1.spot = spot :=
  getD_foldl_addToSpot events.zipIdx spot .empty

/-- **Leaving out one position** of a list is leaving out the element there, and no equal one. -/
theorem map_fst_filter_zipIdx {α : Type} (xs : List α) :
    ∀ start i : Nat, ((xs.zipIdx start).filter fun x => x.2 ≠ start + i).map Prod.fst = xs.eraseIdx i := by
  induction xs with
  | nil => exact fun _ _ => rfl
  | cons x rest ih =>
      intro start i
      rw [List.zipIdx_cons, List.filter_cons]
      cases i with
      | zero =>
          have others : ∀ y ∈ rest.zipIdx (start + 1), decide (y.2 ≠ start + 0) = true := by
            intro y hy
            have := List.le_snd_of_mem_zipIdx hy
            exact decide_eq_true (by omega)
          rw [List.filter_eq_self.mpr others]
          simp
      | succ i =>
          have shifted : start + (i + 1) = start + 1 + i := by omega
          rw [shifted, if_pos (decide_eq_true (by simp only; omega)), List.map_cons, ih, List.eraseIdx_cons_succ]

/-! ## Plain join -/

namespace Call

/-- An event stands where the outcomes of a call are written. -/
def matchesEvent (anchor : ProbeId) (correlation : Int64) (e : Event) : Bool :=
  e.probe = anchor && e.value = correlation

/-- The call that the event at a position starts, if it is an anchor. Its outcomes are the matching
    events at all other positions. -/
def ofEvent? (table : AnchorTable) (before : List Event) (e : Event) (after : List Event) :
    Option Call := do
  let correlation ← e.correlation?
  let anchor := table.anchorOf e.probe
  return {
    probe := e.probe
    anchor := anchor
    object := e.value
    correlation := correlation
    started := e.timestamp
    outcomes := ((before ++ after).filter (matchesEvent anchor correlation)).map outcomeOf }

end Call

/-- Calls started by the events of a suffix; `before` holds the events before it. -/
def correlateFrom (table : AnchorTable) (before : List Event) : List Event → List Call
  | [] => []
  | e :: after =>
    (Call.ofEvent? table before e after).toList ++ correlateFrom table (before ++ [e]) after

/-- **The call of an anchor** has the matching events at all other positions as its outcomes. -/
theorem Call.ofAnchor?_eq (table : AnchorTable) (events : List Event) (x : Event × Nat) :
    ofAnchor? table (eventsBySpot events) x = x.1.correlation?.map fun correlation =>
      { probe := x.1.probe
        anchor := table.anchorOf x.1.probe
        object := x.1.value
        correlation := correlation
        started := x.1.timestamp
        outcomes := ((events.eraseIdx x.2).filter
          (matchesEvent (table.anchorOf x.1.probe) correlation)).map outcomeOf } := by
  unfold ofAnchor?
  cases x.1.correlation? with
  | none => rfl
  | some correlation =>
      have spot : ∀ y : Event × Nat, decide (y.1.spot = (table.anchorOf x.1.probe, correlation)) =
          matchesEvent (table.anchorOf x.1.probe) correlation y.1 := by
        intro y
        simp [Event.spot, matchesEvent]
      have erased := map_fst_filter_zipIdx events 0 x.2
      rw [Nat.zero_add] at erased
      show some (Call.mk _ _ _ _ _ _) = some (Call.mk _ _ _ _ _ _)
      rw [getD_eventsBySpot, ← erased, List.filter_map, List.filter_filter, List.filter_filter,
        List.map_map]
      simp only [spot, Function.comp_def, Bool.and_comm]

theorem Call.ofAnchor?_append (table : AnchorTable) (before : List Event) (e : Event) (after : List Event) :
    ofAnchor? table (eventsBySpot (before ++ e :: after)) (e, before.length) =
      ofEvent? table before e after := by
  have erased : (before ++ e :: after).eraseIdx before.length = before ++ after := by
    rw [List.eraseIdx_append_of_length_le (Nat.le_refl _), Nat.sub_self, List.eraseIdx_cons_zero]
  rw [ofAnchor?_eq, erased]
  unfold ofEvent?
  cases e.correlation? <;> rfl

theorem filterMap_ofAnchor? (table : AnchorTable) (after : List Event) : ∀ before : List Event,
    (after.zipIdx before.length).filterMap (Call.ofAnchor? table (eventsBySpot (before ++ after))) =
      correlateFrom table before after := by
  induction after with
  | nil => exact fun _ => rfl
  | cons e rest ih =>
      intro before
      have hrest := ih (before ++ [e])
      rw [List.length_append, List.length_singleton, List.append_assoc, List.singleton_append] at hrest
      rw [List.zipIdx_cons, List.filterMap_cons, Call.ofAnchor?_append, hrest, correlateFrom]
      cases Call.ofEvent? table before e rest <;> rfl

/-- **The join is the plain join.** -/
theorem correlate_eq_correlateFrom (table : AnchorTable) (events : List Event) :
    correlate table events = correlateFrom table [] events :=
  filterMap_ofAnchor? table events []

/-! ## Positions -/

/-- **An event starts a call** if it is an anchor and carries eight bytes. -/
def Event.startsCall (e : Event) : Bool := e.isAnchor && e.payload.any fun bytes => bytes.length = 8

theorem Event.isSome_correlation? (e : Event) : e.correlation?.isSome = e.startsCall := by
  unfold correlation? startsCall
  cases e.isAnchor with
  | false => rfl
  | true =>
      cases e.payload with
      | none => rfl
      | some bytes =>
          show (ofBigEndian? bytes).isSome = decide (bytes.length = 8)
          unfold ofBigEndian?
          split <;> simp_all

/-- The positions of a log whose events start calls, in order. -/
def startsIn (events : List Event) : List (Fin events.length) :=
  (List.finRange events.length).filter fun i => events[i].startsCall

/-- **The call of the anchor at a position.** Every field is given by the log and the table. -/
structure Call.MadeAt (table : AnchorTable) (events : List Event) (i : Fin events.length) (c : Call) :
    Prop where
  probe : c.probe = events[i].probe
  anchor : c.anchor = table.anchorOf events[i].probe
  object : c.object = events[i].value
  started : c.started = events[i].timestamp
  /-- The payload is the id, most significant byte first. -/
  correlation : events[i].payload = some (bigEndian c.correlation)
  /-- Only the position of the anchor is left out, and no event that is equal to it. -/
  outcomes : c.outcomes =
    ((events.eraseIdx i).filter fun e => e.probe = c.anchor ∧ e.value = c.correlation).map
      fun e => e.payload.elim .null renderPayload

theorem Call.madeAt_of_ofAnchor? {i : Fin events.length} {c : Call}
    (h : ofAnchor? table (eventsBySpot events) (events[i], i) = some c) : c.MadeAt table events i := by
  rw [ofAnchor?_eq, Option.map_eq_some_iff] at h
  obtain ⟨correlation, hid, rfl⟩ := h
  refine ⟨rfl, rfl, rfl, rfl, (Event.correlation?_eq_some_iff.mp hid).2, ?_⟩
  have spot : matchesEvent (table.anchorOf events[i].probe) correlation =
      fun e => decide (e.probe = table.anchorOf events[i].probe ∧ e.value = correlation) := by
    funext e
    simp [matchesEvent]
  have shown : outcomeOf = fun e => e.payload.elim .null renderPayload := by
    funext e
    cases h : e.payload <;> simp [outcomeOf, h]
  show List.map outcomeOf (List.filter (matchesEvent (table.anchorOf events[i].probe) correlation) _) = _
  rw [spot, shown]

theorem isSome_ofAnchor? (table : AnchorTable) (events : List Event) (x : Event × Nat) :
    (Call.ofAnchor? table (eventsBySpot events) x).isSome = x.1.startsCall := by
  rw [Call.ofAnchor?_eq, Option.isSome_map, Event.isSome_correlation?]

/-- What `filterMap` makes, side by side with what it is made from. -/
theorem forall₂_filterMap {α β : Type} (f : α → Option β) (xs : List α) :
    List.Forall₂ (fun a b => f a = some b) (xs.filter fun a => (f a).isSome) (xs.filterMap f) := by
  induction xs with
  | nil => exact .nil
  | cons a rest ih =>
      rw [List.filter_cons, List.filterMap_cons]
      cases h : f a with
      | none => simpa using ih
      | some b => exact .cons h ih

theorem zipIdx_eq_map_finRange {α : Type} (xs : List α) :
    xs.zipIdx = (List.finRange xs.length).map fun i => (xs[i], i.val) := by
  apply List.ext_getElem
  · simp
  · intro i _ _
    simp

/-- **The join gives one call for every anchor with eight bytes**, in the order of the log, and the outcomes
    of a call are all other events at its spot; so an id that was written as an anchor comes back. -/
theorem correlate_made (table : AnchorTable) (events : List Event) :
    List.Forall₂ (Call.MadeAt table events) (startsIn events) (correlate table events) ∧
      ∀ before after stamp probe object id,
        ∃ c ∈ correlate table (before ++ Event.anchor stamp probe object id :: after),
          c.probe = probe ∧ c.object = object ∧ c.correlation = id := by
  constructor
  · unfold correlate startsIn
    rw [zipIdx_eq_map_finRange, List.filterMap_map]
    have joined := forall₂_filterMap (Call.ofAnchor? table (eventsBySpot events) ∘ fun i => (events[i], i.val))
      (List.finRange events.length)
    simp only [Function.comp_def, isSome_ofAnchor?] at joined
    exact joined.imp fun _ _ => Call.madeAt_of_ofAnchor?
  · intro before after stamp probe object id
    have made := Call.ofAnchor?_append table before (Event.anchor stamp probe object id) after
    unfold Call.ofEvent? at made
    rw [Event.correlation?_anchor] at made
    refine ⟨_, List.mem_filterMap.mpr ⟨_, List.mem_zipIdx_iff_getElem?.mpr ?_, made⟩, rfl, rfl, rfl⟩
    simp

end ProbeRecorder
