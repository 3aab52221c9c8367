import ProbeRecorder.FiniteMap
import ProbeRecorder.Probe

/-!
# `ProbeRecorder.Correlation` — joining calls with their outcomes

Outcomes of an asynchronous call are written under the anchor of the batch its probe belongs to, so that
anchor and correlation id suffice to find them.

## Contents
- **Anchors.** `AnchorTable`, from probes to the anchor of their batch.
- **Ids.** `CorrelationClock`, which never gives the same id twice.
- **Open calls.** `OpenCall`.
-/

namespace ProbeRecorder

/-! ## Anchors -/

/-- **Anchor table.** -/
structure AnchorTable where
  anchors : FiniteMap ProbeId ProbeId

namespace AnchorTable

def empty : AnchorTable := ⟨.empty⟩

/-- Maps the probes of a batch, and the anchor itself, to the anchor. -/
def register (t : AnchorTable) (anchor : ProbeId) (probes : List ProbeId) : AnchorTable :=
  ⟨(probes.foldl (fun m p => m.put p anchor) t.anchors).put anchor anchor⟩

/-- The anchor of a registered probe. -/
def anchor? (t : AnchorTable) (probe : ProbeId) : Option ProbeId := t.anchors.get? probe

/-- **The anchor of a probe**; a probe that was never registered is its own. -/
def anchorOf (t : AnchorTable) (probe : ProbeId) : ProbeId := (t.anchor? probe).getD probe

/-- The number of registered probes. -/
def size (t : AnchorTable) : Nat := t.anchors.size

/-- The table that a list of registrations leads to; the first probe of each is its anchor. -/
def ofWeaves (weaves : List (ClassId × List ProbeId)) : AnchorTable :=
  weaves.foldl (fun t w => match w.2 with
    | [] => t
    | anchor :: _ => t.register anchor w.2) empty

end AnchorTable

/-! ## Ids -/

/-- **Correlation clock**: the id given last. -/
structure CorrelationClock where
  last : Int64
  deriving DecidableEq, Repr

namespace CorrelationClock

def initial : CorrelationClock := ⟨0⟩

/-- The next id: the time, unless an id at least as late was given already. -/
def next (c : CorrelationClock) (now : Int64) : Int64 :=
  if now < c.last + 1 then c.last + 1 else now

/-- The clock after giving its next id. -/
def advance (c : CorrelationClock) (now : Int64) : CorrelationClock := ⟨c.next now⟩

end CorrelationClock

/-! ## Open calls -/

/-- **A call whose outcomes are still to be written**: under this probe, with this id as value. -/
structure OpenCall where
  correlation : Int64
  anchor : ProbeId
  deriving DecidableEq, Repr

end ProbeRecorder
