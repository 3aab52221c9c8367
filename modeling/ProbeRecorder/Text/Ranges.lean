/-!
# `ProbeRecorder.Text.Ranges` — sets of characters given by ranges

## Contents
- **Membership.** `inRanges`.
-/

namespace ProbeRecorder.Text

/-- Some range holds the character; both ends belong to a range. -/
def inRanges (ranges : Array (Nat × Nat)) (c : Char) : Bool :=
  ranges.any fun (first, last) => first ≤ c.toNat && c.toNat ≤ last

end ProbeRecorder.Text
