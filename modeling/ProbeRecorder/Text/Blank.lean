/-!
# `ProbeRecorder.Text.Blank` — white space and trimming

## Contents
- **Property.** `isBlank`, the Unicode property `White_Space`.
- **Trimming.** `trimStart`, `trimEnd`, `trim` on character lists.
-/

namespace ProbeRecorder.Text

/-- **White space**, all of Unicode's. -/
def isBlank (c : Char) : Bool :=
  let n := c.toNat
  (9 ≤ n && n ≤ 13) || n == 0x20 || n == 0x85 || n == 0xa0 || n == 0x1680
    || (0x2000 ≤ n && n ≤ 0x200a) || n == 0x2028 || n == 0x2029 || n == 0x202f || n == 0x205f
    || n == 0x3000

def trimStart (s : List Char) : List Char := s.dropWhile isBlank

def trimEnd (s : List Char) : List Char := (s.reverse.dropWhile isBlank).reverse

/-- The text without the white space around it. -/
def trim (s : List Char) : List Char := trimEnd (trimStart s)

/-- **Trimmed** texts neither start nor end with white space. -/
def IsTrimmed (s : List Char) : Prop :=
  (∀ c, s.head? = some c → isBlank c = false) ∧ (∀ c, s.getLast? = some c → isBlank c = false)

end ProbeRecorder.Text
