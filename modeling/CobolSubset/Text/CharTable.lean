/-!
# Tables of characters

A property of characters that has no short rule is given as the ascending list of its code point
ranges, both ends included.
-/

namespace CobolSubset

/-- Ascending code point ranges, both ends included. -/
abbrev CharTable := List (Nat × Nat)

namespace CharTable

/-- Whether the code point lies in one of the ranges; the search stops at the first range that
ends at or after it. -/
def covers : CharTable → Nat → Bool
  | [], _ => false
  | (low, high) :: rest, n => if n ≤ high then low ≤ n else covers rest n

def contains (table : CharTable) (c : Char) : Bool := table.covers c.toNat

end CharTable

end CobolSubset
