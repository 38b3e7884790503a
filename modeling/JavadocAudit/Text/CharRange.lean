/-!
# Ranges of code points

Character properties are tables of closed ranges in ascending order.  A look-up walks the table and
stops at the first range that does not lie wholly below the code point, so characters of the ASCII
range are decided after a few steps.
-/

namespace JavadocAudit.Text

/-- The range of an ascending table that holds `n`. -/
def rangeOf? : List (Nat × Nat) → Nat → Option (Nat × Nat)
  | [], _ => none
  | (low, high) :: rest, n =>
    if n < low then none else if n ≤ high then some (low, high) else rangeOf? rest n

/-- `n` lies in one of the ranges of an ascending table. -/
def inRanges (table : List (Nat × Nat)) (n : Nat) : Bool := (rangeOf? table n).isSome

end JavadocAudit.Text
