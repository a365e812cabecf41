/-!
# Tables of code points

A property of code points changes its value at few places.  A table of the
numbers where it changes, in increasing order, decides membership: a number is in
the set when an odd number of bounds lie at or below it.

A map of code points is a list of stretches.  Each stretch gives its first code
point and what that one and those after it are sent to, one by one.
-/

namespace SamlAdmin.Unicode

/-- How many of the first entries of a sorted table, counted from `low`, are at
most `number`, searched by halving up to `high`. -/
def countUpTo (bounds : Array Nat) (number low high : Nat) : Nat :=
  if low < high then
    let middle := (low + high) / 2
    if bounds.getD middle 0 ≤ number then countUpTo bounds number (middle + 1) high
    else countUpTo bounds number low middle
  else low
termination_by high - low

/-- Whether a number lies in the set that a table of bounds describes. -/
def inRanges (bounds : Array Nat) (number : Nat) : Bool :=
  countUpTo bounds number 0 bounds.size % 2 = 1

/-- What a number is sent to by a list of stretches. -/
def lookupStretch (stretches : List (Nat × List Nat)) (number : Nat) : Option Nat :=
  stretches.findSome? fun (first, targets) =>
    if first ≤ number then targets[number - first]? else none

end SamlAdmin.Unicode
