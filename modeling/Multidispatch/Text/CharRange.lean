/-!
# Ranges of characters

A property of characters is tabulated as closed ranges of code points, in ascending order.

## Main definitions

* `CharRange` — a closed range of code points
* `inRanges` — whether a character lies in one of an ascending list of ranges
-/

namespace Multidispatch.Text

/-- A closed range of code points: its first and its last member. -/
abbrev CharRange := Nat × Nat

/-- Whether the code point lies in one of the ranges, which ascend: the search ends at the first
range that does not lie wholly below it. -/
def inRanges : List CharRange → Nat → Bool
  | [], _ => false
  | (first, last) :: rest, c => if c ≤ last then first ≤ c else inRanges rest c

end Multidispatch.Text
