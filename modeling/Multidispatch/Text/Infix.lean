/-!
# Occurrence of one text in another

## Main definitions

* `occursIn` — whether a list of characters occurs in another without gaps
* `contains` — whether a text occurs in another
-/

namespace Multidispatch.Text

/-- Whether `part` occurs in the list as a run of neighbours; the empty list occurs everywhere. -/
def occursIn (part : List Char) : List Char → Bool
  | [] => part.isEmpty
  | c :: rest => part.isPrefixOf (c :: rest) || occursIn part rest

/-- Whether `part` occurs in `whole`. -/
def contains (whole part : String) : Bool :=
  occursIn part.toList whole.toList

end Multidispatch.Text
