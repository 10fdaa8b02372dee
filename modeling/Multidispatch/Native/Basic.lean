import Multidispatch.Integer
import Multidispatch.Operator
import Multidispatch.Store

/-!
# Entries of the prelude

The prelude is a list of entries.  Each one registers a native under a name for one list of tags;
a native that serves several lists has several entries.

## Main definitions

* `Entry` — a name, the tags of the parameters and a native
* `numericPairs` — the pairs of tags on which numeric operators are defined
* `floatOperands?` — two numbers of which at least one is a float, as floats
* `lengthValue` — a length as a value
-/

namespace Multidispatch

/-- A native to be registered. -/
structure Entry where
  /-- The name under which it is called. -/
  call : String
  /-- What its parameters accept. -/
  signature : List Tag
  /-- What a call runs. -/
  run : Native

/-- The pairs of tags on which numeric operators are defined. -/
def numericPairs : List (List Tag) :=
  [[Kind.integer, Kind.integer], [Kind.integer, Kind.float],
   [Kind.float, Kind.integer], [Kind.float, Kind.float]]

/-- Two numbers of which at least one is a float; an integer among them is promoted. -/
def floatOperands? : List Value → Option (Float × Float)
  | [.int a, .float b] => some (Integer.promote a, b)
  | [.float a, .int b] => some (a, Integer.promote b)
  | [.float a, .float b] => some (a, b)
  | _ => none

/-- A length as a value. -/
def lengthValue (n : Nat) : Except Cause Value :=
  match Integer.ofInt? n with
  | some n => .ok (.int n)
  | none => .error (.integerOverflow "length")

end Multidispatch
