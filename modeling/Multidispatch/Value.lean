import Multidispatch.Kind

/-!
# Values

Numbers and truth values are plain data.  Strings and vectors are held by reference: a value names
a buffer on the heap, and all values that name the same buffer see each other's changes.

## Main definitions

* `TextRef`, `VectorRef` — references to a string and to a vector
* `Value` — the values of the language
* `Value.kind` — the kind of a value
* `Value.sameBuffer` — whether two values name the same buffer
-/

namespace Multidispatch

/-- A reference to a string on the heap. -/
structure TextRef where
  /-- The position of the string among all strings of the heap. -/
  index : Nat
deriving DecidableEq, Repr

/-- A reference to a vector on the heap. -/
structure VectorRef where
  /-- The position of the vector among all vectors of the heap. -/
  index : Nat
deriving DecidableEq, Repr

/-- The values of the language. -/
inductive Value where
  | void
  | int (n : Int64)
  | float (x : Float)
  | bool (b : Bool)
  | text (ref : TextRef)
  | vector (ref : VectorRef)
deriving Repr, Inhabited

namespace Value

/-- The kind of a value. -/
def kind : Value → Kind
  | void => .void
  | int _ => .integer
  | float _ => .float
  | bool _ => .boolean
  | text _ => .string
  | vector _ => .vector

/-- The integer that a value holds, if it holds one. -/
def int? : Value → Option Int64
  | int n => some n
  | _ => none

/-- The float that a value holds, if it holds one. -/
def float? : Value → Option Float
  | float x => some x
  | _ => none

/-- The truth value that a value holds, if it holds one. -/
def bool? : Value → Option Bool
  | bool b => some b
  | _ => none

/-- The string that a value refers to, if it refers to one. -/
def text? : Value → Option TextRef
  | text ref => some ref
  | _ => none

/-- The vector that a value refers to, if it refers to one. -/
def vector? : Value → Option VectorRef
  | vector ref => some ref
  | _ => none

/-- Whether two values are references to the same buffer. -/
def sameBuffer : Value → Value → Bool
  | text a, text b => a = b
  | vector a, vector b => a = b
  | _, _ => false

end Value

end Multidispatch
