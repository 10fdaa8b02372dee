/-!
# Names

Identifiers of a program are compared by number, not by spelling.  A `Name` is the number that an
`Interner` gave to a spelling; two names of one interner are equal exactly when their spellings are.

## Main definitions

* `Name` — the number of an identifier
* `Name.anonymous` — the name spelled by the empty string, always number `0`
-/

namespace Multidispatch

/-- An identifier, known by the number its interner gave it. -/
structure Name where
  /-- The position of the spelling in the interner's table. -/
  index : Nat
deriving DecidableEq, Repr, Hashable, Ord

namespace Name

/-- The name spelled by the empty string; parameters nobody refers to carry it. -/
def anonymous : Name := ⟨0⟩

instance : Inhabited Name := ⟨anonymous⟩

/-- The written form of the number, for diagnostics. -/
def describe (name : Name) : String :=
  "Name(" ++ toString name.index ++ ")"

end Name

end Multidispatch
