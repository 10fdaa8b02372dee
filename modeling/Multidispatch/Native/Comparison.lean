import Multidispatch.Heap.Equality
import Multidispatch.Native.Basic

/-!
# Comparison

Numbers, truth values and, for the four ordering operators, strings are compared by their order.
A NaN is ordered with nothing, so every comparison with it but `!=` is false.  Strings, vectors and
voids are equal when their contents are.

Values of different kinds have no overload of `==` and `!=`.  A program that writes these operators
still gets an answer for them, by equality of values; this is the fallback of the two operators.

## Main definitions

* `floatOrder` — the order of floats, which is partial
* `orderOf?` — the order of two values of the kinds that are ordered
* `CompareOp.holds` — which orders satisfy an operator
* `CompareOp.byOrder`, `CompareOp.byContents` — the two natives of an operator
* `Comparison.entries` — their entries in the prelude
-/

namespace Multidispatch

/-- The order of two floats, or `none` if one of them is a NaN. -/
def floatOrder (a b : Float) : Option Ordering :=
  if a < b then some .lt
  else if a == b then some .eq
  else if b < a then some .gt
  else none

/-- The order of two values: `none` if their kinds are not ordered, and `some none` if a NaN is
among them. -/
def orderOf? (heap : Heap) (args : List Value) : Option (Option Ordering) :=
  match floatOperands? args with
  | some (a, b) => some (floatOrder a b)
  | none =>
    match args with
    | [.int a, .int b] => some (compare a.toInt b.toInt)
    | [.bool a, .bool b] => some (compare a b)
    | [.text a, .text b] => some (compare (heap.text a) (heap.text b))
    | _ => none

namespace CompareOp

/-- Whether operands in this order satisfy the operator. -/
def holds : CompareOp → Option Ordering → Bool
  | eq, order => order = some .eq
  | ne, order => order ≠ some .eq
  | ge, order => order = some .gt ∨ order = some .eq
  | gt, order => order = some .gt
  | le, order => order = some .lt ∨ order = some .eq
  | lt, order => order = some .lt

/-- The operator on operands that are ordered. -/
def byOrder (op : CompareOp) : Native := fun args => do
  let heap ← Native.heap
  match orderOf? heap args with
  | some order => return .bool (op.holds order)
  | none => Native.fail (.noOverload op.call args)

/-- Equality of the operands for `==`, and its negation for every other operator. -/
def byContents (op : CompareOp) : Native
  | [a, b] => do
    let heap ← Native.heap
    return .bool (heap.equal a b == (op = eq))
  | args => Native.fail (.noOverload op.call args)

end CompareOp

namespace Comparison

/-- Two truth values. -/
def booleanPair : List Tag := [Kind.boolean, Kind.boolean]

/-- Two strings. -/
def stringPair : List Tag := [Kind.string, Kind.string]

/-- The pairs of tags on which `==` and `!=` compare contents. -/
def contentsPairs : List (List Tag) :=
  [stringPair, [Kind.vector, Kind.vector], [Kind.void, Kind.void]]

/-- The entries of the comparison operators. -/
def entries : List Entry :=
  ([CompareOp.eq, .ne].flatMap fun op =>
    ((numericPairs ++ [booleanPair]).map fun pair => ⟨op.call, pair, op.byOrder⟩) ++
      contentsPairs.map fun pair => ⟨op.call, pair, op.byContents⟩) ++
  ([CompareOp.ge, .gt, .le, .lt].flatMap fun op =>
    (numericPairs ++ [booleanPair, stringPair]).map fun pair => ⟨op.call, pair, op.byOrder⟩)

end Comparison

end Multidispatch
