import Multidispatch.Heap

/-!
# Equality of values

Two values are equal when they have the same kind and the same contents, vectors element by
element.  A vector may contain itself, so the comparison remembers the pairs of vectors that it has
begun to compare and takes such a pair for equal when it meets it again: if the pair differs, the
comparison under way will find the difference.

## Main definitions

* `Heap.equal` — equality of values
* `Heap.equalTexts`, `Heap.equalVectors` — equality of two buffers of one kind

## Design notes

A pair that has been met is remembered until the whole comparison ends.  Each nested comparison of
vectors adds a pair, and only vectors with elements lead further, so the depth of the recursion is
bounded by the number of pairs of vectors on the heap.
-/

namespace Multidispatch

namespace Heap

/-- The pairs of vectors whose comparison has begun. -/
abbrev Met := List (VectorRef × VectorRef)

/-- Equality of values of which at least one is not a vector. -/
def equalLeaves (heap : Heap) : Value → Value → Bool
  | .void, .void => true
  | .int m, .int n => m == n
  | .float x, .float y => x == y
  | .bool a, .bool b => a == b
  | .text r, .text t => r == t || heap.text r == heap.text t
  | _, _ => false

/-- Compares two lists position by position until a pair differs, passing the met pairs along. -/
def equalEach (compare : Met → Value → Value → Bool × Met) :
    Met → List Value → List Value → Bool × Met
  | met, a :: as, b :: bs =>
    match compare met a b with
    | (true, met) => equalEach compare met as bs
    | (false, met) => (false, met)
  | met, _, _ => (true, met)

/-- Compares two values, given the pairs met so far, to the given depth. -/
def equalWithin (heap : Heap) : Nat → Met → Value → Value → Bool × Met
  | 0, met, _, _ => (true, met)
  | depth + 1, met, .vector r, .vector t =>
    if r = t ∨ (r, t) ∈ met then
      (true, met)
    else if (heap.items r).size = (heap.items t).size then
      equalEach (heap.equalWithin depth) ((r, t) :: met)
        (heap.items r).toList (heap.items t).toList
    else
      (false, (r, t) :: met)
  | _ + 1, met, a, b => (heap.equalLeaves a b, met)

/-- A depth that no comparison on the heap exceeds. -/
def comparisonDepth (heap : Heap) : Nat :=
  heap.vectors.size * heap.vectors.size + 2

/-- Equality of values. -/
def equal (heap : Heap) (a b : Value) : Bool :=
  (heap.equalWithin heap.comparisonDepth [] a b).1

/-- Equality of two strings, seen as buffers: the same buffer or the same contents. -/
def equalTexts (heap : Heap) (r t : TextRef) : Bool :=
  r == t || heap.text r == heap.text t

/-- Equality of two vectors, seen as buffers: the same buffer, or as many elements and each equal
to its counterpart, judged on its own. -/
def equalVectors (heap : Heap) (r t : VectorRef) : Bool :=
  r == t ||
    (heap.items r).size == (heap.items t).size &&
      ((heap.items r).toList.zip (heap.items t).toList).all fun (a, b) => heap.equal a b

end Heap

end Multidispatch
