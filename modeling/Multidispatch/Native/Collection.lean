import Multidispatch.Heap.Equality
import Multidispatch.Native.Basic
import Multidispatch.Text.Infix

/-!
# Collections

Ranges and fills make new vectors; positions count from one.  Appending to a vector and removing
from it change the vector itself, so all values that refer to it see the change.

## Main definitions

* `vectorLimit` — the largest number of elements that can be asked for at once
* `rangeItems`, `fillItems` — the elements of ranges and fills
* `position?` — the offset of a position that counts from one
* `range`, `fill`, `length`, `push`, `pop`, `elementAt`, `contains` — the natives
* `notIndexable` — why arguments cannot be indexed
* `entries` — the entries in the prelude
-/

namespace Multidispatch.Collection

/-- The largest number of elements that a range or a fill can have: two to the power of
twenty-eight. -/
def vectorLimit : Nat := 268435456

/-- The largest number of elements that can be counted: one less than two to the power of
sixty-four. -/
def countLimit : Nat := 18446744073709551615

/-- Refuses a number of elements beyond the limit. -/
def checkCapacity (requested : Nat) : Except Cause Unit :=
  if requested ≤ vectorLimit then .ok () else .error (.capacityExceeded requested vectorLimit)

/-- The integers from `first` to `last`, which are none if `last < first`. -/
def rangeItems (first last : Int64) : Except Cause (Array Value) := do
  let span := (last.toInt - first.toInt + 1).toNat
  checkCapacity (min span countLimit)
  return Array.ofFn fun (i : Fin span) => .int (Int64.ofInt (first.toInt + i.val))

/-- As many copies of an integer as the count says, which are none if it is negative. -/
def fillItems (count value : Int64) : Except Cause (Array Value) := do
  let requested := count.toInt.toNat
  checkCapacity requested
  return Array.replicate requested (.int value)

/-- The offset of a position that counts from one, if it lies within the length. -/
def position? (index : Int64) (length : Nat) : Option Nat :=
  if 1 ≤ index.toInt ∧ index.toInt ≤ length then some (index.toInt - 1).toNat else none

/-- The range up to an integer, or between two. -/
def range : Native
  | [.int last] => do
    let items ← Native.ofExcept (rangeItems 1 last)
    Native.newVector items
  | [.int first, .int last] => do
    let items ← Native.ofExcept (rangeItems first last)
    Native.newVector items
  | args => Native.fail (.noOverload rangeCall args)

/-- A vector of copies of an integer, under the name that the program calls it by. -/
def fill (call : String) (value : Int64) : Native
  | [.int count] => do
    let items ← Native.ofExcept (fillItems count value)
    Native.newVector items
  | args => Native.fail (.noOverload call args)

/-- The number of elements of a vector or of characters of a string. -/
def length : Native
  | [.vector ref] => do
    let heap ← Native.heap
    Native.ofExcept (lengthValue (heap.items ref).size)
  | [.text ref] => do
    let heap ← Native.heap
    Native.ofExcept (lengthValue (heap.text ref).length)
  | args => Native.fail (.noOverload "length" args)

/-- Appends an element to a vector and returns the vector. -/
def push : Native
  | [.vector ref, value] => do
    Native.modifyHeap fun heap => heap.push ref value
    return .vector ref
  | args => Native.fail (.noOverload "push!" args)

/-- Removes and returns the last element of a vector. -/
def pop : Native
  | [.vector ref] => fun store =>
    match store.heap.pop? ref with
    | some (last, heap) => (.ok last, { store with heap })
    | none => Native.fail .popFromEmpty store
  | args => Native.fail (.noOverload "pop!" args)

/-- Why arguments cannot be indexed: the position is not an integer, or the target is neither a
vector nor a string. -/
def notIndexable : List Value → Cause
  | [.vector _, position] => .typeMismatch "index" Kind.integer position
  | [.text _, position] => .typeMismatch "index" Kind.integer position
  | [target, _] => .typeMismatch "indexed value" Kind.vector target
  | args => .noOverload indexCall args

/-- The element of a vector at a position, or the character of a string as a new string. -/
def elementAt : Native
  | [.vector ref, .int index] => do
    let heap ← Native.heap
    let items := heap.items ref
    match (position? index items.size).bind (items[·]?) with
    | some value => return value
    | none => Native.fail (.indexOutOfBounds index.toInt items.size)
  | [.text ref, .int index] => do
    let heap ← Native.heap
    let chars := (heap.text ref).toList
    match (position? index chars.length).bind (chars[·]?) with
    | some c => Native.newText (String.singleton c)
    | none => Native.fail (.indexOutOfBounds index.toInt chars.length)
  | args => Native.fail (notIndexable args)

/-- Whether a vector has an element equal to a value, or a string occurs in a string. -/
def contains : Native
  | [.vector ref, element] => do
    let heap ← Native.heap
    return .bool ((heap.items ref).any fun item => heap.equal item element)
  | [.text whole, .text part] => do
    let heap ← Native.heap
    return .bool (Text.contains (heap.text whole) (heap.text part))
  | args => Native.fail (.noOverload memberCall args)

/-- The entries of the natives on collections. -/
def entries : List Entry :=
  [⟨rangeCall, [Kind.integer], range⟩,
   ⟨rangeCall, [Kind.integer, Kind.integer], range⟩,
   ⟨"zeros", [Kind.integer], fill "zeros" 0⟩,
   ⟨"ones", [Kind.integer], fill "ones" 1⟩,
   ⟨"length", [Kind.vector], length⟩,
   ⟨"length", [Kind.string], length⟩,
   ⟨"push!", [Kind.vector, .any], push⟩,
   ⟨"pop!", [Kind.vector], pop⟩,
   ⟨indexCall, [Kind.vector, Kind.integer], elementAt⟩,
   ⟨indexCall, [Kind.string, Kind.integer], elementAt⟩,
   ⟨memberCall, [Kind.vector, .any], contains⟩,
   ⟨memberCall, [Kind.string, Kind.string], contains⟩]

end Multidispatch.Collection
