import Multidispatch.Value

/-!
# The heap

The heap holds the contents of all strings and vectors that have been created.  Buffers are never
released, so a reference stays good; the only ways to change a buffer are the operations of this
module.  Vectors may hold references to themselves.

## Main definitions

* `Heap` — the strings and the vectors
* `Heap.text`, `Heap.items` — the contents of a buffer
* `Heap.newText`, `Heap.newVector` — creation of a buffer
* `Heap.setText`, `Heap.setItems`, `Heap.push`, `Heap.pop?` — changes of a buffer

## Main statements

* `Heap.text_newText_of_lt`, `Heap.items_newVector_of_lt` — creation changes no other buffer
* `Heap.text_setText`, `Heap.items_modifyItems` — a change concerns one buffer alone
-/

namespace Multidispatch

/-- The contents of all buffers, by reference. -/
structure Heap where
  /-- The strings. -/
  texts : Array String := #[]
  /-- The vectors. -/
  vectors : Array (Array Value) := #[]
deriving Inhabited

namespace Heap

/-- The heap without buffers. -/
def empty : Heap := {}

/-- The contents of a string; a reference that was never issued reads as the empty string. -/
def text (heap : Heap) (ref : TextRef) : String :=
  heap.texts[ref.index]?.getD ""

/-- The elements of a vector; a reference that was never issued reads as the empty vector. -/
def items (heap : Heap) (ref : VectorRef) : Array Value :=
  heap.vectors[ref.index]?.getD #[]

/-- Creates a string. -/
def newText (heap : Heap) (s : String) : Value × Heap :=
  (.text ⟨heap.texts.size⟩, { heap with texts := heap.texts.push s })

/-- Creates a vector. -/
def newVector (heap : Heap) (items : Array Value) : Value × Heap :=
  (.vector ⟨heap.vectors.size⟩, { heap with vectors := heap.vectors.push items })

/-- Replaces the contents of a string. -/
def setText (heap : Heap) (ref : TextRef) (s : String) : Heap :=
  { heap with texts := heap.texts.setIfInBounds ref.index s }

/-- Changes the elements of a vector. -/
def modifyItems (heap : Heap) (ref : VectorRef) (change : Array Value → Array Value) : Heap :=
  { heap with vectors := heap.vectors.modify ref.index change }

/-- Replaces the elements of a vector. -/
def setItems (heap : Heap) (ref : VectorRef) (items : Array Value) : Heap :=
  heap.modifyItems ref fun _ => items

/-- Appends an element to a vector. -/
def push (heap : Heap) (ref : VectorRef) (value : Value) : Heap :=
  heap.modifyItems ref fun items => items.push value

/-- Removes the last element of a vector, or returns `none` if the vector is empty. -/
def pop? (heap : Heap) (ref : VectorRef) : Option (Value × Heap) :=
  match (heap.items ref).back? with
  | some last => some (last, heap.modifyItems ref Array.pop)
  | none => none

/-- Replaces the element of a vector at a position that exists. -/
def setItem (heap : Heap) (ref : VectorRef) (position : Nat) (value : Value) : Heap :=
  heap.modifyItems ref fun items => items.setIfInBounds position value

/-! ### What the operations do to the contents -/

@[simp] theorem text_newText_same (heap : Heap) (s : String) :
    (heap.newText s).2.text ⟨heap.texts.size⟩ = s := by
  simp [newText, text]

/-- Creating a string leaves the contents of all others as they were. -/
theorem text_newText_of_lt (heap : Heap) (s : String) (ref : TextRef)
    (issued : ref.index < heap.texts.size) : (heap.newText s).2.text ref = heap.text ref := by
  simp [newText, text, Array.getElem?_push, Nat.ne_of_lt issued]

@[simp] theorem items_newText (heap : Heap) (s : String) (ref : VectorRef) :
    (heap.newText s).2.items ref = heap.items ref := rfl

@[simp] theorem items_newVector_same (heap : Heap) (values : Array Value) :
    (heap.newVector values).2.items ⟨heap.vectors.size⟩ = values := by
  simp [newVector, items]

/-- Creating a vector leaves the elements of all others as they were. -/
theorem items_newVector_of_lt (heap : Heap) (values : Array Value) (ref : VectorRef)
    (issued : ref.index < heap.vectors.size) :
    (heap.newVector values).2.items ref = heap.items ref := by
  simp [newVector, items, Array.getElem?_push, Nat.ne_of_lt issued]

@[simp] theorem text_newVector (heap : Heap) (values : Array Value) (ref : TextRef) :
    (heap.newVector values).2.text ref = heap.text ref := rfl

/-- Replacing the contents of a string that exists changes that string and no other. -/
theorem text_setText (heap : Heap) (ref other : TextRef) (s : String) :
    (heap.setText ref s).text other =
      if ref = other ∧ ref.index < heap.texts.size then s else heap.text other := by
  cases ref with | mk i =>
  cases other with | mk j =>
  by_cases same : i = j
  · subst same
    by_cases issued : i < heap.texts.size <;> simp [setText, text, issued]
  · simp [setText, text, same]

@[simp] theorem items_setText (heap : Heap) (ref : TextRef) (s : String) (other : VectorRef) :
    (heap.setText ref s).items other = heap.items other := rfl

/-- Changing a vector that exists changes that vector and no other. -/
theorem items_modifyItems (heap : Heap) (ref other : VectorRef)
    (change : Array Value → Array Value) :
    (heap.modifyItems ref change).items other =
      if ref = other ∧ ref.index < heap.vectors.size then change (heap.items other)
      else heap.items other := by
  cases ref with | mk i =>
  cases other with | mk j =>
  by_cases same : i = j
  · subst same
    simp only [modifyItems, items, Array.getElem?_modify]
    by_cases issued : i < heap.vectors.size <;> simp [issued]
  · simp [modifyItems, items, Array.getElem?_modify, same]

@[simp] theorem text_modifyItems (heap : Heap) (ref : VectorRef)
    (change : Array Value → Array Value) (other : TextRef) :
    (heap.modifyItems ref change).text other = heap.text other := rfl

@[simp] theorem size_vectors_modifyItems (heap : Heap) (ref : VectorRef)
    (change : Array Value → Array Value) :
    (heap.modifyItems ref change).vectors.size = heap.vectors.size := by
  simp [modifyItems]

end Heap

end Multidispatch
