import Multidispatch.Fault
import Multidispatch.Heap
import Multidispatch.Printer

/-!
# The store, and natives that act on it

The store is what functions written outside the language can see and change: the heap and the
printer.  A native is such a function.  It may fail, and what it has done to the store before it
failed stays done.

## Main definitions

* `Store` — the heap and the printer
* `NativeM` — computations on the store that may fail
* `Native` — functions from arguments to such computations
* `Native.fail`, `Native.newText`, `Native.newVector`, `Native.print` — the steps natives are made of
-/

namespace Multidispatch

/-- The heap and the printer. -/
structure Store where
  /-- The contents of all strings and vectors. -/
  heap : Heap := {}
  /-- Where lines are printed. -/
  printer : Printer
deriving Inhabited

/-- Computations that act on the store and may fail. -/
abbrev NativeM := ExceptT Fault (StateM Store)

/-- A function written outside the language. -/
abbrev Native := List Value → NativeM Value

namespace Native

/-- Fails with a cause and without a backtrace. -/
def fail {α : Type} (cause : Cause) : NativeM α := fun store =>
  (.error { cause }, store)

/-- The outcome of a pure computation. -/
def ofExcept {α : Type} : Except Cause α → NativeM α
  | .ok a => pure a
  | .error cause => fail cause

/-- The heap as it is now. -/
def heap : NativeM Heap := fun store =>
  (.ok store.heap, store)

/-- Changes the heap. -/
def modifyHeap (change : Heap → Heap) : NativeM Unit := fun store =>
  (.ok (), { store with heap := change store.heap })

/-- Creates a string. -/
def newText (s : String) : NativeM Value := fun store =>
  match store.heap.newText s with
  | (value, heap) => (.ok value, { store with heap })

/-- Creates a vector. -/
def newVector (items : Array Value) : NativeM Value := fun store =>
  match store.heap.newVector items with
  | (value, heap) => (.ok value, { store with heap })

/-- Prints a line. -/
def print (s : String) : NativeM Unit := fun store =>
  (.ok (), { store with printer := store.printer.line s })

end Native

end Multidispatch
