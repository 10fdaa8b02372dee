import Multidispatch.Store

/-!
# Natives for hosts

A program that embeds the interpreter can register natives of its own.  These are the simple ones:
they return a fixed value, their arguments or a fault, or count their calls.

## Main definitions

* `Host.constant`, `Host.argument`, `Host.arguments`, `Host.kinds`, `Host.failing` — natives without
  memory
* `Host.counter` — a native that counts its calls
-/

namespace Multidispatch.Host

/-- Returns the same value on every call. -/
def constant (value : Value) : Native := fun _ =>
  pure value

/-- Returns the argument at a place, counted from zero, or void if there is none. -/
def argument (place : Nat) : Native := fun args =>
  pure (args[place]?.getD .void)

/-- Returns a new vector of the arguments. -/
def arguments : Native := fun args =>
  Native.newVector args.toArray

/-- New strings, one for each text. -/
def newTexts : List String → NativeM (List Value)
  | [] => return []
  | s :: rest => do
    let value ← Native.newText s
    let values ← newTexts rest
    return value :: values

/-- Returns a new vector of the kinds of the arguments, as strings. -/
def kinds : Native := fun args => do
  let words ← newTexts (args.map fun arg => arg.kind.word)
  Native.newVector words.toArray

/-- Fails on every call. -/
def failing (fault : Fault) : Native := fun _ store =>
  (.error fault, store)

/-- The number that a vector used as a counter holds. -/
def count (heap : Heap) (cell : VectorRef) : Int64 :=
  ((heap.items cell)[0]?.bind Value.int?).getD 0

/-- Returns one on the first call, two on the second, and so on; the number of calls is kept in a
vector that no program refers to. -/
def counter (cell : VectorRef) : Native := fun _ => do
  let heap ← Native.heap
  let next := count heap cell + 1
  Native.modifyHeap fun heap => heap.setItems cell #[.int next]
  return .int next

end Multidispatch.Host
