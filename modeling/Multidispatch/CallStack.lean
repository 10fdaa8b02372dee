import Multidispatch.Fault
import Multidispatch.Interner

/-!
# The call stack

One frame stands on the call stack for each call of a user function that is under way.  The stack
limits the depth of calls and is the source of backtraces.

## Main definitions

* `CallStack` — the frames, most recent first
* `CallStack.push` — enters a call, within a limit
* `CallStack.capture` — the backtrace of the calls under way
* `CallStack.attach` — gives a fault its backtrace
-/

namespace Multidispatch

/-- A call under way: the name of the function and its number of arguments. -/
structure Frame where
  /-- The name under which the function was declared. -/
  name : Name
  /-- The number of arguments passed. -/
  arity : Nat
deriving DecidableEq, Repr

/-- The calls under way, most recent first. -/
structure CallStack where
  /-- The frames, most recent first. -/
  frames : List Frame := []
deriving DecidableEq, Repr, Inhabited

namespace CallStack

/-- The stack on which no call is under way. -/
def empty : CallStack := {}

/-- The number of calls under way. -/
def depth (stack : CallStack) : Nat :=
  stack.frames.length

/-- Whether no call is under way. -/
def isEmpty (stack : CallStack) : Bool :=
  stack.frames.isEmpty

/-- Enters a call, unless as many calls are under way as the limit allows. -/
def push (limit : Option Nat) (stack : CallStack) (frame : Frame) : Except Cause CallStack :=
  match limit with
  | some max =>
    if max ≤ stack.depth then .error (.stackOverflow max) else .ok ⟨frame :: stack.frames⟩
  | none => .ok ⟨frame :: stack.frames⟩

/-- Leaves the most recent call. -/
def pop (stack : CallStack) : CallStack :=
  ⟨stack.frames.tail⟩

/-- The backtrace of the calls under way. -/
def capture (names : Interner) (stack : CallStack) : Backtrace :=
  ⟨stack.frames.map fun frame => ⟨names.spelling frame.name, frame.arity⟩⟩

/-- Gives a fault the backtrace of the calls under way.  A fault that has a backtrace keeps it, and
one raised outside all calls gets none. -/
def attach (names : Interner) (stack : CallStack) (fault : Fault) : Fault :=
  if stack.isEmpty then fault else fault.withBacktrace (stack.capture names)

@[simp] theorem cause_attach (names : Interner) (stack : CallStack) (fault : Fault) :
    (stack.attach names fault).cause = fault.cause := by
  unfold attach
  split
  · rfl
  · exact fault.cause_withBacktrace _

end CallStack

end Multidispatch
