import Multidispatch.Text.Join
import Multidispatch.Value

/-!
# Faults

A fault ends the program that raised it.  It has a cause, which fixes the message, and it may carry
a backtrace of the calls that were under way.

## Main definitions

* `Cause` — what went wrong
* `Cause.message` — the message for it
* `Backtrace` — the calls under way, most recent first
* `Fault` — a cause with an optional backtrace
* `Fault.withBacktrace` — attaches a backtrace to a fault that has none
-/

namespace Multidispatch

/-- What went wrong. -/
inductive Cause where
  /-- A variable was read that no scope in sight binds. -/
  | unboundVariable (name : String)
  /-- A function was called under a name that no overload in sight has. -/
  | unknownFunction (name : String)
  /-- Overloads of the name are in sight, and none accepts arguments of these kinds. -/
  | noMatchingOverload (name : String) (kinds : List Kind)
  /-- A value of another kind was needed. -/
  | typeError (context : String) (expected : Tag) (got : Kind)
  /-- A position outside a string or a vector of the given length was asked for. -/
  | indexOutOfBounds (index : Int) (length : Nat)
  /-- An integer was divided by zero. -/
  | divisionByZero
  /-- The exact result of the operation does not fit an integer. -/
  | integerOverflow (operation : String)
  /-- More calls were under way than the limit allows. -/
  | stackOverflow (limit : Nat)
  /-- A vector of more elements than the limit allows was asked for. -/
  | capacityExceeded (requested limit : Nat)
deriving DecidableEq, Repr

namespace Cause

/-- The message for a cause. -/
def message : Cause → String
  | unboundVariable name => "unbound variable: " ++ name
  | unknownFunction name => "unknown function: `" ++ name ++ "`"
  | noMatchingOverload name kinds =>
    "no overload of `" ++ name ++ "` matches (" ++ Text.commaSeparated (kinds.map Kind.word) ++ ")"
  | typeError context expected got =>
    "type error: " ++ context ++ " must be " ++ expected.word ++ ", got " ++ got.word
  | indexOutOfBounds index length =>
    "index " ++ toString index ++ " out of bounds for length " ++ toString length
  | divisionByZero => "division by zero"
  | integerOverflow operation => "integer overflow in " ++ operation
  | stackOverflow limit =>
    "maximum recursion depth exceeded (limit: " ++ toString limit ++ ")"
  | capacityExceeded requested limit =>
    "vector of " ++ toString requested ++ " elements exceeds the limit of " ++ toString limit

/-- No overload of the name accepts these arguments. -/
def noOverload (name : String) (args : List Value) : Cause :=
  noMatchingOverload name (args.map Value.kind)

/-- A value of another kind was given. -/
def typeMismatch (context : String) (expected : Tag) (got : Value) : Cause :=
  typeError context expected got.kind

/-- The condition of an `if` or a `while` is not a truth value. -/
def conditionNotBoolean (construct : String) (got : Value) : Cause :=
  typeMismatch (construct ++ " condition") Kind.boolean got

/-- What a `for` should iterate over is not a vector. -/
def notIterable (got : Value) : Cause :=
  typeMismatch "for iterable" Kind.vector got

/-- An element was to be removed from an empty vector. -/
def popFromEmpty : Cause :=
  indexOutOfBounds 0 0

end Cause

/-- A call in a backtrace: the name of the function and its number of arguments. -/
structure TraceFrame where
  /-- The name of the function called. -/
  name : String
  /-- The number of arguments passed. -/
  arity : Nat
deriving DecidableEq, Repr

/-- The calls that were under way, most recent first. -/
structure Backtrace where
  /-- The calls, most recent first. -/
  frames : List TraceFrame
deriving DecidableEq, Repr

namespace Backtrace

/-- The number of calls. -/
def size (trace : Backtrace) : Nat :=
  trace.frames.length

/-- Whether no call was under way. -/
def isEmpty (trace : Backtrace) : Bool :=
  trace.frames.isEmpty

/-- The text of a backtrace: a heading and a numbered line for each call, and nothing at all when
there are no calls. -/
def render (trace : Backtrace) : String :=
  if trace.isEmpty then
    ""
  else
    trace.frames.zipIdx.foldl
      (fun text (frame, i) =>
        text ++ "  " ++ toString i ++ ": " ++ frame.name ++ "/" ++ toString frame.arity ++ "\n")
      "stack backtrace:\n"

end Backtrace

/-- A failure of the running program. -/
structure Fault where
  /-- What went wrong. -/
  cause : Cause
  /-- The calls that were under way, if they were recorded. -/
  backtrace : Option Backtrace := none
deriving DecidableEq, Repr

namespace Fault

instance : Coe Cause Fault := ⟨fun cause => { cause }⟩

/-- The message of a fault is that of its cause. -/
def message (fault : Fault) : String :=
  fault.cause.message

/-- Attaches a backtrace; a fault that already has one keeps it. -/
def withBacktrace (fault : Fault) (trace : Backtrace) : Fault :=
  match fault.backtrace with
  | none => { fault with backtrace := some trace }
  | some _ => fault

/-- Whether two faults have the same cause, wherever they were raised. -/
def sameCause (a b : Fault) : Bool :=
  a.cause = b.cause

@[simp] theorem cause_withBacktrace (fault : Fault) (trace : Backtrace) :
    (fault.withBacktrace trace).cause = fault.cause := by
  unfold withBacktrace
  split <;> rfl

end Fault

end Multidispatch
