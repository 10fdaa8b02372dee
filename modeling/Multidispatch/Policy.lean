import Multidispatch.Printer

/-!
# Policies

Two choices are made when an interpreter is built and hold for its life: the mode, which limits the
depth of calls and says where lines are printed, and the scoping of calls.

## Main definitions

* `Mode` — what kind of run the interpreter serves
* `Mode.depthLimit`, `Mode.printer` — what a mode decides
* `Scoping` — in which scope the body of a function looks names up
-/

namespace Multidispatch

/-- The kind of run that an interpreter serves. -/
inductive Mode where
  /-- A run for a user: calls nest without a limit, and lines go to the terminal. -/
  | interpret
  /-- A test: calls nest up to a fixed depth, and lines are kept. -/
  | test
  /-- A run in which calls nest up to a chosen depth. -/
  | bounded (maxDepth : Nat)
deriving DecidableEq, Repr, Inhabited

namespace Mode

/-- Whether the mode may use the terminal. -/
def allowsTerminal : Mode → Bool
  | interpret => true
  | _ => false

/-- The number of calls that may be under way, or `none` if there is no limit. -/
def depthLimit : Mode → Option Nat
  | interpret => none
  | test => some 500
  | bounded maxDepth => some maxDepth

/-- The printer of a mode for which no other is chosen. -/
def printer (mode : Mode) : Printer :=
  if mode.allowsTerminal then .console #[] else .emptyBuffer

/-- The written form of a mode. -/
def describe : Mode → String
  | interpret => "Interpret"
  | test => "TestRun"
  | bounded maxDepth => "Bounded \x7b max_depth: " ++ toString maxDepth ++ " \x7d"

end Mode

/-- In which scope the names in the body of a function are looked up. -/
inductive Scoping where
  /-- In the scope of the call, then in the scopes of its callers. -/
  | dynamic
  /-- In the scope of the call, then in the scope in which the function was declared. -/
  | lexical
deriving DecidableEq, Repr, Inhabited

/-- The written form of a scoping. -/
def Scoping.describe : Scoping → String
  | dynamic => "Dynamic"
  | lexical => "Lexical"

end Multidispatch
