import Multidispatch.CallStack
import Multidispatch.Environment
import Multidispatch.Policy

/-!
# The machine

The machine is everything that a run can change: the store, the environment and the call stack.
The settings are what a run reads and never changes.  Evaluation is a computation on the machine
that ends with a value or a fault, or runs out of fuel; a fault leaves the machine in the state in
which it was raised.

## Main definitions

* `Settings`, `Machine` — what a run reads, and what it changes
* `EvalM` — computations on the machine
* `EvalM.raise`, `EvalM.traced` — faults and their backtraces
* `EvalM.native` — natives as computations on the machine
* `EvalM.enter`, `EvalM.protect`, `Machine.leave` — the bracket around the call of a user function

## Design notes

Running out of fuel is not a fault.  It is the absence of an outcome, so no program can observe it,
and an outcome reached with some fuel is reached with more.
-/

namespace Multidispatch

/-- What a run reads and never changes. -/
structure Settings where
  /-- The spellings of the names, for messages. -/
  names : Interner
  /-- Where the names in the body of a function are looked up. -/
  scoping : Scoping
  /-- How many calls may be under way, or `none` if there is no limit. -/
  depthLimit : Option Nat

/-- What a run can change. -/
structure Machine where
  /-- The heap and the printer. -/
  store : Store
  /-- The scopes. -/
  env : Environment
  /-- The calls under way. -/
  calls : CallStack
deriving Inhabited

/-- Computations on the machine that end with a value or a fault, or run out of fuel. -/
abbrev EvalM := ExceptT Fault (StateT Machine Option)

/-- Binds parameters to arguments in a scope, from left to right; if two parameters have one name,
the last one counts. -/
def Environment.bindParams (env : Environment) (id : ScopeId) :
    List (Param Name) → List Value → Environment
  | param :: params, arg :: args => (env.bindLocal id param.name arg).bindParams id params args
  | _, _ => env

/-- Leaves a call: releases its scope and its frame. -/
def Machine.leave (scope : ScopeId) : Machine → Machine
  | ⟨store, env, calls⟩ => ⟨store, env.popScope scope, calls.pop⟩

namespace EvalM

variable {α β : Type}

/-- The computation without an outcome. -/
def outOfFuel : EvalM α := fun _ => none

/-- Raises a fault, with the backtrace of the calls under way. -/
def raise (settings : Settings) (cause : Cause) : EvalM α := fun machine =>
  some (.error (machine.calls.attach settings.names { cause }), machine)

/-- Gives a fault that leaves a computation the backtrace of the calls then under way. -/
def traced (settings : Settings) (x : EvalM α) : EvalM α := fun machine =>
  match x machine with
  | some (.error fault, machine) =>
    some (.error (machine.calls.attach settings.names fault), machine)
  | outcome => outcome

/-- Runs a native on the store. -/
def native (run : NativeM α) : EvalM α
  | ⟨store, env, calls⟩ =>
    match run store with
    | (outcome, store) => some (outcome, ⟨store, env, calls⟩)

/-- Reads off the machine. -/
def read (view : Machine → α) : EvalM α := fun machine =>
  some (.ok (view machine), machine)

/-- Changes the environment. -/
def modifyEnv (change : Environment → Environment) : EvalM Unit
  | ⟨store, env, calls⟩ => some (.ok (), ⟨store, change env, calls⟩)

/-- The truth value that the condition of a construct has to be. -/
def condition (settings : Settings) (construct : String) : Value → EvalM Bool
  | .bool b => pure b
  | value => raise settings (.conditionNotBoolean construct value)

/-- Enters the call of a user function: pushes its frame and a scope that binds its parameters.
The scope lies inside that of the caller or inside that of the declaration, as the settings say. -/
def enter (settings : Settings) (callee : Overload) (home caller : ScopeId) (args : List Value) :
    EvalM ScopeId
  | ⟨store, env, calls⟩ =>
    match calls.push settings.depthLimit ⟨callee.name, args.length⟩ with
    | .error cause => some (.error (calls.attach settings.names { cause }), ⟨store, env, calls⟩)
    | .ok entered =>
      let parent :=
        match settings.scoping with
        | .dynamic => caller
        | .lexical => home
      match env.pushScope parent with
      | .error cause =>
        some (.error (entered.attach settings.names { cause }), ⟨store, env, calls⟩)
      | .ok (scope, env) =>
        some (.ok scope, ⟨store, env.bindParams scope callee.params args, entered⟩)

/-- Runs a computation and then changes the machine, whether the computation failed or not. -/
def protect (x : EvalM α) (after : Machine → Machine) : EvalM α := fun machine =>
  match x machine with
  | some (outcome, machine) => some (outcome, after machine)
  | none => none

/-! ### How the machine passes through a computation -/

@[simp] theorem pure_apply (a : α) (machine : Machine) :
    (pure a : EvalM α) machine = some (.ok a, machine) := rfl

theorem bind_apply (x : EvalM α) (f : α → EvalM β) (machine : Machine) :
    (x >>= f) machine =
      match x machine with
      | some (.ok a, machine) => f a machine
      | some (.error fault, machine) => some (.error fault, machine)
      | none => none := by
  change ((x machine).bind fun r =>
    ExceptT.bindCont f r.1 r.2) = _
  rcases x machine with _ | ⟨_ | _, _⟩ <;> rfl

end EvalM

end Multidispatch
