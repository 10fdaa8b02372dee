import Multidispatch.Evaluator
import Multidispatch.Program.Interning

/-!
# The interpreter

An interpreter runs programs one after the other on one machine: what a program assigns and declares
in the global scope is there for the next one, also if the program failed.

## Main definitions

* `Options` — the choices made when an interpreter is built
* `Interpreter` — a machine with its names and policies
* `Interpreter.build` — a new interpreter
* `Interpreter.load`, `Interpreter.run` — from a source program to its outcome
* `Interpreter.call` — the call of a function by a host
* `Interpreter.global?`, `Interpreter.setGlobal` — global variables, for a host
* `Interpreter.registerNative`, `Interpreter.overloads` — overloads, for a host
-/

namespace Multidispatch

/-- The choices made when an interpreter is built. -/
structure Options where
  /-- What kind of run the interpreter serves. -/
  mode : Mode := .interpret
  /-- Where the names in the body of a function are looked up. -/
  scoping : Scoping := .dynamic
  /-- Where lines are printed; if nothing is chosen, the mode decides. -/
  printer : Option Printer := none
  /-- Whether the prelude is registered. -/
  prelude : Bool := true
  /-- The names known so far. -/
  names : Interner := .initial

/-- A machine with its names and policies. -/
structure Interpreter where
  /-- The names of all programs loaded so far. -/
  names : Interner
  /-- What kind of run the interpreter serves. -/
  mode : Mode
  /-- Where the names in the body of a function are looked up. -/
  scoping : Scoping
  /-- The state that programs change. -/
  machine : Machine
deriving Inhabited

namespace Interpreter

/-- A new interpreter, on which nothing has run. -/
def build (options : Options) : Except InternError Interpreter := do
  let registered := if options.prelude then Prelude.register .initial else pure .initial
  let (env, names) ← registered.run options.names
  let printer := options.printer.getD options.mode.printer
  return {
    names
    mode := options.mode
    scoping := options.scoping
    machine := { store := { printer }, env, calls := .empty }
  }

/-- What a run on the interpreter reads. -/
def settings (interpreter : Interpreter) : Settings where
  names := interpreter.names
  scoping := interpreter.scoping
  depthLimit := interpreter.mode.depthLimit

/-- Numbers the identifiers of a source program. -/
def load (interpreter : Interpreter) (program : Block String) :
    Except InternError (Block Name × Interpreter) := do
  let (program, names) ← (Block.intern program).run interpreter.names
  return (program, { interpreter with names })

/-- The outcome of a computation on the machine, and the interpreter after it; `none` if the fuel
did not suffice. -/
def runOn {α : Type} (interpreter : Interpreter) (x : EvalM α) :
    Option (Except Fault α × Interpreter) :=
  match interpreter with
  | ⟨names, mode, scoping, machine⟩ =>
    match x machine with
    | some (outcome, machine) => some (outcome, ⟨names, mode, scoping, machine⟩)
    | none => none

/-- Runs a program in the global scope. -/
def run (interpreter : Interpreter) (fuel : Nat) (program : Block Name) :
    Option (Except Fault Value × Interpreter) :=
  interpreter.runOn (execStmts interpreter.settings fuel .global .void program)

/-- Calls a function by name from the global scope; operators get no fallback. -/
def call (interpreter : Interpreter) (fuel : Nat) (spelling : String) (args : List Value) :
    Except InternError (Option (Except Fault Value × Interpreter)) := do
  let (name, names) ← (Interner.intern spelling).run interpreter.names
  let interpreter := { interpreter with names }
  return interpreter.runOn (dispatch interpreter.settings fuel .global name args .refuse)

/-- The value of a global variable. -/
def global? (interpreter : Interpreter) (spelling : String) : Option Value :=
  (interpreter.names.get? spelling).bind fun name => interpreter.machine.env.lookup .global name

/-- Binds a global variable. -/
def setGlobal (interpreter : Interpreter) (spelling : String) (value : Value) :
    Except InternError Interpreter := do
  let (name, names) ← (Interner.intern spelling).run interpreter.names
  let { store, env, calls } := interpreter.machine
  return { interpreter with names, machine := ⟨store, env.bindLocal .global name value, calls⟩ }

/-- Registers a native in the global scope, behind all overloads that are there. -/
def registerNative (interpreter : Interpreter) (spelling : String) (params : List (Param String))
    (native : Native) : Except InternError Interpreter := do
  let interned : InternM Overload := do
    let params ← Param.internAll params
    let name ← Interner.intern spelling
    return ⟨name, params, .native native⟩
  let (overload, names) ← interned.run interpreter.names
  let { store, env, calls } := interpreter.machine
  return { interpreter with names, machine := ⟨store, env.register .global overload, calls⟩ }

/-- The overloads of a name as seen from the global scope, in the order in which calls try them. -/
def overloads (interpreter : Interpreter) (spelling : String) : List Overload :=
  match interpreter.names.get? spelling with
  | some name => interpreter.machine.env.candidates .global name
  | none => []

/-- The heap, for a host that inspects values. -/
def heap (interpreter : Interpreter) : Heap :=
  interpreter.machine.store.heap

/-- Lets a host act on the heap, for instance to create the arguments of a call. -/
def onHeap {α : Type} (interpreter : Interpreter) (act : Heap → α × Heap) : α × Interpreter :=
  match interpreter with
  | ⟨names, mode, scoping, ⟨⟨heap, printer⟩, env, calls⟩⟩ =>
    match act heap with
    | (a, heap) => (a, ⟨names, mode, scoping, ⟨⟨heap, printer⟩, env, calls⟩⟩)

/-- The printed text that can be read back. -/
def output (interpreter : Interpreter) : String :=
  interpreter.machine.store.printer.output

/-- Forgets the printed text. -/
def clearOutput (interpreter : Interpreter) : Interpreter :=
  let { store, env, calls } := interpreter.machine
  { interpreter with machine := ⟨{ store with printer := store.printer.clear }, env, calls⟩ }

end Interpreter

end Multidispatch
