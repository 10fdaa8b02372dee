import Multidispatch.Machine
import Mathlib.Tactic.ByContra

/-!
# Entering a call

The entry of a user function either is refused, and then nothing has changed, or it succeeds and
pushes one frame and one scope.  Which of the two happens depends only on the frames and on the
number of scopes, so it is the same on all machines that have these in common.

## Main definitions

* `Settings.refusal` — the fault with which the entry of a call is refused
* `Settings.parentOf` — the scope that the scope of a call is put into
* `Machine.entered` — the machine after the entry of a call

## Main statements

* `EvalM.enter_apply` — the two ways in which the entry of a call ends
-/

namespace Multidispatch

/-- The fault with which the entry of a call is refused, if it is: too many calls are under way, or
too many scopes are in use. -/
def Settings.refusal (settings : Settings) (frame : Frame) (calls : CallStack) (depth : Nat) :
    Option Fault :=
  match calls.push settings.depthLimit frame with
  | .error cause => some (calls.attach settings.names { cause })
  | .ok entered =>
    if depth < Environment.capacity then
      none
    else
      some (entered.attach settings.names { cause := .stackOverflow (Environment.capacity - 1) })

/-- The scope that the scope of a call is put into. -/
def Settings.parentOf (settings : Settings) (home caller : ScopeId) : ScopeId :=
  match settings.scoping with
  | .dynamic => caller
  | .lexical => home

/-- The environment with a new innermost scope inside `parent`. -/
def Environment.extended (env : Environment) (parent : ScopeId) : Environment :=
  ⟨env.scopes.push { enclosing := env.chain parent }⟩

/-- The scope that the next call gets. -/
def Environment.fresh (env : Environment) : ScopeId :=
  ⟨env.depth⟩

/-- The machine after the entry of a call. -/
def Machine.entered (settings : Settings) (callee : Overload) (home caller : ScopeId)
    (args : List Value) (machine : Machine) : Machine where
  store := machine.store
  env := (machine.env.extended (settings.parentOf home caller)).bindParams machine.env.fresh
    callee.params args
  calls := ⟨⟨callee.name, args.length⟩ :: machine.calls.frames⟩

theorem CallStack.push_eq_ok {limit : Option Nat} {stack entered : CallStack} {frame : Frame}
    (pushed : stack.push limit frame = .ok entered) :
    entered = ⟨frame :: stack.frames⟩ ∧ ∀ max, limit = some max → stack.depth < max := by
  unfold CallStack.push at pushed
  cases limit with
  | none =>
    cases pushed
    exact ⟨rfl, nofun⟩
  | some max =>
    simp only at pushed
    split at pushed
    · cases pushed
    · rename_i room
      cases pushed
      refine ⟨rfl, fun max' same => ?_⟩
      cases same
      omega

/-- The entry of a call is refused, and then nothing has changed, or it succeeds. -/
theorem EvalM.enter_apply (settings : Settings) (callee : Overload) (home caller : ScopeId)
    (args : List Value) (machine : Machine) :
    enter settings callee home caller args machine =
      match settings.refusal ⟨callee.name, args.length⟩ machine.calls machine.env.depth with
      | some fault => some (.error fault, machine)
      | none => some (.ok machine.env.fresh, machine.entered settings callee home caller args) := by
  obtain ⟨store, env, calls⟩ := machine
  cases pushed : calls.push settings.depthLimit ⟨callee.name, args.length⟩ with
  | error cause => simp only [enter, Settings.refusal, pushed]
  | ok entered =>
    obtain ⟨rfl, -⟩ := CallStack.push_eq_ok pushed
    by_cases room : env.depth < Environment.capacity
    · simp only [enter, Settings.refusal, pushed, Environment.pushScope, room, if_true]
      rfl
    · simp only [enter, Settings.refusal, pushed, Environment.pushScope, room, if_false]

/-- A call that is not refused is within the limits. -/
theorem Settings.room_of_refusal {settings : Settings} {frame : Frame} {calls : CallStack}
    {depth : Nat} (admitted : settings.refusal frame calls depth = none) :
    (∀ max, settings.depthLimit = some max → calls.depth < max) ∧
      depth < Environment.capacity := by
  unfold Settings.refusal at admitted
  cases pushed : calls.push settings.depthLimit frame with
  | error cause => simp [pushed] at admitted
  | ok entered =>
    refine ⟨(CallStack.push_eq_ok pushed).2, ?_⟩
    by_contra full
    simp [pushed, full] at admitted

end Multidispatch
