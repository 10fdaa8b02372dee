import Multidispatch.Proofs.Nesting

/-!
# Changing all overloads

A change of overloads can be applied to all that an environment holds.  The scopes and their
variables stay as they are, so every operation on the environment commutes with the change; what a
call by name sees are the changed overloads, in the same order.

## Main definitions

* `Environment.mapOverloads` — the environment with all overloads changed
* `Machine.mapOverloads` — the machine with all overloads changed

## Main statements

* `Environment.assign_mapOverloads`, `Environment.register_mapOverloads` — the change commutes with
  assignments and declarations
* `Environment.candidates_mapOverloads` — what a call by name sees
* `Machine.entered_mapOverloads`, `Machine.leave_mapOverloads` — the change commutes with calls
-/

namespace Multidispatch

/-- A scope with all overloads changed. -/
def Scope.mapOverloads (change : Overload → Overload) (scope : Scope) : Scope :=
  { scope with overloads := scope.overloads.map change }

/-- An environment with all overloads changed. -/
def Environment.mapOverloads (change : Overload → Overload) (env : Environment) : Environment :=
  ⟨env.scopes.map (Scope.mapOverloads change)⟩

/-- A machine with all overloads changed. -/
def Machine.mapOverloads (change : Overload → Overload) (machine : Machine) : Machine :=
  { machine with env := machine.env.mapOverloads change }

namespace Environment

variable {change : Overload → Overload} (env : Environment)

@[simp] theorem depth_mapOverloads : (env.mapOverloads change).depth = env.depth := by
  simp [mapOverloads, depth]

@[simp] theorem scope_mapOverloads (id : ScopeId) :
    (env.mapOverloads change).scope id = (env.scope id).mapOverloads change := by
  simp only [scope, mapOverloads, Array.getElem?_map]
  cases env.scopes[id.index]? <;> rfl

@[simp] theorem chain_mapOverloads (id : ScopeId) :
    (env.mapOverloads change).chain id = env.chain id := by
  simp [chain, Scope.mapOverloads]

/-- Variables read as before. -/
@[simp] theorem lookup_mapOverloads (site : ScopeId) (name : Name) :
    (env.mapOverloads change).lookup site name = env.lookup site name := by
  simp [lookup, Scope.mapOverloads]

@[simp] theorem holder_mapOverloads (site : ScopeId) (name : Name) :
    (env.mapOverloads change).holder site name = env.holder site name := by
  simp [holder, Scope.mapOverloads]

/-- A call by name sees the changed overloads, if the change keeps their names. -/
theorem candidates_mapOverloads (names : ∀ overload, (change overload).name = overload.name)
    (site : ScopeId) (name : Name) :
    (env.mapOverloads change).candidates site name = (env.candidates site name).map change := by
  have inScope : ∀ id, ((env.scope id).mapOverloads change).overloadsOf name =
      ((env.scope id).overloadsOf name).map change := by
    intro id
    simp only [Scope.overloadsOf, Scope.mapOverloads, List.filter_map]
    congr 2
    funext overload
    simp [names overload]
  simp only [candidates, chain_mapOverloads, scope_mapOverloads, inScope, List.map_flatMap]

/-- A change of one scope commutes with a change of the overloads, if it does so in that scope. -/
theorem modifyScope_mapOverloads {id : ScopeId} {update update' : Scope → Scope}
    (commutes : ∀ scope, (update scope).mapOverloads change = update' (scope.mapOverloads change)) :
    (env.mapOverloads change).modifyScope id update' =
      (env.modifyScope id update).mapOverloads change :=
  congrArg Environment.mk (map_modifyScope commutes env id).symm

theorem bindLocal_mapOverloads (id : ScopeId) (name : Name) (value : Value) :
    (env.mapOverloads change).bindLocal id name value =
      (env.bindLocal id name value).mapOverloads change :=
  env.modifyScope_mapOverloads fun _ => rfl

theorem assign_mapOverloads (site : ScopeId) (name : Name) (value : Value) :
    (env.mapOverloads change).assign site name value =
      (env.assign site name value).mapOverloads change := by
  unfold assign
  rw [holder_mapOverloads, bindLocal_mapOverloads]

theorem register_mapOverloads (id : ScopeId) (overload : Overload) :
    (env.mapOverloads change).register id (change overload) =
      (env.register id overload).mapOverloads change := by
  refine env.modifyScope_mapOverloads fun scope => ?_
  simp [Scope.mapOverloads]

theorem extended_mapOverloads (parent : ScopeId) :
    (env.mapOverloads change).extended parent = (env.extended parent).mapOverloads change := by
  unfold extended
  rw [chain_mapOverloads]
  simp [mapOverloads, Scope.mapOverloads]

theorem bindParams_mapOverloads (id : ScopeId) (params : List (Param Name)) (args : List Value) :
    (env.mapOverloads change).bindParams id params args =
      (env.bindParams id params args).mapOverloads change := by
  induction params generalizing env args with
  | nil => rfl
  | cons param params ih =>
    cases args with
    | nil => rfl
    | cons arg args =>
      simp only [bindParams]
      rw [bindLocal_mapOverloads, ih]

theorem popScope_mapOverloads (id : ScopeId) :
    (env.mapOverloads change).popScope id = (env.popScope id).mapOverloads change := by
  unfold popScope
  rw [depth_mapOverloads]
  split
  · simp [mapOverloads]
  · rfl

end Environment

namespace Machine

variable {change : Overload → Overload} (machine : Machine)

@[simp] theorem fresh_mapOverloads :
    (machine.mapOverloads change).env.fresh = machine.env.fresh := by
  simp [mapOverloads, Environment.fresh]

/-- A changed function is entered as before, if the change keeps its name and its parameters. -/
theorem entered_mapOverloads (settings : Settings) {callee : Overload}
    (name : (change callee).name = callee.name) (params : (change callee).params = callee.params)
    (home caller : ScopeId) (args : List Value) :
    (machine.mapOverloads change).entered settings (change callee) home caller args =
      (machine.entered settings callee home caller args).mapOverloads change := by
  unfold entered
  rw [fresh_mapOverloads, name, params]
  simp only [mapOverloads]
  rw [Environment.extended_mapOverloads, Environment.bindParams_mapOverloads]

theorem leave_mapOverloads (scope : ScopeId) :
    (machine.mapOverloads change).leave scope = (machine.leave scope).mapOverloads change := by
  simp only [leave, mapOverloads]
  rw [Environment.popScope_mapOverloads]

end Machine

end Multidispatch
