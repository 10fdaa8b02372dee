import Multidispatch.Proofs.Nesting

/-!
# What all stored overloads and values have in common

Calls find their overloads in the environment, and expressions the values of their variables, so what
evaluation does depends on all overloads and values that are stored there.  A property that all of
them have stays with the environment, as long as everything that is added has it.

## Main definitions

* `Environment.AllStored` — all overloads that an environment holds have a property
* `Environment.AllBound` — all values of variables have a property

## Main statements

* `Environment.AllStored.register` — an overload with the property may be added
* `Environment.AllStored.of_mem_candidates` — the overloads that a call sees have the property
* `Environment.AllBound.assign` — a variable may get a value with the property
* `Environment.AllBound.of_lookup` — the values that an expression sees have the property
-/

namespace Multidispatch

/-- All overloads that an environment holds, in whatever scope, have a property. -/
def Environment.AllStored (property : Overload → Prop) (env : Environment) : Prop :=
  ∀ id, ∀ overload ∈ (env.scope id).overloads, property overload

namespace Environment.AllStored

variable {property : Overload → Prop} {env env' : Environment}

/-- The property is a matter of the overloads alone. -/
theorem of_subset (stored : env.AllStored property)
    (subset : ∀ id, (env'.scope id).overloads ⊆ (env.scope id).overloads) :
    env'.AllStored property :=
  fun id overload listed => stored id overload (subset id listed)

theorem mono {weaker : Overload → Prop} (stored : env.AllStored property)
    (implies : ∀ overload, property overload → weaker overload) : env.AllStored weaker :=
  fun id overload listed => implies overload (stored id overload listed)

theorem initial : Environment.initial.AllStored property := by
  intro id overload listed
  rw [overloads_initial] at listed
  cases listed

theorem bindLocal (stored : env.AllStored property) (id : ScopeId) (name : Name) (value : Value) :
    (env.bindLocal id name value).AllStored property := by
  refine stored.of_subset fun other => ?_
  rw [overloads_bindLocal]
  exact List.Subset.refl _

theorem assign (stored : env.AllStored property) (site : ScopeId) (name : Name) (value : Value) :
    (env.assign site name value).AllStored property :=
  stored.bindLocal _ name value

/-- An overload with the property may be added. -/
theorem register (stored : env.AllStored property) (id : ScopeId) {added : Overload}
    (holds : property added) : (env.register id added).AllStored property := by
  intro other overload listed
  rcases mem_overloads_register listed with earlier | rfl
  · exact stored other overload earlier
  · exact holds

theorem entered {machine : Machine} (stored : machine.env.AllStored property) (settings : Settings)
    (callee : Overload) (home caller : ScopeId) (args : List Value) :
    (machine.entered settings callee home caller args).env.AllStored property := by
  refine stored.of_subset fun id overload listed => ?_
  rw [Machine.entered, overloads_bindParams, scope_extended] at listed
  split at listed
  · cases listed
  · exact listed

theorem leave {machine : Machine} (stored : machine.env.AllStored property) (scope : ScopeId) :
    (machine.leave scope).env.AllStored property :=
  stored.of_subset fun _ => overloads_popScope_subset _ _ _

/-- The overloads that a call sees have the property. -/
theorem of_mem_candidates (stored : env.AllStored property) {site : ScopeId} {name : Name}
    {overload : Overload} (listed : overload ∈ env.candidates site name) : property overload := by
  obtain ⟨id, -, kept⟩ := exists_scope_of_mem_candidates listed
  exact stored id overload kept

end Environment.AllStored

/-- All values of variables, in whatever scope, have a property. -/
def Environment.AllBound (property : Value → Prop) (env : Environment) : Prop :=
  ∀ id name value, (env.scope id).bindings.find? name = some value → property value

namespace Environment.AllBound

variable {property : Value → Prop} {env : Environment}

theorem mono {weaker : Value → Prop} (bound : env.AllBound property)
    (implies : ∀ value, property value → weaker value) : env.AllBound weaker :=
  fun id name value found => implies value (bound id name value found)

theorem initial : Environment.initial.AllBound property := by
  intro id name value found
  obtain ⟨i⟩ := id
  rcases i with _ | i
  · cases found
  · have unused : Environment.initial.depth ≤ i + 1 := Nat.le_add_left 1 i
    rw [scope_of_depth_le unused] at found
    cases found

/-- A variable may get a value with the property. -/
theorem bindLocal (bound : env.AllBound property) (id : ScopeId) (name : Name) {value : Value}
    (holds : property value) : (env.bindLocal id name value).AllBound property := by
  intro other asked found equal
  rw [Environment.bindLocal, scope_modifyScope] at equal
  split at equal
  · rw [Bindings.find?_insert] at equal
    split at equal
    · cases equal
      exact holds
    · exact bound other asked found equal
  · exact bound other asked found equal

theorem assign (bound : env.AllBound property) (site : ScopeId) (name : Name) {value : Value}
    (holds : property value) : (env.assign site name value).AllBound property :=
  bound.bindLocal _ name holds

theorem register (bound : env.AllBound property) (id : ScopeId) (overload : Overload) :
    (env.register id overload).AllBound property := by
  intro other name value found
  rw [bindings_register] at found
  exact bound other name value found

theorem bindParams (bound : env.AllBound property) (id : ScopeId) (params : List (Param Name))
    {args : List Value} (holds : ∀ arg ∈ args, property arg) :
    (env.bindParams id params args).AllBound property := by
  induction params generalizing env args with
  | nil => exact bound
  | cons param params ih =>
    cases args with
    | nil => exact bound
    | cons arg args =>
      obtain ⟨head, tail⟩ := List.forall_mem_cons.mp holds
      exact ih (bound.bindLocal id param.name head) tail

theorem entered {machine : Machine} (bound : machine.env.AllBound property) (settings : Settings)
    (callee : Overload) (home caller : ScopeId) {args : List Value}
    (holds : ∀ arg ∈ args, property arg) :
    (machine.entered settings callee home caller args).env.AllBound property := by
  refine bindParams (fun id name value found => ?_) _ _ holds
  rw [scope_extended] at found
  split at found
  · cases found
  · exact bound id name value found

theorem leave {machine : Machine} (bound : machine.env.AllBound property) (scope : ScopeId) :
    (machine.leave scope).env.AllBound property := by
  intro id name value found
  change ((machine.env.popScope scope).scope id).bindings.find? name = some value at found
  unfold popScope at found
  split at found
  · simp only [Environment.scope, Array.getElem?_pop] at found
    split at found
    · exact bound id name value found
    · cases found
  · exact bound id name value found

/-- The values that an expression sees have the property. -/
theorem of_lookup (bound : env.AllBound property) {site : ScopeId} {name : Name} {value : Value}
    (found : env.lookup site name = some value) : property value := by
  obtain ⟨id, -, here⟩ := List.exists_of_findSome?_eq_some found
  exact bound id name value here

end Environment.AllBound

end Multidispatch
