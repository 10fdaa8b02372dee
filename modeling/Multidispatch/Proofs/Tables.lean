import Multidispatch.Proofs.Nesting

/-!
# The tables of an environment

An environment consists of two parts: its tables, which say for each scope which variables it binds
and which overloads it holds, and its links, which say in which scopes it lies.  What a single
operation does to the tables depends on the tables alone, so environments with the same tables keep
the same tables, whatever their links are.

## Main definitions

* `Environment.tables` — the variables and the overloads of each scope

## Main statements

* `Environment.eq_of_tables` — tables and links determine an environment
* `Environment.tables_bindLocal`, `Environment.tables_register`, `Environment.tables_extended`,
  `Environment.tables_bindParams_congr`, `Environment.tables_popScope_congr` — what the operations do
  to the tables
* `Environment.Nested.lookup_eq_global`, `Environment.Nested.candidates_eq_global` — what no local
  scope holds is found in the global scope
-/

namespace Multidispatch.Environment

/-- The variables and the overloads of each scope. -/
def tables (env : Environment) : Array (Bindings × List Overload) :=
  env.scopes.map fun scope => (scope.bindings, scope.overloads)

variable {env env' : Environment}

theorem getElem?_tables (env : Environment) (id : ScopeId) :
    (env.tables[id.index]?).getD ([], []) =
      ((env.scope id).bindings, (env.scope id).overloads) := by
  simp only [tables, scope, Array.getElem?_map]
  cases env.scopes[id.index]? <;> rfl

theorem bindings_of_tables (same : env.tables = env'.tables) (id : ScopeId) :
    (env.scope id).bindings = (env'.scope id).bindings := by
  have pairs := (env.getElem?_tables id).symm.trans (same ▸ env'.getElem?_tables id)
  exact congrArg Prod.fst pairs

theorem overloads_of_tables (same : env.tables = env'.tables) (id : ScopeId) :
    (env.scope id).overloads = (env'.scope id).overloads := by
  have pairs := (env.getElem?_tables id).symm.trans (same ▸ env'.getElem?_tables id)
  exact congrArg Prod.snd pairs

theorem depth_of_tables (same : env.tables = env'.tables) : env.depth = env'.depth := by
  simpa [tables, depth] using congrArg Array.size same

/-- Tables and links determine an environment. -/
theorem eq_of_tables (same : env.tables = env'.tables) (links : env.links = env'.links) :
    env = env' := by
  have depths : env.scopes.size = env'.scopes.size := depth_of_tables same
  refine congrArg Environment.mk (Array.ext depths fun i live live' => ?_)
  have bindings := bindings_of_tables same ⟨i⟩
  have overloads := overloads_of_tables same ⟨i⟩
  have enclosing := enclosing_of_links links ⟨i⟩
  simp only [scope, Array.getElem?_eq_getElem live, Array.getElem?_eq_getElem live',
    Option.getD_some] at bindings overloads enclosing
  cases found : env.scopes[i]
  cases found' : env'.scopes[i]
  simp_all

/-! ### What the operations do to the tables -/

theorem tables_bindLocal (env : Environment) (id : ScopeId) (name : Name) (value : Value) :
    (env.bindLocal id name value).tables =
      env.tables.modify id.index fun table => (table.1.insert name value, table.2) := by
  unfold bindLocal tables
  rw [map_modifyScope]
  exact fun _ => rfl

theorem tables_register (env : Environment) (id : ScopeId) (overload : Overload) :
    (env.register id overload).tables =
      env.tables.modify id.index fun table => (table.1, table.2 ++ [overload]) := by
  unfold register tables
  rw [map_modifyScope]
  exact fun _ => rfl

theorem tables_extended (env : Environment) (parent : ScopeId) :
    (env.extended parent).tables = env.tables.push ([], []) := by
  simp [tables, extended]

theorem tables_bindParams_congr (same : env.tables = env'.tables) (id : ScopeId)
    (params : List (Param Name)) (args : List Value) :
    (env.bindParams id params args).tables = (env'.bindParams id params args).tables := by
  induction params generalizing env env' args with
  | nil => exact same
  | cons param params ih =>
    cases args with
    | nil => exact same
    | cons arg args =>
      refine ih ?_ args
      rw [tables_bindLocal, tables_bindLocal, same]

theorem tables_popScope_congr (same : env.tables = env'.tables) (id : ScopeId) :
    (env.popScope id).tables = (env'.popScope id).tables := by
  have popped : ∀ env : Environment, (env.popScope id).tables =
      if id ≠ .global ∧ id.index + 1 = env.depth then env.tables.pop else env.tables := by
    intro env
    unfold popScope
    split
    · simp [tables]
    · rfl
  rw [popped, popped, depth_of_tables same, same]

/-! ### What is found in the global scope -/

/-- A scope that binds a variable is where it is read. -/
theorem lookup_of_contains {site : ScopeId} {name : Name}
    (bound : (env.scope site).bindings.contains name = true) :
    env.lookup site name = (env.scope site).bindings.find? name := by
  obtain ⟨value, found⟩ := Option.isSome_iff_exists.mp bound
  simp [lookup, chain, found]

namespace Nested

/-- A variable that no local scope binds is read in the global scope. -/
theorem lookup_eq_global (nested : env.Nested) {name : Name}
    (unbound : ∀ id, id ≠ .global → (env.scope id).bindings.find? name = none) {site : ScopeId}
    (live : site.index < env.depth) :
    env.lookup site name = (env.scope .global).bindings.find? name := by
  induction site, live using nested.chain_induction with
  | global live =>
    rw [lookup, nested.chain_global]
    simp
  | inner id parent live smaller unfolded ih =>
    have localScope : id ≠ .global := by
      rintro rfl
      exact Nat.not_lt_zero _ smaller
    rw [← ih, lookup, unfolded, List.findSome?_cons, unbound id localScope, lookup]

/-- Overloads that no local scope holds are found in the global scope. -/
theorem candidates_eq_global (nested : env.Nested)
    (none : ∀ id, id ≠ .global → (env.scope id).overloads = []) {site : ScopeId}
    (live : site.index < env.depth) (name : Name) :
    env.candidates site name = (env.scope .global).overloadsOf name := by
  induction site, live using nested.chain_induction with
  | global live =>
    rw [candidates, nested.chain_global]
    simp
  | inner id parent live smaller unfolded ih =>
    have localScope : id ≠ .global := by
      rintro rfl
      exact Nat.not_lt_zero _ smaller
    rw [← ih, candidates, unfolded, List.flatMap_cons, Scope.overloadsOf, none id localScope,
      List.filter_nil, List.nil_append, candidates]

end Nested

end Multidispatch.Environment
