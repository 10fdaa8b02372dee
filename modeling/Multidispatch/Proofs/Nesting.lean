import Multidispatch.Proofs.CallEntry
import Mathlib.Data.List.Basic
import Mathlib.Data.List.Find

/-!
# How scopes are nested

The global scope lies in no other scope, and every other scope lies in one with a smaller number.
Hence every chain of scopes runs through scopes that are in use and ends at the global scope.  This
module states what each operation on an environment does to the tables of the scopes, and that all
of them keep the nesting.

## Main definitions

* `Environment.links` — the scopes with the scopes around them, without their tables
* `Environment.Nested` — every scope but the global one lies in one with a smaller number
* `Environment.Stacked` — every scope but the global one lies in the one before it
* `Environment.AtHome` — functions are stored in the scope in which they were declared

## Main statements

* `Environment.Nested.live_of_mem_chain` — a chain runs through scopes that are in use
* `Environment.Nested.getLast?_chain` — a chain ends at the global scope
* `Environment.Nested.chain_subset` — the chain of a scope on a chain is part of that chain
-/

namespace Multidispatch

namespace Environment

/-! ### What the operations do to the tables -/

/-- What is read off all scopes changes where a scope does. -/
theorem map_modifyScope {β : Type} {view : Scope → β} {update : Scope → Scope} {update' : β → β}
    (commutes : ∀ scope, view (update scope) = update' (view scope)) (env : Environment)
    (id : ScopeId) :
    (env.modifyScope id update).scopes.map view = (env.scopes.map view).modify id.index update' := by
  refine Array.ext_getElem? fun i => ?_
  by_cases here : id.index = i
  · subst here
    cases stored : env.scopes[id.index]? <;>
      simp [modifyScope, Array.getElem?_modify, stored, commutes]
  · simp [modifyScope, Array.getElem?_modify, here]

@[simp] theorem depth_bindLocal (env : Environment) (id : ScopeId) (name : Name) (value : Value) :
    (env.bindLocal id name value).depth = env.depth :=
  depth_modifyScope env id _

@[simp] theorem depth_assign (env : Environment) (site : ScopeId) (name : Name) (value : Value) :
    (env.assign site name value).depth = env.depth :=
  depth_bindLocal env _ name value

@[simp] theorem depth_register (env : Environment) (id : ScopeId) (overload : Overload) :
    (env.register id overload).depth = env.depth :=
  depth_modifyScope env id _

@[simp] theorem overloads_bindLocal (env : Environment) (id other : ScopeId) (name : Name)
    (value : Value) :
    ((env.bindLocal id name value).scope other).overloads = (env.scope other).overloads := by
  simp only [bindLocal, scope_modifyScope]
  split <;> rfl

@[simp] theorem enclosing_bindLocal (env : Environment) (id other : ScopeId) (name : Name)
    (value : Value) :
    ((env.bindLocal id name value).scope other).enclosing = (env.scope other).enclosing := by
  simp only [bindLocal, scope_modifyScope]
  split <;> rfl

@[simp] theorem overloads_assign (env : Environment) (site other : ScopeId) (name : Name)
    (value : Value) :
    ((env.assign site name value).scope other).overloads = (env.scope other).overloads :=
  overloads_bindLocal env _ other name value

@[simp] theorem enclosing_assign (env : Environment) (site other : ScopeId) (name : Name)
    (value : Value) :
    ((env.assign site name value).scope other).enclosing = (env.scope other).enclosing :=
  enclosing_bindLocal env _ other name value

@[simp] theorem bindings_register (env : Environment) (id other : ScopeId) (overload : Overload) :
    ((env.register id overload).scope other).bindings = (env.scope other).bindings := by
  simp only [register, scope_modifyScope]
  split <;> rfl

@[simp] theorem enclosing_register (env : Environment) (id other : ScopeId)
    (overload : Overload) :
    ((env.register id overload).scope other).enclosing = (env.scope other).enclosing := by
  simp only [register, scope_modifyScope]
  split <;> rfl

theorem scope_bindLocal_of_ne (env : Environment) {id other : ScopeId} (different : id ≠ other)
    (name : Name) (value : Value) : (env.bindLocal id name value).scope other = env.scope other := by
  rw [bindLocal, scope_modifyScope, if_neg fun both => different both.1]

theorem scope_register_of_ne (env : Environment) {id other : ScopeId} (different : id ≠ other)
    (overload : Overload) : (env.register id overload).scope other = env.scope other := by
  rw [register, scope_modifyScope, if_neg fun both => different both.1]

/-- Binding a variable concerns one scope and one name. -/
theorem find?_bindLocal (env : Environment) {id : ScopeId} (other : ScopeId) (name asked : Name)
    (value : Value) (live : id.index < env.depth) :
    ((env.bindLocal id name value).scope other).bindings.find? asked =
      if id = other ∧ name = asked then some value
      else (env.scope other).bindings.find? asked := by
  simp only [bindLocal, scope_modifyScope, live, and_true]
  by_cases same : id = other
  · simp [same]
  · simp [same]

/-- Declaring a function appends it to the overloads of one scope. -/
theorem overloads_register (env : Environment) {id : ScopeId} (other : ScopeId)
    (overload : Overload) (live : id.index < env.depth) :
    ((env.register id overload).scope other).overloads =
      if id = other then (env.scope other).overloads ++ [overload]
      else (env.scope other).overloads := by
  simp only [register, scope_modifyScope, live, and_true]
  split <;> rfl

/-- An overload that is there after a declaration was there before, or is the one declared. -/
theorem mem_overloads_register {env : Environment} {id other : ScopeId} {added overload : Overload}
    (listed : overload ∈ ((env.register id added).scope other).overloads) :
    overload ∈ (env.scope other).overloads ∨ overload = added := by
  rw [register, scope_modifyScope] at listed
  split at listed
  · rwa [List.mem_append, List.mem_singleton] at listed
  · exact .inl listed

/-- A number that is not in use stands for an empty scope. -/
theorem scope_of_depth_le {env : Environment} {id : ScopeId} (unused : env.depth ≤ id.index) :
    env.scope id = {} := by
  have missing : env.scopes[id.index]? = none := Array.getElem?_eq_none unused
  simp [scope, missing]

@[simp] theorem overloads_initial (id : ScopeId) : (initial.scope id).overloads = [] := by
  obtain ⟨i⟩ := id
  rcases i with _ | i
  · rfl
  · have unused : initial.depth ≤ i + 1 := Nat.le_add_left 1 i
    rw [scope_of_depth_le unused]

@[simp] theorem depth_extended (env : Environment) (parent : ScopeId) :
    (env.extended parent).depth = env.depth + 1 := by
  simp [extended, depth]

/-- Entering a scope adds one behind all others. -/
theorem scope_extended (env : Environment) (parent id : ScopeId) :
    (env.extended parent).scope id =
      if id = env.fresh then { enclosing := env.chain parent } else env.scope id := by
  obtain ⟨i⟩ := id
  by_cases innermost : i = env.scopes.size
  · subst innermost
    simp [extended, scope, fresh, depth]
  · simp [extended, scope, fresh, depth, Array.getElem?_push, innermost]

/-- The innermost scope is released if it is not the global one. -/
theorem popScope_eq {env : Environment} {id : ScopeId} (last : id.index + 1 = env.depth)
    (inner : 0 < id.index) : env.popScope id = ⟨env.scopes.pop⟩ := by
  have notGlobal : id ≠ .global := by
    rintro rfl
    exact absurd inner (Nat.lt_irrefl 0)
  rw [popScope, if_pos ⟨notGlobal, last⟩]

/-- Releasing the innermost scope leaves those before it. -/
theorem scope_popScope {env : Environment} {id : ScopeId} (last : id.index + 1 = env.depth)
    (inner : 0 < id.index) (other : ScopeId) :
    (env.popScope id).scope other = if other.index < id.index then env.scope other else {} := by
  have size : env.scopes.size - 1 = id.index := by
    unfold depth at last
    omega
  rw [popScope_eq last inner]
  simp only [scope, Array.getElem?_pop, size]
  split <;> rfl

/-- Releasing a scope adds no overload. -/
theorem overloads_popScope_subset (env : Environment) (id other : ScopeId) :
    ((env.popScope id).scope other).overloads ⊆ (env.scope other).overloads := by
  intro overload listed
  unfold popScope at listed
  split at listed
  · simp only [scope, Array.getElem?_pop] at listed
    split at listed
    · exact listed
    · cases listed
  · exact listed

theorem depth_popScope {env : Environment} {id : ScopeId} (last : id.index + 1 = env.depth)
    (inner : 0 < id.index) : (env.popScope id).depth = id.index := by
  have size : (env.popScope id).depth = env.depth - 1 := by
    rw [popScope_eq last inner, depth, Array.size_pop, depth]
  omega

/-! ### What the binding of parameters does to the tables -/

@[simp] theorem depth_bindParams (env : Environment) (id : ScopeId) (params : List (Param Name))
    (args : List Value) : (env.bindParams id params args).depth = env.depth := by
  induction params generalizing env args with
  | nil => rfl
  | cons param params ih =>
    cases args with
    | nil => rfl
    | cons arg args => rw [bindParams, ih, depth_bindLocal]

@[simp] theorem overloads_bindParams (env : Environment) (id other : ScopeId)
    (params : List (Param Name)) (args : List Value) :
    ((env.bindParams id params args).scope other).overloads = (env.scope other).overloads := by
  induction params generalizing env args with
  | nil => rfl
  | cons param params ih =>
    cases args with
    | nil => rfl
    | cons arg args => rw [bindParams, ih, overloads_bindLocal]

@[simp] theorem enclosing_bindParams (env : Environment) (id other : ScopeId)
    (params : List (Param Name)) (args : List Value) :
    ((env.bindParams id params args).scope other).enclosing = (env.scope other).enclosing := by
  induction params generalizing env args with
  | nil => rfl
  | cons param params ih =>
    cases args with
    | nil => rfl
    | cons arg args => rw [bindParams, ih, enclosing_bindLocal]

/-- Parameters are bound in one scope. -/
theorem scope_bindParams_of_ne (env : Environment) {id other : ScopeId} (different : id ≠ other)
    (params : List (Param Name)) (args : List Value) :
    (env.bindParams id params args).scope other = env.scope other := by
  induction params generalizing env args with
  | nil => rfl
  | cons param params ih =>
    cases args with
    | nil => rfl
    | cons arg args =>
      rw [bindParams, ih, scope_bindLocal_of_ne env different]

/-- What parameters are bound to depends on the scope alone in which they are bound. -/
theorem scope_bindParams_congr {env env' : Environment} {id : ScopeId}
    (live : id.index < env.depth) (live' : id.index < env'.depth)
    (same : env.scope id = env'.scope id) (params : List (Param Name)) (args : List Value) :
    (env.bindParams id params args).scope id = (env'.bindParams id params args).scope id := by
  induction params generalizing env env' args with
  | nil => exact same
  | cons param params ih =>
    cases args with
    | nil => exact same
    | cons arg args =>
      refine ih ?_ ?_ ?_ args
      · rwa [depth_bindLocal]
      · rwa [depth_bindLocal]
      · rw [bindLocal, bindLocal, scope_modifyScope, scope_modifyScope, if_pos ⟨rfl, live⟩,
          if_pos ⟨rfl, live'⟩, same]

theorem contains_bindLocal_of_contains {env : Environment} {id other : ScopeId} {asked : Name}
    (live : id.index < env.depth) (name : Name) (value : Value)
    (bound : (env.scope other).bindings.contains asked = true) :
    ((env.bindLocal id name value).scope other).bindings.contains asked = true := by
  unfold Bindings.contains at bound ⊢
  rw [find?_bindLocal env other name asked value live]
  split
  · rfl
  · exact bound

theorem contains_bindParams_of_contains {env : Environment} {id other : ScopeId} {asked : Name}
    (live : id.index < env.depth) (params : List (Param Name)) (args : List Value)
    (bound : (env.scope other).bindings.contains asked = true) :
    ((env.bindParams id params args).scope other).bindings.contains asked = true := by
  induction params generalizing env args with
  | nil => exact bound
  | cons param params ih =>
    cases args with
    | nil => exact bound
    | cons arg args =>
      refine ih ?_ args (contains_bindLocal_of_contains live param.name arg bound)
      rwa [depth_bindLocal]

/-- Every parameter for which there is an argument is bound. -/
theorem contains_bindParams {env : Environment} {id : ScopeId} (live : id.index < env.depth)
    {params : List (Param Name)} {args : List Value} {param : Param Name}
    (listed : param ∈ params.take args.length) :
    ((env.bindParams id params args).scope id).bindings.contains param.name = true := by
  induction params generalizing env args with
  | nil =>
    rw [List.take_nil] at listed
    cases listed
  | cons head params ih =>
    cases args with
    | nil => cases listed
    | cons arg args =>
      have live' : id.index < (env.bindLocal id head.name arg).depth := by rwa [depth_bindLocal]
      rw [List.length_cons, List.take_succ_cons, List.mem_cons] at listed
      rcases listed with rfl | later
      · refine contains_bindParams_of_contains live' params args ?_
        unfold Bindings.contains
        rw [find?_bindLocal env id param.name param.name arg live, if_pos ⟨rfl, rfl⟩]
        rfl
      · exact ih live' later

/-! ### Where variables are found -/

/-- The scope that an assignment writes to is on the chain of the scope in which it stands. -/
theorem holder_mem_chain (env : Environment) (site : ScopeId) (name : Name) :
    env.holder site name ∈ env.chain site := by
  unfold holder
  cases found : (env.chain site).find? fun id => (env.scope id).bindings.contains name with
  | none => exact List.mem_cons_self
  | some id => exact List.mem_of_find?_eq_some found

/-- An assignment writes to a scope that binds the variable, or to the scope in which it stands. -/
theorem holder_binds_or_eq (env : Environment) (site : ScopeId) (name : Name) :
    (env.scope (env.holder site name)).bindings.contains name = true ∨
      env.holder site name = site := by
  unfold holder
  cases found : (env.chain site).find? fun id => (env.scope id).bindings.contains name with
  | none => exact .inr rfl
  | some id => exact .inl (by simpa using List.find?_some found)

/-- A scope that binds a variable is the one that assignments in it write to. -/
theorem holder_of_contains {env : Environment} {site : ScopeId} {name : Name}
    (bound : (env.scope site).bindings.contains name = true) : env.holder site name = site := by
  simp [holder, chain, bound]

/-- An overload in sight is stored in a scope on the chain. -/
theorem exists_scope_of_mem_candidates {env : Environment} {site : ScopeId} {name : Name}
    {overload : Overload} (listed : overload ∈ env.candidates site name) :
    ∃ id ∈ env.chain site, overload ∈ (env.scope id).overloads := by
  obtain ⟨id, onChain, stored⟩ := List.mem_flatMap.mp listed
  exact ⟨id, onChain, (List.mem_filter.mp stored).1⟩

/-- A call sees overloads of the name that it calls. -/
theorem name_of_mem_candidates {env : Environment} {site : ScopeId} {name : Name}
    {overload : Overload} (listed : overload ∈ env.candidates site name) : overload.name = name := by
  obtain ⟨id, -, stored⟩ := List.mem_flatMap.mp listed
  simpa using (List.mem_filter.mp stored).2

/-- What a variable reads as depends on the variables of the scopes on the chain. -/
theorem lookup_congr {env env' : Environment} {site : ScopeId} {name : Name}
    (chains : env.chain site = env'.chain site)
    (same : ∀ id ∈ env.chain site,
      (env.scope id).bindings.find? name = (env'.scope id).bindings.find? name) :
    env.lookup site name = env'.lookup site name := by
  unfold lookup
  rw [← chains]
  revert same
  generalize env.chain site = ids
  intro same
  induction ids with
  | nil => rfl
  | cons id ids ih =>
    rw [List.findSome?_cons, List.findSome?_cons, same id List.mem_cons_self,
      ih fun other listed => same other (List.mem_cons_of_mem _ listed)]

/-- Where an assignment writes to depends on the variables of the scopes on the chain. -/
theorem holder_congr {env env' : Environment} {site : ScopeId} {name : Name}
    (chains : env.chain site = env'.chain site)
    (same : ∀ id ∈ env.chain site,
      (env.scope id).bindings.find? name = (env'.scope id).bindings.find? name) :
    env.holder site name = env'.holder site name := by
  unfold holder Bindings.contains
  rw [← chains]
  congr 1
  exact List.find?_congr fun id onChain => by rw [same id onChain]

/-- The overloads in sight depend on the overloads of the scopes on the chain. -/
theorem candidates_congr {env env' : Environment} {site : ScopeId} {name : Name}
    (chains : env.chain site = env'.chain site)
    (same : ∀ id ∈ env.chain site,
      (env.scope id).overloadsOf name = (env'.scope id).overloadsOf name) :
    env.candidates site name = env'.candidates site name := by
  unfold candidates
  rw [← chains]
  exact List.flatMap_congr same

/-! ### The nesting of scopes -/

/-- The scopes with the scopes around them, without their tables. -/
def links (env : Environment) : Array (List ScopeId) :=
  env.scopes.map Scope.enclosing

@[simp] theorem size_links (env : Environment) : env.links.size = env.depth := by
  simp [links, depth]

theorem getElem?_links (env : Environment) (id : ScopeId) :
    env.links[id.index]?.getD [] = (env.scope id).enclosing := by
  cases found : env.scopes[id.index]? <;> simp [links, scope, found]

/-- The links are the number of scopes and what encloses each of them. -/
theorem links_ext {env env' : Environment} (depths : env.depth = env'.depth)
    (enclosings : ∀ id, (env.scope id).enclosing = (env'.scope id).enclosing) :
    env.links = env'.links := by
  apply Array.ext
  · rw [size_links, size_links, depths]
  · intro i live live'
    have read := getElem?_links env ⟨i⟩
    have read' := getElem?_links env' ⟨i⟩
    rw [enclosings, ← read'] at read
    rwa [Array.getElem?_eq_getElem live, Array.getElem?_eq_getElem live'] at read

theorem enclosing_of_links {env env' : Environment} (same : env.links = env'.links)
    (id : ScopeId) : (env.scope id).enclosing = (env'.scope id).enclosing := by
  rw [← getElem?_links, same, getElem?_links]

theorem chain_of_links {env env' : Environment} (same : env.links = env'.links) (id : ScopeId) :
    env.chain id = env'.chain id := by
  rw [chain, chain, enclosing_of_links same]

theorem depth_of_links {env env' : Environment} (same : env.links = env'.links) :
    env.depth = env'.depth := by
  rw [← size_links, same, size_links]

theorem links_bindLocal (env : Environment) (id : ScopeId) (name : Name) (value : Value) :
    (env.bindLocal id name value).links = env.links :=
  links_ext (depth_bindLocal env id name value)
    fun other => enclosing_bindLocal env id other name value

@[simp] theorem links_assign (env : Environment) (site : ScopeId) (name : Name) (value : Value) :
    (env.assign site name value).links = env.links :=
  links_bindLocal env _ name value

@[simp] theorem links_register (env : Environment) (id : ScopeId) (overload : Overload) :
    (env.register id overload).links = env.links :=
  links_ext (depth_register env id overload) fun other => enclosing_register env id other overload

@[simp] theorem links_bindParams (env : Environment) (id : ScopeId) (params : List (Param Name))
    (args : List Value) : (env.bindParams id params args).links = env.links :=
  links_ext (depth_bindParams env id params args)
    fun other => enclosing_bindParams env id other params args

/-- The global scope lies in no other, and every other scope in one with a smaller number. -/
structure Nested (env : Environment) : Prop where
  root : (env.scope .global).enclosing = []
  parents : ∀ id : ScopeId, 0 < id.index → id.index < env.depth →
    ∃ parent : ScopeId, parent.index < id.index ∧ (env.scope id).enclosing = env.chain parent

/-- Every scope but the global one lies in the one that was entered before it. -/
def Stacked (env : Environment) : Prop :=
  ∀ id : ScopeId, 0 < id.index → id.index < env.depth →
    (env.scope id).parent? = some ⟨id.index - 1⟩

/-- The functions of the program are stored in the scope in which they were declared. -/
def AtHome (env : Environment) : Prop :=
  ∀ id overload, overload ∈ (env.scope id).overloads →
    ∀ body home, overload.body = .user body home → home = id

namespace Nested

variable {env : Environment}

/-- Induction along the chains of scopes, from the global scope inwards. -/
theorem chain_induction (nested : env.Nested)
    {motive : (id : ScopeId) → id.index < env.depth → Prop}
    (global : ∀ live, motive .global live)
    (inner : ∀ (id parent : ScopeId) (live : id.index < env.depth)
      (smaller : parent.index < id.index), env.chain id = id :: env.chain parent →
      motive parent (Nat.lt_trans smaller live) → motive id live)
    (id : ScopeId) (live : id.index < env.depth) : motive id live := by
  obtain ⟨i⟩ := id
  -- Parents have smaller numbers, so the chain is followed by induction on the number.
  induction i using Nat.strongRecOn with
  | ind i ih =>
    rcases Nat.eq_zero_or_pos i with rfl | positive
    · exact global live
    · obtain ⟨parent, smaller, enclosing⟩ := nested.parents ⟨i⟩ positive live
      refine inner ⟨i⟩ parent live smaller ?_ (ih parent.index smaller (Nat.lt_trans smaller live))
      rw [chain, enclosing]

theorem chain_global (nested : env.Nested) : env.chain .global = [.global] := by
  rw [chain, nested.root]

/-- Chains lead to smaller numbers. -/
theorem index_le_of_mem_chain (nested : env.Nested) {id other : ScopeId}
    (live : id.index < env.depth) (onChain : other ∈ env.chain id) : other.index ≤ id.index := by
  revert onChain
  induction id, live using nested.chain_induction with
  | global live =>
    intro onChain
    rw [nested.chain_global, List.mem_singleton] at onChain
    exact Nat.le_of_eq (congrArg ScopeId.index onChain)
  | inner id parent live smaller unfolded ih =>
    intro onChain
    rw [unfolded, List.mem_cons] at onChain
    rcases onChain with rfl | above
    · exact Nat.le_refl _
    · exact Nat.le_trans (ih above) (Nat.le_of_lt smaller)

/-- A chain runs through scopes that are in use. -/
theorem live_of_mem_chain (nested : env.Nested) {id other : ScopeId}
    (live : id.index < env.depth) (onChain : other ∈ env.chain id) : other.index < env.depth :=
  Nat.lt_of_le_of_lt (nested.index_le_of_mem_chain live onChain) live

/-- A chain ends at the global scope. -/
theorem getLast?_chain (nested : env.Nested) {id : ScopeId} (live : id.index < env.depth) :
    (env.chain id).getLast? = some .global := by
  induction id, live using nested.chain_induction with
  | global live => rw [nested.chain_global]; rfl
  | inner id parent live smaller unfolded ih =>
    rw [unfolded, List.getLast?_cons, ih]
    rfl

/-- The chain of a scope on a chain is part of that chain. -/
theorem chain_subset (nested : env.Nested) {id other : ScopeId} (live : id.index < env.depth)
    (onChain : other ∈ env.chain id) : env.chain other ⊆ env.chain id := by
  revert onChain
  induction id, live using nested.chain_induction with
  | global live =>
    intro onChain
    rw [nested.chain_global, List.mem_singleton] at onChain
    rw [onChain]
    exact List.Subset.refl _
  | inner id parent live smaller unfolded ih =>
    intro onChain
    rw [unfolded, List.mem_cons] at onChain
    rcases onChain with rfl | above
    · exact List.Subset.refl _
    · rw [unfolded]
      exact List.Subset.trans (ih above) (List.subset_cons_self id _)

theorem initial : Environment.initial.Nested where
  root := rfl
  parents _ positive live := absurd positive (Nat.not_lt.mpr (Nat.le_of_lt_succ live))

/-- The nesting is a matter of the links alone. -/
theorem of_links {env' : Environment} (nested : env.Nested) (same : env'.links = env.links) :
    env'.Nested := by
  have enclosings := enclosing_of_links same
  refine ⟨(enclosings .global).trans nested.root, fun id positive live => ?_⟩
  rw [depth_of_links same] at live
  obtain ⟨parent, smaller, enclosing⟩ := nested.parents id positive live
  exact ⟨parent, smaller, by rw [enclosings, enclosing, chain_of_links same]⟩

end Nested

/-! ### Entering and leaving a scope -/

theorem scope_extended_of_live (env : Environment) (parent : ScopeId) {id : ScopeId}
    (live : id.index < env.depth) : (env.extended parent).scope id = env.scope id := by
  rw [scope_extended, if_neg]
  rintro rfl
  exact Nat.lt_irrefl _ live

theorem chain_extended_of_live (env : Environment) (parent : ScopeId) {id : ScopeId}
    (live : id.index < env.depth) : (env.extended parent).chain id = env.chain id := by
  rw [chain, chain, scope_extended_of_live env parent live]

theorem links_extended (env : Environment) (parent : ScopeId) :
    (env.extended parent).links = env.links.push (env.chain parent) := by
  simp [extended, links]

theorem links_popScope {env : Environment} {id : ScopeId} (last : id.index + 1 = env.depth)
    (inner : 0 < id.index) : (env.popScope id).links = env.links.pop := by
  rw [popScope_eq last inner, links, links, Array.map_pop]

theorem Nested.extended {env : Environment} (nested : env.Nested) {parent : ScopeId}
    (live : parent.index < env.depth) : (env.extended parent).Nested := by
  have used : ScopeId.global.index < env.depth := Nat.lt_of_le_of_lt (Nat.zero_le _) live
  refine ⟨?_, fun id positive below => ?_⟩
  · rw [scope_extended_of_live env parent used, nested.root]
  · rw [depth_extended] at below
    rcases Nat.lt_or_eq_of_le (Nat.le_of_lt_succ below) with old | new
    · obtain ⟨around, smaller, enclosing⟩ := nested.parents id positive old
      refine ⟨around, smaller, ?_⟩
      rw [scope_extended_of_live env parent old, enclosing,
        chain_extended_of_live env parent (Nat.lt_trans smaller old)]
    · obtain rfl : id = env.fresh := congrArg ScopeId.mk new
      refine ⟨parent, live, ?_⟩
      rw [scope_extended, if_pos rfl, chain_extended_of_live env parent live]

theorem Nested.popScope {env : Environment} (nested : env.Nested) {id : ScopeId}
    (last : id.index + 1 = env.depth) (inner : 0 < id.index) : (env.popScope id).Nested := by
  have kept : ∀ other : ScopeId, other.index < id.index →
      (env.popScope id).scope other = env.scope other := fun other below => by
    rw [scope_popScope last inner, if_pos below]
  refine ⟨by rw [kept .global inner, nested.root], fun other positive below => ?_⟩
  rw [depth_popScope last inner] at below
  obtain ⟨parent, smaller, enclosing⟩ := nested.parents other positive (by omega)
  refine ⟨parent, smaller, ?_⟩
  rw [kept other below, enclosing, chain, chain, kept parent (Nat.lt_trans smaller below)]

theorem Stacked.extended {env : Environment} (stacked : env.Stacked) {parent : ScopeId}
    (innermost : parent.index + 1 = env.depth) : (env.extended parent).Stacked := by
  intro id positive below
  rw [depth_extended] at below
  rcases Nat.lt_or_eq_of_le (Nat.le_of_lt_succ below) with old | new
  · rw [scope_extended_of_live env parent old]
    exact stacked id positive old
  · obtain rfl : id = env.fresh := congrArg ScopeId.mk new
    rw [scope_extended, if_pos rfl]
    change some parent = some ⟨env.depth - 1⟩
    rw [← innermost, Nat.add_sub_cancel]

/-- That scopes are stacked is a matter of the links alone. -/
theorem Stacked.of_links {env env' : Environment} (stacked : env.Stacked)
    (same : env'.links = env.links) : env'.Stacked := by
  intro id positive live
  rw [depth_of_links same] at live
  rw [Scope.parent?, enclosing_of_links same]
  exact stacked id positive live

namespace AtHome

variable {env : Environment}

theorem bindLocal (atHome : env.AtHome) (id : ScopeId) (name : Name) (value : Value) :
    (env.bindLocal id name value).AtHome := by
  intro other overload stored
  rw [overloads_bindLocal] at stored
  exact atHome other overload stored

theorem bindParams (atHome : env.AtHome) (id : ScopeId) (params : List (Param Name))
    (args : List Value) : (env.bindParams id params args).AtHome := by
  intro other overload stored
  rw [overloads_bindParams] at stored
  exact atHome other overload stored

theorem register (atHome : env.AtHome) {id : ScopeId} (live : id.index < env.depth)
    {overload : Overload} (own : ∀ body home, overload.body = .user body home → home = id) :
    (env.register id overload).AtHome := by
  intro other added stored
  rw [overloads_register env other _ live] at stored
  by_cases same : id = other
  · rw [if_pos same, List.mem_append, List.mem_singleton] at stored
    rcases stored with old | rfl
    · exact atHome other added old
    · rw [← same]
      exact own
  · rw [if_neg same] at stored
    exact atHome other added stored

theorem extended (atHome : env.AtHome) (parent : ScopeId) : (env.extended parent).AtHome := by
  intro other overload stored
  rw [scope_extended] at stored
  by_cases new : other = env.fresh
  · rw [if_pos new] at stored
    cases stored
  · rw [if_neg new] at stored
    exact atHome other overload stored

theorem popScope (atHome : env.AtHome) {id : ScopeId} (last : id.index + 1 = env.depth)
    (inner : 0 < id.index) : (env.popScope id).AtHome := by
  intro other overload stored
  rw [scope_popScope last inner] at stored
  by_cases below : other.index < id.index
  · rw [if_pos below] at stored
    exact atHome other overload stored
  · rw [if_neg below] at stored
    cases stored

end AtHome

end Environment

end Multidispatch
