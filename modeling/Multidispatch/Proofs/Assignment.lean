import Multidispatch.Proofs.Nesting

/-!
# Assignment and lookup

An assignment writes to the nearest scope that binds the variable, on the way from the scope in
which it stands outwards, or to that scope itself if none does.  The binding of a parameter writes
to one scope, whatever the scopes around it bind.  Either way one entry of one table changes.  From
a scope further in, the new value can be read exactly if no scope on the way binds the same
variable.

The way outwards is told by the parents of the scopes.  Scopes come and go, and a number is used
again after its scope was released, but parents always have smaller numbers, so the way ends at the
global scope.

## Main definitions

* `Environment.Reachable` — the environments that the operations bring about
* `Environment.Follows` — the way outwards from a scope, along the parents
* `Environment.InView` — no scope on the way to a scope binds a variable
* `Environment.Written` — what writing to a variable of one scope does

## Main statements

* `Environment.Nested.follows_iff` — the way outwards is the chain of the scope
* `Environment.holder_cases` — where an assignment writes to
* `Environment.written_bindLocal` — what a write does to the tables and to what variables read as
* `Environment.assignment_reaches_nearest_scope` — assignment and lookup in every environment
-/

namespace Multidispatch

namespace Environment

variable {env : Environment} {site target : ScopeId} {name : Name}

/-! ### Environments that can be reached -/

/-- The environments that the operations bring about.  Scopes are entered inside scopes in use and
released innermost first. -/
inductive Reachable : Environment → Prop
  | initial : Reachable initial
  | pushed {env after : Environment} {parent id : ScopeId} (reachable : Reachable env)
      (live : parent.index < env.depth) (entered : env.pushScope parent = .ok (id, after)) :
      Reachable after
  | popped {env : Environment} {id : ScopeId} (reachable : Reachable env)
      (innermost : id.index + 1 = env.depth) : Reachable (env.popScope id)
  | assigned {env : Environment} (reachable : Reachable env) (site : ScopeId) (name : Name)
      (value : Value) : Reachable (env.assign site name value)
  | bound {env : Environment} (reachable : Reachable env) (id : ScopeId) (name : Name)
      (value : Value) : Reachable (env.bindLocal id name value)
  | registered {env : Environment} (reachable : Reachable env) (id : ScopeId)
      (overload : Overload) : Reachable (env.register id overload)

theorem Reachable.nested (reachable : env.Reachable) : env.Nested := by
  induction reachable with
  | initial => exact .initial
  | pushed _ live entered ih =>
    unfold pushScope at entered
    split at entered
    · cases entered
      exact ih.extended live
    · cases entered
  | @popped env id _ innermost ih =>
    rcases Nat.eq_zero_or_pos id.index with outermost | inner
    · -- The global scope is never released.
      have kept : env.popScope id = env := if_neg fun both => both.1 (congrArg ScopeId.mk outermost)
      rwa [kept]
    · exact ih.popScope innermost inner
  | assigned _ site name value ih => exact ih.of_links (links_assign _ site name value)
  | bound _ id name value ih => exact ih.of_links (links_bindLocal _ id name value)
  | registered _ id overload ih => exact ih.of_links (links_register _ id overload)

/-- A scope can be entered as long as there is room for it. -/
theorem Reachable.extended {parent : ScopeId} (reachable : env.Reachable)
    (live : parent.index < env.depth) (room : env.depth < capacity) :
    (env.extended parent).Reachable :=
  reachable.pushed live (if_pos room)

/-! ### The way outwards -/

/-- The way outwards from a scope, from each scope to its parent. -/
inductive Follows (env : Environment) : ScopeId → List ScopeId → Prop
  | root {id : ScopeId} (outermost : (env.scope id).parent? = none) : Follows env id [id]
  | step {id parent : ScopeId} {ids : List ScopeId} (inside : (env.scope id).parent? = some parent)
      (onward : Follows env parent ids) : Follows env id (id :: ids)

/-- There is one way outwards. -/
theorem Follows.unique {id : ScopeId} {ids ids' : List ScopeId} (one : env.Follows id ids)
    (other : env.Follows id ids') : ids = ids' := by
  induction one generalizing ids' with
  | root outermost =>
    cases other with
    | root => rfl
    | step inside => exact absurd (outermost.symm.trans inside) nofun
  | step inside _ ih =>
    cases other with
    | root outermost => exact absurd (outermost.symm.trans inside) nofun
    | step inside' onward =>
      obtain rfl := Option.some.inj (inside.symm.trans inside')
      rw [ih onward]

/-- The way outwards is the chain of the scope. -/
theorem Nested.follows_iff (nested : env.Nested) {id : ScopeId} (live : id.index < env.depth)
    {ids : List ScopeId} : env.Follows id ids ↔ ids = env.chain id := by
  have follows : env.Follows id (env.chain id) := by
    induction id, live using nested.chain_induction with
    | global live =>
      rw [nested.chain_global]
      exact .root (congrArg List.head? nested.root)
    | inner id parent live smaller unfolded ih =>
      rw [unfolded]
      exact .step (congrArg List.head? (List.cons.inj unfolded).2) ih
  constructor
  · exact fun other => other.unique follows
  · rintro rfl
    exact follows

/-! ### Scopes in view -/

/-- A scope binds a variable itself, and not only a scope around it. -/
def Holds (env : Environment) (id : ScopeId) (name : Name) : Prop :=
  (env.scope id).bindings.contains name = true

/-- A scope stands on a list of scopes, and none before it binds the variable. -/
def Sees (env : Environment) (name : Name) (target : ScopeId) (ids : List ScopeId) : Prop :=
  ∃ inner outer, ids = inner ++ target :: outer ∧ ∀ id ∈ inner, ¬env.Holds id name

/-- A scope is on the way outwards from another one, and none that is nearer binds the variable. -/
def InView (env : Environment) (query : ScopeId) (name : Name) (target : ScopeId) : Prop :=
  ∃ ids, env.Follows query ids ∧ env.Sees name target ids

theorem not_holds_iff {id : ScopeId} :
    ¬env.Holds id name ↔ (env.scope id).bindings.find? name = none := by
  rw [Holds, Bindings.contains, Bool.not_eq_true, Option.isSome_eq_false_iff,
    Option.isNone_iff_eq_none]

theorem sees_cons {id : ScopeId} {ids : List ScopeId} :
    env.Sees name target (id :: ids) ↔
      id = target ∨ ¬env.Holds id name ∧ env.Sees name target ids := by
  constructor
  · rintro ⟨inner, outer, split, unbound⟩
    cases inner with
    | nil => exact .inl (List.cons.inj split).1
    | cons head inner =>
      obtain ⟨rfl, rest⟩ := List.cons.inj split
      exact .inr ⟨unbound id List.mem_cons_self, inner, outer, rest,
        fun other nearer => unbound other (List.mem_cons_of_mem _ nearer)⟩
  · rintro (rfl | ⟨unbound, inner, outer, rfl, nearer⟩)
    · exact ⟨[], ids, rfl, nofun⟩
    · refine ⟨id :: inner, outer, rfl, fun other listed => ?_⟩
      rcases List.mem_cons.mp listed with rfl | further
      · exact unbound
      · exact nearer other further

theorem Nested.inView_iff (nested : env.Nested) {query : ScopeId} (live : query.index < env.depth) :
    env.InView query name target ↔ env.Sees name target (env.chain query) := by
  simp only [InView, nested.follows_iff live, exists_eq_left]

/-- Every scope is in view from itself. -/
theorem sees_self (env : Environment) (site : ScopeId) (name : Name) :
    env.Sees name site (env.chain site) :=
  sees_cons.mpr (.inl rfl)

/-- An assignment writes to the nearest scope that binds the variable, or to the scope in which it
stands if no scope on its chain does. -/
theorem holder_cases (env : Environment) (site : ScopeId) (name : Name) :
    env.Sees name (env.holder site name) (env.chain site) ∧ env.Holds (env.holder site name) name ∨
      env.holder site name = site ∧ ∀ id ∈ env.chain site, ¬env.Holds id name := by
  unfold holder
  cases found : (env.chain site).find? fun id => (env.scope id).bindings.contains name with
  | none => exact .inr ⟨rfl, List.find?_eq_none.mp found⟩
  | some id =>
    obtain ⟨binds, inner, outer, split, nearer⟩ := List.find?_eq_some_iff_append.mp found
    refine .inl ⟨⟨inner, outer, split, fun other listed => ?_⟩, binds⟩
    simpa [Holds] using nearer other listed

/-- The scope that an assignment writes to is in view. -/
theorem sees_holder (env : Environment) (site : ScopeId) (name : Name) :
    env.Sees name (env.holder site name) (env.chain site) := by
  rcases env.holder_cases site name with ⟨sees, -⟩ | ⟨same, -⟩
  · exact sees
  · rw [same]
    exact env.sees_self site name

/-! ### What a write does -/

/-- What writing a value to a variable of one scope does to an environment. -/
structure Written (env : Environment) (target : ScopeId) (name : Name) (value : Value)
    (after : Environment) : Prop where
  /-- The scope binds the variable to the value. -/
  own : (after.scope target).bindings.find? name = some value
  /-- All other entries of all tables are as before. -/
  entries : ∀ id other, id ≠ target ∨ other ≠ name →
    (after.scope id).bindings.find? other = (env.scope id).bindings.find? other
  /-- All overloads are as before. -/
  overloads : ∀ id, (after.scope id).overloads = (env.scope id).overloads
  /-- There are as many scopes as before. -/
  depth : after.depth = env.depth
  /-- All parents are as before. -/
  parents : ∀ id, (after.scope id).parent? = (env.scope id).parent?
  /-- Where the scope is in view, the variable reads as the value. -/
  seen : ∀ query : ScopeId, query.index < env.depth → env.InView query name target →
    after.lookup query name = some value
  /-- Elsewhere the variable reads as before. -/
  unseen : ∀ query : ScopeId, query.index < env.depth → ¬env.InView query name target →
    after.lookup query name = env.lookup query name
  /-- All other variables read as before. -/
  others : ∀ query other, other ≠ name → after.lookup query other = env.lookup query other

theorem findSome?_of_sees (live : target.index < env.depth) (value : Value) {ids : List ScopeId}
    (sees : env.Sees name target ids) :
    (ids.findSome? fun id => ((env.bindLocal target name value).scope id).bindings.find? name) =
      some value := by
  induction ids with
  | nil =>
    obtain ⟨inner, outer, split, -⟩ := sees
    exact absurd split (by simp)
  | cons id ids ih =>
    rw [List.findSome?_cons, find?_bindLocal env id name name value live]
    by_cases here : target = id
    · rw [if_pos ⟨here, rfl⟩]
    · rcases sees_cons.mp sees with same | ⟨unbound, onward⟩
      · exact absurd same.symm here
      · rw [if_neg fun both => here both.1, not_holds_iff.mp unbound, ih onward]

theorem findSome?_of_not_sees (live : target.index < env.depth) (value : Value)
    {ids : List ScopeId} (hidden : ¬env.Sees name target ids) :
    (ids.findSome? fun id => ((env.bindLocal target name value).scope id).bindings.find? name) =
      ids.findSome? fun id => (env.scope id).bindings.find? name := by
  induction ids with
  | nil => rfl
  | cons id ids ih =>
    rw [sees_cons, not_or, not_and] at hidden
    rw [List.findSome?_cons, List.findSome?_cons, find?_bindLocal env id name name value live,
      if_neg fun both => hidden.1 both.1.symm]
    -- A scope that binds the variable hides what is behind it, before the write and after it.
    cases found : (env.scope id).bindings.find? name with
    | some held => rfl
    | none => exact ih (hidden.2 (not_holds_iff.mpr found))

/-- What the binding of a variable in one scope does. -/
theorem written_bindLocal (nested : env.Nested) (live : target.index < env.depth) (name : Name)
    (value : Value) : Written env target name value (env.bindLocal target name value) := by
  constructor
  case own => rw [find?_bindLocal env target name name value live, if_pos ⟨rfl, rfl⟩]
  case entries =>
    intro id other apart
    rw [find?_bindLocal env id name other value live, if_neg]
    rintro ⟨rfl, rfl⟩
    exact apart.elim (· rfl) (· rfl)
  case overloads => exact fun id => overloads_bindLocal env target id name value
  case depth => exact depth_bindLocal env target name value
  case parents => exact fun id => congrArg List.head? (enclosing_bindLocal env target id name value)
  case seen =>
    intro query used view
    rw [lookup, chain_bindLocal]
    exact findSome?_of_sees live value ((nested.inView_iff used).mp view)
  case unseen =>
    intro query used hidden
    rw [lookup, chain_bindLocal]
    exact findSome?_of_not_sees live value fun sees => hidden ((nested.inView_iff used).mpr sees)
  case others =>
    intro query other different
    refine lookup_congr (chain_bindLocal env target query name value) fun id _ => ?_
    rw [find?_bindLocal env id name other value live, if_neg fun both => different both.2.symm]

/-- Assignment and lookup, in every environment that can be reached and from every scope in use.  An
assignment writes to the nearest scope that binds the variable, or to the scope in which it stands
if none does; the binding of a parameter writes to the scope in which it stands.  Each changes one
entry of one table, so that the variable reads as the new value exactly from where that entry is in
view, in particular from the scope in which the assignment stands. -/
theorem assignment_reaches_nearest_scope (reachable : env.Reachable)
    (live : site.index < env.depth) (name : Name) (value : Value) :
    (env.InView site name (env.holder site name) ∧ env.Holds (env.holder site name) name ∨
        env.holder site name = site ∧
          ∃ ids, env.Follows site ids ∧ ∀ id ∈ ids, ¬env.Holds id name) ∧
      Written env (env.holder site name) name value (env.assign site name value) ∧
      (env.assign site name value).lookup site name = some value ∧
      Written env site name value (env.bindLocal site name value) ∧
      (env.bindLocal site name value).lookup site name = some value := by
  have nested := reachable.nested
  have held := nested.live_of_mem_chain live (env.holder_mem_chain site name)
  have through : Written env (env.holder site name) name value (env.assign site name value) :=
    written_bindLocal nested held name value
  have here := written_bindLocal nested live name value
  refine ⟨?_, through, ?_, here, ?_⟩
  · rw [nested.inView_iff live]
    refine (env.holder_cases site name).imp_right fun ⟨same, unbound⟩ => ⟨same, env.chain site, ?_⟩
    exact ⟨(nested.follows_iff live).mpr rfl, unbound⟩
  · exact through.seen site live ((nested.inView_iff live).mpr (env.sees_holder site name))
  · exact here.seen site live ((nested.inView_iff live).mpr (env.sees_self site name))

/-- Two scopes inside the same scope, which binds a variable that the global scope binds as well.
The last scope has the number of one that was released. -/
def branchingEnvironment : Environment :=
  let outer := (initial.bindLocal .global ⟨17⟩ (.int 1)).extended .global
  let inner := (outer.bindLocal ⟨1⟩ ⟨17⟩ (.int 2)).extended ⟨1⟩
  ((inner.extended .global).popScope ⟨3⟩).extended ⟨1⟩

theorem branchingEnvironment_reachable : branchingEnvironment.Reachable := by
  refine .extended (.popped (.extended ?_ (by decide) (by decide)) (by decide)) (by decide)
    (by decide)
  refine .extended (.bound ?_ _ _ _) (by decide) (by decide)
  exact .extended (.bound .initial _ _ _) (by decide) (by decide)

/-- An assignment in one of the two scopes writes to the scope around both, so that the other one
reads the new value; the global scope keeps its own. -/
theorem assignment_reaches_nearest_scope_branching :
    branchingEnvironment.holder ⟨2⟩ ⟨17⟩ = ⟨1⟩ ∧
      (branchingEnvironment.assign ⟨2⟩ ⟨17⟩ (.int 5)).lookup ⟨2⟩ ⟨17⟩ = some (.int 5) ∧
      (branchingEnvironment.assign ⟨2⟩ ⟨17⟩ (.int 5)).lookup ⟨3⟩ ⟨17⟩ = some (.int 5) ∧
      (branchingEnvironment.assign ⟨2⟩ ⟨17⟩ (.int 5)).lookup .global ⟨17⟩ = some (.int 1) := by
  have holder : branchingEnvironment.holder ⟨2⟩ ⟨17⟩ = ⟨1⟩ := rfl
  have live : (ScopeId.mk 2).index < branchingEnvironment.depth := by decide
  obtain ⟨-, written, own, -⟩ :=
    assignment_reaches_nearest_scope branchingEnvironment_reachable live ⟨17⟩ (.int 5)
  rw [holder] at written
  have view : branchingEnvironment.InView ⟨3⟩ ⟨17⟩ ⟨1⟩ := by
    refine ⟨_, .step rfl (.step rfl (.root rfl)), [⟨3⟩], [.global], rfl, fun id listed => ?_⟩
    rw [List.mem_singleton.mp listed, not_holds_iff]
    rfl
  have hidden : ¬branchingEnvironment.InView .global ⟨17⟩ ⟨1⟩ := by
    rintro ⟨ids, follows, inner, outer, split, -⟩
    have onWay : ScopeId.mk 1 ∈ ids := by simp [split]
    rw [follows.unique (.root rfl)] at onWay
    exact absurd onWay (by decide)
  exact ⟨holder, own, written.seen _ (by decide) view, written.unseen _ (by decide) hidden⟩

end Environment

end Multidispatch
