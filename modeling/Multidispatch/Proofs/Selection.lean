import Multidispatch.Proofs.Assignment
import Multidispatch.Proofs.Resolution

/-!
# What the registration of an overload changes

A call selects the first overload in sight that accepts its arguments.  An overload that is registered
in a scope stands behind the other overloads of that scope and before those of the scopes around it.
So it is selected exactly for the calls from inside its scope that it accepts and that no overload in
its scope, or in one that is nearer to the call, accepts already.  All other calls select what they
selected before.

The same function may be registered more than once.  What a call selects is therefore told by its
place: the scope that holds the overload, and the number of overloads of the same name that stand
before it there.  Registration moves no overload to another place.

## Main definitions

* `Environment.Place` — where an overload is stored
* `Environment.select` — the overload that a call selects, with its place
* `Environment.Claims` — a scope has an overload for certain arguments
* `Environment.Captures` — a registration is for calls that no overload on the way claims

## Main statements

* `Environment.resolve_eq_select` — resolution is selection without the place
* `Environment.select_congr` — selection is a matter of the kinds of the arguments
* `Environment.placed_register` — where the overloads are after a registration
* `Environment.registration_captures_unclaimed_calls` — what registration does to every selection
-/

namespace Multidispatch

namespace Environment

variable {env : Environment} {site query : ScopeId} {name : Name} {overload : Overload}
  {args : List Value}

/-! ### Selection with places -/

/-- Where an overload is stored. -/
structure Place where
  /-- The scope that holds the overload. -/
  scope : ScopeId
  /-- The number of overloads of the same name that stand before it in the scope. -/
  position : Nat
deriving DecidableEq, Repr

/-- The overloads of a name that a scope holds, with their places. -/
def placed (env : Environment) (name : Name) (id : ScopeId) : List (Place × Overload) :=
  ((env.scope id).overloadsOf name).zipIdx.map fun (overload, position) => (⟨id, position⟩, overload)

/-- The place that the next overload of a name in a scope will have. -/
def nextPlace (env : Environment) (name : Name) (id : ScopeId) : Place :=
  ⟨id, ((env.scope id).overloadsOf name).length⟩

/-- The overload that a call selects, with its place: the first one in sight that accepts the
arguments. -/
def select (env : Environment) (site : ScopeId) (name : Name) (args : List Value) :
    Option (Place × Overload) :=
  ((env.chain site).flatMap (env.placed name)).find? fun entry => entry.2.accepts args

theorem map_placed (env : Environment) (name : Name) (id : ScopeId) :
    (env.placed name id).map Prod.snd = (env.scope id).overloadsOf name := by
  rw [placed, List.map_map]
  exact List.zipIdx_map_fst 0 _

/-- Resolution is selection without the place. -/
theorem resolve_eq_select (env : Environment) (site : ScopeId) (name : Name) (args : List Value) :
    env.resolve site name args = (env.select site name args).map Prod.snd := by
  have candidates : env.candidates site name =
      ((env.chain site).flatMap (env.placed name)).map Prod.snd := by
    rw [Environment.candidates, List.map_flatMap]
    exact List.flatMap_congr fun id _ => (env.map_placed name id).symm
  rw [resolve, candidates, List.find?_map]
  rfl

/-- What a call selects is a matter of the number and the kinds of its arguments. -/
theorem select_congr (env : Environment) (site : ScopeId) (name : Name) {args' : List Value}
    (kinds : args.map Value.kind = args'.map Value.kind) :
    env.select site name args = env.select site name args' := by
  have accepts : (fun entry : Place × Overload => entry.2.accepts args) =
      fun entry => entry.2.accepts args' := by
    funext entry
    exact acceptsAll_congr kinds
  rw [select, select, accepts]

/-! ### Which calls a registration is for -/

/-- A scope holds an overload of the name that accepts the arguments. -/
def Claims (env : Environment) (name : Name) (args : List Value) (id : ScopeId) : Prop :=
  ∃ overload ∈ (env.scope id).overloadsOf name, overload.accepts args = true

/-- A scope stands on a list of scopes, and neither it nor a scope before it claims the arguments. -/
def Unclaimed (env : Environment) (name : Name) (args : List Value) (site : ScopeId)
    (ids : List ScopeId) : Prop :=
  ∃ inner outer, ids = inner ++ site :: outer ∧ ∀ id ∈ inner ++ [site], ¬env.Claims name args id

/-- An overload that is registered in a scope is for a call from another one: it accepts the
arguments, its scope is on the way outwards from the call, and neither its scope nor one that is
nearer to the call claims them. -/
def Captures (env : Environment) (site : ScopeId) (overload : Overload) (query : ScopeId)
    (args : List Value) : Prop :=
  overload.accepts args = true ∧
    ∃ ids, env.Follows query ids ∧ env.Unclaimed overload.name args site ids

theorem unclaimed_cons {id : ScopeId} {ids : List ScopeId} :
    env.Unclaimed name args site (id :: ids) ↔
      ¬env.Claims name args id ∧ (id = site ∨ env.Unclaimed name args site ids) := by
  constructor
  · rintro ⟨inner, outer, split, free⟩
    cases inner with
    | nil =>
      obtain ⟨rfl, -⟩ := List.cons.inj split
      exact ⟨free id List.mem_cons_self, .inl rfl⟩
    | cons head inner =>
      obtain ⟨rfl, rest⟩ := List.cons.inj split
      exact ⟨free id List.mem_cons_self, .inr ⟨inner, outer, rest,
        fun other nearer => free other (List.mem_cons_of_mem _ nearer)⟩⟩
  · rintro ⟨free, rfl | ⟨inner, outer, rfl, nearer⟩⟩
    · exact ⟨[], ids, rfl, fun other listed => by rwa [List.mem_singleton.mp listed]⟩
    · refine ⟨id :: inner, outer, rfl, fun other listed => ?_⟩
      rcases List.mem_cons.mp listed with rfl | further
      · exact free
      · exact nearer other further

/-- A scope that does not claim the arguments has no match for them. -/
theorem find?_placed_eq_none_iff {id : ScopeId} :
    (env.placed name id).find? (fun entry => entry.2.accepts args) = none ↔
      ¬env.Claims name args id := by
  have mapped := congrArg (List.find? fun overload => overload.accepts args) (env.map_placed name id)
  rw [List.find?_map] at mapped
  rw [← Option.map_eq_none_iff (f := Prod.snd)]
  simp only [Function.comp_def] at mapped
  rw [mapped, List.find?_eq_none]
  simp [Claims]

/-! ### What registration does -/

/-- The overloads of other names stay where they are. -/
theorem placed_register_of_ne (env : Environment) (site : ScopeId) (different : name ≠ overload.name)
    (id : ScopeId) : (env.register site overload).placed name id = env.placed name id := by
  have same : ((env.register site overload).scope id).overloadsOf name =
      (env.scope id).overloadsOf name := by
    rw [register, scope_modifyScope]
    split
    · simp [Scope.overloadsOf, different.symm]
    · rfl
  rw [placed, same, placed]

/-- The overloads of the same name stay where they are, and the new one stands behind those of its
scope. -/
theorem placed_register (live : site.index < env.depth) (id : ScopeId) :
    (env.register site overload).placed overload.name id =
      env.placed overload.name id ++
        if site = id then [(env.nextPlace overload.name site, overload)] else [] := by
  have table : ((env.register site overload).scope id).overloadsOf overload.name =
      (env.scope id).overloadsOf overload.name ++ if site = id then [overload] else [] := by
    rw [Scope.overloadsOf, overloads_register env id overload live]
    split <;> simp [Scope.overloadsOf]
  rw [placed, table, List.zipIdx_append, List.map_append, ← placed]
  split
  case isTrue same => simp [nextPlace, same]
  case isFalse => simp

/-- No overload has the next place yet. -/
theorem nextPlace_not_mem_placed (env : Environment) (site : ScopeId) (other : Overload)
    (id : ScopeId) : (env.nextPlace name site, other) ∉ env.placed name id := by
  intro listed
  obtain ⟨⟨stored, position⟩, indexed, same⟩ := List.mem_map.mp listed
  obtain ⟨place, -⟩ := Prod.mk.inj same
  obtain ⟨rfl, rfl⟩ := Place.mk.inj place
  exact Nat.lt_irrefl _ (List.snd_lt_of_mem_zipIdx indexed)

/-- If nothing up to the scope of the new overload matches, the new overload is the first match. -/
theorem find?_placed_register_of_unclaimed (live : site.index < env.depth)
    (accepts : overload.accepts args = true) {ids : List ScopeId}
    (free : env.Unclaimed overload.name args site ids) :
    (ids.flatMap ((env.register site overload).placed overload.name)).find?
        (fun entry => entry.2.accepts args) =
      some (env.nextPlace overload.name site, overload) := by
  induction ids with
  | nil =>
    obtain ⟨inner, outer, split, -⟩ := free
    exact absurd split (by simp)
  | cons id ids ih =>
    obtain ⟨unclaimed, onward⟩ := unclaimed_cons.mp free
    rw [List.flatMap_cons, List.find?_append, placed_register live, List.find?_append,
      find?_placed_eq_none_iff.mpr unclaimed]
    by_cases here : site = id
    · simp [here, accepts]
    · rw [if_neg here, ih (onward.resolve_left fun same => here same.symm)]
      rfl

/-- If something up to the scope of the new overload matches, or the new overload itself does not,
the first match is the one from before. -/
theorem find?_placed_register_of_not_unclaimed (live : site.index < env.depth) {ids : List ScopeId}
    (taken : ¬(overload.accepts args = true ∧ env.Unclaimed overload.name args site ids)) :
    (ids.flatMap ((env.register site overload).placed overload.name)).find?
        (fun entry => entry.2.accepts args) =
      (ids.flatMap (env.placed overload.name)).find? fun entry => entry.2.accepts args := by
  induction ids with
  | nil => rfl
  | cons id ids ih =>
    rw [List.flatMap_cons, List.flatMap_cons, List.find?_append, List.find?_append,
      placed_register live, List.find?_append]
    cases found : (env.placed overload.name id).find? fun entry => entry.2.accepts args with
    | some entry => rfl
    | none =>
      have unclaimed := find?_placed_eq_none_iff.mp found
      have onward : ¬(overload.accepts args = true ∧ env.Unclaimed overload.name args site ids) :=
        fun both => taken ⟨both.1, unclaimed_cons.mpr ⟨unclaimed, .inr both.2⟩⟩
      rw [ih onward]
      by_cases here : site = id
      · -- The new overload is met here, so it cannot be one that accepts the arguments.
        have refuses : overload.accepts args = false := by
          rw [← Bool.not_eq_true]
          exact fun accepts => taken ⟨accepts, unclaimed_cons.mpr ⟨unclaimed, .inl here.symm⟩⟩
        simp [here, refuses]
      · simp [here]

theorem Nested.captures_iff (nested : env.Nested) (live : query.index < env.depth) :
    env.Captures site overload query args ↔
      overload.accepts args = true ∧ env.Unclaimed overload.name args site (env.chain query) := by
  simp only [Captures, nested.follows_iff live, exists_eq_left]

/-- What the registration of an overload changes, in every environment that can be reached and for
calls from every scope in use.  A call selects by the number and the kinds of its arguments.  After
the registration it selects the new overload exactly if the registration captures it: the overload
accepts the arguments, its scope is on the way outwards from the call, and no overload of that name
in its scope or in a nearer one accepted them before.  In all other cases, and under all other names,
it selects the overload that it selected before, or none as before. -/
theorem registration_captures_unclaimed_calls (reachable : env.Reachable)
    (live : site.index < env.depth) (used : query.index < env.depth) (overload : Overload) :
    (∀ (any : Environment) (id : ScopeId) (name : Name) (args : List Value),
      any.resolve id name args = (any.select id name args).map Prod.snd) ∧
    (∀ name args args', args.map Value.kind = args'.map Value.kind →
      env.select query name args = env.select query name args') ∧
    (∀ args, (env.register site overload).select query overload.name args =
        some (env.nextPlace overload.name site, overload) ↔
      env.Captures site overload query args) ∧
    (∀ args, ¬env.Captures site overload query args →
      (env.register site overload).select query overload.name args =
        env.select query overload.name args) ∧
    ∀ name args, name ≠ overload.name →
      (env.register site overload).select query name args = env.select query name args := by
  have nested := reachable.nested
  have unchanged : ∀ args, ¬env.Captures site overload query args →
      (env.register site overload).select query overload.name args =
        env.select query overload.name args := by
    intro args lost
    rw [nested.captures_iff used] at lost
    rw [select, chain_register]
    exact find?_placed_register_of_not_unclaimed live lost
  refine ⟨resolve_eq_select, fun name args args' kinds => env.select_congr query name kinds,
    fun args => ⟨fun selected => ?_, fun captured => ?_⟩, unchanged, ?_⟩
  · by_contra lost
    rw [unchanged args lost] at selected
    obtain ⟨id, -, listed⟩ := List.mem_flatMap.mp (List.mem_of_find?_eq_some selected)
    exact env.nextPlace_not_mem_placed site overload id listed
  · obtain ⟨accepts, free⟩ := (nested.captures_iff used).mp captured
    rw [select, chain_register]
    exact find?_placed_register_of_unclaimed live accepts free
  · intro name args different
    have same : (env.register site overload).placed name = env.placed name :=
      funext (env.placed_register_of_ne site different)
    rw [select, chain_register, same, select]

/-- A function for integers is declared in the global scope, around all scopes that branch. -/
def declaringEnvironment : Environment :=
  branchingEnvironment.register .global integerOverload

/-- The function is declared once more, for all values, in a scope between.  A call from inside that
scope selects the new overload; a call from the global scope selects the old one. -/
theorem registration_captures_unclaimed_calls_inside :
    declaringEnvironment.select ⟨2⟩ ⟨18⟩ [.int 7] = some (⟨.global, 0⟩, integerOverload) ∧
      (declaringEnvironment.register ⟨1⟩ anyOverload).select ⟨2⟩ ⟨18⟩ [.int 7] =
        some (⟨⟨1⟩, 0⟩, anyOverload) ∧
      (declaringEnvironment.register ⟨1⟩ anyOverload).select .global ⟨18⟩ [.int 7] =
        some (⟨.global, 0⟩, integerOverload) := by
  have reachable : declaringEnvironment.Reachable := .registered branchingEnvironment_reachable _ _
  have live : (ScopeId.mk 1).index < declaringEnvironment.depth := by decide
  have inner : (ScopeId.mk 2).index < declaringEnvironment.depth := by decide
  have outermost : ScopeId.global.index < declaringEnvironment.depth := by decide
  obtain ⟨-, -, inside, -⟩ := registration_captures_unclaimed_calls reachable live inner anyOverload
  obtain ⟨-, -, -, outside, -⟩ :=
    registration_captures_unclaimed_calls reachable live outermost anyOverload
  have captured : declaringEnvironment.Captures ⟨1⟩ anyOverload ⟨2⟩ [.int 7] := by
    refine ⟨rfl, _, .step rfl (.step rfl (.root rfl)), [⟨2⟩], [.global], rfl, ?_⟩
    rintro id listed ⟨overload, stored, -⟩
    rcases List.mem_pair.mp listed with rfl | rfl <;> cases stored
  have missed : ¬declaringEnvironment.Captures ⟨1⟩ anyOverload .global [.int 7] := by
    rintro ⟨-, ids, follows, inner, outer, split, -⟩
    have onWay : ScopeId.mk 1 ∈ ids := by simp [split]
    rw [follows.unique (.root rfl)] at onWay
    exact absurd onWay (by decide)
  exact ⟨rfl, (inside _).mpr captured, (outside _ missed).trans rfl⟩

end Environment

end Multidispatch
