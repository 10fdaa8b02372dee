import Multidispatch.Overload

/-!
# The environment

Scopes bind variables and hold overloads.  The global scope is always there; every call of a user
function adds a scope, and the scopes are released in the opposite order.  A name is looked up in a
scope and then in the scopes that enclose it, the nearest first.

## Main definitions

* `Bindings` — the variables of a scope
* `Scope` — variables, overloads and the enclosing scopes
* `Environment` — all scopes, by number
* `Environment.pushScope`, `Environment.popScope` — entry and release of a scope
* `Environment.lookup`, `Environment.assign`, `Environment.bindLocal` — variables
* `Environment.register`, `Environment.candidates`, `Environment.resolve` — overloads

## Main statements

* `Bindings.find?_insert` — what a variable reads as after a binding
* `Environment.scope_modifyScope` — a change concerns one scope alone
* `Environment.chain_pushScope` — the chain of a scope that was just entered

## Design notes

A scope lists all scopes that enclose it, and not only its parent.  The list is fixed when the scope
is entered, and the scopes on it outlive the scope, so following the chain of scopes needs no
search and always ends.
-/

namespace Multidispatch

/-- The variables of a scope with their values; each name is bound at most once. -/
abbrev Bindings := List (Name × Value)

namespace Bindings

/-- The value of a variable, if it is bound. -/
def find? : Bindings → Name → Option Value
  | [], _ => none
  | (bound, value) :: rest, name => if bound = name then some value else find? rest name

/-- Whether a variable is bound. -/
def contains (bindings : Bindings) (name : Name) : Bool :=
  (bindings.find? name).isSome

/-- Binds a variable, or gives a bound variable a new value. -/
def insert : Bindings → Name → Value → Bindings
  | [], name, value => [(name, value)]
  | (bound, old) :: rest, name, value =>
    if bound = name then (name, value) :: rest else (bound, old) :: insert rest name value

@[simp] theorem find?_nil (name : Name) : find? [] name = none := rfl

/-- Binding a variable changes what that variable reads as, and nothing else. -/
@[simp] theorem find?_insert (bindings : Bindings) (name other : Name) (value : Value) :
    (bindings.insert name value).find? other =
      if name = other then some value else bindings.find? other := by
  induction bindings with
  | nil => simp [insert, find?]
  | cons entry rest ih =>
    obtain ⟨bound, old⟩ := entry
    by_cases hit : bound = name
    · subst hit
      simp only [insert, find?, if_true]
      split <;> rfl
    · simp only [insert, find?, hit, if_false, ih]
      by_cases same : name = other
      · simp [← same, hit]
      · simp [same]

end Bindings

/-- One scope. -/
structure Scope where
  /-- The variables. -/
  bindings : Bindings := []
  /-- The overloads, in the order of their registration. -/
  overloads : List Overload := []
  /-- The scopes around this one, the nearest first. -/
  enclosing : List ScopeId := []
deriving Inhabited

namespace Scope

/-- The scope directly around this one; the global scope has none. -/
def parent? (scope : Scope) : Option ScopeId :=
  scope.enclosing.head?

/-- The overloads of one name, in the order of their registration. -/
def overloadsOf (scope : Scope) (name : Name) : List Overload :=
  scope.overloads.filter fun overload => overload.name = name

end Scope

/-- All scopes that have been entered and not released, by number. -/
structure Environment where
  /-- The scopes; the first is the global scope. -/
  scopes : Array Scope
deriving Inhabited

namespace Environment

/-- The number of scopes that an environment can hold: one less than two to the power of
thirty-two. -/
def capacity : Nat := 4294967295

/-- The environment with an empty global scope. -/
def initial : Environment := ⟨#[{}]⟩

/-- The number of scopes. -/
def depth (env : Environment) : Nat :=
  env.scopes.size

/-- The scope with a number; a number that is not in use stands for an empty scope. -/
def scope (env : Environment) (id : ScopeId) : Scope :=
  env.scopes[id.index]?.getD {}

/-- Changes one scope. -/
def modifyScope (env : Environment) (id : ScopeId) (change : Scope → Scope) : Environment :=
  ⟨env.scopes.modify id.index change⟩

/-- A scope and the scopes around it, the nearest first. -/
def chain (env : Environment) (id : ScopeId) : List ScopeId :=
  id :: (env.scope id).enclosing

/-! ### Entry and release -/

/-- Enters a new scope inside another. -/
def pushScope (env : Environment) (parent : ScopeId) : Except Cause (ScopeId × Environment) :=
  if env.depth < capacity then
    .ok (⟨env.depth⟩, ⟨env.scopes.push { enclosing := env.chain parent }⟩)
  else
    .error (.stackOverflow (capacity - 1))

/-- Releases a scope if it is the innermost one; the global scope is never released. -/
def popScope (env : Environment) (id : ScopeId) : Environment :=
  if id ≠ .global ∧ id.index + 1 = env.depth then ⟨env.scopes.pop⟩ else env

/-! ### Variables -/

/-- The value of a variable as seen from a scope: that of the nearest scope that binds it. -/
def lookup (env : Environment) (site : ScopeId) (name : Name) : Option Value :=
  (env.chain site).findSome? fun id => (env.scope id).bindings.find? name

/-- The nearest scope that binds a variable, or the scope itself if none does. -/
def holder (env : Environment) (site : ScopeId) (name : Name) : ScopeId :=
  ((env.chain site).find? fun id => (env.scope id).bindings.contains name).getD site

/-- Binds a variable in one scope, whatever the scopes around it bind. -/
def bindLocal (env : Environment) (id : ScopeId) (name : Name) (value : Value) : Environment :=
  env.modifyScope id fun scope => { scope with bindings := scope.bindings.insert name value }

/-- Assigns to a variable: the nearest scope that binds it gets the value, or the scope itself if
none does. -/
def assign (env : Environment) (site : ScopeId) (name : Name) (value : Value) : Environment :=
  env.bindLocal (env.holder site name) name value

/-! ### Overloads -/

/-- Adds an overload to a scope, behind those that are there. -/
def register (env : Environment) (id : ScopeId) (overload : Overload) : Environment :=
  env.modifyScope id fun scope => { scope with overloads := scope.overloads ++ [overload] }

/-- The overloads of a name as seen from a scope: those of the nearest scope first, and within a
scope in the order of their registration. -/
def candidates (env : Environment) (site : ScopeId) (name : Name) : List Overload :=
  (env.chain site).flatMap fun id => (env.scope id).overloadsOf name

/-- The overload that a call selects: the first candidate that accepts the arguments. -/
def resolve (env : Environment) (site : ScopeId) (name : Name) (args : List Value) :
    Option Overload :=
  (env.candidates site name).find? fun overload => overload.accepts args

/-! ### What the operations do to the scopes -/

@[simp] theorem depth_modifyScope (env : Environment) (id : ScopeId) (change : Scope → Scope) :
    (env.modifyScope id change).depth = env.depth := by
  simp [modifyScope, depth]

/-- Changing a scope that exists changes that scope and no other. -/
theorem scope_modifyScope (env : Environment) (id other : ScopeId) (change : Scope → Scope) :
    (env.modifyScope id change).scope other =
      if id = other ∧ id.index < env.depth then change (env.scope other) else env.scope other := by
  cases id with | mk i =>
  cases other with | mk j =>
  by_cases same : i = j
  · subst same
    simp only [modifyScope, scope, depth, Array.getElem?_modify]
    by_cases live : i < env.scopes.size <;> simp [live]
  · simp [modifyScope, scope, Array.getElem?_modify, same]

/-- Variables come and go without effect on which scopes enclose which. -/
@[simp] theorem chain_bindLocal (env : Environment) (id site : ScopeId) (name : Name)
    (value : Value) : (env.bindLocal id name value).chain site = env.chain site := by
  simp only [chain, bindLocal, scope_modifyScope]
  split <;> rfl

/-- Overloads are added without effect on which scopes enclose which. -/
@[simp] theorem chain_register (env : Environment) (id site : ScopeId) (overload : Overload) :
    (env.register id overload).chain site = env.chain site := by
  simp only [chain, register, scope_modifyScope]
  split <;> rfl

/-- The scope that was entered is the innermost one, and its chain is that of its parent. -/
theorem chain_pushScope {env after : Environment} {parent id : ScopeId}
    (entered : env.pushScope parent = .ok (id, after)) :
    id = ⟨env.depth⟩ ∧ after.depth = env.depth + 1 ∧ after.chain id = id :: env.chain parent := by
  unfold pushScope at entered
  split at entered
  · cases entered
    simp [chain, scope, depth]
  · cases entered

end Environment

end Multidispatch
