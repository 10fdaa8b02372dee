import Mathlib.Data.List.Infix
import Multidispatch.Proofs.Ascent
import Multidispatch.Proofs.ScopeDiscipline
import Multidispatch.Proofs.Session

/-!
# Overloads over a session

A call from the global scope selects the first overload of the global scope that accepts the
arguments, and the overloads of the global scope are only ever added to, at their end.  So what a call
selects does not change over a session: not by later declarations and registrations, and not by runs
that fail.  An overload that is the first one to accept certain arguments is selected for them from
then on.

## Main definitions

* `Environment.Rooted` — the global scope is in use and lies in no other scope
* `declarations` — evaluation adds to the overloads of the global scope
* `Interpreter.Adds` — a request adds an overload to the global scope

## Main statements

* `Environment.resolve_of_prefix` — more overloads at the end do not change what a call selects
* `Interpreter.serve_declares`, `Interpreter.serve_adds` — what a request does to the overloads
* `resolution_is_stable` — what a call selects does not change over a session
-/

namespace Multidispatch

/-! ### Selection from the global scope -/

/-- Which overloads accept arguments is a matter of the kinds of the arguments. -/
theorem acceptsAll_congr {params : List (Param Name)} {args args' : List Value}
    (kinds : args.map Value.kind = args'.map Value.kind) :
    acceptsAll params args = acceptsAll params args' := by
  induction args generalizing args' params with
  | nil =>
    have empty : args' = [] := List.map_eq_nil_iff.mp kinds.symm
    rw [empty]
  | cons arg args ih =>
    obtain ⟨arg', rest, rfl, kind, kinds⟩ := List.map_eq_cons_iff.mp kinds.symm
    cases params with
    | nil => rfl
    | cons param params =>
      show (param.tag.accepts arg.kind && acceptsAll params args) =
        (param.tag.accepts arg'.kind && acceptsAll params rest)
      rw [kind, ih kinds.symm]

namespace Environment

variable {env env' : Environment} {name : Name}

/-- The global scope is in use, and lies in no other scope. -/
structure Rooted (env : Environment) : Prop where
  live : 0 < env.depth
  outermost : (env.scope .global).enclosing = []

theorem Nested.rooted (nested : env.Nested) (live : 0 < env.depth) : env.Rooted where
  live := live
  outermost := List.cons.inj nested.chain_global |>.2

/-- From the global scope, a call sees the overloads of the global scope. -/
theorem Rooted.candidates_eq (rooted : env.Rooted) (name : Name) :
    env.candidates .global name = (env.scope .global).overloadsOf name := by
  have chain : env.chain .global = [.global] := by rw [Environment.chain, rooted.outermost]
  rw [candidates, chain, List.flatMap_singleton]

/-- Overloads that are added behind the others do not change what a call selects. -/
theorem resolve_of_prefix (rooted : env.Rooted) (rooted' : env'.Rooted)
    (grown : (env.scope .global).overloads <+: (env'.scope .global).overloads)
    {args args' : List Value} (kinds : args.map Value.kind = args'.map Value.kind)
    {selected : Overload} (selects : env.resolve .global name args = some selected) :
    env'.resolve .global name args' = some selected := by
  have accepts : (fun overload : Overload => overload.accepts args') =
      fun overload => overload.accepts args := by
    funext overload
    exact (acceptsAll_congr kinds).symm
  rw [resolve, rooted.candidates_eq] at selects
  rw [resolve, rooted'.candidates_eq, accepts]
  have sublist : (env.scope .global).overloadsOf name <+: (env'.scope .global).overloadsOf name :=
    grown.filter _
  exact sublist.find?_eq_some selects

/-- An overload that is added for arguments that no other accepts is selected for them. -/
theorem Rooted.resolve_register (rooted : env.Rooted) {overload : Overload} {args : List Value}
    (unmatched : env.resolve .global overload.name args = none)
    (accepts : overload.accepts args = true) :
    (env.register .global overload).resolve .global overload.name args = some overload := by
  have rooted' : (env.register .global overload).Rooted :=
    ⟨by simpa using rooted.live, by simpa using rooted.outermost⟩
  have live : ScopeId.global.index < env.depth := rooted.live
  rw [resolve, rooted.candidates_eq, Scope.overloadsOf] at unmatched
  rw [resolve, rooted'.candidates_eq, Scope.overloadsOf, overloads_register env _ overload live,
    if_pos rfl, List.filter_append, List.find?_append, unmatched]
  simp [accepts]

/-! ### The global scope and the single operations -/

theorem Rooted.assign (rooted : env.Rooted) (site : ScopeId) (name : Name) (value : Value) :
    (env.assign site name value).Rooted :=
  ⟨by simpa using rooted.live, by simpa using rooted.outermost⟩

theorem Rooted.register (rooted : env.Rooted) (id : ScopeId) (overload : Overload) :
    (env.register id overload).Rooted :=
  ⟨by simpa using rooted.live, by simpa using rooted.outermost⟩

/-- Declaring a function adds to the overloads of the global scope, if anything, at their end. -/
theorem overloads_prefix_register (env : Environment) (id other : ScopeId) (overload : Overload) :
    (env.scope other).overloads <+: ((env.register id overload).scope other).overloads := by
  rw [Environment.register, scope_modifyScope]
  split
  · exact List.prefix_append _ _
  · exact List.prefix_refl _

/-- The global scope is never released. -/
theorem scope_global_popScope (env : Environment) (id : ScopeId) :
    (env.popScope id).scope .global = env.scope .global := by
  unfold popScope
  split
  · rename_i released
    have inner : ScopeId.global.index < env.scopes.size - 1 := by
      have notZero : id.index ≠ 0 := fun zero => released.1 (congrArg ScopeId.mk zero)
      have last : id.index + 1 = env.scopes.size := released.2
      show 0 < env.scopes.size - 1
      omega
    simp only [scope, Array.getElem?_pop, if_pos inner]
  · rfl

theorem Rooted.popScope (rooted : env.Rooted) (id : ScopeId) : (env.popScope id).Rooted := by
  constructor
  · unfold Environment.popScope
    split
    · rename_i released
      have notZero : id.index ≠ 0 := fun zero => released.1 (congrArg ScopeId.mk zero)
      have last : id.index + 1 = env.scopes.size := released.2
      simp only [depth, Array.size_pop]
      omega
    · exact rooted.live
  · rw [scope_global_popScope]
    exact rooted.outermost

end Environment

/-! ### Evaluation adds overloads -/

/-- Evaluation keeps the overloads of the global scope, and adds others behind them. -/
def declarations (settings : Settings) : Ascent settings where
  le m m' := (m.env.scope .global).overloads <+: (m'.env.scope .global).overloads
  good m := m.env.Rooted
  proper _ _ := True
  allowed _ := True
  refl _ := List.prefix_refl _
  trans := List.IsPrefix.trans
  proper_mono _ := id
  scalar _ _ := trivial
  lookup _ _ := trivial
  items _ _ _ _ := trivial
  newText _ rooted := ⟨rooted, List.prefix_refl _, fun _ _ => trivial⟩
  newVector rooted _ := ⟨rooted, List.prefix_refl _, fun _ _ => trivial⟩
  assign {m s name value} rooted _ _ := by
    refine ⟨rooted.assign s name value, ?_⟩
    rw [Environment.overloads_assign]
  declare rooted _ := ⟨rooted.register _ _, Environment.overloads_prefix_register _ _ _ _⟩
  native rooted _ _ _ _ := ⟨rooted, List.prefix_refl _, fun _ _ => trivial⟩
  user _ _ _ _ _ _ := trivial
  enter {m} callee home caller args rooted _ := by
    have live : ScopeId.global.index < m.env.depth := rooted.live
    have same := m.scope_entered_of_live settings callee home caller args live
    refine ⟨⟨?_, ?_⟩, ?_⟩
    · rw [Machine.depth_entered]
      exact Nat.succ_pos _
    · rw [same]
      exact rooted.outermost
    · rw [same]
  leave {m} scope rooted := by
    refine ⟨rooted.popScope scope, ?_⟩
    show _ <+: ((m.env.popScope scope).scope .global).overloads
    rw [Environment.scope_global_popScope]

/-- Every task may be started where the global scope is in use. -/
theorem starts_declarations {settings : Settings} (task : Task) {m : Machine}
    (rooted : m.env.Rooted) : (declarations settings).Starts task m := by
  refine ⟨rooted, fun _ _ => trivial, ?_⟩
  cases task <;> exact fun _ _ => trivial

/-! ### Requests -/

/-- A request adds an overload to the global scope, on the given machine. -/
inductive Interpreter.Adds (interpreter : Interpreter) : Request → Overload → Machine → Prop
  /-- A program that is run comes to a declaration in the global scope. -/
  | declared {fuel : Nat} {program : Block Name} {last : Value} {name : Name}
      {params : List (Param Name)} {body : Block Name} {machine : Machine}
      (reached : (Task.stmts .global .void program).Reaches interpreter.settings fuel
        interpreter.machine (.stmt .global last (.function name params body)) machine) :
      Adds interpreter (.run fuel program) ⟨name, params, .user body .global⟩ machine
  /-- A native is registered. -/
  | registered {spelling : String} {params : List (Param String)} {native : Native}
      {overload : Overload} {after : Interpreter}
      (registered : interpreter.registerNative spelling params native = .ok after)
      (stored : after.machine.env = interpreter.machine.env.register .global overload) :
      Adds interpreter (.registerNative spelling params native) overload interpreter.machine

namespace Interpreter

variable {interpreter after : Interpreter} {request : Request}

/-- A request keeps the overloads of the global scope, and adds others behind them. -/
theorem serve_declares (rooted : interpreter.machine.env.Rooted)
    (served : interpreter.serve request = some after) :
    after.machine.env.Rooted ∧ (interpreter.machine.env.scope .global).overloads <+:
      (after.machine.env.scope .global).overloads := by
  cases answer_of_serve served with
  | ran ended =>
    obtain ⟨rooted', grown, -⟩ := Ascent.run_rises (starts_declarations _ rooted) ended
    exact ⟨rooted', grown⟩
  | called interned ended =>
    obtain ⟨rooted', grown, -⟩ := Ascent.run_rises (starts_declarations _ rooted) ended
    exact ⟨rooted', grown⟩
  | bound interned =>
    refine ⟨⟨by simpa using rooted.live, by simpa using rooted.outermost⟩, ?_⟩
    rw [Environment.overloads_bindLocal]
  | registered grown known =>
    exact ⟨rooted.register _ _, Environment.overloads_prefix_register _ _ _ _⟩
  | _ => exact ⟨rooted, List.prefix_refl _⟩

theorem serveAll_declares {requests : List Request} (rooted : interpreter.machine.env.Rooted)
    (served : interpreter.serveAll requests = some after) :
    after.machine.env.Rooted ∧ (interpreter.machine.env.scope .global).overloads <+:
      (after.machine.env.scope .global).overloads := by
  induction requests generalizing interpreter with
  | nil =>
    cases served
    exact ⟨rooted, List.prefix_refl _⟩
  | cons request requests ih =>
    obtain ⟨between, first, rest⟩ := serveAll_cons served
    obtain ⟨rooted', grown⟩ := serve_declares rooted first
    obtain ⟨rooted'', grown'⟩ := ih rooted' rest
    exact ⟨rooted'', grown.trans grown'⟩

/-- An overload that a request adds is there after the request, behind those that were there before
it was added. -/
theorem serve_adds {overload : Overload} {machine : Machine}
    (rooted : interpreter.machine.env.Rooted) (served : interpreter.serve request = some after)
    (adds : interpreter.Adds request overload machine) :
    machine.env.Rooted ∧ ((machine.env.register .global overload).scope .global).overloads <+:
      (after.machine.env.scope .global).overloads := by
  cases adds with
  | @declared fuel program last name params body machine reached =>
    obtain ⟨⟨outcome, _⟩, ended, rfl⟩ := Option.map_eq_some_iff.mp served
    obtain ⟨end', ran, rfl⟩ := runOn_eq_some ended
    obtain ⟨started, fuel', result, declared, below⟩ :=
      Ascent.reached reached (starts_declarations _ rooted) ran
    refine ⟨started.good, ?_⟩
    -- A declaration ends at once, so its machine with the new overload is below the end of the run.
    cases fuel' with
    | zero => cases declared
    | succ fuel' =>
      cases declared
      exact below
  | registered registered stored =>
    simp only [serve, registered] at served
    cases served
    refine ⟨rooted, ?_⟩
    rw [stored]

end Interpreter

/-- Over a session on an interpreter, what a call from the global scope selects does not change.  The
overloads of each name are added to at their end alone; so a call with arguments of the same kinds
selects the same overload at every later point; and an overload that was added for arguments that no
other one accepted is selected for such arguments from then on. -/
theorem resolution_is_stable {options : Options} {origin before after : Interpreter}
    {past future : List Request} (built : Interpreter.build options = .ok origin)
    (earlier : origin.serveAll past = some before) (later : before.serveAll future = some after) :
    (∀ name, (before.machine.env.scope .global).overloadsOf name <+:
      (after.machine.env.scope .global).overloadsOf name) ∧
    (∀ spelling, before.overloads spelling <+: after.overloads spelling) ∧
    (∀ name args args' selected, args.map Value.kind = args'.map Value.kind →
      before.machine.env.resolve .global name args = some selected →
      after.machine.env.resolve .global name args' = some selected) ∧
    (∀ request rest overload machine args args', future = request :: rest →
      before.Adds request overload machine →
      machine.env.resolve .global overload.name args = none → overload.accepts args = true →
      args.map Value.kind = args'.map Value.kind →
      after.machine.env.resolve .global overload.name args' = some overload) := by
  have wellFormed := Interpreter.wellFormed_of_build built
  have rootedOrigin : origin.machine.env.Rooted :=
    wellFormed.nested.rooted (Nat.zero_lt_of_lt wellFormed.live)
  obtain ⟨rooted, -⟩ := Interpreter.serveAll_declares rootedOrigin earlier
  obtain ⟨rooted', grown⟩ := Interpreter.serveAll_declares rooted later
  refine ⟨fun name => grown.filter _, ?_, ?_, ?_⟩
  · intro spelling
    unfold Interpreter.overloads
    cases known : before.names.get? spelling with
    | none => exact List.nil_prefix
    | some name =>
      rw [Interner.get?_of_prefix (Interpreter.serveAll_grows later) known]
      simp only [rooted.candidates_eq, rooted'.candidates_eq]
      exact grown.filter _
  · intro name args args' selected kinds selects
    exact Environment.resolve_of_prefix rooted rooted' grown kinds selects
  · rintro request rest overload machine args args' rfl adds unmatched accepts kinds
    obtain ⟨between, served, onward⟩ := Interpreter.serveAll_cons later
    obtain ⟨rootedThere, added⟩ := Interpreter.serve_adds rooted served adds
    obtain ⟨rootedBetween, -⟩ := Interpreter.serve_declares rooted served
    obtain ⟨-, grownOnward⟩ := Interpreter.serveAll_declares rootedBetween onward
    exact Environment.resolve_of_prefix (rootedThere.register _ _) rooted'
      (added.trans grownOnward) kinds (rootedThere.resolve_register unmatched accepts)

/-- An overload of a function for integers. -/
def integerOverload : Overload :=
  ⟨⟨18⟩, [⟨⟨17⟩, Kind.integer⟩], .user [.expr (.ident ⟨17⟩)] .global⟩

/-- An overload of the same function for all values. -/
def anyOverload : Overload :=
  ⟨⟨18⟩, [⟨⟨17⟩, .any⟩], .native fun _ => pure .void⟩

/-- The function is declared for integers. -/
def declaringSession : List Request :=
  [.load [.function "f" [⟨"x", Kind.integer⟩] [.expr (.ident "x")]],
    .run 8 [.function ⟨18⟩ [⟨⟨17⟩, Kind.integer⟩] [.expr (.ident ⟨17⟩)]]]

/-- The function is registered for all values, and a program that fails declares it once more for
integers. -/
def redeclaringSession : List Request :=
  [.registerNative "f" [⟨"x", .any⟩] fun _ => pure .void,
    .run 8 [.function ⟨18⟩ [⟨⟨17⟩, Kind.integer⟩] [], .expr (.ident ⟨19⟩)]]

/-- The first overload stays the one for integers, and the native becomes the one for other
values. -/
theorem resolution_is_stable_redeclared :
    ∃ origin before after : Interpreter,
      Interpreter.build { mode := .test, prelude := false } = .ok origin ∧
      origin.serveAll declaringSession = some before ∧
      before.serveAll redeclaringSession = some after ∧
      after.machine.env.resolve .global ⟨18⟩ [.int 2] = some integerOverload ∧
      after.machine.env.resolve .global ⟨18⟩ [.bool true] = some anyOverload := by
  have stable := @resolution_is_stable { mode := .test, prelude := false } _ _ _ declaringSession
    redeclaringSession rfl rfl rfl
  have kept := stable.2.2.1 ⟨18⟩ [.int 1] [.int 2] integerOverload rfl rfl
  have added := stable.2.2.2 _ _ anyOverload _ [.bool true] [.bool true] rfl
    (.registered rfl rfl) rfl rfl rfl
  exact ⟨_, _, _, rfl, rfl, rfl, kept, added⟩

end Multidispatch
