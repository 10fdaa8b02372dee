import Multidispatch.Proofs.CallEffects
import Multidispatch.Proofs.PreludeNatives
import Multidispatch.Proofs.Session
import Multidispatch.Proofs.Tables

/-!
# Programs for which the scoping does not matter

Under dynamic scoping the body of a function sees the variables of its callers, and under lexical
scoping those of the scope around its declaration.  A program does not notice the difference if its
functions are declared at the top, assign to their own parameters only, and read no parameter of
another function.

On such a program the runs under the two policies keep the same tables, although the scopes of calls
are linked in different ways: all overloads stand in the global scope, and the scopes of calls bind
parameters only.  So a variable that is read in a body is found in the scope of the call or in the
global scope, in both runs alike.

## Main definitions

* `WellBehaved` — a program that keeps to these rules
* `Tame` — a machine on which such a program runs
* `Parallel` — the two machines of the two runs
* `scopingAgreement` — the two runs as a simulation
* `Interpreter.Fresh` — an interpreter on which nothing has run

## Main statements

* `scoping_policies_agree` — both policies give the same outcome and leave the same machine
-/

namespace Multidispatch

/-! ### Well-behaved programs -/

/-- A program declares a function with these parameters and this body, outside of all functions. -/
def Declares (program : Block Name) (params : List (Param Name)) (body : Block Name) : Prop :=
  ∃ name, .declare name params body ∈ Block.actions program

/-- A name is among those of the parameters. -/
def Binds (params : List (Param Name)) (name : Name) : Prop :=
  ∃ param ∈ params, param.name = name

/-- A name is that of a parameter of a function of the program. -/
def IsParam (program : Block Name) (name : Name) : Prop :=
  ∃ params body, Declares program params body ∧ Binds params name

/-- A program whose functions depend on their parameters and on global variables only. -/
structure WellBehaved (program : Block Name) : Prop where
  /-- No function is declared in the body of a function. -/
  flat : ∀ params body, Declares program params body →
    ∀ name inner block, .declare name inner block ∉ Block.actions body
  /-- A body assigns to parameters of the function only. -/
  assigns : ∀ params body, Declares program params body →
    ∀ name, .assign name ∈ Block.actions body → Binds params name
  /-- What a body reads is a parameter of the function, or a parameter of none. -/
  reads : ∀ params body, Declares program params body →
    ∀ name, .read name ∈ Block.actions body → Binds params name ∨ ¬ IsParam program name

/-- What a program may do outside of all calls, and inside the innermost call. -/
def ScopingRule (program : Block Name) : List ActiveCall → Action → Prop
  | [], .declare _ params body => Declares program params body
  | [], _ => True
  | call :: _, .read name => Binds call.params name ∨ ¬ IsParam program name
  | call :: _, .assign name => Binds call.params name ∧ IsParam program name
  | _ :: _, .call _ => True
  | _ :: _, .declare .. => False

/-- The body of a function of the program keeps to the rule inside its calls. -/
theorem WellBehaved.rule {program : Block Name} (wellBehaved : WellBehaved program)
    {params : List (Param Name)} {body : Block Name} (declared : Declares program params body)
    (scope : ScopeId) (calls : List ActiveCall) :
    ∀ action ∈ Block.actions body, ScopingRule program (⟨scope, params⟩ :: calls) action := by
  intro action listed
  cases action with
  | read name => exact wellBehaved.reads params body declared name listed
  | assign name =>
    have own := wellBehaved.assigns params body declared name listed
    exact ⟨own, params, body, declared, own⟩
  | call name => exact trivial
  | declare name inner block => exact wellBehaved.flat params body declared name inner block listed

/-- The program itself keeps to the rule outside of all calls. -/
theorem rule_at_top (program : Block Name) :
    ∀ action ∈ Block.actions program, ScopingRule program [] action := by
  intro action listed
  cases action with
  | declare name params body => exact ⟨name, listed⟩
  | _ => exact trivial

/-- Parameters are all that the binding of parameters binds. -/
theorem Environment.contains_of_bindParams {env : Environment} {id : ScopeId}
    (live : id.index < env.depth) {params : List (Param Name)} {args : List Value} {name : Name}
    (bound : ((env.bindParams id params args).scope id).bindings.contains name = true) :
    (env.scope id).bindings.contains name = true ∨ Binds params name := by
  induction params generalizing env args with
  | nil => exact .inl bound
  | cons param params ih =>
    cases args with
    | nil => exact .inl bound
    | cons arg args =>
      have live' : id.index < (env.bindLocal id param.name arg).depth := by rwa [depth_bindLocal]
      rcases ih live' bound with earlier | ⟨other, listed, named⟩
      · rw [Bindings.contains, find?_bindLocal _ _ _ _ _ live] at earlier
        by_cases same : param.name = name
        · exact .inr ⟨param, List.mem_cons_self, same⟩
        · rw [if_neg fun here => same here.2] at earlier
          exact .inl earlier
      · exact .inr ⟨other, List.mem_cons_of_mem _ listed, named⟩

/-! ### One machine -/

/-- While evaluation goes on in the global scope, there is no other. -/
theorem Machine.WellFormed.scope_eq_empty {settings : Settings} {machine : Machine}
    (wellFormed : machine.WellFormed settings .global) {id : ScopeId} (other : id ≠ .global) :
    machine.env.scope id = {} := by
  refine Environment.scope_of_depth_le ?_
  rw [← wellFormed.innermost]
  obtain ⟨i⟩ := id
  cases i with
  | zero => exact (other rfl).elim
  | succ i => exact Nat.le_add_left 1 i

/-- A machine on which a well-behaved program runs, with the calls under way, the innermost first. -/
structure Tame (settings : Settings) (program : Block Name) (calls : List ActiveCall)
    (scope : ScopeId) (machine : Machine) : Prop where
  wellFormed : machine.WellFormed settings scope
  /-- Overloads stand in the global scope, and the functions among them are those of the program. -/
  stored : ∀ id overload, overload ∈ (machine.env.scope id).overloads → id = .global ∧
    ∀ body home, overload.body = .user body home → Declares program overload.params body
  /-- The scopes of calls bind parameters only. -/
  locals : ∀ id, id ≠ .global → ∀ name,
    (machine.env.scope id).bindings.contains name = true → IsParam program name
  live : ∀ call ∈ calls, call.scope.index < machine.env.depth
  /-- The parameters of each call are bound in its scope. -/
  bound : ∀ call ∈ calls, ∀ name, Binds call.params name →
    (machine.env.scope call.scope).bindings.contains name = true
  atTop : calls = [] → scope = .global
  inCall : ∀ call rest, calls = call :: rest → call.scope = scope

namespace Tame

variable {settings : Settings} {program : Block Name} {calls : List ActiveCall} {scope : ScopeId}
  {machine : Machine}

/-- All overloads in sight stand in the global scope. -/
theorem candidates_eq (tame : Tame settings program calls scope machine) (name : Name) :
    machine.env.candidates scope name = (machine.env.scope .global).overloadsOf name := by
  refine tame.wellFormed.nested.candidates_eq_global (fun id localScope => ?_)
    tame.wellFormed.live name
  refine List.eq_nil_iff_forall_not_mem.mpr fun overload listed => ?_
  exact localScope (tame.stored id overload listed).1

/-- Outside of all calls, variables are read in the global scope. -/
theorem lookup_at_top (tame : Tame settings program [] scope machine) (name : Name) :
    machine.env.lookup scope name = (machine.env.scope .global).bindings.find? name := by
  rw [tame.atTop rfl, Environment.lookup, tame.wellFormed.nested.chain_global]
  simp

/-- Inside a call, a variable is read in the scope of the call if it is a parameter, and in the
global scope if it is none. -/
theorem lookup_in_call {call : ActiveCall} {rest : List ActiveCall}
    (tame : Tame settings program (call :: rest) scope machine) {name : Name} :
    (Binds call.params name →
      machine.env.lookup scope name = (machine.env.scope scope).bindings.find? name) ∧
    (¬ IsParam program name →
      machine.env.lookup scope name = (machine.env.scope .global).bindings.find? name) := by
  constructor
  · intro own
    have bound := tame.bound call List.mem_cons_self name own
    rw [tame.inCall call rest rfl] at bound
    exact Environment.lookup_of_contains bound
  · intro foreign
    refine tame.wellFormed.nested.lookup_eq_global (fun id localScope => ?_) tame.wellFormed.live
    by_contra found
    exact foreign (tame.locals id localScope name (Option.isSome_iff_ne_none.mpr found))

/-- Assignments go to the current scope. -/
theorem holder_eq (tame : Tame settings program calls scope machine) {name : Name}
    (rule : ScopingRule program calls (.assign name)) :
    machine.env.holder scope name = scope := by
  cases calls with
  | nil =>
    have onChain := machine.env.holder_mem_chain scope name
    rw [tame.atTop rfl, tame.wellFormed.nested.chain_global, List.mem_singleton] at onChain
    rwa [tame.atTop rfl]
  | cons call rest =>
    have bound := tame.bound call List.mem_cons_self name rule.1
    rw [tame.inCall call rest rfl] at bound
    exact Environment.holder_of_contains bound

/-- Outside of all calls, no scope lies in another. -/
theorem enclosing_at_top (tame : Tame settings program [] scope machine) (id : ScopeId) :
    (machine.env.scope id).enclosing = [] := by
  have wellFormed := tame.wellFormed
  rw [tame.atTop rfl] at wellFormed
  by_cases top : id = .global
  · rw [top, wellFormed.nested.root]
  · rw [wellFormed.scope_eq_empty top]

theorem native (tame : Tame settings program calls scope machine) (store : Store) :
    Tame settings program calls scope { machine with store } :=
  { tame with wellFormed := tame.wellFormed.native store }

theorem assign (tame : Tame settings program calls scope machine) {name : Name} (value : Value)
    (rule : ScopingRule program calls (.assign name)) :
    Tame settings program calls scope
      { machine with env := machine.env.assign scope name value } := by
  have live := tame.wellFormed.live
  have holder := tame.holder_eq rule
  refine ⟨tame.wellFormed.assign name value, ?_, ?_, ?_, ?_, tame.atTop, tame.inCall⟩
  · intro id overload listed
    rw [Environment.overloads_assign] at listed
    exact tame.stored id overload listed
  · intro id localScope asked bound
    rw [Environment.assign, holder, Bindings.contains,
      Environment.find?_bindLocal _ _ _ _ _ live] at bound
    by_cases here : scope = id ∧ name = asked
    · obtain ⟨rfl, rfl⟩ := here
      cases calls with
      | nil => exact (localScope (tame.atTop rfl)).elim
      | cons call rest => exact rule.2
    · rw [if_neg here] at bound
      exact tame.locals id localScope asked bound
  · intro call listed
    rw [Environment.depth_assign]
    exact tame.live call listed
  · intro call listed asked own
    rw [Environment.assign, holder]
    exact Environment.contains_bindLocal_of_contains live name value
      (tame.bound call listed asked own)

/-- A declaration outside of all calls. -/
theorem declare (tame : Tame settings program [] scope machine) (name : Name)
    {params : List (Param Name)} {body : Block Name} (declared : Declares program params body) :
    Tame settings program [] scope
      { machine with env := machine.env.register scope ⟨name, params, .user body scope⟩ } := by
  refine ⟨tame.wellFormed.declare name params body, ?_, ?_, nofun, nofun, tame.atTop, nofun⟩
  · intro id overload listed
    rw [Environment.overloads_register _ _ _ tame.wellFormed.live] at listed
    by_cases here : scope = id
    · rw [if_pos here, List.mem_append, List.mem_singleton] at listed
      rcases listed with earlier | rfl
      · exact tame.stored id overload earlier
      · refine ⟨here.symm.trans (tame.atTop rfl), ?_⟩
        rintro _ _ ⟨⟩
        exact declared
    · rw [if_neg here] at listed
      exact tame.stored id overload listed
  · intro id localScope asked bound
    rw [Environment.bindings_register] at bound
    exact tame.locals id localScope asked bound

/-- A function of the program is entered with an argument for each parameter. -/
theorem entered (tame : Tame settings program calls scope machine) {callee : Overload}
    {body : Block Name} {args : List Value} (declared : Declares program callee.params body)
    (lengths : callee.params.length = args.length)
    (admitted : settings.refusal ⟨callee.name, args.length⟩ machine.calls machine.env.depth =
      none) :
    Tame settings program (⟨machine.env.fresh, callee.params⟩ :: calls) machine.env.fresh
      (machine.entered settings callee .global scope args) := by
  have globalLive : ScopeId.global.index < machine.env.depth := tame.wellFormed.fresh_positive
  have scopes : ∀ {id : ScopeId}, id.index < machine.env.depth →
      (machine.entered settings callee .global scope args).env.scope id = machine.env.scope id :=
    fun old => Machine.scope_entered_of_live settings callee .global scope args machine old
  have freshLive : machine.env.fresh.index <
      (machine.env.extended (settings.parentOf .global scope)).depth := by
    rw [Environment.depth_extended]
    exact Nat.lt_succ_self _
  refine ⟨tame.wellFormed.entered globalLive admitted, ?_, ?_, ?_, ?_, nofun, ?_⟩
  · intro id overload listed
    rw [Machine.entered, Environment.overloads_bindParams, Environment.scope_extended] at listed
    by_cases new : id = machine.env.fresh
    · rw [if_pos new] at listed
      cases listed
    · rw [if_neg new] at listed
      exact tame.stored id overload listed
  · intro id localScope name bound
    by_cases new : id = machine.env.fresh
    · subst new
      rcases Environment.contains_of_bindParams freshLive bound with earlier | own
      · rw [Environment.scope_extended, if_pos rfl] at earlier
        cases earlier
      · exact ⟨callee.params, body, declared, own⟩
    · rw [Machine.entered, Environment.scope_bindParams_of_ne _ (Ne.symm new),
        Environment.scope_extended, if_neg new] at bound
      exact tame.locals id localScope name bound
  · intro call listed
    rw [Machine.depth_entered]
    rcases List.mem_cons.mp listed with rfl | earlier
    · exact Nat.lt_succ_self _
    · exact Nat.lt_succ_of_lt (tame.live call earlier)
  · intro call listed name own
    rcases List.mem_cons.mp listed with rfl | earlier
    · obtain ⟨param, among, rfl⟩ := own
      refine Environment.contains_bindParams freshLive ?_
      rwa [← lengths, List.take_length]
    · rw [scopes (tame.live call earlier)]
      exact tame.bound call earlier name own
  · rintro call rest ⟨⟩
    rfl

theorem leave (tame : Tame settings program calls scope machine) {call : ActiveCall}
    {inside : Machine} (within : Tame settings program (call :: calls) machine.env.fresh inside) :
    Tame settings program calls scope (inside.leave machine.env.fresh) := by
  have depth := tame.wellFormed.depth_leave within.wellFormed
  have scopes := tame.wellFormed.scope_leave within.wellFormed
  refine ⟨within.wellFormed.leave tame.wellFormed.innermost.symm, ?_, ?_, ?_, ?_, tame.atTop,
    tame.inCall⟩
  · intro id overload listed
    rw [scopes] at listed
    split at listed
    · exact within.stored id overload listed
    · cases listed
  · intro id localScope name bound
    rw [scopes] at bound
    split at bound
    · exact within.locals id localScope name bound
    · cases bound
  · intro other listed
    rw [depth]
    exact tame.live other listed
  · intro other listed name own
    rw [scopes, if_pos (tame.live other listed)]
    exact within.bound other (List.mem_cons_of_mem _ listed) name own

end Tame

/-! ### Two machines -/

/-- The machines of two runs of a well-behaved program: they differ in the links of their scopes
only. -/
structure Parallel (left right : Settings) (program : Block Name) (calls : List ActiveCall)
    (scope : ScopeId) (m n : Machine) : Prop where
  tame : Tame left program calls scope m
  tame' : Tame right program calls scope n
  store : m.store = n.store
  calls : m.calls = n.calls
  tables : m.env.tables = n.env.tables

namespace Parallel

variable {left right : Settings} {program : Block Name} {calls : List ActiveCall}
  {scope : ScopeId} {m n : Machine}

theorem find?_eq (parallel : Parallel left right program calls scope m n) (id : ScopeId)
    (name : Name) :
    (m.env.scope id).bindings.find? name = (n.env.scope id).bindings.find? name := by
  rw [Environment.bindings_of_tables parallel.tables]

theorem lookup_eq (parallel : Parallel left right program calls scope m n) {name : Name}
    (rule : ScopingRule program calls (.read name)) :
    m.env.lookup scope name = n.env.lookup scope name := by
  cases calls with
  | nil =>
    rw [parallel.tame.lookup_at_top, parallel.tame'.lookup_at_top, parallel.find?_eq]
  | cons call rest =>
    rcases rule with own | foreign
    · rw [parallel.tame.lookup_in_call.1 own, parallel.tame'.lookup_in_call.1 own,
        parallel.find?_eq]
    · rw [parallel.tame.lookup_in_call.2 foreign, parallel.tame'.lookup_in_call.2 foreign,
        parallel.find?_eq]

theorem candidates_eq (parallel : Parallel left right program calls scope m n) (name : Name) :
    m.env.candidates scope name = n.env.candidates scope name := by
  rw [parallel.tame.candidates_eq, parallel.tame'.candidates_eq, Scope.overloadsOf,
    Scope.overloadsOf, Environment.overloads_of_tables parallel.tables]

theorem native (parallel : Parallel left right program calls scope m n) (store : Store) :
    Parallel left right program calls scope { m with store } { n with store } :=
  { parallel with
    tame := parallel.tame.native store
    tame' := parallel.tame'.native store
    store := rfl }

theorem assign (parallel : Parallel left right program calls scope m n) {name : Name}
    (value : Value) (rule : ScopingRule program calls (.assign name)) :
    Parallel left right program calls scope { m with env := m.env.assign scope name value }
      { n with env := n.env.assign scope name value } where
  tame := parallel.tame.assign value rule
  tame' := parallel.tame'.assign value rule
  store := parallel.store
  calls := parallel.calls
  tables := by
    rw [Environment.assign, Environment.assign, parallel.tame.holder_eq rule,
      parallel.tame'.holder_eq rule, Environment.tables_bindLocal, Environment.tables_bindLocal,
      parallel.tables]

theorem declare (parallel : Parallel left right program [] scope m n) (name : Name)
    {params : List (Param Name)} {body : Block Name} (declared : Declares program params body) :
    Parallel left right program [] scope
      { m with env := m.env.register scope ⟨name, params, .user body scope⟩ }
      { n with env := n.env.register scope ⟨name, params, .user body scope⟩ } where
  tame := parallel.tame.declare name declared
  tame' := parallel.tame'.declare name declared
  store := parallel.store
  calls := parallel.calls
  tables := by rw [Environment.tables_register, Environment.tables_register, parallel.tables]

theorem fresh_eq (parallel : Parallel left right program calls scope m n) :
    n.env.fresh = m.env.fresh := by
  rw [Environment.fresh, Environment.fresh, Environment.depth_of_tables parallel.tables]

theorem entered (parallel : Parallel left right program calls scope m n)
    (alike : left.Alike right) {callee : Overload} {body : Block Name} {args : List Value}
    (declared : Declares program callee.params body)
    (lengths : callee.params.length = args.length)
    (admitted : left.refusal ⟨callee.name, args.length⟩ m.calls m.env.depth = none) :
    Parallel left right program (⟨m.env.fresh, callee.params⟩ :: calls) m.env.fresh
      (m.entered left callee .global scope args) (n.entered right callee .global scope args) where
  tame := parallel.tame.entered declared lengths admitted
  tame' := by
    rw [← parallel.fresh_eq]
    refine parallel.tame'.entered declared lengths ?_
    unfold Settings.refusal at admitted ⊢
    rwa [← parallel.calls, ← Environment.depth_of_tables parallel.tables, ← alike.names,
      ← alike.limit]
  store := parallel.store
  calls := by rw [Machine.entered, Machine.entered, parallel.calls]
  tables := by
    rw [Machine.entered, Machine.entered, parallel.fresh_eq]
    refine Environment.tables_bindParams_congr ?_ _ _ _
    rw [Environment.tables_extended, Environment.tables_extended, parallel.tables]

theorem leave (parallel : Parallel left right program calls scope m n) {call : ActiveCall}
    {inside inside' : Machine}
    (within : Parallel left right program (call :: calls) m.env.fresh inside inside') :
    Parallel left right program calls scope (inside.leave m.env.fresh)
      (inside'.leave m.env.fresh) where
  tame := parallel.tame.leave within.tame
  tame' := by
    have within' := within.tame'
    rw [← parallel.fresh_eq] at within' ⊢
    exact parallel.tame'.leave within'
  store := within.store
  calls := congrArg CallStack.pop within.calls
  tables := Environment.tables_popScope_congr within.tables m.env.fresh

/-- Outside of all calls, there is the global scope only, and the machines are the same. -/
theorem eq_at_top (parallel : Parallel left right program [] scope m n) : m = n := by
  have links : m.env.links = n.env.links := by
    refine Environment.links_ext (Environment.depth_of_tables parallel.tables) fun id => ?_
    rw [parallel.tame.enclosing_at_top, parallel.tame'.enclosing_at_top]
  have envs : m.env = n.env := Environment.eq_of_tables parallel.tables links
  obtain ⟨store, env, calls⟩ := m
  obtain ⟨store', env', calls'⟩ := n
  cases parallel.store
  cases parallel.calls
  cases envs
  rfl

end Parallel

/-- The two runs as a simulation. -/
def scopingAgreement {left right : Settings} (alike : left.Alike right) {program : Block Name}
    (wellBehaved : WellBehaved program) : Simulation left right where
  World := List ActiveCall
  related := Parallel left right program
  allowed := ScopingRule program
  enterable _ _ callee body home args := home = .global ∧ Declares program callee.params body ∧
    callee.params.length = args.length
  alike := alike
  store_eq := Parallel.store
  calls_eq := Parallel.calls
  depth_eq parallel := Environment.depth_of_tables parallel.tables
  lookup_eq parallel rule := parallel.lookup_eq rule
  candidates_eq parallel _ := parallel.candidates_eq _
  native store parallel := parallel.native store
  assign value parallel rule := parallel.assign value rule
  declare := by
    intro calls s m n name params body parallel rule
    cases calls with
    | nil => exact parallel.declare name rule
    | cons call rest => exact rule.elim
  select := by
    intro calls s m n name callee body home args parallel _ listed accepted user
    obtain ⟨id, -, stored⟩ := Environment.exists_scope_of_mem_candidates listed
    obtain ⟨rfl, declared⟩ := parallel.tame.stored id callee stored
    exact ⟨parallel.tame.wellFormed.atHome .global callee stored body home user,
      declared body home user, length_eq_of_acceptsAll accepted⟩
  enter := by
    rintro calls s m n callee body home args parallel ⟨rfl, declared, lengths⟩ admitted
    exact ⟨_, wellBehaved.rule declared m.env.fresh calls,
      parallel.entered alike declared lengths admitted, fun _ _ within => parallel.leave within⟩

/-! ### Fresh interpreters -/

/-- An interpreter on which nothing has run: it was built, natives may have been registered, and
programs may have been loaded. -/
inductive Interpreter.Fresh : Interpreter → Prop
  | built {options : Options} {interpreter : Interpreter}
      (built : Interpreter.build options = .ok interpreter) : Fresh interpreter
  | native {interpreter after : Interpreter} {spelling : String} {params : List (Param String)}
      {native : Native} (fresh : Fresh interpreter)
      (registered : interpreter.registerNative spelling params native = .ok after) : Fresh after
  | loaded {interpreter after : Interpreter} {source : Block String} {program : Block Name}
      (fresh : Fresh interpreter)
      (loaded : interpreter.load source = .ok (program, after)) : Fresh after

/-- The same interpreter under another scoping. -/
def Interpreter.withScoping (interpreter : Interpreter) (scoping : Scoping) : Interpreter :=
  { interpreter with scoping }

namespace Interpreter.Fresh

variable {interpreter : Interpreter}

theorem wellFormed (fresh : interpreter.Fresh) :
    interpreter.machine.WellFormed interpreter.settings .global := by
  induction fresh with
  | built built => exact Interpreter.wellFormed_of_build built
  | @native interpreter after spelling params native fresh registered ih =>
    obtain ⟨names, name, numbered, -, -, -, rfl⟩ := Interpreter.registerNative_eq registered
    have own : ∀ body home, OverloadBody.native native = .user body home → home = .global := by
      rintro _ _ ⟨⟩
    exact (ih.register own).of_limit rfl
  | loaded fresh loaded ih =>
    obtain ⟨names, -, rfl⟩ := Interpreter.load_eq loaded
    exact ih.of_limit rfl

/-- All overloads of a fresh interpreter are natives. -/
theorem natives (fresh : interpreter.Fresh) {id : ScopeId} {overload : Overload}
    (listed : overload ∈ (interpreter.machine.env.scope id).overloads) :
    ∃ run, overload.body = .native run := by
  induction fresh with
  | built built =>
    obtain ⟨name, entry, -, rfl⟩ := Interpreter.overloads_of_build built listed
    exact ⟨entry.run, rfl⟩
  | native fresh registered ih =>
    obtain ⟨names, name, numbered, -, -, -, rfl⟩ := Interpreter.registerNative_eq registered
    rcases Environment.mem_overloads_register listed with earlier | rfl
    · exact ih earlier
    · exact ⟨_, rfl⟩
  | loaded fresh loaded ih =>
    obtain ⟨names, -, rfl⟩ := Interpreter.load_eq loaded
    exact ih listed

/-- A fresh interpreter is ready for every program, under any scoping. -/
theorem tame (fresh : interpreter.Fresh) (scoping : Scoping) (program : Block Name) :
    Tame (interpreter.withScoping scoping).settings program [] .global interpreter.machine := by
  have wellFormed := fresh.wellFormed
  refine ⟨wellFormed.of_limit rfl, ?_, ?_, nofun, nofun, fun _ => rfl, nofun⟩
  · intro id overload listed
    constructor
    · by_contra localScope
      rw [wellFormed.scope_eq_empty localScope] at listed
      cases listed
    · intro body home user
      obtain ⟨run, native⟩ := fresh.natives listed
      rw [native] at user
      cases user
  · intro id localScope name bound
    rw [wellFormed.scope_eq_empty localScope] at bound
    cases bound

end Interpreter.Fresh

/-- A well-behaved program that runs on a fresh interpreter has the same outcome under dynamic and
under lexical scoping, and leaves the same machine: the same heap, the same printed lines and the
same global variables. -/
theorem scoping_policies_agree (interpreter : Interpreter) (fresh : interpreter.Fresh)
    (program : Block Name) (wellBehaved : WellBehaved program) (fuel : Nat) :
    ((interpreter.withScoping .dynamic).run fuel program).map
        (fun result => (result.1, result.2.machine)) =
      ((interpreter.withScoping .lexical).run fuel program).map
        (fun result => (result.1, result.2.machine)) := by
  rw [Interpreter.run_eq, Interpreter.run_eq]
  let left := (interpreter.withScoping .dynamic).settings
  let right := (interpreter.withScoping .lexical).settings
  have alike : left.Alike right := ⟨rfl, rfl⟩
  have start : Parallel left right program [] .global interpreter.machine interpreter.machine :=
    ⟨fresh.tame .dynamic program, fresh.tame .lexical program, rfl, rfl, rfl⟩
  have ends := (scopingAgreement alike wellBehaved).run_agrees fuel [] (.stmts .global .void program)
    (rule_at_top program) interpreter.machine interpreter.machine start
  exact (ends.mono fun m n parallel => Parallel.eq_at_top parallel).eq

/-- A program that sets a variable and declares two functions.  The first one assigns to its
parameter and calls the second one, which reads the variable. -/
def layeredProgram : Block Name :=
  [.assign ⟨17⟩ (.int 5),
    .function ⟨18⟩ [⟨⟨19⟩, .any⟩] [.assign ⟨19⟩ (.int 3), .expr (.call ⟨20⟩ [.ident ⟨19⟩])],
    .function ⟨20⟩ [⟨⟨21⟩, .any⟩] [.expr (.ident ⟨17⟩)],
    .expr (.call ⟨18⟩ [.int 1])]

theorem declares_layeredProgram {params : List (Param Name)} {body : Block Name}
    (declared : Declares layeredProgram params body) :
    (params = [⟨⟨19⟩, .any⟩] ∧
      body = [.assign ⟨19⟩ (.int 3), .expr (.call ⟨20⟩ [.ident ⟨19⟩])]) ∨
    (params = [⟨⟨21⟩, .any⟩] ∧ body = [.expr (.ident ⟨17⟩)]) := by
  obtain ⟨name, listed⟩ := declared
  simp only [layeredProgram, Block.actions, Stmt.actions, Expr.actions, Expr.actionsAll,
    List.nil_append, List.append_nil, List.cons_append, List.mem_cons, List.not_mem_nil, or_false,
    reduceCtorEq, false_or, Action.declare.injEq] at listed
  exact listed.imp And.right And.right

theorem layeredProgram_wellBehaved : WellBehaved layeredProgram := by
  constructor
  · intro params body declared name inner block listed
    obtain ⟨rfl, rfl⟩ | ⟨rfl, rfl⟩ := declares_layeredProgram declared <;>
      simp [Block.actions, Stmt.actions, Expr.actions, Expr.actionsAll] at listed
  · intro params body declared name listed
    obtain ⟨rfl, rfl⟩ | ⟨rfl, rfl⟩ := declares_layeredProgram declared
    · simp [Block.actions, Stmt.actions, Expr.actions, Expr.actionsAll] at listed
      exact ⟨_, List.mem_cons_self, listed.symm⟩
    · simp [Block.actions, Stmt.actions, Expr.actions] at listed
  · intro params body declared name listed
    obtain ⟨rfl, rfl⟩ | ⟨rfl, rfl⟩ := declares_layeredProgram declared
    · simp [Block.actions, Stmt.actions, Expr.actions, Expr.actionsAll] at listed
      exact .inl ⟨_, List.mem_cons_self, listed.symm⟩
    · refine .inr ?_
      simp [Block.actions, Stmt.actions, Expr.actions] at listed
      rintro ⟨params', body', declared', param, among, named⟩
      obtain ⟨rfl, rfl⟩ | ⟨rfl, rfl⟩ := declares_layeredProgram declared' <;>
        simp_all

/-- An interpreter without a prelude. -/
def bareInterpreter : Interpreter where
  names := .initial
  mode := .test
  scoping := .dynamic
  machine := ⟨{ printer := .emptyBuffer }, .initial, .empty⟩

theorem bareInterpreter_fresh : bareInterpreter.Fresh := by
  have built : Interpreter.build { mode := .test, prelude := false } = .ok bareInterpreter := rfl
  exact .built built

/-- The value of the program is the variable, under dynamic and under lexical scoping, and the
machine is the same at the end. -/
theorem scoping_policies_agree_layered :
    ∃ after after' : Interpreter,
      (bareInterpreter.withScoping .dynamic).run 32 layeredProgram = some (.ok (.int 5), after) ∧
      (bareInterpreter.withScoping .lexical).run 32 layeredProgram = some (.ok (.int 5), after') ∧
      after.machine = after'.machine := by
  obtain ⟨after, ended⟩ : ∃ after, (bareInterpreter.withScoping .dynamic).run 32 layeredProgram =
      some (.ok (.int 5), after) := ⟨_, rfl⟩
  have agree := scoping_policies_agree bareInterpreter bareInterpreter_fresh layeredProgram
    layeredProgram_wellBehaved 32
  rw [ended, Option.map_some] at agree
  obtain ⟨⟨outcome, after'⟩, ended', same⟩ := Option.map_eq_some_iff.mp agree.symm
  obtain ⟨rfl, machines⟩ := Prod.mk.inj same
  exact ⟨after, after', ended, ended', machines.symm⟩

end Multidispatch
