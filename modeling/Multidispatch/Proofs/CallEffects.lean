import Multidispatch.Proofs.ScopeDiscipline

/-!
# What a call can change

A call of a user function runs in a scope of its own, and so does every call that it makes.  New
variables are bound there, and functions are declared there.  In the scopes that were there before,
a call can only give a new value to a variable that is already bound, and only by an assignment in
the body of a function that has no parameter of that name: a parameter is bound in the scope of the
call and shadows the variable.

## Main definitions

* `Known` — the functions that a call can come to run
* `Exposed` — a name that a known function assigns to and does not bind
* `TablesKept` — the scopes of an environment as they were, up to the values of exposed names
* `Contained` — a machine on which the calls under way have kept to these rules
* `callEffects` — these rules as an invariant of evaluation

## Main statements

* `TablesKept.assign` — an assignment in a new scope keeps to the rules
* `call_keeps_outer_tables` — a call keeps the tables of all scopes, up to the values of exposed
  names
-/

namespace Multidispatch

/-- The functions that a call can come to run, as parameters and body: the function that is called,
the functions stored in the environment, and those that are declared in the body of a known one. -/
inductive Known (env : Environment) (params : List (Param Name)) (body : Block Name) :
    List (Param Name) → Block Name → Prop
  | called : Known env params body params body
  | stored {id : ScopeId} {overload : Overload} {block : Block Name} {home : ScopeId}
      (listed : overload ∈ (env.scope id).overloads) (user : overload.body = .user block home) :
      Known env params body overload.params block
  | nested {outer inner : List (Param Name)} {block block' : Block Name} {name : Name}
      (known : Known env params body outer block)
      (declared : .declare name inner block' ∈ Block.actions block) :
      Known env params body inner block'

/-- A name is assigned to in the body of a known function that has no parameter of that name. -/
def Exposed (known : List (Param Name) → Block Name → Prop) (name : Name) : Prop :=
  ∃ params body, known params body ∧ .assign name ∈ Block.actions body ∧
    ∀ param ∈ params, param.name ≠ name

/-! ### The tables of the scopes that were there before -/

/-- The scopes of `base` bind the same variables, hold the same overloads and lie in the same scopes
as in `base`, and only exposed names have other values. -/
structure TablesKept (base : Environment) (exposed : Name → Prop) (env : Environment) : Prop where
  names : ∀ id : ScopeId, id.index < base.depth → ∀ name,
    (env.scope id).bindings.contains name = (base.scope id).bindings.contains name
  overloads : ∀ id : ScopeId, id.index < base.depth →
    (env.scope id).overloads = (base.scope id).overloads
  enclosing : ∀ id : ScopeId, id.index < base.depth →
    (env.scope id).enclosing = (base.scope id).enclosing
  values : ∀ id : ScopeId, id.index < base.depth → ∀ name, ¬ exposed name →
    (env.scope id).bindings.find? name = (base.scope id).bindings.find? name

namespace TablesKept

variable {base env : Environment} {exposed : Name → Prop}

theorem refl (env : Environment) (exposed : Name → Prop) : TablesKept env exposed env :=
  ⟨fun _ _ _ => rfl, fun _ _ => rfl, fun _ _ => rfl, fun _ _ _ _ => rfl⟩

/-- Only the scopes of the base matter. -/
theorem congr {env' : Environment} (kept : TablesKept base exposed env)
    (same : ∀ id : ScopeId, id.index < base.depth → env'.scope id = env.scope id) :
    TablesKept base exposed env' where
  names id old name := by rw [same id old, kept.names id old]
  overloads id old := by rw [same id old, kept.overloads id old]
  enclosing id old := by rw [same id old, kept.enclosing id old]
  values id old name unexposed := by rw [same id old, kept.values id old name unexposed]

/-- A scope of the base may get a new value for an exposed name that it binds. -/
theorem bindLocal (kept : TablesKept base exposed env) {id : ScopeId} (live : id.index < env.depth)
    {name : Name} (value : Value)
    (rule : id.index < base.depth →
      (env.scope id).bindings.contains name = true ∧ exposed name) :
    TablesKept base exposed (env.bindLocal id name value) where
  names other old asked := by
    rw [← kept.names other old asked, Bindings.contains,
      Environment.find?_bindLocal env other name asked value live]
    split
    · rename_i here
      obtain ⟨rfl, rfl⟩ := here
      exact (rule old).1.symm
    · rfl
  overloads other old := by rw [Environment.overloads_bindLocal, kept.overloads other old]
  enclosing other old := by rw [Environment.enclosing_bindLocal, kept.enclosing other old]
  values other old asked unexposed := by
    rw [Environment.find?_bindLocal env other name asked value live, if_neg,
      kept.values other old asked unexposed]
    rintro ⟨rfl, rfl⟩
    exact unexposed (rule old).2

/-- An assignment in a new scope: a name that is bound there stays there, and any other name has to
be exposed. -/
theorem assign (kept : TablesKept base exposed env) {scope : ScopeId} (nested : env.Nested)
    (live : scope.index < env.depth) (new : base.depth ≤ scope.index) {name : Name} (value : Value)
    (rule : (env.scope scope).bindings.contains name = true ∨ exposed name) :
    TablesKept base exposed (env.assign scope name value) := by
  have onChain := env.holder_mem_chain scope name
  -- The assignment reaches a scope of the base only if the new scope does not bind the name.
  refine kept.bindLocal (nested.live_of_mem_chain live onChain) value fun old => ?_
  have elsewhere : env.holder scope name ≠ scope := by
    intro here
    rw [here] at old
    omega
  refine ⟨(env.holder_binds_or_eq scope name).resolve_right elsewhere, ?_⟩
  exact rule.resolve_left fun bound => elsewhere (Environment.holder_of_contains bound)

/-- A declaration in a new scope. -/
theorem register (kept : TablesKept base exposed env) {scope : ScopeId}
    (new : base.depth ≤ scope.index) (overload : Overload) :
    TablesKept base exposed (env.register scope overload) := by
  refine kept.congr fun id old => Environment.scope_register_of_ne env ?_ overload
  rintro rfl
  omega

end TablesKept

/-! ### The calls under way -/

/-- A call under way: its scope and the parameters that are bound there. -/
structure ActiveCall where
  scope : ScopeId
  params : List (Param Name)

/-- A machine on which the calls under way, the innermost first, have kept to the rules: known
functions are stored, the parameters of each call are bound in its scope, and the scopes of `base`
are as they were, up to the values of exposed names. -/
structure Contained (settings : Settings) (base : Environment)
    (known : List (Param Name) → Block Name → Prop) (calls : List ActiveCall) (scope : ScopeId)
    (machine : Machine) : Prop where
  wellFormed : machine.WellFormed settings scope
  deeper : base.depth ≤ machine.env.depth
  kept : TablesKept base (Exposed known) machine.env
  stored : ∀ id overload, overload ∈ (machine.env.scope id).overloads →
    ∀ body home, overload.body = .user body home → known overload.params body
  live : ∀ call ∈ calls, call.scope.index < machine.env.depth
  bound : ∀ call ∈ calls, ∀ param ∈ call.params,
    (machine.env.scope call.scope).bindings.contains param.name = true
  site : ∀ call rest, calls = call :: rest → call.scope = scope ∧ base.depth ≤ scope.index

namespace Contained

variable {settings : Settings} {base : Environment}
  {known : List (Param Name) → Block Name → Prop} {calls : List ActiveCall} {scope : ScopeId}
  {machine : Machine}

theorem native (contained : Contained settings base known calls scope machine) (store : Store) :
    Contained settings base known calls scope { machine with store } :=
  { contained with wellFormed := contained.wellFormed.native store }

/-- An assignment inside a call, to one of its parameters or to an exposed name. -/
theorem assign {call : ActiveCall} {rest : List ActiveCall}
    (contained : Contained settings base known (call :: rest) scope machine) {name : Name}
    (value : Value) (rule : (∃ param ∈ call.params, param.name = name) ∨ Exposed known name) :
    Contained settings base known (call :: rest) scope
      { machine with env := machine.env.assign scope name value } := by
  obtain ⟨here, new⟩ := contained.site call rest rfl
  have live := contained.wellFormed.live
  have holder : (machine.env.holder scope name).index < machine.env.depth :=
    contained.wellFormed.nested.live_of_mem_chain live (machine.env.holder_mem_chain scope name)
  refine ⟨contained.wellFormed.assign name value, ?_, ?_, ?_, ?_, ?_, contained.site⟩
  · rw [Environment.depth_assign]
    exact contained.deeper
  · refine contained.kept.assign contained.wellFormed.nested live new value (rule.imp_left ?_)
    rintro ⟨param, listed, rfl⟩
    rw [← here]
    exact contained.bound call List.mem_cons_self param listed
  · intro id overload listed
    rw [Environment.overloads_assign] at listed
    exact contained.stored id overload listed
  · intro other listed
    rw [Environment.depth_assign]
    exact contained.live other listed
  · intro other listed param own
    exact Environment.contains_bindLocal_of_contains holder name value
      (contained.bound other listed param own)

/-- A declaration inside a call. -/
theorem declare {call : ActiveCall} {rest : List ActiveCall}
    (contained : Contained settings base known (call :: rest) scope machine) (name : Name)
    {params : List (Param Name)} {body : Block Name} (rule : known params body) :
    Contained settings base known (call :: rest) scope
      { machine with env := machine.env.register scope ⟨name, params, .user body scope⟩ } := by
  obtain ⟨-, new⟩ := contained.site call rest rfl
  refine ⟨contained.wellFormed.declare name params body, ?_, contained.kept.register new _, ?_, ?_,
    ?_, contained.site⟩
  · rw [Environment.depth_register]
    exact contained.deeper
  · intro id overload listed
    rw [Environment.overloads_register _ _ _ contained.wellFormed.live] at listed
    by_cases same : scope = id
    · rw [if_pos same, List.mem_append, List.mem_singleton] at listed
      rcases listed with earlier | rfl
      · exact contained.stored id overload earlier
      · rintro _ _ ⟨⟩
        exact rule
    · rw [if_neg same] at listed
      exact contained.stored id overload listed
  · intro other listed
    rw [Environment.depth_register]
    exact contained.live other listed
  · intro other listed param own
    rw [Environment.bindings_register]
    exact contained.bound other listed param own

/-- The call that is entered binds the parameters for which there are arguments. -/
theorem entered (contained : Contained settings base known calls scope machine)
    {callee : Overload} {home : ScopeId} {args : List Value} (outward : home.index ≤ scope.index)
    (admitted : settings.refusal ⟨callee.name, args.length⟩ machine.calls machine.env.depth =
      none) :
    Contained settings base known
      (⟨machine.env.fresh, callee.params.take args.length⟩ :: calls) machine.env.fresh
      (machine.entered settings callee home scope args) := by
  have homeLive := Nat.lt_of_le_of_lt outward contained.wellFormed.live
  have scopes : ∀ {id : ScopeId}, id.index < machine.env.depth →
      (machine.entered settings callee home scope args).env.scope id = machine.env.scope id :=
    fun old => Machine.scope_entered_of_live settings callee home scope args machine old
  refine ⟨contained.wellFormed.entered homeLive admitted, ?_, ?_, ?_, ?_, ?_, ?_⟩
  · rw [Machine.depth_entered]
    exact Nat.le_succ_of_le contained.deeper
  · exact contained.kept.congr fun id old => scopes (Nat.lt_of_lt_of_le old contained.deeper)
  · intro id overload listed
    rw [Machine.entered, Environment.overloads_bindParams, Environment.scope_extended] at listed
    by_cases new : id = machine.env.fresh
    · rw [if_pos new] at listed
      cases listed
    · rw [if_neg new] at listed
      exact contained.stored id overload listed
  · intro call listed
    rw [Machine.depth_entered]
    rcases List.mem_cons.mp listed with rfl | earlier
    · exact Nat.lt_succ_self _
    · exact Nat.lt_succ_of_lt (contained.live call earlier)
  · intro call listed param own
    rcases List.mem_cons.mp listed with rfl | earlier
    · refine Environment.contains_bindParams ?_ own
      rw [Environment.depth_extended]
      exact Nat.lt_succ_self _
    · rw [scopes (contained.live call earlier)]
      exact contained.bound call earlier param own
  · rintro call rest ⟨⟩
    exact ⟨rfl, contained.deeper⟩

theorem leave (contained : Contained settings base known calls scope machine) {call : ActiveCall}
    {inside : Machine}
    (within : Contained settings base known (call :: calls) machine.env.fresh inside) :
    Contained settings base known calls scope (inside.leave machine.env.fresh) := by
  have depth := contained.wellFormed.depth_leave within.wellFormed
  have scopes := contained.wellFormed.scope_leave within.wellFormed
  refine ⟨within.wellFormed.leave contained.wellFormed.innermost.symm, ?_, ?_, ?_, ?_, ?_,
    contained.site⟩
  · rw [depth]
    exact contained.deeper
  · refine within.kept.congr fun id old => ?_
    rw [scopes, if_pos (Nat.lt_of_lt_of_le old contained.deeper)]
  · intro id overload listed
    rw [scopes] at listed
    split at listed
    · exact within.stored id overload listed
    · cases listed
  · intro other listed
    rw [depth]
    exact contained.live other listed
  · intro other listed param own
    rw [scopes, if_pos (contained.live other listed)]
    exact within.bound other (List.mem_cons_of_mem _ listed) param own

end Contained

/-! ### The rules as an invariant -/

/-- What a program may do: nothing at the caller, and inside a call only assign to a parameter of
the call or to an exposed name, and only declare known functions. -/
def CallRule (known : List (Param Name) → Block Name → Prop) : List ActiveCall → Action → Prop
  | [], _ => False
  | call :: _, .assign name => (∃ param ∈ call.params, param.name = name) ∨ Exposed known name
  | _ :: _, .declare _ params body => known params body
  | _ :: _, _ => True

/-- The body of a known function keeps to the rules when its parameters are bound. -/
theorem callRule_of_known {known : List (Param Name) → Block Name → Prop}
    (closed : ∀ params body name inner block, known params body →
      .declare name inner block ∈ Block.actions body → known inner block)
    {params : List (Param Name)} {body : Block Name} (own : known params body) (scope : ScopeId)
    (calls : List ActiveCall) :
    ∀ action ∈ Block.actions body, CallRule known (⟨scope, params⟩ :: calls) action := by
  intro action listed
  cases action with
  | assign name =>
    by_cases bound : ∃ param ∈ params, param.name = name
    · exact .inl bound
    · refine .inr ⟨params, body, own, listed, fun param own same => ?_⟩
      exact bound ⟨param, own, same⟩
  | declare name inner block => exact closed params body name inner block own listed
  | read name => exact trivial
  | call name => exact trivial

theorem length_eq_of_acceptsAll {params : List (Param Name)} {args : List Value}
    (accepted : acceptsAll params args = true) : params.length = args.length := by
  fun_induction acceptsAll params args with
  | case1 => rfl
  | case2 param params arg args ih =>
    rw [Bool.and_eq_true] at accepted
    rw [List.length_cons, List.length_cons, ih accepted.2]
  | case3 => cases accepted

/-- The rules for calls as an invariant of evaluation. -/
def callEffects (settings : Settings) (base : Environment)
    (known : List (Param Name) → Block Name → Prop)
    (closed : ∀ params body name inner block, known params body →
      .declare name inner block ∈ Block.actions body → known inner block) :
    Invariant settings where
  World := List ActiveCall
  holds := Contained settings base known
  allowed := CallRule known
  enterable _ s callee body home args :=
    home.index ≤ s.index ∧ known (callee.params.take args.length) body
  native store contained := contained.native store
  assign := by
    intro calls s m name value contained rule
    cases calls with
    | nil => cases rule
    | cons call rest => exact contained.assign value rule
  declare := by
    intro calls s m name params body contained rule
    cases calls with
    | nil => cases rule
    | cons call rest => exact contained.declare name rule
  select := by
    intro calls s m name callee body home args contained _ listed accepted user
    have onChain := contained.wellFormed.home_mem_chain listed user
    obtain ⟨id, -, stored⟩ := Environment.exists_scope_of_mem_candidates listed
    have lengths : callee.params.length = args.length := length_eq_of_acceptsAll accepted
    refine ⟨contained.wellFormed.nested.index_le_of_mem_chain contained.wellFormed.live onChain, ?_⟩
    rw [← lengths, List.take_length]
    exact contained.stored id callee stored body home user
  enter := by
    rintro calls s m callee body home args contained ⟨outward, own⟩ admitted
    exact ⟨_, callRule_of_known closed own m.env.fresh calls, contained.entered outward admitted,
      fun _ within => contained.leave within⟩

/-- Whatever a user function is called with, under either scoping, and whether the call ends with a
value or with a fault: every scope that was there before is there after the call, binds the same
variables, holds the same overloads in the same order and lies in the same scope.  If there is an
argument for each parameter, as the selection of the function ensures, a variable of such a scope
has another value only if a known function assigns to it that has no parameter of its name. -/
theorem call_keeps_outer_tables (settings : Settings) (fuel : Nat) (callee : Overload)
    (body : Block Name) (home caller : ScopeId) (args : List Value) (machine after : Machine)
    (outcome : Except Fault Value) (order : machine.WellFormed settings caller)
    (live : home.index < machine.env.depth)
    (ended : invoke settings fuel callee body home caller args machine = some (outcome, after)) :
    after.env.depth = machine.env.depth ∧
    ∀ id : ScopeId, id.index < machine.env.depth →
      (∀ name, (after.env.scope id).bindings.contains name =
        (machine.env.scope id).bindings.contains name) ∧
      (after.env.scope id).overloads = (machine.env.scope id).overloads ∧
      (after.env.scope id).parent? = (machine.env.scope id).parent? ∧
      (callee.params.length ≤ args.length → ∀ name,
        (after.env.scope id).bindings.find? name ≠ (machine.env.scope id).bindings.find? name →
          Exposed (Known machine.env callee.params body) name) := by
  -- A parameter without an argument is not bound, so the function counts with the others only.
  let known := Known machine.env (callee.params.take args.length) body
  let effects := callEffects settings machine.env known
    fun params block name inner block' outer declared => .nested outer declared
  have holds : effects.holds [] caller machine :=
    ⟨order, Nat.le_refl _, .refl _ _, fun id overload listed block home user => .stored listed user,
      nofun, nofun, nofun⟩
  have permits : effects.simulation.Permits [] (.invoke callee body home caller args) := by
    have innermost := order.innermost
    exact ⟨by omega, .called⟩
  obtain ⟨order', -, kept, -⟩ := Invariant.holds_run permits holds ended
  refine ⟨order'.innermost.symm.trans order.innermost, fun id old => ?_⟩
  refine ⟨kept.names id old, kept.overloads id old, ?_, fun enough name differs => ?_⟩
  · rw [Scope.parent?, Scope.parent?, kept.enclosing id old]
  · have all : callee.params.take args.length = callee.params := List.take_of_length_le enough
    by_contra unexposed
    refine differs (kept.values id old name ?_)
    change ¬ Exposed (Known machine.env (callee.params.take args.length) body) name
    rwa [all]

/-- A body that assigns to three variables. -/
def assigningBody : Block Name :=
  [.assign ⟨18⟩ (.int 5), .assign ⟨19⟩ (.int 6), .assign ⟨20⟩ (.int 7)]

/-- A function with that body, of which the first variable is a parameter. -/
def assigningFunction : Overload :=
  ⟨⟨17⟩, [⟨⟨18⟩, .any⟩], .user assigningBody .global⟩

/-- The machine on which that function is declared, and the first two variables are bound. -/
def assigningMachine : Machine where
  store := { printer := .silent }
  env := ((Environment.initial.register .global assigningFunction).assign .global ⟨18⟩
    (.int 1)).assign .global ⟨19⟩ (.int 1)
  calls := .empty

theorem assigningMachine_wellFormed : assigningMachine.WellFormed oneCallAtATime .global := by
  have declared := (wellFormed_initial oneCallAtATime { printer := .silent }).declare ⟨17⟩
    [⟨⟨18⟩, .any⟩] assigningBody
  exact (declared.assign ⟨18⟩ (.int 1)).assign ⟨19⟩ (.int 1)

/-- No other function is known on that machine. -/
theorem known_assigningMachine {params : List (Param Name)} {body : Block Name}
    (known : Known assigningMachine.env assigningFunction.params assigningBody params body) :
    params = assigningFunction.params ∧ body = assigningBody := by
  induction known with
  | called => exact ⟨rfl, rfl⟩
  | stored listed user =>
    rw [assigningMachine, Environment.overloads_assign, Environment.overloads_assign,
      Environment.overloads_register _ _ _ (by decide), Environment.overloads_initial] at listed
    split at listed
    · obtain rfl := List.mem_singleton.mp listed
      cases user
      exact ⟨rfl, rfl⟩
    · cases listed
  | nested _ declared ih =>
    obtain ⟨-, rfl⟩ := ih
    simp [assigningBody, Block.actions, Stmt.actions, Expr.actions] at declared

/-- The call sets the second variable.  The first one keeps its value, since the only known function
has a parameter of its name, and the third one is gone with the call. -/
theorem call_keeps_outer_tables_shadowed :
    ∃ after, invoke oneCallAtATime 10 assigningFunction assigningBody .global .global [.int 2]
        assigningMachine = some (.ok .void, after) ∧
      (after.env.scope .global).bindings.find? ⟨18⟩ = some (.int 1) ∧
      (after.env.scope .global).bindings.find? ⟨19⟩ = some (.int 6) ∧
      (after.env.scope .global).bindings.contains ⟨20⟩ = false := by
  obtain ⟨after, ended, written⟩ : ∃ after,
      invoke oneCallAtATime 10 assigningFunction assigningBody .global .global [.int 2]
        assigningMachine = some (.ok .void, after) ∧
      (after.env.scope .global).bindings.find? ⟨19⟩ = some (.int 6) := ⟨_, rfl, rfl⟩
  obtain ⟨-, kept⟩ := call_keeps_outer_tables _ _ _ _ _ _ _ _ _ _ assigningMachine_wellFormed
    (by decide) ended
  obtain ⟨names, -, -, values⟩ := kept .global (by decide)
  refine ⟨after, ended, ?_, written, names ⟨20⟩⟩
  by_contra differs
  obtain ⟨params, body, known, -, unbound⟩ := values (by decide) ⟨18⟩ differs
  obtain ⟨rfl, -⟩ := known_assigningMachine known
  exact unbound _ List.mem_cons_self rfl

end Multidispatch
