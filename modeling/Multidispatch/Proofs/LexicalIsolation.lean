import Multidispatch.Proofs.ScopeDiscipline

/-!
# Isolation of calls under lexical scoping

Under lexical scoping, a call sees the scopes around the declaration of the function and nothing
else.  Two machines may differ in all other scopes, for instance in the variables of the caller: the
call ends alike on both of them, does the same to the scopes that it sees, and leaves the others as
they were.

The scopes that a call sees grow with each nested call by the scope of that call.  Functions found
there were declared in a scope that is seen, so what a nested call sees is seen by the call.

## Main definitions

* `Scope.SameTables` — two scopes bind the same variables and hold the same overloads
* `View` — the scopes that a call sees
* `Confined` — a machine on which only scopes in view have changed
* `Indistinguishable` — two machines that agree on the scopes in view
* `lexicalIsolation` — this agreement as a simulation

## Main statements

* `lexical_call_is_isolated` — a call depends on the scopes that it sees, and changes no others
-/

namespace Multidispatch

/-- Two scopes bind the same variables to the same values and hold the same overloads, for each name
in the same order. -/
structure Scope.SameTables (a b : Scope) : Prop where
  bindings : ∀ name, a.bindings.find? name = b.bindings.find? name
  overloads : ∀ name, a.overloadsOf name = b.overloadsOf name

theorem Scope.SameTables.of_eq {a b : Scope} (same : a = b) : a.SameTables b := by
  subst same
  exact ⟨fun _ => rfl, fun _ => rfl⟩

/-- What a call sees. -/
structure View where
  /-- The scopes in view. -/
  scopes : List ScopeId
  /-- Whether evaluation goes on inside the call, and not at the caller. -/
  inside : Prop

/-- The view of a call that is entered: its own scope comes into view. -/
def View.enter (view : View) (scope : ScopeId) : View where
  scopes := scope :: view.scopes
  inside := True

/-! ### One machine -/

/-- A machine on which all scopes out of view are as in `base`, and on which no chain leads out of
view. -/
structure Confined (settings : Settings) (base : Environment) (view : View) (scope : ScopeId)
    (machine : Machine) : Prop where
  wellFormed : machine.WellFormed settings scope
  live : ∀ id ∈ view.scopes, id.index < machine.env.depth
  closed : ∀ id ∈ view.scopes, machine.env.chain id ⊆ view.scopes
  hidden : ∀ id, id ∉ view.scopes → machine.env.scope id = base.scope id
  site : view.inside → scope ∈ view.scopes

namespace Confined

variable {settings : Settings} {base : Environment} {view : View} {scope : ScopeId}
  {machine : Machine}

theorem native (confined : Confined settings base view scope machine) (store : Store) :
    Confined settings base view scope { machine with store } :=
  { confined with wellFormed := confined.wellFormed.native store }

/-- A change of a scope in view that leaves the links alone. -/
theorem modify (confined : Confined settings base view scope machine) {env : Environment}
    (wellFormed : ({ machine with env } : Machine).WellFormed settings scope)
    (links : env.links = machine.env.links)
    (others : ∀ id, id ∉ view.scopes → env.scope id = machine.env.scope id) :
    Confined settings base view scope { machine with env } where
  wellFormed := wellFormed
  live id inView := by
    rw [Environment.depth_of_links links]
    exact confined.live id inView
  closed id inView := by
    rw [Environment.chain_of_links links]
    exact confined.closed id inView
  hidden id outOfView := (others id outOfView).trans (confined.hidden id outOfView)
  site := confined.site

theorem holder_mem (confined : Confined settings base view scope machine) (inside : view.inside)
    (name : Name) : machine.env.holder scope name ∈ view.scopes :=
  confined.closed scope (confined.site inside) (machine.env.holder_mem_chain scope name)

theorem assign (confined : Confined settings base view scope machine) (inside : view.inside)
    (name : Name) (value : Value) :
    Confined settings base view scope
      { machine with env := machine.env.assign scope name value } := by
  refine confined.modify (confined.wellFormed.assign name value)
    (Environment.links_assign _ _ _ _) fun id outOfView => ?_
  have other : machine.env.holder scope name ≠ id := by
    rintro rfl
    exact outOfView (confined.holder_mem inside name)
  exact Environment.scope_bindLocal_of_ne _ other name value

theorem declare (confined : Confined settings base view scope machine) (inside : view.inside)
    (name : Name) (params : List (Param Name)) (body : Block Name) :
    Confined settings base view scope
      { machine with env := machine.env.register scope ⟨name, params, .user body scope⟩ } := by
  refine confined.modify (confined.wellFormed.declare name params body)
    (Environment.links_register _ _ _) fun id outOfView => ?_
  have other : scope ≠ id := by
    rintro rfl
    exact outOfView (confined.site inside)
  exact Environment.scope_register_of_ne _ other _

/-- The home of a function in sight is in view. -/
theorem home_mem (confined : Confined settings base view scope machine) (inside : view.inside)
    {name : Name} {callee : Overload} {body : Block Name} {home : ScopeId}
    (listed : callee ∈ machine.env.candidates scope name) (user : callee.body = .user body home) :
    home ∈ view.scopes :=
  confined.closed scope (confined.site inside) (confined.wellFormed.home_mem_chain listed user)

theorem entered (confined : Confined settings base view scope machine)
    (lexical : settings.scoping = .lexical) {callee : Overload} {home : ScopeId}
    {args : List Value} (inView : home ∈ view.scopes)
    (admitted : settings.refusal ⟨callee.name, args.length⟩ machine.calls machine.env.depth =
      none) :
    Confined settings base (view.enter machine.env.fresh) machine.env.fresh
      (machine.entered settings callee home scope args) where
  wellFormed := confined.wellFormed.entered (confined.live home inView) admitted
  live id inside := by
    rw [Machine.depth_entered]
    rcases List.mem_cons.mp inside with rfl | earlier
    · exact Nat.lt_succ_self _
    · exact Nat.lt_succ_of_lt (confined.live id earlier)
  closed id inside := by
    rcases List.mem_cons.mp inside with rfl | earlier
    · -- Under lexical scoping, the chain of the call goes on with that of the declaration.
      rw [Machine.chain_entered_fresh, Settings.parentOf, lexical]
      exact List.cons_subset_cons _ (confined.closed home inView)
    · rw [Machine.chain_entered_of_live _ _ _ _ _ _ (confined.live id earlier)]
      exact List.Subset.trans (confined.closed id earlier) (List.subset_cons_self _ _)
  hidden id outside := by
    obtain ⟨different, outOfView⟩ := List.ne_and_not_mem_of_not_mem_cons outside
    rw [← confined.hidden id outOfView, Machine.entered,
      Environment.scope_bindParams_of_ne _ different.symm, Environment.scope_extended,
      if_neg different]
  site _ := List.mem_cons_self

theorem leave (confined : Confined settings base view scope machine) {inside : Machine}
    (within : Confined settings base (view.enter machine.env.fresh) machine.env.fresh inside) :
    Confined settings base view scope (inside.leave machine.env.fresh) := by
  have scopes := confined.wellFormed.scope_leave within.wellFormed
  refine ⟨within.wellFormed.leave confined.wellFormed.innermost.symm, fun id inView => ?_,
    fun id inView => ?_, fun id outOfView => ?_, confined.site⟩
  · rw [confined.wellFormed.depth_leave within.wellFormed]
    exact confined.live id inView
  · intro other onChain
    rw [Environment.chain, scopes, if_pos (confined.live id inView)] at onChain
    rcases List.mem_cons.mp (within.closed id (List.mem_cons_of_mem _ inView) onChain) with
      rfl | seen
    · -- The scope of the call is on no chain but its own.
      have live : id.index < inside.env.depth := within.live id (List.mem_cons_of_mem _ inView)
      have smaller := within.wellFormed.nested.index_le_of_mem_chain live onChain
      exact absurd (confined.live id inView) (Nat.not_lt_of_le smaller)
    · exact seen
  · rw [scopes]
    by_cases live : id.index < machine.env.depth
    · rw [if_pos live]
      refine within.hidden id fun inside => ?_
      rcases List.mem_cons.mp inside with rfl | seen
      · exact Nat.lt_irrefl _ live
      · exact outOfView seen
    · rw [if_neg live, ← confined.hidden id outOfView,
        Environment.scope_of_depth_le (Nat.le_of_not_lt live)]

end Confined

/-! ### Two machines -/

/-- Two machines that agree on everything but the scopes out of view. -/
structure Indistinguishable (settings : Settings) (base base' : Environment) (view : View)
    (scope : ScopeId) (left right : Machine) : Prop where
  confined : Confined settings base view scope left
  confined' : Confined settings base' view scope right
  store : left.store = right.store
  calls : left.calls = right.calls
  links : left.env.links = right.env.links
  tables : ∀ id ∈ view.scopes, (left.env.scope id).SameTables (right.env.scope id)

namespace Indistinguishable

variable {settings : Settings} {base base' : Environment} {view : View} {scope : ScopeId}
  {left right : Machine}

/-- Scopes on the chain of a scope in view have the same tables. -/
theorem tables_chain (same : Indistinguishable settings base base' view scope left right)
    (inside : view.inside) :
    ∀ id ∈ left.env.chain scope, (left.env.scope id).SameTables (right.env.scope id) :=
  fun id onChain => same.tables id (same.confined.closed scope (same.confined.site inside) onChain)

theorem lookup_eq (same : Indistinguishable settings base base' view scope left right)
    (inside : view.inside) (name : Name) :
    left.env.lookup scope name = right.env.lookup scope name :=
  Environment.lookup_congr (Environment.chain_of_links same.links scope)
    fun id onChain => (same.tables_chain inside id onChain).bindings name

theorem holder_eq (same : Indistinguishable settings base base' view scope left right)
    (inside : view.inside) (name : Name) :
    left.env.holder scope name = right.env.holder scope name :=
  Environment.holder_congr (Environment.chain_of_links same.links scope)
    fun id onChain => (same.tables_chain inside id onChain).bindings name

theorem candidates_eq (same : Indistinguishable settings base base' view scope left right)
    (inside : view.inside) (name : Name) :
    left.env.candidates scope name = right.env.candidates scope name :=
  Environment.candidates_congr (Environment.chain_of_links same.links scope)
    fun id onChain => (same.tables_chain inside id onChain).overloads name

theorem native (same : Indistinguishable settings base base' view scope left right)
    (store : Store) :
    Indistinguishable settings base base' view scope { left with store } { right with store } :=
  { same with
    confined := same.confined.native store
    confined' := same.confined'.native store
    store := rfl }

theorem assign (same : Indistinguishable settings base base' view scope left right)
    (inside : view.inside) (name : Name) (value : Value) :
    Indistinguishable settings base base' view scope
      { left with env := left.env.assign scope name value }
      { right with env := right.env.assign scope name value } where
  confined := same.confined.assign inside name value
  confined' := same.confined'.assign inside name value
  store := same.store
  calls := same.calls
  links := by rw [Environment.links_assign, Environment.links_assign, same.links]
  tables id inView := by
    have live := same.confined.live _ (same.confined.holder_mem inside name)
    have live' := same.confined'.live _ (same.confined'.holder_mem inside name)
    constructor
    · intro asked
      rw [Environment.assign, Environment.assign, Environment.find?_bindLocal _ _ _ _ _ live,
        Environment.find?_bindLocal _ _ _ _ _ live', same.holder_eq inside name,
        (same.tables id inView).bindings asked]
    · intro asked
      rw [Scope.overloadsOf, Scope.overloadsOf, Environment.overloads_assign,
        Environment.overloads_assign]
      exact (same.tables id inView).overloads asked

theorem declare (same : Indistinguishable settings base base' view scope left right)
    (inside : view.inside) (name : Name) (params : List (Param Name)) (body : Block Name) :
    Indistinguishable settings base base' view scope
      { left with env := left.env.register scope ⟨name, params, .user body scope⟩ }
      { right with env := right.env.register scope ⟨name, params, .user body scope⟩ } where
  confined := same.confined.declare inside name params body
  confined' := same.confined'.declare inside name params body
  store := same.store
  calls := same.calls
  links := by rw [Environment.links_register, Environment.links_register, same.links]
  tables id inView := by
    constructor
    · intro asked
      rw [Environment.bindings_register, Environment.bindings_register]
      exact (same.tables id inView).bindings asked
    · intro asked
      have earlier := (same.tables id inView).overloads asked
      unfold Scope.overloadsOf at earlier ⊢
      rw [Environment.overloads_register _ _ _ same.confined.wellFormed.live,
        Environment.overloads_register _ _ _ same.confined'.wellFormed.live]
      -- Both scopes get the same overload behind tables that agree name by name.
      by_cases here : scope = id
      · rw [if_pos here, if_pos here, List.filter_append, List.filter_append, earlier]
      · rw [if_neg here, if_neg here, earlier]

theorem fresh_eq (same : Indistinguishable settings base base' view scope left right) :
    right.env.fresh = left.env.fresh := by
  rw [Environment.fresh, Environment.fresh, Environment.depth_of_links same.links]

/-- The scope of a call binds the parameters and nothing else, so it is the same on both. -/
theorem scope_entered_fresh (same : Indistinguishable settings base base' view scope left right)
    (callee : Overload) (home : ScopeId) (args : List Value) :
    (left.entered settings callee home scope args).env.scope left.env.fresh =
      (right.entered settings callee home scope args).env.scope left.env.fresh := by
  have depths := Environment.depth_of_links same.links
  have chains := Environment.chain_of_links same.links (settings.parentOf home scope)
  rw [Machine.entered, Machine.entered, same.fresh_eq]
  refine Environment.scope_bindParams_congr ?_ ?_ ?_ _ _
  · rw [Environment.depth_extended]
    exact Nat.lt_succ_self _
  · rw [Environment.depth_extended, ← depths]
    exact Nat.lt_succ_self _
  · rw [Environment.scope_extended, Environment.scope_extended, same.fresh_eq, if_pos rfl,
      if_pos rfl, chains]

theorem entered (same : Indistinguishable settings base base' view scope left right)
    (lexical : settings.scoping = .lexical) {callee : Overload} {home : ScopeId}
    {args : List Value} (inView : home ∈ view.scopes)
    (admitted : settings.refusal ⟨callee.name, args.length⟩ left.calls left.env.depth = none) :
    Indistinguishable settings base base' (view.enter left.env.fresh) left.env.fresh
      (left.entered settings callee home scope args)
      (right.entered settings callee home scope args) where
  confined := same.confined.entered lexical inView admitted
  confined' := by
    rw [← same.fresh_eq]
    refine same.confined'.entered lexical inView ?_
    rw [← same.calls, ← Environment.depth_of_links same.links]
    exact admitted
  store := same.store
  calls := by rw [Machine.entered, Machine.entered, same.calls]
  links := by
    rw [Machine.links_entered, Machine.links_entered, same.links,
      Environment.chain_of_links same.links]
  tables id inside := by
    rcases List.mem_cons.mp inside with rfl | earlier
    · exact .of_eq (same.scope_entered_fresh callee home args)
    · rw [Machine.scope_entered_of_live _ _ _ _ _ _ (same.confined.live id earlier),
        Machine.scope_entered_of_live _ _ _ _ _ _ (same.confined'.live id earlier)]
      exact same.tables id earlier

theorem leave (same : Indistinguishable settings base base' view scope left right)
    {inside inside' : Machine}
    (within : Indistinguishable settings base base' (view.enter left.env.fresh) left.env.fresh
      inside inside') :
    Indistinguishable settings base base' view scope (inside.leave left.env.fresh)
      (inside'.leave left.env.fresh) := by
  have within' : Confined settings base' (view.enter right.env.fresh) right.env.fresh inside' := by
    rw [same.fresh_eq]
    exact within.confined'
  refine ⟨same.confined.leave within.confined, ?_, within.store, ?_, ?_, fun id inView => ?_⟩
  · rw [← same.fresh_eq]
    exact same.confined'.leave within'
  · change inside.calls.pop = inside'.calls.pop
    rw [within.calls]
  · have positive := same.confined.wellFormed.fresh_positive
    change (inside.env.popScope _).links = (inside'.env.popScope _).links
    rw [Environment.links_popScope within.confined.wellFormed.innermost positive,
      Environment.links_popScope within.confined'.wellFormed.innermost positive, within.links]
  · have scopes := same.confined.wellFormed.scope_leave within.confined.wellFormed id
    have scopes' := same.confined'.wellFormed.scope_leave within'.wellFormed id
    rw [if_pos (same.confined.live id inView)] at scopes
    rw [if_pos (same.confined'.live id inView), same.fresh_eq] at scopes'
    rw [scopes, scopes']
    exact within.tables id (List.mem_cons_of_mem _ inView)

end Indistinguishable

/-! ### Isolation -/

/-- Agreement on the scopes in view, as a simulation.  At the caller nothing may be done but to
enter a function that was declared in view. -/
def lexicalIsolation (settings : Settings) (lexical : settings.scoping = .lexical)
    (base base' : Environment) : Simulation settings settings where
  World := View
  related := Indistinguishable settings base base'
  allowed view _ := view.inside
  enterable view _ _ _ home _ := home ∈ view.scopes
  alike := .refl settings
  store_eq same := same.store
  calls_eq same := same.calls
  depth_eq same := Environment.depth_of_links same.links
  lookup_eq same inside := same.lookup_eq inside _
  candidates_eq same inside := same.candidates_eq inside _
  native store same := same.native store
  assign value same inside := same.assign inside _ value
  declare same inside := same.declare inside _ _ _
  select same inside listed _ user := same.confined.home_mem inside listed user
  enter same inView admitted :=
    ⟨_, fun _ _ => trivial, same.entered lexical inView admitted, fun _ _ => same.leave⟩

theorem confined_to_chain {settings : Settings} {caller home : ScopeId} {machine : Machine}
    (wellFormed : machine.WellFormed settings caller) (live : home.index < machine.env.depth) :
    Confined settings machine.env ⟨machine.env.chain home, False⟩ caller machine where
  wellFormed := wellFormed
  live _ := wellFormed.nested.live_of_mem_chain live
  closed _ := wellFormed.nested.chain_subset live
  hidden _ _ := rfl
  site := False.elim

/-- Under lexical scoping, a user function is called on two machines in good order that have the
same store, the same frames and the same links, and the same tables in the scopes on the chain of
the declaration of the function.  Whatever the other scopes hold, the two calls end alike: both
without an outcome, or with the same value or fault, with the same store and with the same tables on
that chain.  No call changes a scope off the chain. -/
theorem lexical_call_is_isolated (settings : Settings) (lexical : settings.scoping = .lexical)
    (fuel : Nat) (callee : Overload) (body : Block Name) (home caller : ScopeId)
    (args : List Value) (left right : Machine) (live : home.index < left.env.depth)
    (leftOrder : left.WellFormed settings caller) (rightOrder : right.WellFormed settings caller)
    (store : left.store = right.store) (calls : left.calls = right.calls)
    (links : left.env.links = right.env.links)
    (tables : ∀ id ∈ left.env.chain home, (left.env.scope id).SameTables (right.env.scope id)) :
    OutcomesAgree
      (fun left' right' =>
        left'.store = right'.store ∧ left'.calls = right'.calls ∧
        left'.env.links = right'.env.links ∧
        (∀ id ∈ left.env.chain home, (left'.env.scope id).SameTables (right'.env.scope id)) ∧
        ∀ id, id ∉ left.env.chain home →
          left'.env.scope id = left.env.scope id ∧ right'.env.scope id = right.env.scope id)
      (invoke settings fuel callee body home caller args left)
      (invoke settings fuel callee body home caller args right) := by
  let isolation := lexicalIsolation settings lexical left.env right.env
  -- The call starts outside: the scope of the caller need not be in view.
  let view : View := ⟨left.env.chain home, False⟩
  have live' : home.index < right.env.depth := by rwa [← Environment.depth_of_links links]
  have same : isolation.related view caller left right := by
    have confined' := confined_to_chain rightOrder live'
    rw [← Environment.chain_of_links links home] at confined'
    exact ⟨confined_to_chain leftOrder live, confined', store, calls, links, tables⟩
  have ends := isolation.run_agrees fuel view (.invoke callee body home caller args)
    List.mem_cons_self left right same
  refine ends.mono fun left' right' after => ?_
  refine ⟨after.store, after.calls, after.links, after.tables, fun id offChain => ?_⟩
  exact ⟨after.confined.hidden id offChain, after.confined'.hidden id offChain⟩

/-- Lexical scoping, and no limit on calls. -/
def lexicalSettings : Settings where
  names := .initial
  scoping := .lexical
  depthLimit := none

/-- A function that sets a variable of the global scope and then reads one that is not bound
there. -/
def readingFunction : Overload :=
  ⟨⟨17⟩, [], .user [.assign ⟨18⟩ (.int 5), .expr (.ident ⟨19⟩)] .global⟩

/-- A call is under way that has the given local variables, and the function is declared globally. -/
def callingMachine (locals : Bindings) : Machine where
  store := { printer := .silent }
  env := ⟨#[{ bindings := [(⟨18⟩, .int 1)], overloads := [readingFunction] },
    { bindings := locals, enclosing := [.global] }]⟩
  calls := ⟨[⟨⟨20⟩, 0⟩]⟩

theorem callingMachine_wellFormed (locals : Bindings) :
    (callingMachine locals).WellFormed lexicalSettings ⟨1⟩ where
  innermost := rfl
  nested := by
    refine ⟨rfl, fun id positive live => ⟨.global, positive, ?_⟩⟩
    change id.index < 2 at live
    obtain rfl : id = ⟨1⟩ := congrArg ScopeId.mk (Nat.le_antisymm (Nat.le_of_lt_succ live) positive)
    rfl
  atHome := by
    rintro ⟨i⟩ overload stored body home user
    rcases i with _ | _ | i
    · obtain rfl : overload = readingFunction := List.mem_singleton.mp stored
      cases user
      rfl
    · cases stored
    · simp [Environment.scope, callingMachine] at stored
  frames := rfl
  limited := nofun

/-- Whether the caller binds the variable or not, the function does not find it: both calls set the
global variable and then fail with one fault, and neither touches the variables of its caller. -/
theorem lexical_call_is_isolated_from_locals :
    ∃ fault left right,
      invoke lexicalSettings 10 readingFunction [.assign ⟨18⟩ (.int 5), .expr (.ident ⟨19⟩)]
        .global ⟨1⟩ [] (callingMachine [(⟨19⟩, .bool true)]) = some (.error fault, left) ∧
      invoke lexicalSettings 10 readingFunction [.assign ⟨18⟩ (.int 5), .expr (.ident ⟨19⟩)]
        .global ⟨1⟩ [] (callingMachine []) = some (.error fault, right) ∧
      (left.env.scope .global).bindings = [(⟨18⟩, .int 5)] ∧
      (right.env.scope .global).bindings.find? ⟨18⟩ = some (.int 5) ∧
      (left.env.scope ⟨1⟩).bindings = [(⟨19⟩, .bool true)] ∧
      (right.env.scope ⟨1⟩).bindings = [] := by
  let body : Block Name := [.assign ⟨18⟩ (.int 5), .expr (.ident ⟨19⟩)]
  have links : (callingMachine [(⟨19⟩, .bool true)]).env.links = (callingMachine []).env.links := by
    simp [Environment.links, callingMachine]
  have ends := lexical_call_is_isolated lexicalSettings rfl 10 readingFunction body .global ⟨1⟩ []
    (callingMachine [(⟨19⟩, .bool true)]) (callingMachine []) (by decide)
    (callingMachine_wellFormed _) (callingMachine_wellFormed _) rfl rfl links ?_
  · obtain ⟨fault, left, ran, global⟩ : ∃ fault left,
        invoke lexicalSettings 10 readingFunction body .global ⟨1⟩ []
          (callingMachine [(⟨19⟩, .bool true)]) = some (.error fault, left) ∧
        (left.env.scope .global).bindings = [(⟨18⟩, .int 5)] := ⟨_, _, rfl, rfl⟩
    rw [ran] at ends
    cases ran' : invoke lexicalSettings 10 readingFunction body .global ⟨1⟩ []
        (callingMachine []) with
    | none =>
      rw [ran'] at ends
      cases ends
    | some right =>
      rw [ran'] at ends
      cases ends with
      | some both =>
        obtain ⟨outcome, -, -, -, tables, hidden⟩ := both
        have onChain := (tables .global List.mem_cons_self).bindings ⟨18⟩
        have offChain := hidden ⟨1⟩ (by decide)
        refine ⟨fault, left, right.2, ran, ?_, global, ?_, ?_, ?_⟩
        · exact congrArg some (Prod.ext outcome.symm rfl)
        · rw [← onChain, global]
          rfl
        · rw [offChain.1]
          rfl
        · rw [offChain.2]
          rfl
  · intro id onChain
    obtain rfl : id = .global := List.mem_singleton.mp onChain
    exact .of_eq rfl

end Multidispatch
