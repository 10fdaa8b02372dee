import Multidispatch.Interpreter
import Multidispatch.Proofs.Invariant
import Multidispatch.Proofs.Nesting

/-!
# The discipline of scopes and calls

Between two actions the machine is always in good order: evaluation goes on in the innermost scope,
scopes lie in scopes with smaller numbers, functions are stored where they were declared, and there
is one scope for each call under way besides the global one.  Every evaluation starts its
sub-evaluations on machines in this order, and when it ends, with a value or with a fault, it has
put away every scope and every frame that it added.

## Main definitions

* `Machine.WellFormed` — a machine in good order
* `Task.WellStarted` — a task that is started on a machine in good order
* `scopeDiscipline` — good order as an invariant of evaluation

## Main statements

* `Interpreter.wellFormed_of_build` — a new interpreter is in good order
* `Machine.WellFormed.entered`, `Machine.WellFormed.leave` — calls are entered and left in good order
* `evaluation_restores_scopes_and_frames` — every evaluation starts all others in good order and
  leaves the scopes and the frames as they were
-/

namespace Multidispatch

/-- A machine in good order for evaluation in a scope. -/
structure Machine.WellFormed (settings : Settings) (scope : ScopeId) (machine : Machine) : Prop where
  /-- Evaluation goes on in the innermost scope. -/
  innermost : scope.index + 1 = machine.env.depth
  /-- Scopes lie in scopes with smaller numbers, up to the global scope. -/
  nested : machine.env.Nested
  /-- Functions are stored in the scope in which they were declared. -/
  atHome : machine.env.AtHome
  /-- There is a scope for each call under way, and the global scope. -/
  frames : machine.env.depth = 1 + machine.calls.depth
  /-- No more calls are under way than the limit allows. -/
  limited : ∀ max, settings.depthLimit = some max → machine.calls.depth ≤ max

namespace Machine.WellFormed

variable {settings : Settings} {scope : ScopeId} {machine : Machine}

theorem live (wellFormed : machine.WellFormed settings scope) : scope.index < machine.env.depth := by
  have := wellFormed.innermost
  omega

/-- Good order is a matter of the links, the frames and where functions are stored. -/
theorem of_links {after : Machine} (wellFormed : machine.WellFormed settings scope)
    (links : after.env.links = machine.env.links) (calls : after.calls = machine.calls)
    (atHome : after.env.AtHome) : after.WellFormed settings scope where
  innermost := by rw [Environment.depth_of_links links, wellFormed.innermost]
  nested := wellFormed.nested.of_links links
  atHome := atHome
  frames := by rw [Environment.depth_of_links links, calls, wellFormed.frames]
  limited := by
    rw [calls]
    exact wellFormed.limited

/-- Good order depends on the limit alone among the settings. -/
theorem of_limit {settings' : Settings} (wellFormed : machine.WellFormed settings scope)
    (limit : settings'.depthLimit = settings.depthLimit) : machine.WellFormed settings' scope :=
  { wellFormed with limited := limit ▸ wellFormed.limited }

theorem native (wellFormed : machine.WellFormed settings scope) (store : Store) :
    ({ machine with store } : Machine).WellFormed settings scope :=
  wellFormed.of_links rfl rfl wellFormed.atHome

theorem assign (wellFormed : machine.WellFormed settings scope) (name : Name) (value : Value) :
    ({ machine with env := machine.env.assign scope name value } : Machine).WellFormed settings
      scope :=
  wellFormed.of_links (Environment.links_assign _ _ _ _) rfl
    (wellFormed.atHome.bindLocal _ name value)

/-- An overload may be stored in the current scope if it was declared there, or is a native. -/
theorem register (wellFormed : machine.WellFormed settings scope) {overload : Overload}
    (own : ∀ body home, overload.body = .user body home → home = scope) :
    ({ machine with env := machine.env.register scope overload } : Machine).WellFormed settings
      scope :=
  wellFormed.of_links (Environment.links_register _ _ _) rfl
    (wellFormed.atHome.register wellFormed.live own)

theorem declare (wellFormed : machine.WellFormed settings scope) (name : Name)
    (params : List (Param Name)) (body : Block Name) :
    ({ machine with env := machine.env.register scope ⟨name, params, .user body scope⟩ } :
      Machine).WellFormed settings scope := by
  refine wellFormed.register ?_
  rintro _ _ ⟨⟩
  rfl

/-- The home of a function in sight is on the chain of the scope. -/
theorem home_mem_chain (wellFormed : machine.WellFormed settings scope) {name : Name}
    {callee : Overload} {body : Block Name} {home : ScopeId}
    (listed : callee ∈ machine.env.candidates scope name) (user : callee.body = .user body home) :
    home ∈ machine.env.chain scope := by
  obtain ⟨id, onChain, stored⟩ := Environment.exists_scope_of_mem_candidates listed
  rwa [wellFormed.atHome id callee stored body home user]

theorem parent_live (wellFormed : machine.WellFormed settings scope) {home : ScopeId}
    (live : home.index < machine.env.depth) :
    (settings.parentOf home scope).index < machine.env.depth := by
  unfold Settings.parentOf
  cases settings.scoping with
  | dynamic => exact wellFormed.live
  | lexical => exact live

end Machine.WellFormed

/-! ### Where runs start -/

/-- A machine on which nothing has run is in good order. -/
theorem wellFormed_initial (settings : Settings) (store : Store) :
    Machine.WellFormed settings .global ⟨store, .initial, .empty⟩ where
  innermost := rfl
  nested := .initial
  atHome := by
    intro id overload stored
    rw [Environment.overloads_initial] at stored
    cases stored
  frames := rfl
  limited := fun max _ => Nat.zero_le max

theorem wellFormed_registerAll {settings : Settings} {store : Store} {calls : CallStack}
    {entries : List Entry} {env env' : Environment} {names names' : Interner}
    (wellFormed : Machine.WellFormed settings .global ⟨store, env, calls⟩)
    (registered : (Prelude.registerAll entries env).run names = .ok (env', names')) :
    Machine.WellFormed settings .global ⟨store, env', calls⟩ := by
  induction entries generalizing env names with
  | nil =>
    cases registered
    exact wellFormed
  | cons entry rest ih =>
    rw [Prelude.registerAll, StateT.run_bind] at registered
    cases interned : (Interner.intern entry.call).run names with
    | error full =>
      rw [interned] at registered
      cases registered
    | ok named =>
      rw [interned] at registered
      -- Entries are natives, so there is no declaration that they could be stored away from.
      have own : ∀ body home, (Prelude.overload named.1 entry).body = .user body home →
          home = .global := by
        rintro _ _ ⟨⟩
      exact ih (wellFormed.register own) registered

/-- A new interpreter is in good order, so every program that it runs starts in good order. -/
theorem Interpreter.wellFormed_of_build {options : Options} {interpreter : Interpreter}
    (built : Interpreter.build options = .ok interpreter) :
    interpreter.machine.WellFormed interpreter.settings .global := by
  unfold Interpreter.build at built
  by_cases prelude : options.prelude = true
  · rw [if_pos prelude] at built
    simp only at built
    cases registered : (Prelude.register .initial).run options.names with
    | error full =>
      rw [registered] at built
      cases built
    | ok result =>
      rw [registered] at built
      cases built
      exact wellFormed_registerAll (wellFormed_initial _ _) registered
  · rw [if_neg prelude] at built
    cases built
    exact wellFormed_initial _ _

/-! ### Links and frames across a call -/

theorem Machine.links_entered (settings : Settings) (callee : Overload) (home caller : ScopeId)
    (args : List Value) (machine : Machine) :
    (machine.entered settings callee home caller args).env.links =
      machine.env.links.push (machine.env.chain (settings.parentOf home caller)) := by
  rw [Machine.entered, Environment.links_bindParams, Environment.links_extended]

theorem Machine.depth_entered (settings : Settings) (callee : Overload) (home caller : ScopeId)
    (args : List Value) (machine : Machine) :
    (machine.entered settings callee home caller args).env.depth = machine.env.depth + 1 := by
  rw [← Environment.size_links, Machine.links_entered, Array.size_push, Environment.size_links]

/-- The entry of a call leaves the scopes that are in use as they are. -/
theorem Machine.scope_entered_of_live (settings : Settings) (callee : Overload)
    (home caller : ScopeId) (args : List Value) (machine : Machine) {id : ScopeId}
    (live : id.index < machine.env.depth) :
    (machine.entered settings callee home caller args).env.scope id = machine.env.scope id := by
  have other : machine.env.fresh ≠ id := by
    rintro rfl
    exact Nat.lt_irrefl _ live
  rw [Machine.entered, Environment.scope_bindParams_of_ne _ other,
    Environment.scope_extended_of_live _ _ live]

theorem Machine.chain_entered_of_live (settings : Settings) (callee : Overload)
    (home caller : ScopeId) (args : List Value) (machine : Machine) {id : ScopeId}
    (live : id.index < machine.env.depth) :
    (machine.entered settings callee home caller args).env.chain id = machine.env.chain id := by
  rw [Environment.chain, Environment.chain, Machine.scope_entered_of_live _ _ _ _ _ _ live]

/-- The scope of a call lies in the scope that the settings say. -/
theorem Machine.chain_entered_fresh (settings : Settings) (callee : Overload)
    (home caller : ScopeId) (args : List Value) (machine : Machine) :
    (machine.entered settings callee home caller args).env.chain machine.env.fresh =
      machine.env.fresh :: machine.env.chain (settings.parentOf home caller) := by
  rw [Machine.entered, Environment.chain, Environment.enclosing_bindParams,
    Environment.scope_extended, if_pos rfl]

namespace Machine.WellFormed

variable {settings : Settings} {scope : ScopeId} {machine : Machine}

/-- A call that is admitted is entered in good order. -/
theorem entered (wellFormed : machine.WellFormed settings scope) {callee : Overload}
    {home : ScopeId} {args : List Value} (live : home.index < machine.env.depth)
    (admitted : settings.refusal ⟨callee.name, args.length⟩ machine.calls machine.env.depth =
      none) :
    (machine.entered settings callee home scope args).WellFormed settings machine.env.fresh where
  innermost := by rw [Machine.depth_entered]; rfl
  nested := by
    refine (wellFormed.nested.extended (wellFormed.parent_live live)).of_links ?_
    rw [Machine.links_entered, Environment.links_extended]
  atHome := (wellFormed.atHome.extended _).bindParams _ _ _
  frames := by
    rw [Machine.depth_entered, wellFormed.frames]
    rfl
  limited := (Settings.room_of_refusal admitted).1

/-- A call is left in good order, and evaluation goes on in the scope of the caller. -/
theorem leave {inner : ScopeId} (wellFormed : machine.WellFormed settings inner)
    (next : inner.index = scope.index + 1) : (machine.leave inner).WellFormed settings scope := by
  have positive : 0 < inner.index := by omega
  have last := wellFormed.innermost
  have frames := wellFormed.frames
  have popped : (machine.env.popScope inner).depth = inner.index :=
    Environment.depth_popScope last positive
  have calls : (machine.leave inner).calls.depth = machine.calls.depth - 1 := by
    simp [Machine.leave, CallStack.pop, CallStack.depth]
  refine ⟨?_, wellFormed.nested.popScope last positive,
    wellFormed.atHome.popScope last positive, ?_, fun max limit => ?_⟩
  · exact (popped.trans next).symm
  · change (machine.env.popScope inner).depth = _
    omega
  · have := wellFormed.limited max limit
    omega

/-- The number of scopes is positive, so the scope of a call is not the global one. -/
theorem fresh_positive (wellFormed : machine.WellFormed settings scope) :
    0 < machine.env.fresh.index :=
  Nat.lt_of_le_of_lt (Nat.zero_le _) wellFormed.live

theorem depth_leave (wellFormed : machine.WellFormed settings scope) {inside : Machine}
    (within : inside.WellFormed settings machine.env.fresh) :
    (inside.leave machine.env.fresh).env.depth = machine.env.depth :=
  Environment.depth_popScope within.innermost wellFormed.fresh_positive

/-- When a call is left, the scopes that were in use before it stay as they are then. -/
theorem scope_leave (wellFormed : machine.WellFormed settings scope) {inside : Machine}
    (within : inside.WellFormed settings machine.env.fresh) (id : ScopeId) :
    (inside.leave machine.env.fresh).env.scope id =
      if id.index < machine.env.depth then inside.env.scope id else {} :=
  Environment.scope_popScope within.innermost wellFormed.fresh_positive id

end Machine.WellFormed

/-! ### Good order as an invariant -/

/-- The links and the frames that an evaluation starts with. -/
structure Layout where
  /-- The scopes with the scopes around them. -/
  links : Array (List ScopeId)
  /-- The calls under way. -/
  calls : CallStack

/-- A machine has a layout. -/
def Layout.Fits (layout : Layout) (machine : Machine) : Prop :=
  machine.env.links = layout.links ∧ machine.calls = layout.calls

/-- When a call is left, the machine has the layout again that it had before the call. -/
theorem Layout.Fits.leave {layout : Layout} {settings : Settings} {machine inside : Machine}
    {callee : Overload} {home caller : ScopeId} {args : List Value} (fits : layout.Fits machine)
    (entered : inside.env.links = (machine.entered settings callee home caller args).env.links ∧
      inside.calls = (machine.entered settings callee home caller args).calls)
    (used : 0 < machine.env.depth) : layout.Fits (inside.leave machine.env.fresh) := by
  obtain ⟨links, calls⟩ := entered
  have last : machine.env.fresh.index + 1 = inside.env.depth := by
    rw [Environment.depth_of_links links, Machine.depth_entered]
    rfl
  constructor
  · change (inside.env.popScope machine.env.fresh).links = layout.links
    rw [Environment.links_popScope last used, links, Machine.links_entered, Array.pop_push, fits.1]
  · change inside.calls.pop = layout.calls
    rw [calls, ← fits.2]
    rfl

/-- Good order, with the layout as it was; under dynamic scoping also that scopes are stacked, if
they were. -/
def scopeDiscipline (settings : Settings) (stacked : Prop)
    (dynamic : stacked → settings.scoping = .dynamic) : Invariant settings where
  World := Layout
  holds layout scope machine := machine.WellFormed settings scope ∧ layout.Fits machine ∧
    (stacked → machine.env.Stacked)
  allowed _ _ := True
  enterable _ s _ _ home _ := home.index ≤ s.index
  native := by
    rintro layout s m store ⟨wellFormed, fits, stack⟩
    exact ⟨wellFormed.native store, fits, stack⟩
  assign := by
    rintro layout s m name value ⟨wellFormed, fits, stack⟩ -
    have links := Environment.links_assign m.env s name value
    exact ⟨wellFormed.assign name value, ⟨links.trans fits.1, fits.2⟩,
      fun h => (stack h).of_links links⟩
  declare := by
    rintro layout s m name params body ⟨wellFormed, fits, stack⟩ -
    have links := Environment.links_register m.env s ⟨name, params, .user body s⟩
    exact ⟨wellFormed.declare name params body, ⟨links.trans fits.1, fits.2⟩,
      fun h => (stack h).of_links links⟩
  select := by
    rintro layout s m name callee body home args ⟨wellFormed, -, -⟩ - listed - user
    exact wellFormed.nested.index_le_of_mem_chain wellFormed.live
      (wellFormed.home_mem_chain listed user)
  enter := by
    rintro layout s m callee body home args ⟨wellFormed, fits, stack⟩ outward admitted
    have live : home.index < m.env.depth := Nat.lt_of_le_of_lt outward wellFormed.live
    have used : 0 < m.env.depth := Nat.lt_of_le_of_lt (Nat.zero_le _) live
    refine ⟨⟨(m.entered settings callee home s args).env.links,
      (m.entered settings callee home s args).calls⟩, fun _ _ => trivial,
      ⟨wellFormed.entered live admitted, ⟨rfl, rfl⟩, fun h => ?_⟩, ?_⟩
    · have parent : settings.parentOf home s = s := by
        rw [Settings.parentOf, dynamic h]
      refine ((stack h).extended wellFormed.innermost).of_links ?_
      rw [Machine.links_entered, Environment.links_extended, parent]
    · rintro inside ⟨wellFormed', fits', -⟩
      have restored := fits.leave fits' used
      refine ⟨wellFormed'.leave wellFormed.innermost.symm, restored, fun h => ?_⟩
      exact (stack h).of_links (restored.1.trans fits.1.symm)

/-! ### Every evaluation -/

/-- A task that is started on a machine in good order; a function that is to be entered was declared
in a scope that is in use. -/
structure Task.WellStarted (settings : Settings) (task : Task) (machine : Machine) : Prop where
  wellFormed : machine.WellFormed settings task.scope
  home_live : ∀ callee body home caller args, task = .invoke callee body home caller args →
    home.index < machine.env.depth

/-- Every evaluation starts all its sub-evaluations in good order, so that chains of scopes run
through scopes in use and end at the global scope; under dynamic scoping, scopes stay stacked if
they were.  When the evaluation ends, with a value or with any fault, the frames and the scopes
with their links are those that it started with. -/
theorem evaluation_restores_scopes_and_frames (settings : Settings) (fuel : Nat) (task : Task)
    (machine : Machine) (started : task.WellStarted settings machine) :
    (∀ sub m, task.Reaches settings fuel machine sub m →
      sub.WellStarted settings m ∧
      (∀ id : ScopeId, id.index < m.env.depth →
        (∀ other ∈ m.env.chain id, other.index < m.env.depth) ∧
          (m.env.chain id).getLast? = some .global) ∧
      (settings.scoping = .dynamic → machine.env.Stacked → m.env.Stacked)) ∧
    ∀ outcome after, task.run settings fuel machine = some (outcome, after) →
      after.calls = machine.calls ∧ after.env.links = machine.env.links ∧
        after.WellFormed settings task.scope := by
  let discipline := scopeDiscipline settings
    (settings.scoping = .dynamic ∧ machine.env.Stacked) And.left
  -- The layout at the start is the world of the evaluation; nested calls have layouts of their own.
  let layout : Layout := ⟨machine.env.links, machine.calls⟩
  have holds : discipline.holds layout task.scope machine :=
    ⟨started.wellFormed, ⟨rfl, rfl⟩, And.right⟩
  have permits : discipline.simulation.Permits layout task := by
    refine discipline.simulation.permits_of_forall (fun _ => trivial)
      fun callee body home caller args invokes => ?_
    have live := started.home_live callee body home caller args invokes
    have innermost := started.wellFormed.innermost
    subst invokes
    exact Nat.le_of_lt_succ (by rwa [← innermost] at live)
  constructor
  · intro sub m reaches
    obtain ⟨layout', ⟨wellFormed, -, stacked⟩, permits'⟩ :=
      Invariant.holds_reached reaches permits holds
    refine ⟨⟨wellFormed, ?_⟩, fun id live => ?_, fun dynamic stack => stacked ⟨dynamic, stack⟩⟩
    · rintro callee body home caller args rfl
      exact Nat.lt_of_le_of_lt permits' wellFormed.live
    · exact ⟨fun other => wellFormed.nested.live_of_mem_chain live,
        wellFormed.nested.getLast?_chain live⟩
  · intro outcome after ended
    obtain ⟨wellFormed, fits, -⟩ := Invariant.holds_run permits holds ended
    exact ⟨fits.2, fits.1, wellFormed⟩

/-- A function without parameters that does nothing but call itself. -/
def endlessFunction : Overload :=
  ⟨⟨17⟩, [], .user [.expr (.call ⟨17⟩ [])] .global⟩

/-- The machine on which that function is declared, and nothing else. -/
def endlessMachine : Machine where
  store := { printer := .silent }
  env := Environment.initial.register .global endlessFunction
  calls := .empty

/-- Dynamic scoping, and one call at a time. -/
def oneCallAtATime : Settings where
  names := .initial
  scoping := .dynamic
  depthLimit := some 1

theorem endlessMachine_wellFormed : endlessMachine.WellFormed oneCallAtATime .global := by
  refine (wellFormed_initial oneCallAtATime { printer := .silent }).register ?_
  rintro _ _ ⟨⟩
  rfl

/-- The endless function fails when it calls itself: its body was started in good order in a scope
of its own, and the fault leaves no frame and no scope behind. -/
theorem evaluation_restores_scopes_and_frames_overflow :
    (∃ fault after, (Task.dispatch .global ⟨17⟩ [] .refuse).run oneCallAtATime 10 endlessMachine =
        some (.error fault, after) ∧ fault.cause = .stackOverflow 1 ∧
      after.calls = endlessMachine.calls ∧ after.env.links = endlessMachine.env.links) ∧
    ∃ inside, inside.calls.depth = 1 ∧
      (Task.stmts ⟨1⟩ .void [.expr (.call ⟨17⟩ [])]).WellStarted oneCallAtATime inside ∧
      inside.env.Stacked := by
  have started : (Task.dispatch .global ⟨17⟩ [] .refuse).WellStarted oneCallAtATime
      endlessMachine := by
    refine ⟨endlessMachine_wellFormed, ?_⟩
    intro callee body home caller args invokes
    cases invokes
  obtain ⟨starts, ends⟩ :=
    evaluation_restores_scopes_and_frames oneCallAtATime 10 _ endlessMachine started
  let body : Block Name := [.expr (.call ⟨17⟩ [])]
  let invoke := Task.invoke endlessFunction body .global .global []
  let inside := endlessMachine.entered oneCallAtATime endlessFunction .global .global []
  constructor
  · refine ⟨_, _, rfl, rfl, ?_⟩
    exact ⟨(ends _ _ rfl).1, (ends _ _ rfl).2.1⟩
  · have selects : (Task.dispatch .global ⟨17⟩ [] .refuse).Consults oneCallAtATime
        (Task.run oneCallAtATime 9) endlessMachine invoke endlessMachine := by
      refine ⟨none, ?_⟩
      change Task.Interpretation.override _ _ _ _ invoke endlessMachine ≠
        invoke.run oneCallAtATime 9 endlessMachine
      rw [Task.Interpretation.override_same]
      intro equal
      cases equal
    have enters : invoke.Consults oneCallAtATime (Task.run oneCallAtATime 8) endlessMachine
        (.stmts ⟨1⟩ .void body) inside := by
      refine ⟨none, ?_⟩
      change EvalM.protect (EvalM.traced oneCallAtATime
        (Task.Interpretation.override _ _ _ _ (.stmts ⟨1⟩ .void body))) _ inside ≠ _
      simp only [EvalM.protect, EvalM.traced, Task.Interpretation.override_same]
      intro equal
      cases equal
    obtain ⟨wellStarted, -, stacked⟩ :=
      starts _ _ (.within selects (.within enters (.start 8 _ inside)))
    refine ⟨inside, rfl, wellStarted, stacked rfl fun id positive live => ?_⟩
    change id.index < 1 at live
    omega

end Multidispatch
