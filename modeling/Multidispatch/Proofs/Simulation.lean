import Multidispatch.Proofs.Coupling

/-!
# Simulation between two runs

Many facts about evaluation compare two runs: the same program on two machines that agree on some
part, or on one machine under two policies, or simply one run with itself, to see what it keeps.
A `Simulation` is a relation between machines with the local facts that make it work: what related
machines have in common, and that each single thing a program can do takes related machines to
related machines.  It couples the two runs without any excuse, so two runs of a task that start on
related machines end alike, on related machines.

The relation may change at the call of a function.  It is indexed by worlds; a call moves to a world
of its own, and only has to lead back to the world of its caller when the call is left.

## Main definitions

* `Simulation` — a relation between machines that single actions respect

## Main statements

* `Simulation.step_agrees` — a step respects a simulation if the sub-evaluations do
* `Simulation.run_agrees` — evaluation respects a simulation
-/

namespace Multidispatch

variable {α : Type}

/-- Two settings that differ at most in the scoping. -/
structure Settings.Alike (left right : Settings) : Prop where
  names : left.names = right.names
  limit : left.depthLimit = right.depthLimit

theorem Settings.Alike.refl (settings : Settings) : settings.Alike settings :=
  ⟨rfl, rfl⟩

/-- A relation between the machines of two runs, under the settings `left` and `right`, that every
single action of a program respects. -/
structure Simulation (left right : Settings) where
  /-- What the relation is indexed by; every call may have a world of its own. -/
  World : Type
  /-- When two machines are related, in a world and in the scope in which evaluation goes on. -/
  related : World → ScopeId → Machine → Machine → Prop
  /-- What a program may do in a world. -/
  allowed : World → Action → Prop
  /-- Which functions, with which bodies, homes and arguments, may be entered in a world and from a
  scope. -/
  enterable : World → ScopeId → Overload → Block Name → ScopeId → List Value → Prop
  alike : left.Alike right
  store_eq : ∀ {w s m n}, related w s m n → m.store = n.store
  calls_eq : ∀ {w s m n}, related w s m n → m.calls = n.calls
  depth_eq : ∀ {w s m n}, related w s m n → m.env.depth = n.env.depth
  lookup_eq : ∀ {w s m n name}, related w s m n → allowed w (.read name) →
    m.env.lookup s name = n.env.lookup s name
  candidates_eq : ∀ {w s m n name}, related w s m n → allowed w (.call name) →
    m.env.candidates s name = n.env.candidates s name
  /-- Natives may do to the store what they like. -/
  native : ∀ {w s m n} (store : Store), related w s m n →
    related w s { m with store } { n with store }
  assign : ∀ {w s m n name} (value : Value), related w s m n → allowed w (.assign name) →
    related w s { m with env := m.env.assign s name value }
      { n with env := n.env.assign s name value }
  declare : ∀ {w s m n name params body}, related w s m n →
    allowed w (.declare name params body) →
    related w s { m with env := m.env.register s ⟨name, params, .user body s⟩ }
      { n with env := n.env.register s ⟨name, params, .user body s⟩ }
  /-- A function that a call selects may be entered. -/
  select : ∀ {w s m n name callee body home args}, related w s m n → allowed w (.call name) →
    callee ∈ m.env.candidates s name → callee.accepts args = true →
    callee.body = .user body home → enterable w s callee body home args
  /-- A call that is entered has a world in which its body may run, and which leads back to the
  world of the caller when the call is left. -/
  enter : ∀ {w s m n callee body home args}, related w s m n →
    enterable w s callee body home args →
    left.refusal ⟨callee.name, args.length⟩ m.calls m.env.depth = none →
    ∃ inner : World, (∀ action ∈ Block.actions body, allowed inner action) ∧
      related inner m.env.fresh (m.entered left callee home s args)
        (n.entered right callee home s args) ∧
      ∀ m' n', related inner m.env.fresh m' n' →
        related w s (m'.leave m.env.fresh) (n'.leave m.env.fresh)

namespace Simulation

variable {left right : Settings} (sim : Simulation left right)

/-- Two computations end alike on related machines. -/
def Agree (w : sim.World) (s : ScopeId) (x y : EvalM α) : Prop :=
  ∀ m n, sim.related w s m n → OutcomesAgree (sim.related w s) (x m) (y n)

/-- A task does only what is allowed in a world. -/
def Permits (w : sim.World) : Task → Prop
  | .invoke callee body home caller args => sim.enterable w caller callee body home args
  | task => ∀ action ∈ task.actions, sim.allowed w action

/-- Where every action is allowed, only the entry of a selected function needs a permit. -/
theorem permits_of_forall {w : sim.World} {task : Task} (all : ∀ action, sim.allowed w action)
    (entry : ∀ callee body home caller args, task = .invoke callee body home caller args →
      sim.enterable w caller callee body home args) : sim.Permits w task := by
  cases task with
  | invoke callee body home caller args => exact entry callee body home caller args rfl
  | _ => exact fun action _ => all action

/-- Two interpretations end alike on every task that does only what is allowed. -/
def Respects (self other : Task.Interpretation) : Prop :=
  ∀ w (task : Task), sim.Permits w task → sim.Agree w task.scope (self task) (other task)

variable {sim} {w : sim.World} {s : ScopeId}

/-! ### Simulations as couplings -/

variable (sim) in
/-- The coupling of two runs by a simulation; neither run is excused. -/
def coupling : Coupling left right where
  World := sim.World
  related := sim.related
  allowed := sim.allowed
  enterable := sim.enterable
  leftExcuse := .nothing
  rightExcuse := .nothing
  names_eq := sim.alike.names
  store_eq := sim.store_eq
  calls_eq := sim.calls_eq
  lookup_eq := sim.lookup_eq
  native := sim.native
  assign := sim.assign

theorem agree_iff {x y : EvalM α} : sim.coupling.Agree w s x y ↔ sim.Agree w s x y :=
  ⟨fun agree m n related => (agree m n related).outcomesAgree,
    fun agree m n related => .inr (.inr (agree m n related))⟩

theorem permits_iff {task : Task} :
    sim.coupling.agreement.Permits w task ↔ sim.Permits w task := by
  cases task <;> exact Iff.rfl

theorem respects_iff {self other : Task.Interpretation} :
    sim.coupling.agreement.Respects self other ↔ sim.Respects self other :=
  ⟨fun respects w task permits => agree_iff.mp (respects w task (permits_iff.mpr permits)),
    fun respects w task permits => agree_iff.mpr (respects w task (permits_iff.mp permits))⟩

section Step

variable {self other : Task.Interpretation} (respects : sim.coupling.agreement.Respects self other)
include respects

theorem stepDispatch_agrees {name : Name} {args : List Value} {fallback : Fallback}
    (allowed : sim.allowed w (.call name)) :
    sim.coupling.Agree w s (Task.stepDispatch left self s name args fallback)
      (Task.stepDispatch right other s name args fallback) := by
  refine Coupling.agree_read (fun m n related => sim.candidates_eq related allowed)
    fun m n related => ?_
  refine Coupling.stepSelection_agrees respects (fun callee listed accepted body home user => ?_)
    m n related
  exact sim.select related allowed listed accepted user

/-- Entry is refused on both machines or on neither, and the body runs in the world of the call. -/
theorem stepInvoke_agrees {callee : Overload} {body : Block Name} {home : ScopeId}
    {args : List Value} (enterable : sim.enterable w s callee body home args) :
    sim.coupling.Agree w s (Task.stepInvoke left self callee body home s args)
      (Task.stepInvoke right other callee body home s args) := by
  intro m n related
  have refusals : left.refusal ⟨callee.name, args.length⟩ m.calls m.env.depth =
      right.refusal ⟨callee.name, args.length⟩ n.calls n.env.depth := by
    unfold Settings.refusal
    rw [sim.calls_eq related, sim.depth_eq related, sim.alike.names, sim.alike.limit]
  have fresh : n.env.fresh = m.env.fresh := by
    unfold Environment.fresh
    rw [sim.depth_eq related]
  rw [Task.stepInvoke_apply, Task.stepInvoke_apply, ← refusals, fresh]
  cases refused : left.refusal ⟨callee.name, args.length⟩ m.calls m.env.depth with
  | some fault => exact .inr (.inr (.some ⟨rfl, related⟩))
  | none =>
    obtain ⟨inner, inBody, entered, leaves⟩ := sim.enter related enterable refused
    exact Coupling.body_agrees respects inBody entered leaves

end Step

variable (sim) in
theorem lockstep : sim.coupling.agreement.Lockstep where
  outOfFuel _ _ _ := .inr (.inr .none)
  declare allowed _ _ related := .inr (.inr (.some ⟨rfl, sim.declare related allowed⟩))
  dispatch respects allowed := stepDispatch_agrees respects allowed
  invoke respects enterable := stepInvoke_agrees respects enterable

/-- A step respects a simulation if the sub-evaluations do. -/
theorem step_agrees {self other : Task.Interpretation} (respects : sim.Respects self other) :
    sim.Respects (Task.step left self) (Task.step right other) :=
  respects_iff.mp (sim.lockstep.step_agrees (respects_iff.mpr respects))

/-- Evaluation respects every simulation, with any amount of fuel. -/
theorem run_agrees (fuel : Nat) : sim.Respects (Task.run left fuel) (Task.run right fuel) :=
  respects_iff.mp (sim.lockstep.run_agrees fuel)

end Simulation

end Multidispatch
