import Multidispatch.Proofs.Simulation

/-!
# Invariants of evaluation

An invariant is a property of the machine that single actions of a program keep.  It is the
simulation of a run by itself, so evaluation keeps it, and it also holds wherever evaluation starts
a sub-evaluation.

## Main definitions

* `Invariant` — a property of the machine that single actions keep

## Main statements

* `Invariant.holds_run` — an invariant holds again when an evaluation ends
* `Invariant.holds_reached` — an invariant holds wherever a sub-evaluation is started
-/

namespace Multidispatch

/-- A property of the machine that every single action of a program keeps. -/
structure Invariant (settings : Settings) where
  /-- What the property is indexed by; every call may have a world of its own. -/
  World : Type
  /-- The property, in a world and in the scope in which evaluation goes on. -/
  holds : World → ScopeId → Machine → Prop
  /-- What a program may do in a world. -/
  allowed : World → Action → Prop
  /-- Which functions, with which bodies, homes and arguments, may be entered in a world and from a
  scope. -/
  enterable : World → ScopeId → Overload → Block Name → ScopeId → List Value → Prop
  native : ∀ {w s m} (store : Store), holds w s m → holds w s { m with store }
  assign : ∀ {w s m name} (value : Value), holds w s m → allowed w (.assign name) →
    holds w s { m with env := m.env.assign s name value }
  declare : ∀ {w s m name params body}, holds w s m → allowed w (.declare name params body) →
    holds w s { m with env := m.env.register s ⟨name, params, .user body s⟩ }
  /-- A function that a call selects may be entered. -/
  select : ∀ {w s m name callee body home args}, holds w s m → allowed w (.call name) →
    callee ∈ m.env.candidates s name → callee.accepts args = true →
    callee.body = .user body home → enterable w s callee body home args
  /-- A call that is entered has a world in which its body may run, and which leads back to the
  world of the caller when the call is left. -/
  enter : ∀ {w s m callee body home args}, holds w s m →
    enterable w s callee body home args →
    settings.refusal ⟨callee.name, args.length⟩ m.calls m.env.depth = none →
    ∃ inner : World, (∀ action ∈ Block.actions body, allowed inner action) ∧
      holds inner m.env.fresh (m.entered settings callee home s args) ∧
      ∀ m', holds inner m.env.fresh m' → holds w s (m'.leave m.env.fresh)

namespace Invariant

variable {settings : Settings} (inv : Invariant settings)

/-- A run with an invariant, beside itself. -/
def simulation : Simulation settings settings where
  World := inv.World
  related w s m n := m = n ∧ inv.holds w s m
  allowed := inv.allowed
  enterable := inv.enterable
  alike := .refl settings
  store_eq related := congrArg Machine.store related.1
  calls_eq related := congrArg Machine.calls related.1
  depth_eq related := congrArg (·.env.depth) related.1
  lookup_eq := by
    rintro w s m _ name ⟨rfl, -⟩ -
    rfl
  candidates_eq := by
    rintro w s m _ name ⟨rfl, -⟩ -
    rfl
  native := by
    rintro w s m _ store ⟨rfl, holds⟩
    exact ⟨rfl, inv.native store holds⟩
  assign := by
    rintro w s m _ name value ⟨rfl, holds⟩ allowed
    exact ⟨rfl, inv.assign value holds allowed⟩
  declare := by
    rintro w s m _ name params body ⟨rfl, holds⟩ allowed
    exact ⟨rfl, inv.declare holds allowed⟩
  select := by
    rintro w s m _ name callee body home args ⟨rfl, holds⟩ allowed listed accepted user
    exact inv.select holds allowed listed accepted user
  enter := by
    rintro w s m _ callee body home args ⟨rfl, holds⟩ enterable admitted
    obtain ⟨inner, inBody, entered, leaves⟩ := inv.enter holds enterable admitted
    refine ⟨inner, inBody, ⟨rfl, entered⟩, ?_⟩
    rintro m' _ ⟨rfl, holds'⟩
    exact ⟨rfl, leaves m' holds'⟩

variable {inv} {w : inv.World} {fuel : Nat} {task : Task}

/-- An invariant holds again when an evaluation ends, with a value or with a fault. -/
theorem holds_run {before after : Machine} {outcome : Except Fault task.Result}
    (permits : inv.simulation.Permits w task)
    (holds : inv.holds w task.scope before)
    (ended : task.run settings fuel before = some (outcome, after)) :
    inv.holds w task.scope after := by
  have ends := inv.simulation.run_agrees fuel w task permits before before ⟨rfl, holds⟩
  rw [ended] at ends
  cases ends with
  | some both => exact both.2.2

/-- Two runs that end alike on equal machines are the same. -/
theorem eq_of_outcomesAgree {α : Type} {s : ScopeId} {x y : Option (Except Fault α × Machine)}
    (ends : OutcomesAgree (inv.simulation.related w s) x y) : x = y :=
  (ends.mono fun _ _ both => both.1).eq

/-- An invariant holds where a task starts a sub-evaluation: if it did not hold there, the outcome
of the sub-evaluation could be any other without effect on the task. -/
theorem holds_consulted {before machine : Machine} {sub : Task}
    (permits : inv.simulation.Permits w task)
    (holds : inv.holds w task.scope before)
    (consults : task.Consults settings (Task.run settings fuel) before sub machine) :
    ∃ w', inv.holds w' sub.scope machine ∧ inv.simulation.Permits w' sub := by
  obtain ⟨outcome, differs⟩ := consults
  by_contra nowhere
  apply differs
  have respects : inv.simulation.Respects
      ((Task.run settings fuel).override sub machine outcome) (Task.run settings fuel) := by
    rintro w' task' permits' m _ ⟨rfl, holds'⟩
    -- The invariant holds here, so this is not the sub-evaluation whose outcome was replaced.
    have elsewhere : ¬ (task' = sub ∧ m = machine) := by
      rintro ⟨rfl, rfl⟩
      exact nowhere ⟨w', holds', permits'⟩
    rw [Task.Interpretation.override_of_ne _ outcome elsewhere]
    exact inv.simulation.run_agrees fuel w' task' permits' m m ⟨rfl, holds'⟩
  exact eq_of_outcomesAgree
    (Simulation.step_agrees respects w task permits before before ⟨rfl, holds⟩)

/-- An invariant holds wherever a sub-evaluation is started, directly or through others. -/
theorem holds_reached {before machine : Machine} {sub : Task}
    (reaches : task.Reaches settings fuel before sub machine)
    (permits : inv.simulation.Permits w task)
    (holds : inv.holds w task.scope before) :
    ∃ w', inv.holds w' sub.scope machine ∧ inv.simulation.Permits w' sub := by
  induction reaches generalizing w with
  | start fuel task machine => exact ⟨w, holds, permits⟩
  | within consults _ ih =>
    obtain ⟨middle, holds', permits'⟩ := holds_consulted permits holds consults
    exact ih permits' holds'

end Invariant

end Multidispatch
