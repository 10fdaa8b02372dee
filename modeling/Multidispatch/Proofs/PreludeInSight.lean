import Multidispatch.Proofs.PreludeCalls

/-!
# Where the natives of the prelude are found first

In a new interpreter the overloads of the prelude are the first ones of the global scope, and
whatever a host registers and a program declares later is added behind them.  So a call finds them
first wherever an evaluation is started in the course of a session, be it deep inside of calls and
in a run that never ends; only a scope between the call and the global scope can put another
overload in front of them.

## Main definitions

* `Interpreter.Begins` — what an interpreter can be asked to evaluate
* `Interpreter.Evaluates` — an evaluation is started in the course of a session
* `declaredBehind` — the overloads of the global scope stay in front, as an invariant of evaluation
* `Environment.Unshadowed` — no scope in between has overloads of a name

## Main statements

* `Task.reaches_body` — a call reaches the body of the function that it selects
* `Interpreter.wellFormed_of_serveAll` — sessions keep an interpreter in good order
* `Task.Reaches.declares` — what an evaluation reaches has the overloads that were there, in front
* `Prelude.first_of_evaluates` — where a call finds the natives of the prelude first
-/

namespace Multidispatch

/-! ### Evaluations in the course of a session -/

namespace Interpreter

/-- What an interpreter can be asked to evaluate, with the settings for it: a program, or the call
of a function, whose name is numbered first. -/
inductive Begins (interpreter : Interpreter) : Settings → Task → Prop
  | program (block : Block Name) :
      Begins interpreter interpreter.settings (.stmts .global .void block)
  | call {spelling : String} {name : Name} {names : Interner} (args : List Value)
      (interned : Interner.intern spelling interpreter.names = .ok (name, names)) :
      Begins interpreter { interpreter with names : Interpreter }.settings
        (.dispatch .global name args .refuse)

/-- In the course of a session on the interpreter, an evaluation is started on a machine, under the
settings that are then in force. -/
def Evaluates (origin : Interpreter) (settings : Settings) (sub : Task) (machine : Machine) :
    Prop :=
  ∃ requests interpreter task fuel, origin.serveAll requests = some interpreter ∧
    interpreter.Begins settings task ∧ task.Reaches settings fuel interpreter.machine sub machine

end Interpreter

namespace Task

variable {settings : Settings} {self : Interpretation} {task sub : Task} {before machine : Machine}

/-- A task that ends exactly if a sub-evaluation ends starts this sub-evaluation. -/
theorem consults_of_isSome
    (follows : ∀ self, (task.step settings self before).isSome = (self sub machine).isSome) :
    task.Consults settings self before sub machine := by
  have another : ∃ outcome : Option (Except Fault sub.Result × Machine),
      outcome.isSome ≠ (self sub machine).isSome := by
    cases self sub machine with
    | none => exact ⟨some (.error { cause := .divisionByZero }, machine), nofun⟩
    | some _ => exact ⟨none, nofun⟩
  obtain ⟨outcome, differs⟩ := another
  refine ⟨outcome, fun same => differs ?_⟩
  rw [← follows self, ← same, follows, Interpretation.override_same]

/-- A call that selects a user function, and is not refused, reaches the body of the function. -/
theorem reaches_body {site home : ScopeId} {name : Name} {args : List Value} {fallback : Fallback}
    {callee : Overload} {body : Block Name}
    (selects : machine.env.resolve site name args = some callee)
    (user : callee.body = .user body home)
    (admitted : settings.refusal ⟨callee.name, args.length⟩ machine.calls machine.env.depth = none)
    (fuel : Nat) :
    (Task.dispatch site name args fallback).Reaches settings (fuel + 2) machine
      (.stmts machine.env.fresh .void body) (machine.entered settings callee home site args) := by
  have selection : ∀ self : Interpretation,
      (Task.dispatch site name args fallback).step settings self machine =
        self (.invoke callee body home site args) machine := by
    intro self
    show stepSelection settings self site name args fallback (machine.env.candidates site name)
      machine = _
    rw [Environment.resolve] at selects
    cases listed : machine.env.candidates site name with
    | nil =>
      rw [listed] at selects
      cases selects
    | cons head rest =>
      rw [listed] at selects
      simp only [stepSelection, selects, user]
  have entry : ∀ self : Interpretation,
      ((Task.invoke callee body home site args).step settings self machine).isSome =
        (self (.stmts machine.env.fresh .void body)
          (machine.entered settings callee home site args)).isSome := by
    intro self
    show (stepInvoke settings self callee body home site args machine).isSome = _
    rw [stepInvoke_apply, admitted]
    simp only [EvalM.protect, EvalM.traced]
    rcases self (.stmts machine.env.fresh .void body)
      (machine.entered settings callee home site args) with _ | ⟨_ | _, _⟩ <;> rfl
  have calls : (Task.dispatch site name args fallback).Consults settings (run settings (fuel + 1))
      machine (.invoke callee body home site args) machine :=
    consults_of_isSome fun self => by rw [selection]
  exact .within calls (.within (consults_of_isSome entry) (.start fuel _ _))

end Task

/-! ### Good order over a session -/

/-- Good order alone, without regard to how scopes are stacked. -/
def goodOrder (settings : Settings) : Invariant settings :=
  scopeDiscipline settings False False.elim

namespace Task.WellStarted

variable {settings : Settings} {task sub : Task} {fuel : Nat} {before after machine : Machine}

/-- A task that is started in good order has a layout of its own. -/
theorem exists_layout (started : task.WellStarted settings before) :
    ∃ layout : Layout, (goodOrder settings).holds layout task.scope before ∧
      (goodOrder settings).simulation.Permits layout task := by
  let layout : Layout := ⟨before.env.links, before.calls⟩
  refine ⟨layout, ⟨started.wellFormed, ⟨rfl, rfl⟩, False.elim⟩, ?_⟩
  refine (goodOrder settings).simulation.permits_of_forall (fun _ => trivial) ?_
  rintro callee body home caller args rfl
  have live := started.home_live callee body home caller args rfl
  have innermost : caller.index + 1 = before.env.depth := started.wellFormed.innermost
  show home.index ≤ caller.index
  omega

/-- An evaluation that is started in good order ends in good order. -/
theorem ends (started : task.WellStarted settings before) {outcome : Except Fault task.Result}
    (ended : task.run settings fuel before = some (outcome, after)) :
    after.WellFormed settings task.scope := by
  obtain ⟨layout, holds, permits⟩ := started.exists_layout
  exact (Invariant.holds_run permits holds ended).1

/-- All that an evaluation starts is started in good order, if the evaluation is. -/
theorem reached (started : task.WellStarted settings before)
    (reaches : task.Reaches settings fuel before sub machine) :
    machine.WellFormed settings sub.scope := by
  obtain ⟨layout, holds, permits⟩ := started.exists_layout
  obtain ⟨_, ⟨wellFormed, -⟩, -⟩ := Invariant.holds_reached reaches permits holds
  exact wellFormed

end Task.WellStarted

namespace Interpreter

variable {interpreter after : Interpreter} {settings : Settings} {task : Task}

theorem Begins.wellStarted (begins : interpreter.Begins settings task)
    (wellFormed : interpreter.machine.WellFormed interpreter.settings .global) :
    task.WellStarted settings interpreter.machine := by
  cases begins with
  | program block =>
    refine ⟨wellFormed, ?_⟩
    rintro _ _ _ _ _ ⟨⟩
  | call args interned =>
    refine ⟨wellFormed.of_limit rfl, ?_⟩
    rintro _ _ _ _ _ ⟨⟩

/-- A request keeps an interpreter in good order. -/
theorem wellFormed_of_serve {request : Request}
    (wellFormed : interpreter.machine.WellFormed interpreter.settings .global)
    (served : interpreter.serve request = some after) :
    after.machine.WellFormed after.settings .global := by
  cases answer_of_serve served with
  | failed => exact wellFormed
  | loaded interned => exact wellFormed.of_limit rfl
  | ran ended => exact ((Begins.program _).wellStarted wellFormed).ends ended
  | called interned ended => exact ((Begins.call _ interned).wellStarted wellFormed).ends ended
  | @bound spelling value names name interned =>
    have bound : Machine.WellFormed interpreter.settings .global { interpreter.machine with
        env := interpreter.machine.env.bindLocal .global name value } :=
      wellFormed.of_links (Environment.links_bindLocal _ _ _ _) rfl
        (wellFormed.atHome.bindLocal _ name value)
    exact bound.of_limit rfl
  | @registered spelling params native names name numbered grown known =>
    have own : ∀ body home, (Overload.mk name numbered (.native native)).body = .user body home →
        home = .global := by
      rintro _ _ ⟨⟩
    exact (wellFormed.register own).of_limit rfl
  | changed change => exact wellFormed.native _
  | cleared => exact wellFormed.native _

/-- A session keeps an interpreter in good order. -/
theorem wellFormed_of_serveAll {requests : List Request}
    (wellFormed : interpreter.machine.WellFormed interpreter.settings .global)
    (served : interpreter.serveAll requests = some after) :
    after.machine.WellFormed after.settings .global := by
  induction requests generalizing interpreter with
  | nil =>
    cases served
    exact wellFormed
  | cons request requests ih =>
    obtain ⟨between, first, rest⟩ := serveAll_cons served
    exact ih (wellFormed_of_serve wellFormed first) rest

end Interpreter

/-! ### Overloads in front of all that are added -/

/-- The overloads that the global scope has on a machine stay in front of all others.  This is the
growth of `declarations`, seen from its start, and so it holds also in runs that never end. -/
def declaredBehind (settings : Settings) (base : Machine) : Invariant settings where
  World := Unit
  holds _ _ m := (declarations settings).good m ∧ (declarations settings).le base m
  allowed _ _ := True
  enterable _ _ _ _ _ _ := True
  native _ holds := holds
  assign _ holds _ :=
    ((declarations settings).assign holds.1 trivial trivial).imp_right
      ((declarations settings).trans holds.2)
  declare holds _ :=
    ((declarations settings).declare holds.1 trivial).imp_right
      ((declarations settings).trans holds.2)
  select _ _ _ _ _ := trivial
  enter {_ s m callee body home args} holds _ _ := by
    refine ⟨(), fun _ _ => trivial, ?_, ?_⟩
    · exact ((declarations settings).enter callee home s holds.1 fun _ _ => trivial).imp_right
        ((declarations settings).trans holds.2)
    · intro m' holds'
      exact ((declarations settings).leave m.env.fresh holds'.1).imp_right
        ((declarations settings).trans holds'.2)

/-- Wherever an evaluation starts another one, the global scope has the overloads that it had at the
beginning, and possibly others behind them. -/
theorem Task.Reaches.declares {settings : Settings} {fuel : Nat} {task sub : Task}
    {before machine : Machine} (reaches : task.Reaches settings fuel before sub machine)
    (rooted : before.env.Rooted) :
    machine.env.Rooted ∧
      (before.env.scope .global).overloads <+: (machine.env.scope .global).overloads := by
  have permits : (declaredBehind settings before).simulation.Permits () task :=
    (declaredBehind settings before).simulation.permits_of_forall (fun _ => trivial)
      fun _ _ _ _ _ _ => trivial
  obtain ⟨_, holds, -⟩ := Invariant.holds_reached reaches permits ⟨rooted, List.prefix_refl _⟩
  exact holds

/-! ### From inner scopes -/

namespace Environment

variable {env : Environment} {site : ScopeId} {name : Name}

/-- Of the scopes that are seen from a scope, none has overloads of the name, unless it is the
global scope. -/
def Unshadowed (env : Environment) (site : ScopeId) (name : Name) : Prop :=
  ∀ id ∈ env.chain site, id ≠ .global → (env.scope id).overloadsOf name = []

/-- A call from a scope without others in between sees the overloads of the global scope first. -/
theorem Unshadowed.prefix_candidates (unshadowed : env.Unshadowed site name)
    (onChain : .global ∈ env.chain site) :
    (env.scope .global).overloadsOf name <+: env.candidates site name := by
  obtain ⟨inner, outer, split, notInner⟩ := List.eq_append_cons_of_mem onChain
  have nothing : inner.flatMap (fun id => (env.scope id).overloadsOf name) = [] := by
    refine List.flatMap_eq_nil_iff.mpr fun id listed => unshadowed id ?_ ?_
    · rw [split]
      exact List.mem_append_left _ listed
    · rintro rfl
      exact notInner listed
  rw [candidates, split, List.flatMap_append, nothing, List.nil_append, List.flatMap_cons]
  exact List.prefix_append _ _

end Environment

namespace Prelude

variable {options : Options} {origin : Interpreter} {settings : Settings} {sub : Task}
  {machine : Machine}

/-- Under the settings of every evaluation in the course of a session, the names are known that the
interpreter was given. -/
theorem grows_of_evaluates (evaluates : origin.Evaluates settings sub machine) :
    origin.names.spellings <+: settings.names.spellings := by
  obtain ⟨requests, interpreter, task, fuel, served, begins, -⟩ := evaluates
  have grown := Interpreter.serveAll_grows served
  cases begins with
  | program block => exact grown
  | call args interned => exact grown.trans (Interner.prefix_of_intern interned)

/-- In the course of a session on a new interpreter, a call that the prelude has natives for finds
these first, from every scope that sees no other overloads of the name before the global scope. -/
theorem first_of_evaluates {call : String} {name : Name} {site : ScopeId}
    (prelude : options.prelude = true) (built : Interpreter.build options = .ok origin)
    (listed : ∃ entry ∈ entries, entry.call = call)
    (evaluates : origin.Evaluates settings sub machine)
    (known : settings.names.get? call = some name) (live : site.index < machine.env.depth)
    (unshadowed : machine.env.Unshadowed site name) :
    First settings machine.env site call := by
  have grown := grows_of_evaluates evaluates
  obtain ⟨requests, interpreter, task, fuel, served, begins, reaches⟩ := evaluates
  have wellFormed := Interpreter.wellFormed_of_build built
  have wellFormed' := Interpreter.wellFormed_of_serveAll wellFormed served
  have rooted : origin.machine.env.Rooted :=
    wellFormed.nested.rooted (Nat.zero_lt_of_lt wellFormed.live)
  obtain ⟨rooted', declared⟩ := Interpreter.serveAll_declares rooted served
  obtain ⟨-, declared'⟩ := reaches.declares rooted'
  -- The overloads of the prelude were alone in the beginning, and have stayed in front.
  obtain ⟨name', known', alone⟩ := only_of_build prelude built listed
  obtain rfl : name' = name :=
    Option.some.inj ((Interner.get?_of_prefix grown known').symm.trans known)
  have leads : overloadsOf call name' <+: (machine.env.scope .global).overloadsOf name' := by
    rw [← alone, rooted.candidates_eq]
    exact (declared.trans declared').filter _
  have nested := ((begins.wellStarted wellFormed').reached reaches).nested
  have onChain : .global ∈ machine.env.chain site :=
    List.mem_of_getLast? (nested.getLast?_chain live)
  exact ⟨name', known, leads.trans (unshadowed.prefix_candidates onChain)⟩

end Prelude

end Multidispatch
