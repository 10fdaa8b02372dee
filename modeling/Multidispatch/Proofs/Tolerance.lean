import Multidispatch.Proofs.Coupling

/-!
# Two runs on one machine

Two runs of a task on the same machine can differ in three ways: one of them has more fuel, one of
them may nest more calls, or one of the evaluations that they start is replaced.  In each case the
runs are the same unless the first one is excused, since nothing recovers from a fault or from a lack
of fuel.

## Main definitions

* `Tolerance` — two settings and an excuse that covers their differences
* `EvalM.Below` — wherever a computation ends, another one ends alike

## Main statements

* `Tolerance.step_agrees`, `Tolerance.run_agrees` — a run is excused or the same
* `Task.run_mono` — more fuel does not change the outcome
* `Task.Consults.excused` — what becomes of a sub-evaluation that fails becomes of the task
* `Coupling.Agree.of_above`, `Coupling.Agree.of_below` — coupled runs with more or less fuel
-/

namespace Multidispatch

/-- Two settings that differ in the limit on the depth of calls at most, and an excuse that covers
every refusal that only the first ones cause. -/
structure Tolerance (left right : Settings) where
  /-- What excuses the first run. -/
  excuse : Excuse
  eq_but_limit : left = { right with depthLimit := left.depthLimit }
  refusals : ∀ frame calls depth,
    (∃ fault, left.refusal frame calls depth = some fault ∧ excuse.covers (some fault)) ∨
      left.refusal frame calls depth = right.refusal frame calls depth

namespace Tolerance

/-- Under the same settings, any excuse will do. -/
def same (settings : Settings) (excuse : Excuse) : Tolerance settings settings where
  excuse := excuse
  eq_but_limit := rfl
  refusals _ _ _ := .inr rfl

variable {left right : Settings} (tolerance : Tolerance left right)

include tolerance in
theorem names_eq : left.names = right.names := by
  rw [tolerance.eq_but_limit]

include tolerance in
theorem scoping_eq : left.scoping = right.scoping := by
  rw [tolerance.eq_but_limit]

/-- Two runs on equal machines, of which the first may be excused. -/
def coupling : Coupling left right where
  World := Unit
  related _ _ := Eq
  allowed _ _ := True
  enterable _ _ _ _ _ _ := True
  leftExcuse := tolerance.excuse
  rightExcuse := .nothing
  names_eq := tolerance.names_eq
  store_eq same := congrArg Machine.store same
  calls_eq same := congrArg Machine.calls same
  lookup_eq same _ := by rw [same]
  native _ same := by rw [same]
  assign _ same _ := by rw [same]

/-- On one machine, ending alike means ending with the same result. -/
theorem endsAlike_iff {α : Type} {x y : Option (Except Fault α × Machine)} :
    EndsAlike tolerance.excuse .nothing Eq x y ↔ Excused tolerance.excuse x ∨ x = y := by
  constructor
  · rintro (excused | excused | same)
    · exact .inl excused
    · exact (Excused.not_nothing excused).elim
    · exact .inr same.eq
  · rintro (excused | rfl)
    · exact .inl excused
    · refine .inr (.inr ?_)
      rcases x with _ | result
      · exact .none
      · exact .some ⟨rfl, rfl⟩

include tolerance in
theorem entered_eq (callee : Overload) (home caller : ScopeId) (args : List Value)
    (machine : Machine) :
    machine.entered left callee home caller args =
      machine.entered right callee home caller args := by
  unfold Machine.entered Settings.parentOf
  rw [tolerance.scoping_eq]

theorem lockstep : tolerance.coupling.agreement.Lockstep where
  outOfFuel _ _ _ := .inr (.inr .none)
  declare _ m n same := by
    cases same
    exact .inr (.inr (.some ⟨rfl, rfl⟩))
  dispatch respects _ := by
    refine Coupling.agree_read (fun m n same => by rw [same]) fun m n same => ?_
    exact Coupling.stepSelection_agrees respects (fun _ _ _ _ _ _ => trivial) m n same
  invoke {self other w s callee body home args} respects _ := by
    rintro m _ rfl
    rw [Task.stepInvoke_apply, Task.stepInvoke_apply]
    rcases tolerance.refusals ⟨callee.name, args.length⟩ m.calls m.env.depth with
      ⟨fault, refused, covered⟩ | refusals
    · rw [refused]
      exact .inl covered
    · rw [← refusals]
      cases left.refusal ⟨callee.name, args.length⟩ m.calls m.env.depth with
      | some fault => exact .inr (.inr (.some ⟨rfl, rfl⟩))
      | none =>
        have entered : tolerance.coupling.related w m.env.fresh
            (m.entered left callee home s args) (m.entered right callee home s args) :=
          tolerance.entered_eq callee home s args m
        refine Coupling.body_agrees respects (fun _ _ => trivial) entered ?_
        rintro m' _ rfl
        rfl

theorem permits (task : Task) : tolerance.coupling.agreement.Permits () task := by
  cases task with
  | invoke callee body home caller args => exact trivial
  | _ => exact fun _ _ => trivial

/-- If every sub-evaluation is excused or the same, then so is a step. -/
theorem step_agrees {self other : Task.Interpretation}
    (subs : ∀ task m, Excused tolerance.excuse (self task m) ∨ self task m = other task m)
    (task : Task) (machine : Machine) :
    Excused tolerance.excuse (task.step left self machine) ∨
      task.step left self machine = task.step right other machine := by
  have respects : tolerance.coupling.agreement.Respects self other := by
    rintro _ sub - m _ rfl
    exact tolerance.endsAlike_iff.mpr (subs sub m)
  have ends := tolerance.lockstep.step_agrees respects () task (tolerance.permits task)
  exact tolerance.endsAlike_iff.mp (ends machine machine rfl)

/-- A run is excused or the same, with any amount of fuel. -/
theorem run_agrees (fuel : Nat) (task : Task) (machine : Machine) :
    Excused tolerance.excuse (task.run left fuel machine) ∨
      task.run left fuel machine = task.run right fuel machine := by
  have ends := tolerance.lockstep.run_agrees fuel () task (tolerance.permits task)
  exact tolerance.endsAlike_iff.mp (ends machine machine rfl)

end Tolerance

namespace Task

/-! ### More fuel -/

/-- An outcome that is reached with some fuel is reached with one more unit. -/
theorem run_succ_of_run {settings : Settings} {fuel : Nat} {task : Task} {machine : Machine}
    {result : Except Fault task.Result × Machine}
    (ended : task.run settings fuel machine = some result) :
    task.run settings (fuel + 1) machine = some result := by
  induction fuel generalizing task machine with
  | zero =>
    rw [run_zero] at ended
    cases ended
  | succ fuel ih =>
    let tolerance := Tolerance.same settings .unfinished
    have subs : ∀ (sub : Task) (m : Machine),
        Excused .unfinished (sub.run settings fuel m) ∨
          sub.run settings fuel m = sub.run settings (fuel + 1) m := by
      intro sub m
      cases ran : sub.run settings fuel m with
      | none => exact .inl trivial
      | some _ => exact .inr (ih ran).symm
    have steps := tolerance.step_agrees subs task machine
    rw [← run_succ, ← run_succ, ended] at steps
    exact (steps.resolve_left Excused.not_unfinished_some).symm

/-- An outcome that is reached with some fuel is reached with more. -/
theorem run_mono {settings : Settings} {fuel more : Nat} {task : Task} {machine : Machine}
    {result : Except Fault task.Result × Machine} (enough : fuel ≤ more)
    (ended : task.run settings fuel machine = some result) :
    task.run settings more machine = some result := by
  induction enough with
  | refl => exact ended
  | step _ ih => exact run_succ_of_run ih

/-- Two amounts of fuel that suffice lead to the same outcome. -/
theorem run_unique {settings : Settings} {fuel fuel' : Nat} {task : Task} {machine : Machine}
    {result result' : Except Fault task.Result × Machine}
    (ended : task.run settings fuel machine = some result)
    (ended' : task.run settings fuel' machine = some result') : result = result' := by
  have ended := run_mono (Nat.le_max_left fuel fuel') ended
  have ended' := run_mono (Nat.le_max_right fuel fuel') ended'
  exact Option.some.inj (ended.symm.trans ended')

/-! ### Sub-evaluations that fail -/

/-- What becomes of a sub-evaluation that fails becomes of the task that started it.  If the task
went on, its outcome would not depend on that of the sub-evaluation. -/
theorem Consults.excused {settings : Settings} {self : Interpretation} {task sub : Task}
    {before machine : Machine} (consults : task.Consults settings self before sub machine)
    {excuse : Excuse} (excused : Excused excuse (self sub machine)) :
    Excused excuse (task.step settings self before) := by
  obtain ⟨outcome, differs⟩ := consults
  have subs : ∀ other m, Excused excuse (self other m) ∨
      self other m = self.override sub machine outcome other m := by
    intro other m
    by_cases replaced : other = sub ∧ m = machine
    · obtain ⟨rfl, rfl⟩ := replaced
      exact .inl excused
    · exact .inr (Interpretation.override_of_ne self outcome replaced).symm
  have steps := (Tolerance.same settings excuse).step_agrees subs task before
  exact steps.resolve_right fun same => differs same.symm

end Task

/-! ### Computations that end in fewer cases -/

namespace EvalM

variable {α β : Type}

/-- Wherever the first computation ends, the second one ends alike. -/
def Below (x y : EvalM α) : Prop :=
  ∀ m result, x m = some result → y m = some result

theorem Below.refl (x : EvalM α) : x.Below x :=
  fun _ _ => id

theorem Below.trans {x y z : EvalM α} (first : x.Below y) (second : y.Below z) : x.Below z :=
  fun m result ended => second m result (first m result ended)

theorem outOfFuel_below (x : EvalM α) : outOfFuel.Below x := by
  rintro m result ⟨⟩

theorem Below.bind {x y : EvalM α} {f g : α → EvalM β} (first : x.Below y)
    (next : ∀ a, (f a).Below (g a)) : (x >>= f).Below (y >>= g) := by
  intro m result ended
  rw [bind_apply] at ended ⊢
  rcases hx : x m with _ | ⟨fault | a, m'⟩
  · rw [hx] at ended
    cases ended
  · rw [hx] at ended
    rw [first m _ hx]
    exact ended
  · rw [hx] at ended
    rw [first m _ hx]
    exact next a m' result ended

theorem below_run (settings : Settings) {fuel more : Nat} (enough : fuel ≤ more) (task : Task) :
    (task.run settings fuel).Below (task.run settings more) :=
  fun _ _ => Task.run_mono enough

end EvalM

section Coupled

variable {α : Type} {left right : Settings} {coupling : Coupling left right} {w : coupling.World}
  {s : ScopeId} {x y y' : EvalM α}

/-- If a lack of fuel excuses the second run, it may end in fewer cases. -/
theorem Coupling.Agree.of_above (unfinished : coupling.rightExcuse.covers none)
    (agree : coupling.Agree w s x y') (below : y.Below y') : coupling.Agree w s x y := by
  intro m n related
  have ends := agree m n related
  cases ended : y n with
  | none => exact .inr (.inl unfinished)
  | some result => rwa [below n result ended] at ends

/-- If a lack of fuel excuses the first run, and nothing excuses the second, then the second may end
in more cases. -/
theorem Coupling.Agree.of_below (unfinished : coupling.leftExcuse.covers none)
    (strict : coupling.rightExcuse = .nothing) (agree : coupling.Agree w s x y)
    (below : y.Below y') : coupling.Agree w s x y' := by
  intro m n related
  have ends := agree m n related
  cases ended : y n with
  | some result => rwa [ended, ← below n result ended] at ends
  | none =>
    rw [ended, strict] at ends
    rcases ends with excused | excused | same
    · exact .inl excused
    · exact (Excused.not_nothing excused).elim
    · generalize x m = outcome at same ⊢
      cases same
      exact .inl unfinished

end Coupled

end Multidispatch
