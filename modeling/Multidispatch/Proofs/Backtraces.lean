import Multidispatch.Proofs.Invariant
import Multidispatch.Proofs.PreludeNatives
import Multidispatch.Proofs.Tolerance

/-!
# Backtraces

A fault gets its backtrace where it is raised, and keeps it on its way out.  So the backtrace of a
fault that leaves an evaluation ends with the calls that were under way when the evaluation started,
the most recent first.  All this rests on natives raising their faults without a backtrace, as those
of the prelude do.

## Main definitions

* `Environment.PlainNatives` — natives raise their faults without a backtrace
* `ExactTrace` — the backtrace of a fault fits the calls under way
* `Sound` — a computation raises faults with exact backtraces only
* `tracing` — soundness as an agreement
* `Fault.Keeps` — a fault has the cause and the backtrace of an earlier one

## Main statements

* `sound_run` — every evaluation raises faults with exact backtraces only
* `keeps_of_reaches` — a fault keeps its cause and its backtrace on its way out
* `backtraces_are_exact` — what the backtrace of a fault holds, and that it is kept
-/

namespace Multidispatch

/-! ### Natives without backtraces -/

/-- The natives in an environment raise their faults without a backtrace. -/
def Environment.PlainNatives (env : Environment) : Prop :=
  ∀ id overload, overload ∈ (env.scope id).overloads → ∀ run, overload.body = .native run →
    Native.Plain run

namespace Environment.PlainNatives

variable {env env' : Environment}

theorem of_subset (plain : env.PlainNatives)
    (subset : ∀ id, (env'.scope id).overloads ⊆ (env.scope id).overloads) : env'.PlainNatives :=
  fun id overload listed => plain id overload (subset id listed)

theorem assign (plain : env.PlainNatives) (site : ScopeId) (name : Name) (value : Value) :
    (env.assign site name value).PlainNatives := by
  refine plain.of_subset fun id => ?_
  rw [overloads_assign]
  exact List.Subset.refl _

/-- The functions of a program are no natives. -/
theorem declare (plain : env.PlainNatives) (site : ScopeId) (name : Name)
    (params : List (Param Name)) (body : Block Name) :
    (env.register site ⟨name, params, .user body site⟩).PlainNatives := by
  intro id overload listed run native
  rcases mem_overloads_register listed with earlier | rfl
  · exact plain id overload earlier run native
  · cases native

theorem entered {machine : Machine} (plain : machine.env.PlainNatives) (settings : Settings)
    (callee : Overload) (home caller : ScopeId) (args : List Value) :
    (machine.entered settings callee home caller args).env.PlainNatives := by
  refine plain.of_subset fun id overload listed => ?_
  rw [Machine.entered, overloads_bindParams, scope_extended] at listed
  split at listed
  · cases listed
  · exact listed

theorem leave {machine : Machine} (plain : machine.env.PlainNatives) (scope : ScopeId) :
    (machine.leave scope).env.PlainNatives :=
  plain.of_subset fun _ => overloads_popScope_subset _ _ _

end Environment.PlainNatives

/-- In a new interpreter, natives raise their faults without a backtrace. -/
theorem Interpreter.plainNatives_of_build {options : Options} {interpreter : Interpreter}
    (built : Interpreter.build options = .ok interpreter) :
    interpreter.machine.env.PlainNatives := by
  intro id overload listed run native
  obtain ⟨name, entry, among, rfl⟩ := Interpreter.overloads_of_build built listed
  cases native
  exact Prelude.plain_run entry among

/-! ### What a backtrace holds -/

namespace CallStack

variable {names : Interner} {stack : CallStack} {fault : Fault} {trace : Backtrace}

@[simp] theorem size_capture (names : Interner) (stack : CallStack) :
    (stack.capture names).size = stack.depth := by
  simp [capture, Backtrace.size, depth]

theorem attach_of_empty (empty : stack.frames = []) : stack.attach names fault = fault := by
  simp [attach, isEmpty, empty]

/-- A fault that has a backtrace keeps it. -/
theorem attach_of_some (recorded : fault.backtrace = some trace) :
    stack.attach names fault = fault := by
  simp [attach, Fault.withBacktrace, recorded]

theorem backtrace_attach (nonempty : stack.frames ≠ []) (plain : fault.backtrace = none) :
    (stack.attach names fault).backtrace = some (stack.capture names) := by
  simp [attach, isEmpty, Fault.withBacktrace, nonempty, plain]

/-- A fault raised at a limit on the depth of calls lists as many calls as the limit allows. -/
theorem backtrace_attach_at_limit (names : Interner) (cause : Cause) {limit : Nat}
    (full : stack.depth = limit) :
    (limit = 0 → (stack.attach names { cause }).backtrace = none) ∧
      (0 < limit → ∃ trace, (stack.attach names { cause }).backtrace = some trace ∧
        trace.size = limit) := by
  constructor
  · intro zero
    rw [attach_of_empty (List.eq_nil_of_length_eq_zero (full.trans zero))]
  · intro positive
    have nonempty : stack.frames ≠ [] := by
      intro empty
      simp only [depth, empty, List.length_nil] at full
      omega
    exact ⟨_, backtrace_attach nonempty rfl, (size_capture names stack).trans full⟩

end CallStack

/-- The backtrace of a fault that leaves an evaluation fits the calls that were under way when the
evaluation started. -/
structure ExactTrace (settings : Settings) (stack : CallStack) (fault : Fault) : Prop where
  /-- The backtrace ends with these calls. -/
  recorded : stack.frames ≠ [] → ∃ trace, fault.backtrace = some trace ∧
    (stack.capture settings.names).frames <:+ trace.frames
  /-- There is no backtrace without calls. -/
  nonempty : ∀ trace, fault.backtrace = some trace → trace.frames ≠ []
  /-- No more calls are listed than the limit allows. -/
  limited : ∀ max, settings.depthLimit = some max → stack.depth ≤ max →
    ∀ trace, fault.backtrace = some trace → trace.size ≤ max

namespace ExactTrace

variable {settings : Settings} {stack : CallStack} {fault : Fault}

/-- A fault without a backtrace gets an exact one. -/
theorem attach (plain : fault.backtrace = none) :
    ExactTrace settings stack (stack.attach settings.names fault) := by
  by_cases empty : stack.frames = []
  · rw [CallStack.attach_of_empty empty]
    exact ⟨fun nonempty => (nonempty empty).elim, by simp [plain], by simp [plain]⟩
  · have captured : (stack.attach settings.names fault).backtrace =
        some (stack.capture settings.names) := CallStack.backtrace_attach empty plain
    refine ⟨fun _ => ⟨_, captured, List.suffix_refl _⟩, ?_, ?_⟩
    · intro trace recorded
      rw [captured] at recorded
      cases recorded
      simpa [CallStack.capture] using empty
    · intro max _ within trace recorded
      rw [captured] at recorded
      cases recorded
      rwa [CallStack.size_capture]

/-- A fault with an exact backtrace gets no other one. -/
theorem attach_eq (fits : ExactTrace settings stack fault) :
    stack.attach settings.names fault = fault := by
  by_cases empty : stack.frames = []
  · exact CallStack.attach_of_empty empty
  · obtain ⟨trace, recorded, -⟩ := fits.recorded empty
    exact CallStack.attach_of_some recorded

/-- A backtrace that fits the calls under way inside a call fits those outside. -/
theorem pop {frame : Frame} {frames : List Frame}
    (fits : ExactTrace settings ⟨frame :: frames⟩ fault)
    (room : ∀ max, settings.depthLimit = some max → frames.length < max) :
    ExactTrace settings ⟨frames⟩ fault where
  recorded _ := by
    obtain ⟨trace, recorded, suffix⟩ := fits.recorded (List.cons_ne_nil frame frames)
    exact ⟨trace, recorded, (List.suffix_cons _ _).trans suffix⟩
  nonempty := fits.nonempty
  limited max limit _ := fits.limited max limit (room max limit)

/-- Where no call may be entered, no fault has a backtrace. -/
theorem backtrace_eq_none (fits : ExactTrace settings stack fault)
    (limited : settings.depthLimit = some 0) (within : stack.depth ≤ 0) :
    fault.backtrace = none := by
  cases recorded : fault.backtrace with
  | none => rfl
  | some trace =>
    have size := Nat.le_zero.mp (fits.limited 0 limited within trace recorded)
    exact (fits.nonempty trace recorded (List.eq_nil_of_length_eq_zero size)).elim

end ExactTrace

/-! ### Evaluation raises exact backtraces -/

/-- A computation that is started with some calls under way ends with these calls under way, and the
faults that it raises have backtraces that fit them. -/
def Sound (settings : Settings) (stack : CallStack) {α : Type} (x : EvalM α) : Prop :=
  ∀ m outcome after, m.calls = stack → m.env.PlainNatives → x m = some (outcome, after) →
    after.calls = stack ∧ after.env.PlainNatives ∧
      ∀ fault, outcome = .error fault → ExactTrace settings stack fault

namespace Sound

variable {settings : Settings} {stack : CallStack} {α β : Type}

/-- What does not fail and leaves the environment alone. -/
theorem of_ok {x : EvalM α}
    (succeeds : ∀ m, ∃ a after, x m = some (.ok a, after) ∧ after.env = m.env ∧
      after.calls = m.calls) : Sound settings stack x := by
  intro m outcome after calls plain ended
  obtain ⟨a, after', ended', env, kept⟩ := succeeds m
  rw [ended'] at ended
  cases ended
  exact ⟨kept.trans calls, env ▸ plain, nofun⟩

theorem bind {x : EvalM α} {f : α → EvalM β} (first : Sound settings stack x)
    (next : ∀ a, Sound settings stack (f a)) : Sound settings stack (x >>= f) := by
  intro m outcome after calls plain ended
  rw [EvalM.bind_apply] at ended
  rcases hx : x m with _ | ⟨fault | a, m'⟩
  · rw [hx] at ended
    cases ended
  · rw [hx] at ended
    cases ended
    obtain ⟨calls', plain', fits⟩ := first m _ after calls plain hx
    refine ⟨calls', plain', ?_⟩
    rintro _ ⟨⟩
    exact fits fault rfl
  · rw [hx] at ended
    obtain ⟨calls', plain', -⟩ := first m _ m' calls plain hx
    exact next a m' outcome after calls' plain' ended

theorem raise (cause : Cause) : Sound settings stack (EvalM.raise settings cause : EvalM α) := by
  rintro m outcome after calls plain ⟨⟩
  refine ⟨calls, plain, ?_⟩
  rintro _ ⟨⟩
  rw [calls]
  exact ExactTrace.attach rfl

/-- The fault of a native gets its backtrace where the native is called. -/
theorem native {run : NativeM α} (plainRun : NativeM.Plain run) :
    Sound settings stack (EvalM.traced settings (EvalM.native run)) := by
  intro m outcome after calls plain ended
  obtain ⟨store, env, _⟩ := m
  subst calls
  rcases ran : run store with ⟨fault | a, store'⟩
  · simp only [EvalM.traced, EvalM.native, ran, Option.some.injEq, Prod.mk.injEq] at ended
    obtain ⟨rfl, rfl⟩ := ended
    refine ⟨rfl, plain, ?_⟩
    rintro _ ⟨⟩
    exact ExactTrace.attach (plainRun store fault store' ran)
  · simp only [EvalM.traced, EvalM.native, ran, Option.some.injEq, Prod.mk.injEq] at ended
    obtain ⟨rfl, rfl⟩ := ended
    exact ⟨rfl, plain, nofun⟩

/-- A change of the environment that brings no new natives. -/
theorem modifyEnv {change : Environment → Environment}
    (plain : ∀ env : Environment, env.PlainNatives → (change env).PlainNatives) :
    Sound settings stack (EvalM.modifyEnv change) := by
  rintro m outcome after calls plainBefore ⟨⟩
  exact ⟨calls, plain _ plainBefore, nofun⟩

theorem lookup (site : ScopeId) (name : Name) :
    Sound settings stack (EvalM.variable settings site name) := by
  refine Sound.bind (of_ok fun m => ⟨_, m, rfl, rfl, rfl⟩) fun found => ?_
  cases found with
  | some value => exact of_ok fun m => ⟨_, m, rfl, rfl, rfl⟩
  | none => exact raise _

end Sound

/-- Soundness as an agreement, in which the second computation plays no part.  The worlds are the
calls under way. -/
def tracing (settings : Settings) : Agreement settings settings where
  World := CallStack
  Agree stack _ _ x _ := Sound settings stack x
  allowed _ _ := True
  enterable _ _ _ _ _ _ := True
  pure a := .of_ok fun m => ⟨a, m, rfl, rfl, rfl⟩
  bind := Sound.bind
  raise := Sound.raise
  newText _ := .of_ok fun _ => ⟨_, _, rfl, rfl, rfl⟩
  newVector _ := .of_ok fun _ => ⟨_, _, rfl, rfl, rfl⟩
  items _ := .of_ok fun m => ⟨_, m, rfl, rfl, rfl⟩
  lookup _ := Sound.lookup _ _
  assign value _ := .modifyEnv fun _ plain => plain.assign _ _ value

section Calls

variable {settings : Settings} {self : Task.Interpretation}
  (sound : ∀ stack (task : Task), Sound settings stack (self task))
include sound

/-- A call by name raises the fault of the function that it selects, or a fault of its own. -/
theorem sound_stepDispatch {stack : CallStack} {site : ScopeId} {name : Name} {args : List Value}
    {fallback : Fallback} :
    Sound settings stack (Task.stepDispatch settings self site name args fallback) := by
  intro m outcome after calls plain ended
  have selection : Sound settings stack
      (Task.stepSelection settings self site name args fallback (m.env.candidates site name)) := by
    unfold Task.stepSelection
    cases found : m.env.candidates site name with
    | nil => exact Sound.raise _
    | cons first rest =>
      simp only
      cases selected : (first :: rest).find? (·.accepts args) with
      | none => exact Sound.native (fallback.plain_run _ args)
      | some callee =>
        have listed := List.mem_of_find?_eq_some selected
        rw [← found] at listed
        obtain ⟨id, -, held⟩ := Environment.exists_scope_of_mem_candidates listed
        obtain ⟨calleeName, params, body⟩ := callee
        cases body with
        | native run => exact Sound.native (plain id _ held run rfl args)
        | user body home => exact sound stack _
  exact selection m outcome after calls plain ended

/-- A fault that leaves the body of a function has a backtrace that fits the calls under way in the
body, and so has the fault of a call for which there is no scope left. -/
theorem stepInvoke_of_push {callee : Overload} {body : Block Name} {home caller : ScopeId}
    {args : List Value} {m after : Machine} {outcome : Except Fault Value} {entered : CallStack}
    (pushed : m.calls.push settings.depthLimit ⟨callee.name, args.length⟩ = .ok entered)
    (plain : m.env.PlainNatives)
    (ended : Task.stepInvoke settings self callee body home caller args m =
      some (outcome, after)) :
    after.calls = m.calls ∧ after.env.PlainNatives ∧
      ∀ fault, outcome = .error fault → ExactTrace settings entered fault := by
  obtain ⟨rfl, -⟩ := CallStack.push_eq_ok pushed
  rw [Task.stepInvoke_apply] at ended
  by_cases room : m.env.depth < Environment.capacity
  · simp only [Settings.refusal, pushed, room, if_true, EvalM.protect, EvalM.traced] at ended
    rcases ran : self (.stmts m.env.fresh .void body)
        (m.entered settings callee home caller args) with _ | ⟨result, inside⟩
    · rw [ran] at ended
      cases ended
    · obtain ⟨calls, plainInside, fits⟩ := sound ⟨⟨callee.name, args.length⟩ :: m.calls.frames⟩
        (.stmts m.env.fresh .void body) _ result inside rfl
        (plain.entered settings callee home caller args) ran
      have left : (inside.leave m.env.fresh).calls = m.calls := by
        simp only [Machine.leave, CallStack.pop, calls]
        rfl
      rw [ran] at ended
      cases result with
      | ok value =>
        cases ended
        refine ⟨left, plainInside.leave _, ?_⟩
        rintro _ ⟨⟩
      | error fault =>
        cases ended
        refine ⟨left, plainInside.leave _, ?_⟩
        rintro _ ⟨⟩
        rw [calls, (fits fault rfl).attach_eq]
        exact fits fault rfl
  · simp only [Settings.refusal, pushed, room, if_false] at ended
    cases ended
    refine ⟨rfl, plain, ?_⟩
    rintro _ ⟨⟩
    exact ExactTrace.attach rfl

/-- The call of a selected function raises a fault of its body, or a stack overflow of its own. -/
theorem sound_stepInvoke {stack : CallStack} {callee : Overload} {body : Block Name}
    {home caller : ScopeId} {args : List Value} :
    Sound settings stack (Task.stepInvoke settings self callee body home caller args) := by
  rintro m outcome after rfl plain ended
  cases pushed : m.calls.push settings.depthLimit ⟨callee.name, args.length⟩ with
  | error cause =>
    rw [Task.stepInvoke_apply] at ended
    simp only [Settings.refusal, pushed] at ended
    cases ended
    refine ⟨rfl, plain, ?_⟩
    rintro _ ⟨⟩
    exact ExactTrace.attach rfl
  | ok entered =>
    obtain ⟨calls, plainAfter, fits⟩ := stepInvoke_of_push sound pushed plain ended
    obtain ⟨rfl, room⟩ := CallStack.push_eq_ok pushed
    exact ⟨calls, plainAfter, fun fault failed => (fits fault failed).pop room⟩

end Calls

theorem tracing_permits (settings : Settings) (stack : CallStack) (task : Task) :
    (tracing settings).Permits stack task := by
  cases task with
  | invoke callee body home caller args => exact trivial
  | _ => exact fun _ _ => trivial

theorem tracing_lockstep (settings : Settings) : (tracing settings).Lockstep where
  outOfFuel _ _ _ _ _ ended := by cases ended
  declare _ := .modifyEnv fun _ plain => plain.declare _ _ _ _
  dispatch respects _ :=
    sound_stepDispatch fun stack task => respects stack task (tracing_permits settings stack task)
  invoke respects _ :=
    sound_stepInvoke fun stack task => respects stack task (tracing_permits settings stack task)

/-- Every evaluation raises faults with exact backtraces only. -/
theorem sound_run (settings : Settings) (fuel : Nat) (stack : CallStack) (task : Task) :
    Sound settings stack (task.run settings fuel) :=
  (tracing_lockstep settings).run_agrees fuel stack task (tracing_permits settings stack task)

/-! ### Faults on their way out -/

/-- A fault has the cause of an earlier one, and its backtrace if it had one. -/
def Fault.Keeps (fault later : Fault) : Prop :=
  later.cause = fault.cause ∧
    ∀ trace, fault.backtrace = some trace → later.backtrace = some trace

theorem Fault.Keeps.refl (fault : Fault) : fault.Keeps fault :=
  ⟨rfl, fun _ => id⟩

theorem Fault.Keeps.attach {fault later : Fault} (keeps : fault.Keeps later) (names : Interner)
    (stack : CallStack) : fault.Keeps (stack.attach names later) := by
  refine ⟨(stack.cause_attach names later).trans keeps.1, fun trace recorded => ?_⟩
  rw [CallStack.attach_of_some (keeps.2 trace recorded)]
  exact keeps.2 trace recorded

theorem Fault.Keeps.eq {fault later : Fault} (keeps : fault.Keeps later)
    (untraced : fault.backtrace = none → later.backtrace = none) : later = fault := by
  obtain ⟨cause, backtrace⟩ := fault
  obtain ⟨cause', backtrace'⟩ := later
  obtain ⟨causes, traces⟩ := keeps
  cases causes
  cases backtrace with
  | none => exact congrArg (Fault.mk cause) (untraced rfl)
  | some trace => exact congrArg (Fault.mk cause) (traces trace rfl)

/-- A fault that keeps the cause and the backtrace of another one is excused. -/
def Excuse.keeping (fault : Fault) : Excuse where
  covers
    | none => False
    | some later => fault.Keeps later
  attach names stack _ keeps := keeps.attach names stack

/-- A fault keeps its cause and its backtrace on its way out of an evaluation, through any number of
calls. -/
theorem keeps_of_reaches {settings : Settings} {fuel : Nat} {task sub : Task}
    {before between : Machine} (reaches : task.Reaches settings fuel before sub between)
    {fuel' : Nat} {fault : Fault} {last after : Machine} {outcome : Except Fault task.Result}
    (failed : sub.run settings fuel' between = some (.error fault, last))
    (ended : task.run settings fuel before = some (outcome, after)) :
    ∃ later, outcome = .error later ∧ fault.Keeps later := by
  induction reaches generalizing after with
  | start fuel task machine =>
    cases Task.run_unique failed ended
    exact ⟨fault, rfl, .refl fault⟩
  | @within fuel task middle sub before between machine consults _ ih =>
    rw [Task.run_succ] at ended
    -- The task ended, so the sub-evaluation that it started on the way has ended, too.
    cases ran : middle.run settings fuel between with
    | none =>
      have excused : Excused .unfinished (middle.run settings fuel between) := by
        rw [ran]
        exact trivial
      have unfinished := consults.excused excused
      rw [ended] at unfinished
      exact (Excused.not_unfinished_some unfinished).elim
    | some result =>
      obtain ⟨outcome', after'⟩ := result
      obtain ⟨later, rfl, keeps⟩ := ih failed ran
      have excused : Excused (.keeping fault) (middle.run settings fuel between) := by
        rw [ran]
        exact keeps
      have kept := consults.excused excused
      rw [ended] at kept
      cases outcome with
      | ok value => exact kept.elim
      | error later' => exact ⟨later', rfl, kept⟩

/-- Natives stay plain, and no more calls are under way than the limit allows or than there were at
the start. -/
def boundedCalls (settings : Settings) (start : Nat) : Invariant settings where
  World := Unit
  holds _ _ m := m.env.PlainNatives ∧
    ∀ limit, settings.depthLimit = some limit → m.calls.depth ≤ max limit start
  allowed _ _ := True
  enterable _ _ _ _ _ _ := True
  native _ holds := holds
  assign value holds _ := ⟨holds.1.assign _ _ value, holds.2⟩
  declare holds _ := ⟨holds.1.declare _ _ _ _, holds.2⟩
  select _ _ _ _ _ := trivial
  enter {w s m callee body home args} holds _ admitted := by
    have room := (Settings.room_of_refusal admitted).1
    refine ⟨(), fun _ _ => trivial, ⟨holds.1.entered settings callee home s args, ?_⟩, ?_⟩
    · intro limit limited
      exact Nat.le_trans (room limit limited) (Nat.le_max_left limit start)
    · intro m' holds'
      refine ⟨holds'.1.leave _, fun limit limited => ?_⟩
      have inside := holds'.2 limit limited
      have outside : (m'.leave m.env.fresh).calls.depth ≤ m'.calls.depth := by
        simp [Machine.leave, CallStack.pop, CallStack.depth]
      exact Nat.le_trans outside inside

/-- Wherever a sub-evaluation is started, natives are plain and the number of calls under way is
bounded. -/
theorem boundedCalls_reached {settings : Settings} {fuel : Nat} {task sub : Task}
    {machine between : Machine} (plain : machine.env.PlainNatives)
    (reaches : task.Reaches settings fuel machine sub between) :
    between.env.PlainNatives ∧ ∀ limit, settings.depthLimit = some limit →
      between.calls.depth ≤ max limit machine.calls.depth := by
  have permits : (boundedCalls settings machine.calls.depth).simulation.Permits () task :=
    Simulation.permits_of_forall _ (fun _ => trivial) fun _ _ _ _ _ _ => trivial
  have start : (boundedCalls settings machine.calls.depth).holds () task.scope machine :=
    ⟨plain, fun limit _ => Nat.le_max_right limit _⟩
  obtain ⟨_, holds, -⟩ := Invariant.holds_reached reaches permits start
  exact holds

/-- A call that reaches the limit finds exactly as many calls under way. -/
theorem depth_eq_limit {settings : Settings} {limit fuel : Nat} {task sub : Task}
    {machine between : Machine} (plain : machine.env.PlainNatives)
    (limited : settings.depthLimit = some limit) (within : machine.calls.depth ≤ limit)
    (reaches : task.Reaches settings fuel machine sub between)
    (full : limit ≤ between.calls.depth) : between.calls.depth = limit := by
  have atMost := (boundedCalls_reached plain reaches).2 limit limited
  rw [Nat.max_eq_left within] at atMost
  exact Nat.le_antisymm atMost full

/-- The fault of the call that is one too many is the fault of the whole evaluation. -/
theorem Fault.Keeps.eq_at_limit {settings : Settings} {limit : Nat} {stack : CallStack}
    {fault later : Fault} (keeps : fault.Keeps later) (fits : ExactTrace settings stack later)
    (limited : settings.depthLimit = some limit) (within : stack.depth ≤ limit)
    (listed : 0 < limit → ∃ trace, fault.backtrace = some trace) : later = fault := by
  refine keeps.eq fun untraced => ?_
  -- A fault that has no backtrace at the limit was raised where no call is ever entered.
  have zero : limit = 0 := by
    by_contra positive
    obtain ⟨trace, recorded⟩ := listed (Nat.pos_of_ne_zero positive)
    rw [untraced] at recorded
    cases recorded
  subst zero
  exact fits.backtrace_eq_none limited within

/-- If a fault has no backtrace in the end, no calls were under way where it was raised. -/
theorem no_calls_of_untraced {settings : Settings} {fuel fuel' : Nat} {task sub : Task}
    {machine between last : Machine} {fault later : Fault} (plain : machine.env.PlainNatives)
    (reaches : task.Reaches settings fuel machine sub between)
    (failed : sub.run settings fuel' between = some (.error fault, last))
    (keeps : fault.Keeps later) (untraced : later.backtrace = none) :
    between.calls.frames = [] := by
  by_contra underWay
  have plainBetween := (boundedCalls_reached plain reaches).1
  obtain ⟨-, -, raised⟩ :=
    sound_run settings fuel' between.calls sub between _ last rfl plainBetween failed
  obtain ⟨trace, recorded, -⟩ := (raised fault rfl).recorded underWay
  rw [keeps.2 trace recorded] at untraced
  cases untraced

/-- The call that is one too many fails where it is made, with all calls under way in its
backtrace. -/
theorem invoke_at_limit {settings : Settings} {limit : Nat}
    (limited : settings.depthLimit = some limit) {machine : Machine}
    (full : limit ≤ machine.calls.depth) (fuel : Nat) (callee : Overload) (body : Block Name)
    (home caller : ScopeId) (args : List Value) :
    (Task.invoke callee body home caller args).run settings (fuel + 1) machine =
      some (.error (machine.calls.attach settings.names { cause := .stackOverflow limit }),
        machine) := by
  have refused : settings.refusal ⟨callee.name, args.length⟩ machine.calls machine.env.depth =
      some (machine.calls.attach settings.names { cause := .stackOverflow limit }) := by
    simp only [Settings.refusal, CallStack.push, limited, full, if_true]
  rw [Task.run_succ]
  change Task.stepInvoke settings _ callee body home caller args machine = _
  rw [Task.stepInvoke_apply, refused]

/-- Backtraces are exact.  Whatever evaluation is started on a machine whose natives raise their
faults without a backtrace, as those of every new interpreter do:

* a fault that it ends with has a backtrace that ends with the calls under way at the start, and if
  there were none, it has no backtrace or one with calls;
* a fault of a function whose frame was pushed has a backtrace that ends with this frame and the
  calls before it;
* a call that exceeds the limit fails with a stack overflow, which has as many calls in its backtrace
  as the limit allows, and this is the fault that the evaluation ends with;
* a fault of any sub-evaluation ends the evaluation, with the same cause and the same backtrace; if
  there is no backtrace in the end, no calls were under way where the fault was raised. -/
theorem backtraces_are_exact (settings : Settings) (fuel : Nat) (task : Task) (machine : Machine)
    (plain : machine.env.PlainNatives) :
    (∀ options interpreter, Interpreter.build options = .ok interpreter →
      interpreter.machine.env.PlainNatives) ∧
    (∀ fault after, task.run settings fuel machine = some (.error fault, after) →
      (machine.calls.frames ≠ [] → ∃ trace, fault.backtrace = some trace ∧
        (machine.calls.capture settings.names).frames <:+ trace.frames) ∧
      (machine.calls.frames = [] → ∀ trace, fault.backtrace = some trace → trace.frames ≠ [])) ∧
    (∀ callee body home caller args entered fault after,
      machine.calls.push settings.depthLimit ⟨callee.name, args.length⟩ = .ok entered →
      (Task.invoke callee body home caller args).run settings fuel machine =
        some (.error fault, after) →
      ∃ trace, fault.backtrace = some trace ∧
        ⟨settings.names.spelling callee.name, args.length⟩ ::
          (machine.calls.capture settings.names).frames <:+ trace.frames) ∧
    (∀ limit callee body home caller args between,
      settings.depthLimit = some limit → machine.calls.depth ≤ limit →
      task.Reaches settings fuel machine (.invoke callee body home caller args) between →
      limit ≤ between.calls.depth →
      ∃ fault, fault.cause = .stackOverflow limit ∧
        (limit = 0 → fault.backtrace = none) ∧
        (0 < limit → ∃ trace, fault.backtrace = some trace ∧ trace.size = limit) ∧
        (∀ fuel', (Task.invoke callee body home caller args).run settings (fuel' + 1) between =
          some (.error fault, between)) ∧
        ∀ outcome after, task.run settings fuel machine = some (outcome, after) →
          outcome = .error fault) ∧
    ∀ sub between fuel' fault last outcome after,
      task.Reaches settings fuel machine sub between →
      sub.run settings fuel' between = some (.error fault, last) →
      task.run settings fuel machine = some (outcome, after) →
      ∃ later, outcome = .error later ∧ fault.Keeps later ∧ later.message = fault.message ∧
        (later.backtrace = none → between.calls.frames = []) := by
  have fits : ∀ fault after, task.run settings fuel machine = some (.error fault, after) →
      ExactTrace settings machine.calls fault := by
    intro fault after ended
    exact (sound_run settings fuel machine.calls task machine _ after rfl plain ended).2.2 fault rfl
  refine ⟨fun _ _ => Interpreter.plainNatives_of_build, ?_, ?_, ?_, ?_⟩
  · intro fault after ended
    exact ⟨(fits fault after ended).recorded, fun _ => (fits fault after ended).nonempty⟩
  · intro callee body home caller args entered fault after pushed ended
    cases fuel with
    | zero => cases ended
    | succ fuel =>
      rw [Task.run_succ] at ended
      have inside := (stepInvoke_of_push (fun stack task => sound_run settings fuel stack task)
        pushed plain ended).2.2 fault rfl
      obtain ⟨rfl, -⟩ := CallStack.push_eq_ok pushed
      exact inside.recorded (List.cons_ne_nil _ _)
  · intro limit callee body home caller args between limited within reaches full
    have depth := depth_eq_limit plain limited within reaches full
    obtain ⟨atZero, atPositive⟩ :=
      CallStack.backtrace_attach_at_limit settings.names (.stackOverflow limit) depth
    have failed := fun fuel' => invoke_at_limit limited full fuel' callee body home caller args
    refine ⟨_, CallStack.cause_attach _ _ _, atZero, atPositive, failed, ?_⟩
    intro outcome after ended
    obtain ⟨later, rfl, keeps⟩ := keeps_of_reaches reaches (failed 0) ended
    refine congrArg Except.error (keeps.eq_at_limit (fits later after ended) limited within ?_)
    intro positive
    obtain ⟨trace, recorded, -⟩ := atPositive positive
    exact ⟨trace, recorded⟩
  · intro sub between fuel' fault last outcome after reaches failed ended
    obtain ⟨later, rfl, keeps⟩ := keeps_of_reaches reaches failed ended
    exact ⟨later, rfl, keeps, congrArg Cause.message keeps.1,
      no_calls_of_untraced plain reaches failed keeps⟩

/-- A body that divides a variable by zero. -/
def dividingBody : Block Name :=
  [.expr (.binary (.arith .div) (.ident ⟨19⟩) (.int 0))]

/-- The function of one argument with this body. -/
def dividingFunction : Overload :=
  ⟨⟨18⟩, [⟨⟨19⟩, .any⟩], .user dividingBody .global⟩

/-- The division of the prelude. -/
def divisionNative : Overload :=
  ⟨ArithOp.div.name, [⟨.anonymous, .any⟩, ⟨.anonymous, .any⟩], .native ArithOp.div.apply⟩

/-- The machine with these two, while a function without arguments is being called. -/
def dividingMachine : Machine where
  store := { printer := .silent }
  env := (Environment.initial.register .global divisionNative).register .global dividingFunction
  calls := ⟨[⟨⟨17⟩, 0⟩]⟩

/-- Settings in which the functions have names, under a limit on the depth of calls. -/
def namedSettings (limit : Option Nat) : Settings where
  names := ⟨Interner.initial.spellings ++ ["f", "g", "x"]⟩
  scoping := .dynamic
  depthLimit := limit

theorem dividingMachine_plainNatives : dividingMachine.env.PlainNatives := by
  refine Environment.PlainNatives.declare ?_ .global ⟨18⟩ [⟨⟨19⟩, .any⟩] dividingBody
  intro id overload listed run native
  rcases Environment.mem_overloads_register listed with earlier | rfl
  · rw [Environment.overloads_initial] at earlier
    cases earlier
  · cases native
    exact ArithOp.plain_apply .div

/-- The backtrace of the division by zero lists the function that divides before the one that was
being called.  Where one call at a time is allowed, the function is not entered, and the backtrace
of the overflow lists one call. -/
theorem backtraces_are_exact_division :
    (∃ fault trace after,
      (Task.invoke dividingFunction dividingBody .global .global [.int 7]).run (namedSettings none)
        12 dividingMachine = some (.error fault, after) ∧
      fault.cause = .divisionByZero ∧ fault.backtrace = some trace ∧
      [⟨"g", 1⟩, ⟨"f", 0⟩] <:+ trace.frames) ∧
    ∃ fault trace after,
      (Task.invoke dividingFunction dividingBody .global .global [.int 7]).run
        (namedSettings (some 1)) 12 dividingMachine = some (.error fault, after) ∧
      fault.cause = .stackOverflow 1 ∧ fault.backtrace = some trace ∧ trace.size = 1 := by
  let task := Task.invoke dividingFunction dividingBody .global .global [.int 7]
  constructor
  · obtain ⟨fault, after, ended, cause⟩ : ∃ fault after,
        task.run (namedSettings none) 12 dividingMachine = some (.error fault, after) ∧
          fault.cause = .divisionByZero := ⟨_, _, rfl, rfl⟩
    obtain ⟨-, -, entered, -⟩ :=
      backtraces_are_exact (namedSettings none) 12 task dividingMachine dividingMachine_plainNatives
    obtain ⟨trace, recorded, suffix⟩ :=
      entered dividingFunction dividingBody .global .global [.int 7] _ fault after rfl ended
    exact ⟨fault, trace, after, ended, cause, recorded, suffix⟩
  · obtain ⟨-, -, -, overflow, -⟩ := backtraces_are_exact (namedSettings (some 1)) 12 task
      dividingMachine dividingMachine_plainNatives
    obtain ⟨fault, cause, -, listed, failed, -⟩ := overflow 1 dividingFunction dividingBody .global
      .global [.int 7] dividingMachine rfl (Nat.le_refl 1) (.start 12 task dividingMachine)
      (Nat.le_refl 1)
    obtain ⟨trace, recorded, size⟩ := listed Nat.one_pos
    exact ⟨fault, trace, dividingMachine, failed 11, cause, recorded, size⟩

end Multidispatch
