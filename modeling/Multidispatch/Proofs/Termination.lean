import Multidispatch.Interpreter
import Multidispatch.Proofs.Coupling
import Multidispatch.Proofs.Stored

/-!
# Programs without `while` end

A program can fail to end in two ways only: by a `while`, and by calls that nest without end.  Where
the depth of calls is limited, a program without a `while` ends with a value or with a fault, if the
functions that it can call have none either.

The argument is lexicographic.  A call is entered only while fewer calls are under way than the limit
allows, so the calls that are left decrease along nested calls; within one call, evaluation follows
the syntax.  A `for` runs over the elements that its vector had when the loop was entered, so neither
a body that appends to the vector nor a vector that contains itself adds iterations.

## Main definitions

* `Expr.whileFree`, `Stmt.whileFree`, `Block.whileFree` — no `while` occurs, also not in a nested
  function
* `Settles` — with enough fuel, a computation has an outcome, which more fuel does not change
* `Machine.Bounded` — the calls under way, and that no stored function contains a `while`

## Main statements

* `Settles.bind` — what runs one after the other settles if its parts do
* `expr_settles`, `stmt_settles`, `dispatch_settles` — evaluation settles if the calls in it do
* `callsSettle` — under a limit on the depth of calls, calls settle
* `while_free_programs_end` — a program without a `while` ends
-/

namespace Multidispatch

/-! ### Programs without `while` -/

mutual

/-- Whether no `while` occurs in an expression. -/
def Expr.whileFree {ν : Type} : Expr ν → Bool
  | .int _ => true
  | .float _ => true
  | .bool _ => true
  | .text _ => true
  | .vector items => Expr.whileFreeAll items
  | .ident _ => true
  | .binary _ left right => left.whileFree && right.whileFree
  | .unary _ operand => operand.whileFree
  | .rangeTo stop => stop.whileFree
  | .rangeFrom start stop => start.whileFree && stop.whileFree
  | .member element collection => element.whileFree && collection.whileFree
  | .index target position => target.whileFree && position.whileFree
  | .call _ args => Expr.whileFreeAll args
  | .block body => Block.whileFree body

/-- Whether no `while` occurs in expressions. -/
def Expr.whileFreeAll {ν : Type} : List (Expr ν) → Bool
  | [] => true
  | e :: es => e.whileFree && Expr.whileFreeAll es

/-- Whether no `while` occurs in a statement; the body of a declared function counts. -/
def Stmt.whileFree {ν : Type} : Stmt ν → Bool
  | .expr e => e.whileFree
  | .assign _ value => value.whileFree
  | .ifThen condition body => condition.whileFree && Block.whileFree body
  | .ifElse condition body alternative =>
    condition.whileFree && Block.whileFree body && Block.whileFree alternative
  | .while _ _ => false
  | .for _ iterable body => iterable.whileFree && Block.whileFree body
  | .function _ _ body => Block.whileFree body

/-- Whether no `while` occurs in the statements of a block. -/
def Block.whileFree {ν : Type} : List (Stmt ν) → Bool
  | [] => true
  | s :: rest => s.whileFree && Block.whileFree rest

end

/-- An overload whose body, if it is a block of the program, contains no `while`. -/
def Overload.WhileFree (overload : Overload) : Prop :=
  ∀ body home, overload.body = .user body home → Block.whileFree body = true

/-! ### Computations that settle -/

variable {α β : Type}

/-- On every machine with a property the computation has an outcome if it gets enough fuel; more fuel
does not change the outcome, and the machine that it leaves has the property again. -/
def Settles (keeps : Machine → Prop) (x : Nat → EvalM α) : Prop :=
  ∀ m, keeps m → ∃ fuel result, keeps result.2 ∧ ∀ more, fuel ≤ more → x more m = some result

section Settles

variable {keeps : Machine → Prop}

/-- A computation that needs no fuel. -/
theorem settles_of_total {x : EvalM α}
    (total : ∀ m, keeps m → ∃ result, keeps result.2 ∧ x m = some result) :
    Settles keeps fun _ => x := by
  intro m kept
  obtain ⟨result, kept', ended⟩ := total m kept
  exact ⟨0, result, kept', fun _ _ => ended⟩

theorem settles_pure (a : α) : Settles keeps fun _ => pure a :=
  settles_of_total fun m kept => ⟨(.ok a, m), kept, rfl⟩

theorem settles_raise (settings : Settings) (cause : Cause) :
    Settles keeps fun _ => (EvalM.raise settings cause : EvalM α) :=
  settles_of_total fun m kept => ⟨(_, m), kept, rfl⟩

theorem settles_read (view : Machine → α) : Settles keeps fun _ => EvalM.read view :=
  settles_of_total fun m kept => ⟨(_, m), kept, rfl⟩

/-- What runs one after the other settles if its parts do. -/
theorem Settles.bind {x : Nat → EvalM α} {f : Nat → α → EvalM β} (first : Settles keeps x)
    (next : ∀ a, Settles keeps fun fuel => f fuel a) :
    Settles keeps fun fuel => x fuel >>= f fuel := by
  intro m kept
  obtain ⟨fuel, ⟨outcome, m'⟩, kept', ended⟩ := first m kept
  cases outcome with
  | error fault =>
    refine ⟨fuel, (.error fault, m'), kept', fun more enough => ?_⟩
    change (x more >>= f more) m = _
    rw [EvalM.bind_apply, ended more enough]
  | ok a =>
    obtain ⟨fuel', result, kept'', ended'⟩ := next a m' kept'
    refine ⟨max fuel fuel', result, kept'', fun more enough => ?_⟩
    change (x more >>= f more) m = _
    rw [EvalM.bind_apply, ended more (by omega)]
    exact ended' more (by omega)

/-- A step may take one unit of fuel. -/
theorem Settles.of_succ {x : Nat → EvalM α} (later : Settles keeps fun fuel => x (fuel + 1)) :
    Settles keeps x := by
  intro m kept
  obtain ⟨fuel, result, kept', ended⟩ := later m kept
  refine ⟨fuel + 1, result, kept', fun more enough => ?_⟩
  obtain ⟨less, rfl⟩ : ∃ less, more = less + 1 := ⟨more - 1, by omega⟩
  exact ended less (by omega)

theorem Settles.traced {x : Nat → EvalM α} (settles : Settles keeps x) (settings : Settings) :
    Settles keeps fun fuel => EvalM.traced settings (x fuel) := by
  intro m kept
  obtain ⟨fuel, ⟨outcome, m'⟩, kept', ended⟩ := settles m kept
  cases outcome with
  | error fault =>
    refine ⟨fuel, (.error (m'.calls.attach settings.names fault), m'), kept',
      fun more enough => ?_⟩
    simp only [EvalM.traced, ended more enough]
  | ok a =>
    refine ⟨fuel, (.ok a, m'), kept', fun more enough => ?_⟩
    simp only [EvalM.traced, ended more enough]

/-- An evaluation settles if its first step does. -/
theorem settles_of_step {settings : Settings} {task : Task}
    (step : Settles keeps fun fuel => task.step settings (Task.run settings fuel)) :
    Settles keeps fun fuel => task.run settings fuel := by
  refine Settles.of_succ ?_
  simpa only [Task.run_succ] using step

end Settles

/-! ### One call -/

/-- A machine on which given calls are under way, and no stored function contains a `while`. -/
structure Machine.Bounded (stack : CallStack) (machine : Machine) : Prop where
  calls : machine.calls = stack
  stored : machine.env.AllStored Overload.WhileFree

/-- While given calls are under way, every further call of a function without a `while` settles. -/
def CallsSettle (settings : Settings) (stack : CallStack) : Prop :=
  ∀ callee body home caller args, Block.whileFree body = true →
    Settles (Machine.Bounded stack) fun fuel =>
      (Task.invoke callee body home caller args).run settings fuel

section Walk

variable {settings : Settings} {stack : CallStack}

theorem settles_native (run : NativeM α) :
    Settles (Machine.Bounded stack) fun _ => EvalM.native run :=
  settles_of_total fun _ bounded => ⟨_, ⟨bounded.calls, bounded.stored⟩, rfl⟩

theorem settles_assign (s : ScopeId) (name : Name) (value : Value) :
    Settles (Machine.Bounded stack) fun _ => EvalM.modifyEnv (·.assign s name value) :=
  settles_of_total fun _ bounded =>
    ⟨_, ⟨bounded.calls, bounded.stored.assign s name value⟩, rfl⟩

theorem settles_declare (s : ScopeId) {overload : Overload} (free : overload.WhileFree) :
    Settles (Machine.Bounded stack) fun _ => EvalM.modifyEnv (·.register s overload) :=
  settles_of_total fun _ bounded => ⟨_, ⟨bounded.calls, bounded.stored.register s free⟩, rfl⟩

theorem settles_condition (construct : String) (value : Value) :
    Settles (Machine.Bounded stack) fun _ => EvalM.condition settings construct value := by
  cases value with
  | bool b => exact settles_pure b
  | _ => exact settles_raise settings _

/-- A `for` settles if its body does: there is an iteration for each element. -/
theorem forLoop_settles {s : ScopeId} {body : Block Name}
    (settles : Settles (Machine.Bounded stack) fun fuel =>
      (Task.stmts s .void body).run settings fuel)
    (binding : Name) (items : List Value) (last : Value) :
    Settles (Machine.Bounded stack) fun fuel =>
      (Task.forLoop s last binding body items).run settings fuel := by
  induction items generalizing last with
  | nil => exact settles_of_step (settles_pure last)
  | cons item items ih =>
    exact settles_of_step ((settles_assign s binding item).bind fun _ => settles.bind ih)

theorem dispatch_settles (calls : CallsSettle settings stack) (s : ScopeId) (name : Name)
    (args : List Value) (fallback : Fallback) :
    Settles (Machine.Bounded stack) fun fuel =>
      (Task.dispatch s name args fallback).run settings fuel := by
  refine settles_of_step ?_
  intro m bounded
  -- The overloads in sight are read off the machine, so the rest is seen from this machine alone.
  have selection : ∀ candidates, (∀ callee ∈ candidates, callee.WhileFree) →
      Settles (Machine.Bounded stack) fun fuel =>
        Task.stepSelection settings (Task.run settings fuel) s name args fallback candidates := by
    intro candidates free
    unfold Task.stepSelection
    cases candidates with
    | nil => exact settles_raise settings _
    | cons first rest =>
      simp only
      cases found : (first :: rest).find? (·.accepts args) with
      | none => exact (settles_native _).traced settings
      | some callee =>
        have userFree := free callee (List.mem_of_find?_eq_some found)
        obtain ⟨calleeName, params, body⟩ := callee
        cases body with
        | native run => exact (settles_native (run args)).traced settings
        | user body home => exact calls _ body home s args (userFree body home rfl)
  exact selection (m.env.candidates s name)
    (fun callee listed => bounded.stored.of_mem_candidates listed) m bounded

mutual

theorem expr_settles (calls : CallsSettle settings stack) (s : ScopeId) :
    (e : Expr Name) → e.whileFree = true →
    Settles (Machine.Bounded stack) fun fuel => (Task.expr s e).run settings fuel
  | .int n, _ => settles_of_step (settles_pure _)
  | .float x, _ => settles_of_step (settles_pure _)
  | .bool b, _ => settles_of_step (settles_pure _)
  | .text str, _ => settles_of_step (settles_native (Native.newText str))
  | .vector items, free =>
    settles_of_step ((exprs_settle calls s items free).bind fun values =>
      settles_native (Native.newVector values.toArray))
  | .ident name, _ => by
    refine settles_of_step ((settles_read _).bind fun found => ?_)
    cases found with
    | some value => exact settles_pure value
    | none => exact settles_raise settings _
  | .binary op left right, free => by
    rw [Expr.whileFree, Bool.and_eq_true] at free
    exact settles_of_step ((expr_settles calls s left free.1).bind fun _ =>
      (expr_settles calls s right free.2).bind fun _ => dispatch_settles calls s _ _ _)
  | .unary op operand, free =>
    settles_of_step ((expr_settles calls s operand free).bind fun _ => dispatch_settles calls s _ _ _)
  | .rangeTo stop, free =>
    settles_of_step ((expr_settles calls s stop free).bind fun _ => dispatch_settles calls s _ _ _)
  | .rangeFrom start stop, free => by
    rw [Expr.whileFree, Bool.and_eq_true] at free
    exact settles_of_step ((expr_settles calls s start free.1).bind fun _ =>
      (expr_settles calls s stop free.2).bind fun _ => dispatch_settles calls s _ _ _)
  | .member element collection, free => by
    rw [Expr.whileFree, Bool.and_eq_true] at free
    exact settles_of_step ((expr_settles calls s element free.1).bind fun _ =>
      (expr_settles calls s collection free.2).bind fun _ => dispatch_settles calls s _ _ _)
  | .index target position, free => by
    rw [Expr.whileFree, Bool.and_eq_true] at free
    exact settles_of_step ((expr_settles calls s target free.1).bind fun _ =>
      (expr_settles calls s position free.2).bind fun _ => dispatch_settles calls s _ _ _)
  | .call callee args, free =>
    settles_of_step ((exprs_settle calls s args free).bind fun _ => dispatch_settles calls s _ _ _)
  | .block body, free => settles_of_step (stmts_settle calls s .void body free)

theorem exprs_settle (calls : CallsSettle settings stack) (s : ScopeId) :
    (es : List (Expr Name)) → Expr.whileFreeAll es = true →
    Settles (Machine.Bounded stack) fun fuel => (Task.exprs s es).run settings fuel
  | [], _ => settles_of_step (settles_pure _)
  | e :: es, free => by
    rw [Expr.whileFreeAll, Bool.and_eq_true] at free
    exact settles_of_step ((expr_settles calls s e free.1).bind fun _ =>
      (exprs_settle calls s es free.2).bind fun _ => settles_pure _)

theorem stmt_settles (calls : CallsSettle settings stack) (s : ScopeId) (last : Value) :
    (stmt : Stmt Name) → stmt.whileFree = true →
    Settles (Machine.Bounded stack) fun fuel => (Task.stmt s last stmt).run settings fuel
  | .expr e, free => settles_of_step (expr_settles calls s e free)
  | .assign name value, free =>
    settles_of_step ((expr_settles calls s value free).bind fun v =>
      (settles_assign s name v).bind fun _ => settles_pure _)
  | .ifThen cond body, free => by
    rw [Stmt.whileFree, Bool.and_eq_true] at free
    refine settles_of_step ((expr_settles calls s cond free.1).bind fun value =>
      (settles_condition "if" value).bind fun holds => ?_)
    cases holds with
    | true => exact stmts_settle calls s .void body free.2
    | false => exact settles_pure _
  | .ifElse cond body alternative, free => by
    rw [Stmt.whileFree, Bool.and_eq_true, Bool.and_eq_true] at free
    refine settles_of_step ((expr_settles calls s cond free.1.1).bind fun value =>
      (settles_condition "if" value).bind fun holds => ?_)
    cases holds with
    | true => exact stmts_settle calls s .void body free.1.2
    | false => exact stmts_settle calls s .void alternative free.2
  | .while cond body, free => by cases free
  | .for binding iterable body, free => by
    rw [Stmt.whileFree, Bool.and_eq_true] at free
    refine settles_of_step ((expr_settles calls s iterable free.1).bind fun value => ?_)
    cases value with
    | vector ref =>
      -- The elements are read before the first iteration, so the body may change the vector at will.
      exact (settles_read _).bind fun items =>
        forLoop_settles (stmts_settle calls s .void body free.2) binding items.toList last
    | _ => exact settles_raise settings _
  | .function name params body, free => by
    have own : Overload.WhileFree ⟨name, params, .user body s⟩ := by
      rintro _ _ ⟨⟩
      exact free
    exact settles_of_step ((settles_declare s own).bind fun _ => settles_pure _)

theorem stmts_settle (calls : CallsSettle settings stack) (s : ScopeId) (last : Value) :
    (body : List (Stmt Name)) →
    Block.whileFree body = true →
    Settles (Machine.Bounded stack) fun fuel => (Task.stmts s last body).run settings fuel
  | [], _ => settles_of_step (settles_pure _)
  | stmt :: rest, free => by
    rw [Block.whileFree, Bool.and_eq_true] at free
    exact settles_of_step ((stmt_settles calls s last stmt free.1).bind fun last' =>
      stmts_settle calls s last' rest free.2)

end

end Walk

/-! ### Nested calls -/

/-- A call settles if its body does.  The body runs only if there is room for the call. -/
theorem callsSettle_of_inside {settings : Settings} {stack : CallStack} {limit : Nat}
    (limited : settings.depthLimit = some limit)
    (inside : ∀ frame, stack.depth < limit → ∀ s body, Block.whileFree body = true →
      Settles (Machine.Bounded ⟨frame :: stack.frames⟩) fun fuel =>
        (Task.stmts s .void body).run settings fuel) :
    CallsSettle settings stack := by
  intro callee body home caller args free
  refine settles_of_step fun m bounded => ?_
  change ∃ fuel result, _ ∧ ∀ more, fuel ≤ more →
    Task.stepInvoke settings (Task.run settings more) callee body home caller args m = some result
  simp only [Task.stepInvoke_apply]
  cases refused : settings.refusal ⟨callee.name, args.length⟩ m.calls m.env.depth with
  | some fault => exact ⟨0, (.error fault, m), bounded, fun _ _ => rfl⟩
  | none =>
    have room : stack.depth < limit := by
      rw [← bounded.calls]
      exact (Settings.room_of_refusal refused).1 limit limited
    have entered : (m.entered settings callee home caller args).Bounded
        ⟨⟨callee.name, args.length⟩ :: stack.frames⟩ := by
      refine ⟨?_, bounded.stored.entered settings callee home caller args⟩
      rw [Machine.entered, bounded.calls]
    obtain ⟨fuel, ⟨outcome, m'⟩, within, ended⟩ :=
      (inside _ room m.env.fresh body free).traced settings _ entered
    refine ⟨fuel, (outcome, m'.leave m.env.fresh), ⟨?_, within.stored.leave _⟩,
      fun more enough => ?_⟩
    · change m'.calls.pop = stack
      rw [within.calls]
      rfl
    · simp only [EvalM.protect, ended more enough]

/-- Under a limit on the depth of calls, all calls settle: the number of calls for which there is
room decreases from each call to those that are nested in it. -/
theorem callsSettle {settings : Settings} {limit : Nat} (limited : settings.depthLimit = some limit)
    (stack : CallStack) : CallsSettle settings stack := by
  obtain ⟨left, enough⟩ : ∃ left, limit - stack.depth ≤ left := ⟨_, Nat.le_refl _⟩
  induction left generalizing stack with
  | zero =>
    refine callsSettle_of_inside limited fun frame room => ?_
    omega
  | succ left ih =>
    refine callsSettle_of_inside limited fun frame room s body free => ?_
    have deeper : limit - CallStack.depth ⟨frame :: stack.frames⟩ ≤ left := by
      change limit - (stack.depth + 1) ≤ left
      omega
    exact stmts_settle (ih _ deeper) s .void body free

/-- A program without a `while` ends with a value or with a fault, whatever the machine is on which
it runs, under either scoping, if the depth of calls is limited and no stored function contains a
`while`.  There is an amount of fuel from which on the outcome is the same. -/
theorem while_free_programs_end (interpreter : Interpreter) (limit : Nat)
    (limited : interpreter.mode.depthLimit = some limit) (program : Block Name)
    (free : Block.whileFree program = true)
    (stored : interpreter.machine.env.AllStored Overload.WhileFree) :
    ∃ fuel outcome after, ∀ more, fuel ≤ more →
      interpreter.run more program = some (outcome, after) := by
  have limited' : interpreter.settings.depthLimit = some limit := limited
  obtain ⟨names, mode, scoping, machine⟩ := interpreter
  have settles := stmts_settle (callsSettle limited' machine.calls) .global .void program free
  obtain ⟨fuel, ⟨outcome, after⟩, -, ended⟩ := settles machine ⟨rfl, stored⟩
  refine ⟨fuel, outcome, ⟨names, mode, scoping, after⟩, fun more enough => ?_⟩
  have ran : execStmts (Interpreter.settings ⟨names, mode, scoping, machine⟩) more .global .void
      program machine = some (outcome, after) := ended more enough
  simp only [Interpreter.run, Interpreter.runOn, ran]

/-- A function that appends a vector to itself once for each of its elements, and then calls
itself. -/
def selfAppending : Block Name :=
  [.for ⟨20⟩ (.ident ⟨19⟩) [.expr (.call ⟨17⟩ [.ident ⟨19⟩, .ident ⟨19⟩])], .expr (.call ⟨18⟩ [])]

/-- An interpreter under a limit of three calls, on which that function and the native that appends
are stored. -/
def selfAppendingInterpreter : Interpreter where
  names := .initial
  mode := .bounded 3
  scoping := .dynamic
  machine :=
    { store := { printer := .silent }
      env := (Environment.initial.register .global
        ⟨⟨17⟩, [⟨.anonymous, Kind.vector⟩, ⟨.anonymous, .any⟩], .native Collection.push⟩).register
        .global ⟨⟨18⟩, [], .user selfAppending .global⟩
      calls := .empty }

theorem selfAppendingInterpreter_whileFree :
    selfAppendingInterpreter.machine.env.AllStored Overload.WhileFree := by
  refine (Environment.AllStored.initial.register _ ?_).register _ ?_
  · rintro _ _ ⟨⟩
  · rintro _ _ ⟨⟩
    rfl

/-- The vector that is iterated over grows and contains itself, and the function calls itself without
end; still, a program that calls it ends. -/
theorem while_free_programs_end_self_appending :
    ∃ fuel outcome after, ∀ more, fuel ≤ more →
      selfAppendingInterpreter.run more
        [.assign ⟨19⟩ (.vector [.int 1]), .expr (.call ⟨18⟩ [])] = some (outcome, after) :=
  while_free_programs_end selfAppendingInterpreter 3 rfl _ rfl selfAppendingInterpreter_whileFree

end Multidispatch
