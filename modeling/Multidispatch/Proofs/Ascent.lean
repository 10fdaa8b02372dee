import Multidispatch.Proofs.Coupling

/-!
# Orders that evaluation climbs

Some things only grow while a program runs: the overloads of the global scope, or the buffers of the
heap.  Such a growth is an order on machines that every single action climbs.  Evaluation then climbs
it as a whole, and more: wherever an evaluation starts another one, the machine on which that one ends
is below the machine on which the whole evaluation ends.  So whatever holds at some point of a run, and
is kept upwards, holds at the end.

An ascent may also ask that all values that a program handles are proper, for instance that they refer
to buffers that exist.

## Main definitions

* `Course` — an order on machines, with the machines and the values that are admitted
* `Ascent` — a course that every single action of a program keeps to
* `Ascent.Starts` — a task may be started on a machine
* `Ascent.Climbs` — a computation keeps to the course, and agrees with another one or reaches a goal

## Main statements

* `Ascent.step_climbs` — a step keeps to the course if the sub-evaluations do
* `Ascent.run_rises` — evaluation keeps to the course
* `Ascent.reached` — what an evaluation starts is started on the course and ends below its end
-/

namespace Multidispatch

/-- The values that a task is started with. -/
def Task.values : Task → List Value
  | .expr .. => []
  | .exprs .. => []
  | .stmts _ last _ => [last]
  | .stmt _ last _ => [last]
  | .whileLoop _ last _ _ => [last]
  | .forLoop _ last _ _ items => last :: items
  | .dispatch _ _ args _ => args
  | .invoke _ _ _ _ args => args

/-- The values that a task ends with. -/
def Task.resultValues : (task : Task) → task.Result → List Value
  | .exprs .., values => values
  | .expr .., value => [value]
  | .stmts .., value => [value]
  | .stmt .., value => [value]
  | .whileLoop .., value => [value]
  | .forLoop .., value => [value]
  | .dispatch .., value => [value]
  | .invoke .., value => [value]

/-- An order on machines, with the machines and the values that are admitted. -/
structure Course where
  /-- A machine comes before another one, or is the same. -/
  le : Machine → Machine → Prop
  /-- The machines on which evaluation may go on. -/
  good : Machine → Prop
  /-- The values that may be handled on a machine. -/
  proper : Machine → Value → Prop

/-- What a native leaves behind is on the course. -/
structure Course.Lands (course : Course) (m : Machine) (result : Except Fault Value × Store) :
    Prop where
  good : course.good { m with store := result.2 }
  le : course.le m { m with store := result.2 }
  proper : ∀ value, result.1 = .ok value → course.proper { m with store := result.2 } value

/-- A course that every single action of a program keeps to. -/
structure Ascent (settings : Settings) extends Course where
  /-- What a program may do. -/
  allowed : Action → Prop
  refl : ∀ m, le m m
  trans : ∀ {a b c}, le a b → le b c → le a c
  proper_mono : ∀ {m m' value}, le m m' → proper m value → proper m' value
  /-- A value that refers to no buffer is proper. -/
  scalar : ∀ {m} {value : Value}, value.text? = none → value.vector? = none → proper m value
  lookup : ∀ {m s name value}, good m → m.env.lookup s name = some value → proper m value
  items : ∀ {m ref}, good m → proper m (.vector ref) →
    ∀ value ∈ m.store.heap.items ref, proper m value
  newText : ∀ {m} (text : String), good m → toCourse.Lands m (Native.newText text m.store)
  newVector : ∀ {m} {items : Array Value}, good m → (∀ value ∈ items, proper m value) →
    toCourse.Lands m (Native.newVector items m.store)
  assign : ∀ {m s name value}, good m → allowed (.assign name) → proper m value →
    good { m with env := m.env.assign s name value } ∧
      le m { m with env := m.env.assign s name value }
  declare : ∀ {m s name params body}, good m → allowed (.declare name params body) →
    good { m with env := m.env.register s ⟨name, params, .user body s⟩ } ∧
      le m { m with env := m.env.register s ⟨name, params, .user body s⟩ }
  /-- A native that a call selects keeps to the course. -/
  native : ∀ {m s name callee run args}, good m → allowed (.call name) →
    callee ∈ m.env.candidates s name → callee.body = .native run →
    (∀ value ∈ args, proper m value) → toCourse.Lands m (run args m.store)
  /-- The body of a function that a call selects does only what is allowed. -/
  user : ∀ {m s name callee body home}, good m → allowed (.call name) →
    callee ∈ m.env.candidates s name → callee.body = .user body home →
    ∀ action ∈ Block.actions body, allowed action
  enter : ∀ {m} (callee : Overload) (home caller : ScopeId) {args}, good m →
    (∀ value ∈ args, proper m value) →
    good (m.entered settings callee home caller args) ∧
      le m (m.entered settings callee home caller args)
  leave : ∀ {m} (scope : ScopeId), good m → good (m.leave scope) ∧ le m (m.leave scope)

/-- A fallback leaves the store alone, and its value is a truth value. -/
theorem Fallback.run_eq (fallback : Fallback) (call : String) (args : List Value) (store : Store) :
    (∃ fault, fallback.run call args store = (.error fault, store)) ∨
      ∃ b, fallback.run call args store = (.ok (.bool b), store) := by
  cases fallback with
  | refuse => exact .inl ⟨_, rfl⟩
  | compareContents op =>
    simp only [Fallback.run]
    unfold CompareOp.byContents
    split
    · exact .inr ⟨_, rfl⟩
    · exact .inl ⟨_, rfl⟩
  | explainIndexing => exact .inl ⟨_, rfl⟩

namespace Ascent

variable {settings : Settings} (ascent : Ascent settings)

/-- A task does only what is allowed. -/
def Permits : Task → Prop
  | .invoke _ body _ _ _ => ∀ action ∈ Block.actions body, ascent.allowed action
  | task => ∀ action ∈ task.actions, ascent.allowed action

/-- A task may be started on a machine. -/
structure Starts (task : Task) (m : Machine) : Prop where
  good : ascent.good m
  proper : ∀ value ∈ task.values, ascent.proper m value
  permits : ascent.Permits task

/-- The values that a task ends with are proper. -/
def Yields (task : Task) (result : task.Result) (m : Machine) : Prop :=
  ∀ value ∈ task.resultValues result, ascent.proper m value

variable {α β : Type}

/-- Started on a machine, the first computation ends on a good one above it, with a result as
required.  The second computation has the same outcome, unless the first one reaches the goal. -/
structure Climbs (goal : Machine → Prop) (post : α → Machine → Prop) (x y : EvalM α) (m : Machine) :
    Prop where
  rises : ∀ outcome m', x m = some (outcome, m') →
    ascent.good m' ∧ ascent.le m m' ∧ ∀ a, outcome = .ok a → post a m'
  same_or : x m = y m ∨ ∀ outcome m', x m = some (outcome, m') → goal m'

variable {ascent} {goal : Machine → Prop}

/-- Expressions bring no values along. -/
theorem Starts.expr {m : Machine} {s : ScopeId} {e : Expr Name} (good : ascent.good m)
    (permits : ∀ action ∈ e.actions, ascent.allowed action) : ascent.Starts (.expr s e) m :=
  ⟨good, List.forall_mem_nil _, permits⟩

theorem Starts.exprs {m : Machine} {s : ScopeId} {es : List (Expr Name)} (good : ascent.good m)
    (permits : ∀ action ∈ Expr.actionsAll es, ascent.allowed action) :
    ascent.Starts (.exprs s es) m :=
  ⟨good, List.forall_mem_nil _, permits⟩

/-! ### Computations that keep to the course -/

namespace Climbs

variable {post : α → Machine → Prop} {post' : β → Machine → Prop} {x y : EvalM α} {m : Machine}

/-- A computation with one outcome, beside itself. -/
theorem of_end {outcome : Except Fault α} {m' : Machine} (ended : x m = some (outcome, m'))
    (good : ascent.good m') (le : ascent.le m m') (holds : ∀ a, outcome = .ok a → post a m') :
    ascent.Climbs goal post x x m where
  rises := by
    intro outcome' m'' ended'
    rw [ended] at ended'
    cases ended'
    exact ⟨good, le, holds⟩
  same_or := .inl rfl

theorem pure {a : α} (good : ascent.good m) (holds : post a m) :
    ascent.Climbs goal post (pure a) (pure a) m := by
  refine of_end rfl good (ascent.refl m) ?_
  rintro _ ⟨⟩
  exact holds

theorem raise (cause : Cause) (good : ascent.good m) :
    ascent.Climbs goal post (EvalM.raise settings cause) (EvalM.raise settings cause) m := by
  refine of_end rfl good (ascent.refl m) ?_
  rintro _ ⟨⟩

/-- What runs one after the other keeps to the course if its parts do.  The goal is kept upwards, so
it does not matter which part reaches it. -/
theorem bind (upward : ∀ {a b}, ascent.le a b → goal a → goal b) {f g : α → EvalM β}
    (first : ascent.Climbs goal post x y m)
    (next : ∀ a m', ascent.good m' → ascent.le m m' → post a m' →
      ascent.Climbs goal post' (f a) (g a) m') :
    ascent.Climbs goal post' (x >>= f) (y >>= g) m := by
  have rises : ∀ outcome m'', (x >>= f) m = some (outcome, m'') →
      ascent.good m'' ∧ ascent.le m m'' ∧ ∀ b, outcome = .ok b → post' b m'' := by
    intro outcome m'' ended
    rw [EvalM.bind_apply] at ended
    rcases hx : x m with _ | ⟨fault | a, m'⟩
    · rw [hx] at ended
      cases ended
    · rw [hx] at ended
      cases ended
      obtain ⟨good, le, -⟩ := first.rises _ _ hx
      exact ⟨good, le, nofun⟩
    · rw [hx] at ended
      obtain ⟨good, le, holds⟩ := first.rises _ _ hx
      obtain ⟨good', le', holds'⟩ := (next a m' good le (holds a rfl)).rises _ _ ended
      exact ⟨good', ascent.trans le le', holds'⟩
  refine ⟨rises, ?_⟩
  rw [EvalM.bind_apply, EvalM.bind_apply]
  rcases first.same_or with same | reached
  · rw [← same]
    rcases hx : x m with _ | ⟨fault | a, m'⟩
    · exact .inl rfl
    · exact .inl rfl
    · obtain ⟨good, le, holds⟩ := first.rises _ _ hx
      exact (next a m' good le (holds a rfl)).same_or
  · -- The first part has reached the goal, and the second one climbs on from there.
    refine .inr fun outcome m'' ended => ?_
    rcases hx : x m with _ | ⟨fault | a, m'⟩
    · rw [hx] at ended
      cases ended
    · rw [hx] at ended
      cases ended
      exact reached _ _ hx
    · rw [hx] at ended
      obtain ⟨good, le, holds⟩ := first.rises _ _ hx
      obtain ⟨-, le', -⟩ := (next a m' good le (holds a rfl)).rises _ _ ended
      exact upward le' (reached _ _ hx)

/-- Reading off the machine changes nothing. -/
theorem read {view : Machine → β} {f g : β → EvalM α}
    (next : ascent.Climbs goal post (f (view m)) (g (view m)) m) :
    ascent.Climbs goal post (EvalM.read view >>= f) (EvalM.read view >>= g) m :=
  ⟨next.rises, next.same_or⟩

theorem native {run : NativeM Value} (lands : ascent.toCourse.Lands m (run m.store)) :
    ascent.Climbs goal (fun value m' => ∀ v ∈ [value], ascent.proper m' v) (EvalM.native run)
      (EvalM.native run) m :=
  of_end rfl lands.good lands.le fun value ended =>
    List.forall_mem_singleton.mpr (lands.proper value ended)

theorem traced (climbs : ascent.Climbs goal post x y m) :
    ascent.Climbs goal post (EvalM.traced settings x) (EvalM.traced settings y) m := by
  have ends : ∀ outcome m', EvalM.traced settings x m = some (outcome, m') →
      ∃ outcome', x m = some (outcome', m') ∧ ∀ a, outcome = .ok a → outcome' = .ok a := by
    intro outcome m' ended
    unfold EvalM.traced at ended
    rcases hx : x m with _ | ⟨fault | a, m''⟩
    · rw [hx] at ended
      cases ended
    · rw [hx] at ended
      cases ended
      exact ⟨_, rfl, nofun⟩
    · rw [hx] at ended
      cases ended
      exact ⟨_, rfl, fun _ => id⟩
  constructor
  · intro outcome m' ended
    obtain ⟨outcome', ended', values⟩ := ends outcome m' ended
    obtain ⟨good, le, holds⟩ := climbs.rises _ _ ended'
    exact ⟨good, le, fun a same => holds a (values a same)⟩
  · rcases climbs.same_or with same | reached
    · refine .inl ?_
      unfold EvalM.traced
      rw [same]
    · refine .inr fun outcome m' ended => ?_
      obtain ⟨outcome', ended', -⟩ := ends outcome m' ended
      exact reached _ _ ended'

/-- Leaving a call keeps to the course. -/
theorem leave (upward : ∀ {a b}, ascent.le a b → goal a → goal b)
    (climbs : ascent.Climbs goal post x y m)
    (stable : ∀ a m' m'', ascent.le m' m'' → post a m' → post a m'') (scope : ScopeId) :
    ascent.Climbs goal post (EvalM.protect x (·.leave scope)) (EvalM.protect y (·.leave scope))
      m := by
  have ends : ∀ outcome m', EvalM.protect x (·.leave scope) m = some (outcome, m') →
      ∃ inside, x m = some (outcome, inside) ∧ m' = inside.leave scope := by
    intro outcome m' ended
    unfold EvalM.protect at ended
    rcases hx : x m with _ | ⟨outcome', inside⟩
    · rw [hx] at ended
      cases ended
    · rw [hx] at ended
      cases ended
      exact ⟨inside, rfl, rfl⟩
  constructor
  · intro outcome m' ended
    obtain ⟨inside, ended', rfl⟩ := ends outcome m' ended
    obtain ⟨good, le, holds⟩ := climbs.rises _ _ ended'
    obtain ⟨good', le'⟩ := ascent.leave scope good
    exact ⟨good', ascent.trans le le', fun a same => stable a _ _ le' (holds a same)⟩
  · rcases climbs.same_or with same | reached
    · refine .inl ?_
      unfold EvalM.protect
      rw [same]
    · refine .inr fun outcome m' ended => ?_
      obtain ⟨inside, ended', rfl⟩ := ends outcome m' ended
      obtain ⟨good, -, -⟩ := climbs.rises _ _ ended'
      exact upward (ascent.leave scope good).2 (reached _ _ ended')

end Climbs

/-! ### One step -/

section Step

variable {self other : Task.Interpretation} {m : Machine} {s : ScopeId}
  (upward : ∀ {a b}, ascent.le a b → goal a → goal b)
  (subs : ∀ task m, ascent.Starts task m →
    ascent.Climbs goal (ascent.Yields task) (self task) (other task) m)
include upward subs

/-- An expression of one operand is a call with the value of the operand. -/
theorem operand_climbs {e : Expr Name} {name : Name} {fallback : Fallback} (good : ascent.good m)
    (permits : ∀ action ∈ e.actions ++ [.call name], ascent.allowed action) :
    ascent.Climbs goal (fun value m' => ∀ v ∈ [value], ascent.proper m' v)
      (self (.expr s e) >>= fun a => self (.dispatch s name [a] fallback))
      (other (.expr s e) >>= fun a => other (.dispatch s name [a] fallback)) m := by
  rw [List.forall_mem_append] at permits
  refine (subs (.expr s e) m (.expr good permits.1)).bind upward fun a m' good' _ proper => ?_
  exact subs (.dispatch s name [a] fallback) m' ⟨good', proper, permits.2⟩

/-- An expression of two operands is a call with the values of the operands, in one order or the
other. -/
theorem operands_climb {d e : Expr Name} {name : Name} {fallback : Fallback}
    {args : Value → Value → List Value} (among : ∀ a b, ∀ v ∈ args a b, v = a ∨ v = b)
    (good : ascent.good m)
    (permits : ∀ action ∈ d.actions ++ e.actions ++ [.call name], ascent.allowed action) :
    ascent.Climbs goal (fun value m' => ∀ v ∈ [value], ascent.proper m' v)
      (self (.expr s d) >>= fun a => self (.expr s e) >>= fun b =>
        self (.dispatch s name (args a b) fallback))
      (other (.expr s d) >>= fun a => other (.expr s e) >>= fun b =>
        other (.dispatch s name (args a b) fallback)) m := by
  rw [List.forall_mem_append, List.forall_mem_append] at permits
  refine (subs (.expr s d) m (.expr good permits.1.1)).bind upward fun a m₁ good₁ _ left => ?_
  refine (subs (.expr s e) m₁ (.expr good₁ permits.1.2)).bind upward
    fun b m₂ good₂ le right => ?_
  refine subs (.dispatch s name (args a b) fallback) m₂ ⟨good₂, fun v listed => ?_, permits.2⟩
  rcases among a b v listed with rfl | rfl
  · exact ascent.proper_mono le (left v List.mem_cons_self)
  · exact right v List.mem_cons_self

theorem stepExpr_climbs {e : Expr Name} (good : ascent.good m)
    (permits : ∀ action ∈ e.actions, ascent.allowed action) :
    ascent.Climbs goal (ascent.Yields (.expr s e)) (Task.stepExpr settings self s e)
      (Task.stepExpr settings other s e) m := by
  have constant : ∀ {value : Value}, value.text? = none → value.vector? = none →
      ∀ v ∈ [value], ascent.proper m v :=
    fun noText noVector => List.forall_mem_singleton.mpr (ascent.scalar noText noVector)
  cases e with
  | int n => exact .pure good (constant rfl rfl)
  | float x => exact .pure good (constant rfl rfl)
  | bool b => exact .pure good (constant rfl rfl)
  | text str => exact .native (ascent.newText str good)
  | vector items =>
    refine (subs (.exprs s items) m (.exprs good permits)).bind upward
      fun values m' good' _ proper => ?_
    have properItems : ∀ value ∈ values.toArray, ascent.proper m' value :=
      fun value listed => proper value (List.mem_toArray.mp listed)
    exact .native (ascent.newVector good' properItems)
  | ident name =>
    change ascent.Climbs goal _
      (EvalM.read (·.env.lookup s name) >>= _) (EvalM.read (·.env.lookup s name) >>= _) m
    refine .read ?_
    cases found : m.env.lookup s name with
    | some value => exact .pure good (List.forall_mem_singleton.mpr (ascent.lookup good found))
    | none => exact .raise _ good
  | binary op left right => exact operands_climb upward subs (by simp) good permits
  | unary op operand => exact operand_climbs upward subs good permits
  | rangeTo stop => exact operand_climbs upward subs good permits
  | rangeFrom start stop => exact operands_climb upward subs (by simp) good permits
  | member element collection =>
    exact operands_climb upward subs (by simp [or_comm]) good permits
  | index target position => exact operands_climb upward subs (by simp) good permits
  | call callee args =>
    rw [Expr.actions, List.forall_mem_append] at permits
    refine (subs (.exprs s args) m (.exprs good permits.1)).bind upward
      fun values m' good' _ proper => ?_
    exact subs (.dispatch s callee values .refuse) m' ⟨good', proper, permits.2⟩
  | block body => exact subs (.stmts s .void body) m ⟨good, constant rfl rfl, permits⟩

theorem stepExprs_climbs {es : List (Expr Name)} (good : ascent.good m)
    (permits : ∀ action ∈ Expr.actionsAll es, ascent.allowed action) :
    ascent.Climbs goal (ascent.Yields (.exprs s es)) (Task.stepExprs self s es)
      (Task.stepExprs other s es) m := by
  cases es with
  | nil => exact .pure good (List.forall_mem_nil _)
  | cons e es =>
    rw [Expr.actionsAll, List.forall_mem_append] at permits
    refine (subs (.expr s e) m (.expr good permits.1)).bind upward fun a m₁ good₁ _ head => ?_
    refine (subs (.exprs s es) m₁ (.exprs good₁ permits.2)).bind upward
      fun values m₂ good₂ le tail => ?_
    refine .pure good₂ (List.forall_mem_cons.mpr ⟨?_, tail⟩)
    exact ascent.proper_mono le (head a List.mem_cons_self)

theorem stepStmts_climbs {last : Value} {body : Block Name}
    (starts : ascent.Starts (.stmts s last body) m) :
    ascent.Climbs goal (ascent.Yields (.stmts s last body)) (Task.stepStmts self s last body)
      (Task.stepStmts other s last body) m := by
  obtain ⟨good, proper, permits⟩ := starts
  cases body with
  | nil => exact .pure good proper
  | cons stmt rest =>
    obtain ⟨first, later⟩ := List.forall_mem_append.mp permits
    refine (subs (.stmt s last stmt) m ⟨good, proper, first⟩).bind upward
      fun last' m' good' _ proper' => ?_
    exact subs (.stmts s last' rest) m' ⟨good', proper', later⟩

omit upward subs in
theorem condition_climbs (construct : String) (value : Value) (good : ascent.good m) :
    ascent.Climbs goal (fun _ _ => True) (EvalM.condition settings construct value)
      (EvalM.condition settings construct value) m := by
  cases value with
  | bool b => exact .pure good trivial
  | _ => exact .raise _ good

/-- A construct with a condition goes on with the truth value of the condition. -/
theorem conditional_climbs {cond : Expr Name} (construct : String) {f g : Bool → EvalM Value}
    {post : Value → Machine → Prop} (good : ascent.good m)
    (permits : ∀ action ∈ cond.actions, ascent.allowed action)
    (next : ∀ holds m', ascent.good m' → ascent.le m m' →
      ascent.Climbs goal post (f holds) (g holds) m') :
    ascent.Climbs goal post
      (self (.expr s cond) >>= fun value => EvalM.condition settings construct value >>= f)
      (other (.expr s cond) >>= fun value => EvalM.condition settings construct value >>= g) m := by
  refine (subs (.expr s cond) m (.expr good permits)).bind upward fun value m₁ good₁ le₁ _ => ?_
  refine (condition_climbs construct value good₁).bind upward fun holds m₂ good₂ le₂ _ => ?_
  exact next holds m₂ good₂ (ascent.trans le₁ le₂)

theorem stepStmt_climbs {last : Value} {stmt : Stmt Name}
    (starts : ascent.Starts (.stmt s last stmt) m) :
    ascent.Climbs goal (ascent.Yields (.stmt s last stmt)) (Task.stepStmt settings self s last stmt)
      (Task.stepStmt settings other s last stmt) m := by
  obtain ⟨good, proper, permits⟩ := starts
  have void : ∀ m', ∀ v ∈ [Value.void], ascent.proper m' v :=
    fun m' => List.forall_mem_singleton.mpr (ascent.scalar rfl rfl)
  cases stmt with
  | expr e => exact subs (.expr s e) m (.expr good permits)
  | assign name value =>
    obtain ⟨inValue, assigns⟩ := List.forall_mem_append.mp permits
    refine (subs (.expr s value) m (.expr good inValue)).bind upward
      fun v m' good' _ proper' => ?_
    obtain ⟨good'', le''⟩ := ascent.assign (s := s) good' (assigns _ List.mem_cons_self)
      (proper' v List.mem_cons_self)
    have changed : ascent.Climbs goal (fun _ _ => True) (EvalM.modifyEnv (·.assign s name v))
        (EvalM.modifyEnv (·.assign s name v)) m' := .of_end rfl good'' le'' fun _ _ => trivial
    exact changed.bind upward fun _ m₂ good₂ _ _ => .pure good₂ (void m₂)
  | ifThen cond body =>
    obtain ⟨inCond, inBody⟩ := List.forall_mem_append.mp permits
    refine conditional_climbs upward subs "if" good inCond fun holds m' good' _ => ?_
    cases holds with
    | true => exact subs (.stmts s .void body) m' ⟨good', void m', inBody⟩
    | false => exact .pure good' (void m')
  | ifElse cond body alternative =>
    obtain ⟨inBoth, inAlternative⟩ := List.forall_mem_append.mp permits
    obtain ⟨inCond, inBody⟩ := List.forall_mem_append.mp inBoth
    refine conditional_climbs upward subs "if" good inCond fun holds m' good' _ => ?_
    cases holds with
    | true => exact subs (.stmts s .void body) m' ⟨good', void m', inBody⟩
    | false => exact subs (.stmts s .void alternative) m' ⟨good', void m', inAlternative⟩
  | «while» cond body => exact subs (.whileLoop s last cond body) m ⟨good, proper, permits⟩
  | «for» binding iterable body =>
    obtain ⟨inIterable, inLoop⟩ := List.forall_mem_append.mp permits
    refine (subs (.expr s iterable) m (.expr good inIterable)).bind upward
      fun value m' good' le proper' => ?_
    cases value with
    | vector ref =>
      change ascent.Climbs goal _ (EvalM.read (·.store.heap.items ref) >>= _)
        (EvalM.read (·.store.heap.items ref) >>= _) m'
      refine .read ?_
      refine subs (.forLoop s last binding body _) m' ⟨good', List.forall_mem_cons.mpr ⟨?_, ?_⟩,
        inLoop⟩
      · exact ascent.proper_mono le (proper last List.mem_cons_self)
      · intro item listed
        exact ascent.items good' (proper' _ List.mem_cons_self) item (by simpa using listed)
    | _ => exact .raise _ good'
  | function name params body =>
    obtain ⟨good', le⟩ := ascent.declare (s := s) good (List.forall_mem_singleton.mp permits)
    have changed : ascent.Climbs goal (fun _ _ => True)
        (EvalM.modifyEnv (·.register s ⟨name, params, .user body s⟩))
        (EvalM.modifyEnv (·.register s ⟨name, params, .user body s⟩)) m :=
      .of_end rfl good' le fun _ _ => trivial
    exact changed.bind upward fun _ m₂ good₂ _ _ => .pure good₂ (void m₂)

theorem stepWhile_climbs {last : Value} {cond : Expr Name} {body : Block Name}
    (starts : ascent.Starts (.whileLoop s last cond body) m) :
    ascent.Climbs goal (ascent.Yields (.whileLoop s last cond body))
      (Task.stepWhile settings self s last cond body)
      (Task.stepWhile settings other s last cond body) m := by
  obtain ⟨good, proper, permits⟩ := starts
  obtain ⟨inCond, inBody⟩ := List.forall_mem_append.mp permits
  refine conditional_climbs upward subs "while" good inCond fun holds m' good' le => ?_
  cases holds with
  | true =>
    have void : ∀ v ∈ [Value.void], ascent.proper m' v :=
      List.forall_mem_singleton.mpr (ascent.scalar rfl rfl)
    refine (subs (.stmts s .void body) m' ⟨good', void, inBody⟩).bind upward
      fun last' m₂ good₂ _ proper₂ => ?_
    exact subs (.whileLoop s last' cond body) m₂ ⟨good₂, proper₂, permits⟩
  | false => exact .pure good' fun v listed => ascent.proper_mono le (proper v listed)

theorem stepFor_climbs {last : Value} {binding : Name} {body : Block Name} {items : List Value}
    (starts : ascent.Starts (.forLoop s last binding body items) m) :
    ascent.Climbs goal (ascent.Yields (.forLoop s last binding body items))
      (Task.stepFor self s last binding body items)
      (Task.stepFor other s last binding body items) m := by
  obtain ⟨good, proper, permits⟩ := starts
  obtain ⟨properLast, properItems⟩ := List.forall_mem_cons.mp proper
  cases items with
  | nil => exact .pure good (List.forall_mem_singleton.mpr properLast)
  | cons item items =>
    obtain ⟨assigns, inBody⟩ := List.forall_mem_cons.mp permits
    obtain ⟨properItem, properRest⟩ := List.forall_mem_cons.mp properItems
    obtain ⟨good', le'⟩ := ascent.assign (s := s) good assigns properItem
    have changed : ascent.Climbs goal (fun _ _ => True) (EvalM.modifyEnv (·.assign s binding item))
        (EvalM.modifyEnv (·.assign s binding item)) m := .of_end rfl good' le' fun _ _ => trivial
    refine changed.bind upward fun _ m₁ good₁ le₁ _ => ?_
    have void : ∀ v ∈ [Value.void], ascent.proper m₁ v :=
      List.forall_mem_singleton.mpr (ascent.scalar rfl rfl)
    refine (subs (.stmts s .void body) m₁ ⟨good₁, void, inBody⟩).bind upward
      fun last' m₂ good₂ le₂ proper₂ => ?_
    refine subs (.forLoop s last' binding body items) m₂ ⟨good₂, List.forall_mem_cons.mpr ⟨?_, ?_⟩,
      permits⟩
    · exact proper₂ last' List.mem_cons_self
    · exact fun v listed => ascent.proper_mono (ascent.trans le₁ le₂) (properRest v listed)

omit upward in
theorem stepDispatch_climbs {name : Name} {args : List Value} {fallback : Fallback}
    (starts : ascent.Starts (.dispatch s name args fallback) m) :
    ascent.Climbs goal (ascent.Yields (.dispatch s name args fallback))
      (Task.stepDispatch settings self s name args fallback)
      (Task.stepDispatch settings other s name args fallback) m := by
  obtain ⟨good, proper, permits⟩ := starts
  have calls : ascent.allowed (.call name) := List.forall_mem_singleton.mp permits
  refine .read ?_
  unfold Task.stepSelection
  cases seen : m.env.candidates s name with
  | nil => exact .raise _ good
  | cons first rest =>
    simp only
    cases found : (first :: rest).find? (·.accepts args) with
    | none =>
      have lands : ascent.toCourse.Lands m
          (fallback.run (settings.names.spelling name) args m.store) := by
        rcases fallback.run_eq (settings.names.spelling name) args m.store with
          ⟨fault, ended⟩ | ⟨b, ended⟩
        · rw [ended]
          exact ⟨good, ascent.refl m, nofun⟩
        · rw [ended]
          refine ⟨good, ascent.refl m, ?_⟩
          rintro _ ⟨⟩
          exact ascent.scalar rfl rfl
      exact (Climbs.native lands).traced
    | some callee =>
      have listed : callee ∈ m.env.candidates s name := by
        rw [seen]
        exact List.mem_of_find?_eq_some found
      obtain ⟨calleeName, params, body⟩ := callee
      cases body with
      | native run =>
        have lands : ascent.toCourse.Lands m (run args m.store) :=
          ascent.native good calls listed rfl proper
        exact (Climbs.native lands).traced
      | user body home =>
        have inBody : ∀ action ∈ Block.actions body, ascent.allowed action :=
          ascent.user good calls listed rfl
        exact subs (.invoke ⟨calleeName, params, .user body home⟩ body home s args) m
          ⟨good, proper, inBody⟩

theorem stepInvoke_climbs {callee : Overload} {body : Block Name} {home caller : ScopeId}
    {args : List Value} (starts : ascent.Starts (.invoke callee body home caller args) m) :
    ascent.Climbs goal (ascent.Yields (.invoke callee body home caller args))
      (Task.stepInvoke settings self callee body home caller args)
      (Task.stepInvoke settings other callee body home caller args) m := by
  obtain ⟨good, proper, permits⟩ := starts
  obtain ⟨good', le⟩ := ascent.enter callee home caller good proper
  have void : ∀ v ∈ [Value.void], ascent.proper (m.entered settings callee home caller args) v :=
    List.forall_mem_singleton.mpr (ascent.scalar rfl rfl)
  have stable : ∀ (a : Value) (m' m'' : Machine), ascent.le m' m'' →
      (∀ v ∈ [a], ascent.proper m' v) → ∀ v ∈ [a], ascent.proper m'' v :=
    fun a m' m'' le proper v listed => ascent.proper_mono le (proper v listed)
  have inside := ((subs (.stmts m.env.fresh .void body) _ ⟨good', void, permits⟩).traced).leave
    upward stable m.env.fresh
  constructor
  · intro outcome m' ended
    rw [Task.stepInvoke_apply] at ended
    cases refused : settings.refusal ⟨callee.name, args.length⟩ m.calls m.env.depth with
    | some fault =>
      rw [refused] at ended
      cases ended
      exact ⟨good, ascent.refl m, nofun⟩
    | none =>
      rw [refused] at ended
      obtain ⟨good'', le'', holds⟩ := inside.rises _ _ ended
      exact ⟨good'', ascent.trans le le'', holds⟩
  · rw [Task.stepInvoke_apply, Task.stepInvoke_apply]
    cases settings.refusal ⟨callee.name, args.length⟩ m.calls m.env.depth with
    | some fault => exact .inl rfl
    | none => exact inside.same_or

/-- A step keeps to the course if the sub-evaluations do. -/
theorem step_climbs {task : Task} (starts : ascent.Starts task m) :
    ascent.Climbs goal (ascent.Yields task) (task.step settings self) (task.step settings other)
      m := by
  cases task with
  | expr s e => exact stepExpr_climbs upward subs starts.good starts.permits
  | exprs s es => exact stepExprs_climbs upward subs starts.good starts.permits
  | stmts s last body => exact stepStmts_climbs upward subs starts
  | stmt s last stmt => exact stepStmt_climbs upward subs starts
  | whileLoop s last cond body => exact stepWhile_climbs upward subs starts
  | forLoop s last binding body items => exact stepFor_climbs upward subs starts
  | dispatch s name args fallback => exact stepDispatch_climbs subs starts
  | invoke callee body home caller args => exact stepInvoke_climbs upward subs starts

end Step

/-! ### Whole runs -/

/-- Evaluation keeps to the course: it ends on a good machine above the one on which it started, with
proper values. -/
theorem run_rises {fuel : Nat} {task : Task} {m m' : Machine} {outcome : Except Fault task.Result}
    (starts : ascent.Starts task m) (ended : task.run settings fuel m = some (outcome, m')) :
    ascent.good m' ∧ ascent.le m m' ∧ ∀ result, outcome = .ok result →
      ascent.Yields task result m' := by
  have climbs : ∀ fuel task m, ascent.Starts task m →
      ascent.Climbs (fun _ => False) (ascent.Yields task) (task.run settings fuel)
        (task.run settings fuel) m := by
    intro fuel
    induction fuel with
    | zero =>
      intro task m _
      rw [Task.run_zero]
      exact ⟨nofun, .inl rfl⟩
    | succ fuel ih =>
      intro task m starts
      rw [Task.run_succ]
      exact step_climbs (fun _ => id) ih starts
  exact (climbs fuel task m starts).rises _ _ ended

/-- If a task ends, a sub-evaluation that it starts is started on the course, and ends below the end of
the task.  Otherwise its outcome could be any other without effect on the task. -/
theorem consulted {fuel : Nat} {task sub : Task} {before machine after : Machine}
    {outcome : Except Fault task.Result} (starts : ascent.Starts task before)
    (consults : task.Consults settings (Task.run settings fuel) before sub machine)
    (ended : task.step settings (Task.run settings fuel) before = some (outcome, after)) :
    ascent.Starts sub machine ∧ ∃ result, sub.run settings fuel machine = some result ∧
      ascent.le result.2 after := by
  obtain ⟨replaced, differs⟩ := consults
  let goal (m : Machine) : Prop := ascent.Starts sub machine ∧
    ∃ result, sub.run settings fuel machine = some result ∧ ascent.le result.2 m
  have upward : ∀ {a b}, ascent.le a b → goal a → goal b := by
    rintro a b le ⟨started, result, ran, below⟩
    exact ⟨started, result, ran, ascent.trans below le⟩
  have subs : ∀ task m, ascent.Starts task m →
      ascent.Climbs goal (ascent.Yields task) (task.run settings fuel)
        ((Task.run settings fuel).override sub machine replaced task) m := by
    intro task m starts
    refine ⟨fun outcome m' ended => run_rises starts ended, ?_⟩
    by_cases here : task = sub ∧ m = machine
    · -- The machine on which the sub-evaluation ends is the least that reaches the goal.
      obtain ⟨rfl, rfl⟩ := here
      exact .inr fun outcome m' ended => ⟨starts, _, ended, ascent.refl m'⟩
    · exact .inl (Task.Interpretation.override_of_ne _ replaced here).symm
  rcases (step_climbs upward subs starts).same_or with same | reached
  · exact (differs same.symm).elim
  · exact reached outcome after ended

/-- If an evaluation ends, all evaluations that it starts, directly or through others, are started on
the course, and end below its end. -/
theorem reached {fuel : Nat} {task sub : Task} {before machine after : Machine}
    {outcome : Except Fault task.Result}
    (reaches : task.Reaches settings fuel before sub machine) (starts : ascent.Starts task before)
    (ended : task.run settings fuel before = some (outcome, after)) :
    ascent.Starts sub machine ∧ ∃ fuel' result, sub.run settings fuel' machine = some result ∧
      ascent.le result.2 after := by
  induction reaches generalizing after with
  | start fuel task machine => exact ⟨starts, fuel, _, ended, ascent.refl after⟩
  | within consults _ ih =>
    rw [Task.run_succ] at ended
    obtain ⟨started, ⟨outcome', between'⟩, ran, below⟩ := consulted starts consults ended
    obtain ⟨started', fuel', result, ran', below'⟩ := ih started ran
    exact ⟨started', fuel', result, ran', ascent.trans below' below⟩

end Ascent

end Multidispatch
