import Multidispatch.Proofs.Task

/-!
# Agreement of computations

A fact about evaluation that follows the structure of programs can be stated as a relation between
two computations: two runs that end alike, or one run with a property, in which case the second
computation is ignored.  Such a relation is an `Agreement` if it holds of the few computations that
expressions and statements are made of, and if it survives sequencing.  This module goes through the
syntax once for all agreements: if the sub-evaluations of a compound task agree, so does the task.

Three kinds of task are not compound, since they do more to the machine than start others: the
declaration of a function, the call by name and the entry of a function.  What agrees there depends
on the relation, so each agreement shows it for itself.

## Main definitions

* `EvalM.variable` — the value of a variable, or the fault that it is not bound
* `Agreement` — a relation between computations that sequencing respects
* `Agreement.Respects` — two interpretations agree on every task that does only what is allowed
* `Task.Compound` — a task that acts through its sub-evaluations
* `Agreement.Lockstep` — an agreement that the three other kinds of task respect too

## Main statements

* `Agreement.compound_agrees` — a compound task agrees if its sub-evaluations do
* `Agreement.Lockstep.run_agrees` — evaluation respects an agreement in lockstep
-/

namespace Multidispatch

/-- The value of a variable as seen from a scope; a variable that is not bound is a fault. -/
def EvalM.variable (settings : Settings) (scope : ScopeId) (name : Name) : EvalM Value := do
  match ← read (·.env.lookup scope name) with
  | some value => pure value
  | none => raise settings (.unboundVariable (settings.names.spelling name))

/-- A relation between the computations of two runs, under the settings `left` and `right`, that
holds of what expressions and statements are made of. -/
structure Agreement (left right : Settings) where
  /-- What the relation is indexed by; every call may have a world of its own. -/
  World : Type
  /-- When two computations agree, in a world and in the scope in which they run. -/
  Agree : World → ScopeId → {α : Type} → EvalM α → EvalM α → Prop
  /-- What a program may do in a world. -/
  allowed : World → Action → Prop
  /-- Which functions, with which bodies, homes and arguments, may be entered in a world and from a
  scope. -/
  enterable : World → ScopeId → Overload → Block Name → ScopeId → List Value → Prop
  pure : ∀ {w s} {α : Type} (a : α), Agree w s (pure a) (pure a)
  bind : ∀ {w s} {α β : Type} {x y : EvalM α} {f g : α → EvalM β}, Agree w s x y →
    (∀ a, Agree w s (f a) (g a)) → Agree w s (x >>= f) (y >>= g)
  raise : ∀ {w s} {α : Type} (cause : Cause),
    Agree w s (EvalM.raise left cause : EvalM α) (EvalM.raise right cause)
  newText : ∀ {w s} (text : String),
    Agree w s (EvalM.native (Native.newText text)) (EvalM.native (Native.newText text))
  newVector : ∀ {w s} (items : Array Value),
    Agree w s (EvalM.native (Native.newVector items)) (EvalM.native (Native.newVector items))
  items : ∀ {w s} (ref : VectorRef),
    Agree w s (EvalM.read (·.store.heap.items ref)) (EvalM.read (·.store.heap.items ref))
  lookup : ∀ {w s name}, allowed w (.read name) →
    Agree w s (EvalM.variable left s name) (EvalM.variable right s name)
  assign : ∀ {w s name} (value : Value), allowed w (.assign name) →
    Agree w s (EvalM.modifyEnv (·.assign s name value)) (EvalM.modifyEnv (·.assign s name value))

/-- A task that acts on the machine only through variables, values and its sub-evaluations. -/
def Task.Compound : Task → Prop
  | .stmt _ _ (.function ..) => False
  | .dispatch .. => False
  | .invoke .. => False
  | _ => True

namespace Agreement

variable {left right : Settings} (agreement : Agreement left right)

/-- A task does only what is allowed in a world. -/
def Permits (w : agreement.World) : Task → Prop
  | .invoke callee body home caller args => agreement.enterable w caller callee body home args
  | task => ∀ action ∈ task.actions, agreement.allowed w action

/-- Two interpretations agree on every task that does only what is allowed. -/
def Respects (self other : Task.Interpretation) : Prop :=
  ∀ w (task : Task), agreement.Permits w task →
    agreement.Agree w task.scope (self task) (other task)

variable {agreement} {w : agreement.World} {s : ScopeId}

theorem condition_agrees (construct : String) (value : Value) :
    agreement.Agree w s (EvalM.condition left construct value)
      (EvalM.condition right construct value) := by
  cases value with
  | bool b => exact agreement.pure b
  | _ => exact agreement.raise _

/-! ### Compound tasks -/

section Compound

variable {self other : Task.Interpretation} (respects : agreement.Respects self other)
include respects

theorem expr_agrees {e : Expr Name} (allowed : ∀ action ∈ e.actions, agreement.allowed w action) :
    agreement.Agree w s (self (.expr s e)) (other (.expr s e)) :=
  respects w (.expr s e) allowed

theorem exprs_agree {es : List (Expr Name)}
    (allowed : ∀ action ∈ Expr.actionsAll es, agreement.allowed w action) :
    agreement.Agree w s (self (.exprs s es)) (other (.exprs s es)) :=
  respects w (.exprs s es) allowed

theorem stmts_agree (last : Value) {body : Block Name}
    (allowed : ∀ action ∈ Block.actions body, agreement.allowed w action) :
    agreement.Agree w s (self (.stmts s last body)) (other (.stmts s last body)) :=
  respects w (.stmts s last body) allowed

theorem dispatch_agrees {name : Name} {args : List Value} {fallback : Fallback}
    (allowed : agreement.allowed w (.call name)) :
    agreement.Agree w s (self (.dispatch s name args fallback))
      (other (.dispatch s name args fallback)) :=
  respects w (.dispatch s name args fallback) (List.forall_mem_singleton.mpr allowed)

/-- An expression of one operand is a call with the value of the operand. -/
theorem operand_agrees {e : Expr Name} {name : Name} {args : Value → List Value}
    {fallback : Fallback}
    (allowed : ∀ action ∈ e.actions ++ [.call name], agreement.allowed w action) :
    agreement.Agree w s
      (self (.expr s e) >>= fun a => self (.dispatch s name (args a) fallback))
      (other (.expr s e) >>= fun a => other (.dispatch s name (args a) fallback)) := by
  rw [List.forall_mem_append, List.forall_mem_singleton] at allowed
  obtain ⟨operand, call⟩ := allowed
  exact agreement.bind (expr_agrees respects operand) fun _ => dispatch_agrees respects call

/-- An expression of two operands is a call with the values of the operands. -/
theorem operands_agree {d e : Expr Name} {name : Name} {args : Value → Value → List Value}
    {fallback : Fallback}
    (allowed : ∀ action ∈ d.actions ++ e.actions ++ [.call name], agreement.allowed w action) :
    agreement.Agree w s
      (self (.expr s d) >>= fun a => self (.expr s e) >>= fun b =>
        self (.dispatch s name (args a b) fallback))
      (other (.expr s d) >>= fun a => other (.expr s e) >>= fun b =>
        other (.dispatch s name (args a b) fallback)) := by
  rw [List.forall_mem_append, List.forall_mem_append, List.forall_mem_singleton] at allowed
  obtain ⟨⟨first, second⟩, call⟩ := allowed
  exact agreement.bind (expr_agrees respects first) fun _ =>
    agreement.bind (expr_agrees respects second) fun _ => dispatch_agrees respects call

theorem stepExpr_agrees {e : Expr Name}
    (allowed : ∀ action ∈ e.actions, agreement.allowed w action) :
    agreement.Agree w s (Task.stepExpr left self s e) (Task.stepExpr right other s e) := by
  cases e with
  | int n => exact agreement.pure _
  | float x => exact agreement.pure _
  | bool b => exact agreement.pure _
  | text str => exact agreement.newText str
  | vector items =>
    exact agreement.bind (exprs_agree respects allowed) fun values => agreement.newVector _
  | ident name => exact agreement.lookup (List.forall_mem_singleton.mp allowed)
  | binary op d e => exact operands_agree respects allowed
  | unary op e => exact operand_agrees respects allowed
  | rangeTo stop => exact operand_agrees respects allowed
  | rangeFrom start stop => exact operands_agree respects allowed
  | member element collection => exact operands_agree respects allowed
  | index target position => exact operands_agree respects allowed
  | call callee args =>
    rw [Expr.actions, List.forall_mem_append, List.forall_mem_singleton] at allowed
    exact agreement.bind (exprs_agree respects allowed.1) fun _ =>
      dispatch_agrees respects allowed.2
  | block body => exact stmts_agree respects _ allowed

theorem stepExprs_agrees {es : List (Expr Name)}
    (allowed : ∀ action ∈ Expr.actionsAll es, agreement.allowed w action) :
    agreement.Agree w s (Task.stepExprs self s es) (Task.stepExprs other s es) := by
  cases es with
  | nil => exact agreement.pure _
  | cons e es =>
    rw [Expr.actionsAll, List.forall_mem_append] at allowed
    exact agreement.bind (expr_agrees respects allowed.1) fun value =>
      agreement.bind (exprs_agree respects allowed.2) fun values => agreement.pure _

theorem stepStmts_agrees {last : Value} {body : Block Name}
    (allowed : ∀ action ∈ Block.actions body, agreement.allowed w action) :
    agreement.Agree w s (Task.stepStmts self s last body) (Task.stepStmts other s last body) := by
  cases body with
  | nil => exact agreement.pure _
  | cons stmt rest =>
    rw [Block.actions, List.forall_mem_append] at allowed
    exact agreement.bind (respects w (.stmt s last stmt) allowed.1) fun last' =>
      stmts_agree respects _ allowed.2

theorem stepStmt_agrees {last : Value} {stmt : Stmt Name}
    (compound : (Task.stmt s last stmt).Compound)
    (allowed : ∀ action ∈ stmt.actions, agreement.allowed w action) :
    agreement.Agree w s (Task.stepStmt left self s last stmt)
      (Task.stepStmt right other s last stmt) := by
  cases stmt with
  | expr e => exact expr_agrees respects allowed
  | assign name value =>
    rw [Stmt.actions, List.forall_mem_append, List.forall_mem_singleton] at allowed
    exact agreement.bind (expr_agrees respects allowed.1) fun v =>
      agreement.bind (agreement.assign v allowed.2) fun _ => agreement.pure _
  | ifThen cond body =>
    rw [Stmt.actions, List.forall_mem_append] at allowed
    refine agreement.bind (expr_agrees respects allowed.1) fun value =>
      agreement.bind (condition_agrees "if" value) fun holds => ?_
    cases holds with
    | true => exact stmts_agree respects _ allowed.2
    | false => exact agreement.pure _
  | ifElse cond body alternative =>
    rw [Stmt.actions, List.forall_mem_append, List.forall_mem_append] at allowed
    refine agreement.bind (expr_agrees respects allowed.1.1) fun value =>
      agreement.bind (condition_agrees "if" value) fun holds => ?_
    cases holds with
    | true => exact stmts_agree respects _ allowed.1.2
    | false => exact stmts_agree respects _ allowed.2
  | «while» cond body => exact respects w (.whileLoop s last cond body) allowed
  | «for» binding iterable body =>
    rw [Stmt.actions, List.forall_mem_append] at allowed
    refine agreement.bind (expr_agrees respects allowed.1) fun value => ?_
    cases value with
    | vector ref =>
      exact agreement.bind (agreement.items ref) fun items =>
        respects w (.forLoop s last binding body _) allowed.2
    | _ => exact agreement.raise _
  | function name params body => exact compound.elim

theorem stepWhile_agrees {last : Value} {cond : Expr Name} {body : Block Name}
    (allowed : ∀ action ∈ cond.actions ++ Block.actions body, agreement.allowed w action) :
    agreement.Agree w s (Task.stepWhile left self s last cond body)
      (Task.stepWhile right other s last cond body) := by
  have parts := List.forall_mem_append.mp allowed
  refine agreement.bind (expr_agrees respects parts.1) fun value =>
    agreement.bind (condition_agrees "while" value) fun holds => ?_
  cases holds with
  | true =>
    exact agreement.bind (stmts_agree respects _ parts.2) fun last' =>
      respects w (.whileLoop s last' cond body) allowed
  | false => exact agreement.pure _

theorem stepFor_agrees {last : Value} {binding : Name} {body : Block Name} {items : List Value}
    (allowed : ∀ action ∈ .assign binding :: Block.actions body, agreement.allowed w action) :
    agreement.Agree w s (Task.stepFor self s last binding body items)
      (Task.stepFor other s last binding body items) := by
  cases items with
  | nil => exact agreement.pure _
  | cons item items =>
    have parts := List.forall_mem_cons.mp allowed
    exact agreement.bind (agreement.assign item parts.1) fun _ =>
      agreement.bind (stmts_agree respects _ parts.2) fun last' =>
        respects w (.forLoop s last' binding body items) allowed

/-- A compound task agrees if its sub-evaluations do. -/
theorem compound_agrees {task : Task} (compound : task.Compound)
    (permits : agreement.Permits w task) :
    agreement.Agree w task.scope (task.step left self) (task.step right other) := by
  cases task with
  | expr s e => exact stepExpr_agrees respects permits
  | exprs s es => exact stepExprs_agrees respects permits
  | stmts s last body => exact stepStmts_agrees respects permits
  | stmt s last stmt => exact stepStmt_agrees respects compound permits
  | whileLoop s last cond body => exact stepWhile_agrees respects permits
  | forLoop s last binding body items => exact stepFor_agrees respects permits
  | dispatch s name args fallback => exact compound.elim
  | invoke callee body home caller args => exact compound.elim

end Compound

/-! ### Two runs in lockstep -/

variable (agreement) in
/-- An agreement that also holds of declarations, of calls by name and of entries, so that two runs
with the same fuel keep in step. -/
structure Lockstep : Prop where
  outOfFuel : ∀ {w s} {α : Type}, agreement.Agree w s (EvalM.outOfFuel : EvalM α) EvalM.outOfFuel
  declare : ∀ {w s name params body}, agreement.allowed w (.declare name params body) →
    agreement.Agree w s (EvalM.modifyEnv (·.register s ⟨name, params, .user body s⟩))
      (EvalM.modifyEnv (·.register s ⟨name, params, .user body s⟩))
  dispatch : ∀ {self other w s name args fallback}, agreement.Respects self other →
    agreement.allowed w (.call name) →
    agreement.Agree w s (Task.stepDispatch left self s name args fallback)
      (Task.stepDispatch right other s name args fallback)
  invoke : ∀ {self other w s callee body home args}, agreement.Respects self other →
    agreement.enterable w s callee body home args →
    agreement.Agree w s (Task.stepInvoke left self callee body home s args)
      (Task.stepInvoke right other callee body home s args)

/-- A step respects an agreement in lockstep if the sub-evaluations do. -/
theorem Lockstep.step_agrees (lockstep : agreement.Lockstep) {self other : Task.Interpretation}
    (respects : agreement.Respects self other) :
    agreement.Respects (Task.step left self) (Task.step right other) := by
  intro w task permits
  by_cases compound : task.Compound
  · exact compound_agrees respects compound permits
  · cases task with
    | stmt s last stmt =>
      cases stmt with
      | function name params body =>
        exact agreement.bind (lockstep.declare (List.forall_mem_singleton.mp permits)) fun _ =>
          agreement.pure _
      | _ => exact (compound trivial).elim
    | dispatch s name args fallback =>
      exact lockstep.dispatch respects (List.forall_mem_singleton.mp permits)
    | invoke callee body home caller args => exact lockstep.invoke respects permits
    | _ => exact (compound trivial).elim

/-- Evaluation respects an agreement in lockstep, with any amount of fuel. -/
theorem Lockstep.run_agrees (lockstep : agreement.Lockstep) (fuel : Nat) :
    agreement.Respects (Task.run left fuel) (Task.run right fuel) := by
  induction fuel with
  | zero =>
    intro w task _
    rw [Task.run_zero, Task.run_zero]
    exact lockstep.outOfFuel
  | succ fuel ih =>
    intro w task permits
    rw [Task.run_succ, Task.run_succ]
    exact lockstep.step_agrees ih w task permits

end Agreement

end Multidispatch
