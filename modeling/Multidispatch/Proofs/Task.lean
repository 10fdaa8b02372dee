import Multidispatch.Proofs.Action
import Mathlib.Logic.Function.Basic

/-!
# Evaluations as data

The evaluator is eight functions that call each other.  A task names one of these functions with
its arguments, so that "every evaluation" is a single quantifier.  `Task.step` is what the evaluator
does for a task when the evaluations that it starts are given; the evaluator with one more unit of
fuel is that step over the evaluator itself (`Task.run_succ`).  Whatever a step keeps, evaluation
keeps.

## Main definitions

* `Task` — an evaluation that can be started
* `Task.run` — the evaluator on a task
* `Task.step` — the evaluator on a task, over given sub-evaluations
* `Task.Consults` — a task starts a sub-evaluation
* `Task.Reaches` — a task starts a sub-evaluation, directly or through others

## Main statements

* `Task.run_succ` — the evaluator is its own step
-/

namespace Multidispatch

/-- An evaluation that can be started: one of the functions of the evaluator with its arguments. -/
inductive Task where
  /-- The value of an expression. -/
  | expr (scope : ScopeId) (e : Expr Name)
  /-- The values of expressions, from left to right. -/
  | exprs (scope : ScopeId) (es : List (Expr Name))
  /-- A run of statements after the value `last`. -/
  | stmts (scope : ScopeId) (last : Value) (body : Block Name)
  /-- A run of one statement after the value `last`. -/
  | stmt (scope : ScopeId) (last : Value) (s : Stmt Name)
  /-- The iterations of a `while` that are left. -/
  | whileLoop (scope : ScopeId) (last : Value) (cond : Expr Name) (body : Block Name)
  /-- The iterations of a `for` that are left. -/
  | forLoop (scope : ScopeId) (last : Value) (binding : Name) (body : Block Name)
      (items : List Value)
  /-- The call of a function by name. -/
  | dispatch (scope : ScopeId) (name : Name) (args : List Value) (fallback : Fallback)
  /-- The call of a user function that has been selected. -/
  | invoke (callee : Overload) (body : Block Name) (home caller : ScopeId) (args : List Value)

namespace Task

/-- What a task ends with if it does not fail. -/
abbrev Result : Task → Type
  | .exprs .. => List Value
  | _ => Value

/-- The scope in which a task is started. -/
def scope : Task → ScopeId
  | expr scope _ => scope
  | exprs scope _ => scope
  | stmts scope _ _ => scope
  | stmt scope _ _ => scope
  | whileLoop scope _ _ _ => scope
  | forLoop scope _ _ _ _ => scope
  | dispatch scope _ _ _ => scope
  | invoke _ _ _ caller _ => caller

/-- The actions of the part of the program that a task runs where it is started.  The body of a
selected function runs in a scope of its own. -/
def actions : Task → List Action
  | expr _ e => e.actions
  | exprs _ es => Expr.actionsAll es
  | stmts _ _ body => Block.actions body
  | stmt _ _ s => s.actions
  | whileLoop _ _ cond body => cond.actions ++ Block.actions body
  | forLoop _ _ binding body _ => .assign binding :: Block.actions body
  | dispatch _ name _ _ => [.call name]
  | invoke .. => []

/-- An outcome for every task, in place of the evaluator. -/
abbrev Interpretation := (task : Task) → EvalM task.Result

/-- The evaluator on a task. -/
def run (settings : Settings) (fuel : Nat) : Interpretation
  | expr scope e => evalExpr settings fuel scope e
  | exprs scope es => evalAll settings fuel scope es
  | stmts scope last body => execStmts settings fuel scope last body
  | stmt scope last s => execStmt settings fuel scope last s
  | whileLoop scope last cond body => Multidispatch.whileLoop settings fuel scope last cond body
  | forLoop scope last binding body items =>
    Multidispatch.forLoop settings fuel scope last binding body items
  | dispatch scope name args fallback =>
    Multidispatch.dispatch settings fuel scope name args fallback
  | invoke callee body home caller args =>
    Multidispatch.invoke settings fuel callee body home caller args

open EvalM

/-! ### One step of the evaluator -/

section Step

variable (settings : Settings) (self : Interpretation)

/-- What an expression does, over given sub-evaluations. -/
def stepExpr (scope : ScopeId) : Expr Name → EvalM Value
  | .int n => pure (.int n)
  | .float x => pure (.float x)
  | .bool b => pure (.bool b)
  | .text s => native (Native.newText s)
  | .vector items => do
    let values ← self (.exprs scope items)
    native (Native.newVector values.toArray)
  | .ident name => do
    match ← read (·.env.lookup scope name) with
    | some value => pure value
    | none => raise settings (.unboundVariable (settings.names.spelling name))
  | .binary op left right => do
    let left ← self (.expr scope left)
    let right ← self (.expr scope right)
    self (.dispatch scope op.name [left, right] op.fallback)
  | .unary op operand => do
    let operand ← self (.expr scope operand)
    self (.dispatch scope op.name [operand] .refuse)
  | .rangeTo stop => do
    let stop ← self (.expr scope stop)
    self (.dispatch scope rangeName [stop] .refuse)
  | .rangeFrom start stop => do
    let start ← self (.expr scope start)
    let stop ← self (.expr scope stop)
    self (.dispatch scope rangeName [start, stop] .refuse)
  | .member element collection => do
    let element ← self (.expr scope element)
    let collection ← self (.expr scope collection)
    self (.dispatch scope memberName [collection, element] .refuse)
  | .index target position => do
    let target ← self (.expr scope target)
    let position ← self (.expr scope position)
    self (.dispatch scope indexName [target, position] .explainIndexing)
  | .call callee args => do
    let args ← self (.exprs scope args)
    self (.dispatch scope callee args .refuse)
  | .block body => self (.stmts scope .void body)

/-- What a list of expressions does, over given sub-evaluations. -/
def stepExprs (scope : ScopeId) : List (Expr Name) → EvalM (List Value)
  | [] => pure []
  | e :: es => do
    let value ← self (.expr scope e)
    let values ← self (.exprs scope es)
    pure (value :: values)

/-- What a list of statements does, over given sub-evaluations. -/
def stepStmts (scope : ScopeId) (last : Value) : Block Name → EvalM Value
  | [] => pure last
  | s :: rest => do
    let last ← self (.stmt scope last s)
    self (.stmts scope last rest)

/-- What a statement does, over given sub-evaluations. -/
def stepStmt (scope : ScopeId) (last : Value) : Stmt Name → EvalM Value
  | .expr e => self (.expr scope e)
  | .assign name value => do
    let value ← self (.expr scope value)
    modifyEnv (·.assign scope name value)
    pure .void
  | .ifThen cond body => do
    let value ← self (.expr scope cond)
    let holds ← condition settings "if" value
    if holds then self (.stmts scope .void body) else pure .void
  | .ifElse cond body alternative => do
    let value ← self (.expr scope cond)
    let holds ← condition settings "if" value
    if holds then self (.stmts scope .void body) else self (.stmts scope .void alternative)
  | .while cond body => self (.whileLoop scope last cond body)
  | .for binding iterable body => do
    let value : Value ← self (.expr scope iterable)
    match value with
    | .vector ref =>
      let items ← read (·.store.heap.items ref)
      self (.forLoop scope last binding body items.toList)
    | value => raise settings (.notIterable value)
  | .function name params body => do
    modifyEnv (·.register scope ⟨name, params, .user body scope⟩)
    pure .void

/-- What a `while` does, over given sub-evaluations. -/
def stepWhile (scope : ScopeId) (last : Value) (cond : Expr Name) (body : Block Name) :
    EvalM Value := do
  let value ← self (.expr scope cond)
  let holds ← condition settings "while" value
  if holds then
    let last ← self (.stmts scope .void body)
    self (.whileLoop scope last cond body)
  else
    pure last

/-- What a `for` does, over given sub-evaluations. -/
def stepFor (scope : ScopeId) (last : Value) (binding : Name) (body : Block Name) :
    List Value → EvalM Value
  | [] => pure last
  | item :: items => do
    modifyEnv (·.assign scope binding item)
    let last ← self (.stmts scope .void body)
    self (.forLoop scope last binding body items)

/-- What a call by name does with the overloads in sight, over given sub-evaluations. -/
def stepSelection (scope : ScopeId) (name : Name) (args : List Value) (fallback : Fallback) :
    List Overload → EvalM Value
  | [] => raise settings (.unknownFunction (settings.names.spelling name))
  | candidates =>
    match candidates.find? (·.accepts args) with
    | none => traced settings (native (fallback.run (settings.names.spelling name) args))
    | some callee =>
      match callee.body with
      | .native run => traced settings (native (run args))
      | .user body home => self (.invoke callee body home scope args)

/-- What a call by name does, over given sub-evaluations. -/
def stepDispatch (scope : ScopeId) (name : Name) (args : List Value) (fallback : Fallback) :
    EvalM Value := do
  let candidates ← read (·.env.candidates scope name)
  stepSelection settings self scope name args fallback candidates

/-- What the call of a selected user function does, over given sub-evaluations. -/
def stepInvoke (callee : Overload) (body : Block Name) (home caller : ScopeId)
    (args : List Value) : EvalM Value := do
  let inner ← enter settings callee home caller args
  protect (traced settings (self (.stmts inner .void body))) (·.leave inner)

/-- What the evaluator does for a task, over given sub-evaluations. -/
def step : Interpretation
  | expr scope e => stepExpr settings self scope e
  | exprs scope es => stepExprs self scope es
  | stmts scope last body => stepStmts self scope last body
  | stmt scope last s => stepStmt settings self scope last s
  | whileLoop scope last cond body => stepWhile settings self scope last cond body
  | forLoop scope last binding body items => stepFor self scope last binding body items
  | dispatch scope name args fallback => stepDispatch settings self scope name args fallback
  | invoke callee body home caller args => stepInvoke settings self callee body home caller args

end Step

/-- Without fuel no task has an outcome. -/
theorem run_zero (settings : Settings) (task : Task) :
    task.run settings 0 = outOfFuel := by
  cases task <;> rfl

/-- The evaluator with one more unit of fuel is one step over the evaluator. -/
theorem run_succ (settings : Settings) (fuel : Nat) (task : Task) :
    task.run settings (fuel + 1) = task.step settings (run settings fuel) := by
  cases task with
  | expr scope e => cases e <;> rfl
  | exprs scope es => cases es <;> rfl
  | stmts scope last body => cases body <;> rfl
  | stmt scope last s => cases s <;> rfl
  | whileLoop scope last cond body => rfl
  | forLoop scope last binding body items => cases items <;> rfl
  | dispatch scope name args fallback => rfl
  | invoke callee body home caller args => rfl

/-! ### Sub-evaluations -/

open Classical in
/-- The evaluations as they are, except that one of them, started on one machine, ends with a given
outcome. -/
noncomputable def Interpretation.override (self : Interpretation) (sub : Task) (machine : Machine)
    (outcome : Option (Except Fault sub.Result × Machine)) : Interpretation :=
  Function.update self sub
    (Function.update (self sub : Machine → Option (Except Fault sub.Result × Machine))
      machine outcome)

@[simp] theorem Interpretation.override_same (self : Interpretation) (sub : Task)
    (machine : Machine) (outcome : Option (Except Fault sub.Result × Machine)) :
    self.override sub machine outcome sub machine = outcome := by
  simp [override]

/-- Only the one sub-evaluation ends differently. -/
theorem Interpretation.override_of_ne (self : Interpretation) {sub task : Task}
    {machine m : Machine} (outcome : Option (Except Fault sub.Result × Machine))
    (other : ¬ (task = sub ∧ m = machine)) :
    self.override sub machine outcome task m = self task m := by
  by_cases same : task = sub
  · subst same
    have different : m ≠ machine := fun equal => other ⟨rfl, equal⟩
    simp [override, different]
  · simp [override, same]

/-- A task started on `before` itself starts the sub-evaluation `sub` on `machine`: if the
sub-evaluation ended with some other outcome, this would show in the outcome of the task.  No task
recovers from a fault or from a lack of fuel in a sub-evaluation, so this leaves none out. -/
def Consults (settings : Settings) (self : Interpretation) (task : Task) (before : Machine)
    (sub : Task) (machine : Machine) : Prop :=
  ∃ outcome, task.step settings (self.override sub machine outcome) before ≠
    task.step settings self before

/-- A task started on a machine with the given fuel starts a sub-evaluation, directly or through
other sub-evaluations; the task itself counts among them. -/
inductive Reaches (settings : Settings) : Nat → Task → Machine → Task → Machine → Prop
  /-- The task itself. -/
  | start (fuel : Nat) (task : Task) (machine : Machine) :
      Reaches settings fuel task machine task machine
  /-- What is reached from a sub-evaluation that the task starts. -/
  | within {fuel : Nat} {task middle sub : Task} {before between machine : Machine}
      (consults : task.Consults settings (run settings fuel) before middle between)
      (reaches : Reaches settings fuel middle between sub machine) :
      Reaches settings (fuel + 1) task before sub machine

end Task

end Multidispatch
