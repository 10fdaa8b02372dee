import Multidispatch.Proofs.Numbering
import Multidispatch.Proofs.OverloadMap
import Multidispatch.Proofs.Tolerance

/-!
# Operators as calls

An operator stands for a call to its reserved name.  Replacing operators by these calls, in a program
and in the bodies of all functions that are declared, does not change what the program does.
Equality, its negation and indexing do more than a call: where no overload accepts their operands,
they fall back on something else.  If they are replaced, too, then what the program did is the same
unless one of these calls was refused.

The two programs spend fuel differently, so the two runs are compared in both directions: where one
of them ends, so does the other, with as much fuel or with four times as much.

## Main definitions

* `Desugaring` — which forms are replaced
* `Expr.desugar`, `Stmt.desugar`, `Block.desugar` — programs with these forms replaced
* `Overload.desugar`, `Machine.desugar` — the same for stored functions
* `Task.Interpretation.desugared` — what becomes of the desugared form of a task
* `Corresponds`, `desugaring` — the machines of the two runs, and the runs as a coupling

## Main statements

* `Task.stepExpr_desugar` — an operator evaluates its operands in order and makes its call
* `Task.desugared_run_below`, `Task.below_desugared_run` — how the two programs spend fuel
* `Desugaring.run_of_desugared`, `Desugaring.desugared_of_run` — the two directions
* `desugaring_preserves_meaning` — a program and its desugared form do the same
-/

namespace Multidispatch

/-! ### Programs without operators -/

/-- Which forms are replaced by calls. -/
inductive Desugaring where
  /-- Operators and ranges, but not equality and its negation. -/
  | plain
  /-- Equality, its negation and indexing, too. -/
  | full
deriving DecidableEq

/-- Whether a binary operator is replaced. -/
def Desugaring.replaces : Desugaring → BinaryOp → Bool
  | .plain, .compare .eq => false
  | .plain, .compare .ne => false
  | _, _ => true

mutual

/-- Replaces the operators in an expression by calls to their reserved names. -/
def Expr.desugar (d : Desugaring) : Expr Name → Expr Name
  | .int n => .int n
  | .float x => .float x
  | .bool b => .bool b
  | .text s => .text s
  | .vector items => .vector (Expr.desugarAll d items)
  | .ident name => .ident name
  | .binary op left right =>
    if d.replaces op then
      .call op.name [left.desugar d, right.desugar d]
    else
      .binary op (left.desugar d) (right.desugar d)
  | .unary op operand => .call op.name [operand.desugar d]
  | .rangeTo stop => .call rangeName [stop.desugar d]
  | .rangeFrom start stop => .call rangeName [start.desugar d, stop.desugar d]
  | .member element collection => .member (element.desugar d) (collection.desugar d)
  | .index target position =>
    match d with
    | .plain => .index (target.desugar d) (position.desugar d)
    | .full => .call indexName [target.desugar d, position.desugar d]
  | .call callee args => .call callee (Expr.desugarAll d args)
  | .block body => .block (Block.desugar d body)

/-- Replaces the operators in expressions. -/
def Expr.desugarAll (d : Desugaring) : List (Expr Name) → List (Expr Name)
  | [] => []
  | e :: es => e.desugar d :: Expr.desugarAll d es

/-- Replaces the operators in a statement. -/
def Stmt.desugar (d : Desugaring) : Stmt Name → Stmt Name
  | .expr e => .expr (e.desugar d)
  | .assign name value => .assign name (value.desugar d)
  | .ifThen condition body => .ifThen (condition.desugar d) (Block.desugar d body)
  | .ifElse condition body alternative =>
    .ifElse (condition.desugar d) (Block.desugar d body) (Block.desugar d alternative)
  | .while condition body => .while (condition.desugar d) (Block.desugar d body)
  | .for binding iterable body => .for binding (iterable.desugar d) (Block.desugar d body)
  | .function name params body => .function name params (Block.desugar d body)

/-- Replaces the operators in the statements of a block. -/
def Block.desugar (d : Desugaring) : List (Stmt Name) → List (Stmt Name)
  | [] => []
  | s :: rest => s.desugar d :: Block.desugar d rest

end

/-- Replaces the operators in the body of a function; natives have none. -/
def Overload.desugar (d : Desugaring) : Overload → Overload
  | ⟨name, params, .user body home⟩ => ⟨name, params, .user (Block.desugar d body) home⟩
  | ⟨name, params, .native run⟩ => ⟨name, params, .native run⟩

/-- Replaces the operators in the bodies of all functions that are declared. -/
def Machine.desugar (d : Desugaring) (machine : Machine) : Machine :=
  machine.mapOverloads (Overload.desugar d)

namespace Overload

variable (d : Desugaring) (overload : Overload)

@[simp] theorem name_desugar : (overload.desugar d).name = overload.name := by
  obtain ⟨name, params, _ | _⟩ := overload <;> rfl

@[simp] theorem params_desugar : (overload.desugar d).params = overload.params := by
  obtain ⟨name, params, _ | _⟩ := overload <;> rfl

@[simp] theorem accepts_desugar (args : List Value) :
    (overload.desugar d).accepts args = overload.accepts args := by
  simp [accepts]

end Overload

/-! ### Reserved names -/

namespace Desugaring

/-- The names whose calls have lost their fallback. -/
def drops : Desugaring → Name → Bool
  | .plain, _ => false
  | .full, name => name = CompareOp.eq.name || name = CompareOp.ne.name || name = indexName

/-- The fallback that is left to the call of a name. -/
def fallback (d : Desugaring) (name : Name) (given : Fallback) : Fallback :=
  if d.drops name then .refuse else given

@[simp] theorem fallback_refuse (d : Desugaring) (name : Name) :
    d.fallback name .refuse = .refuse := by
  simp [fallback]

theorem fallback_of_replaces {d : Desugaring} {op : BinaryOp} (replaced : d.replaces op = true) :
    d.fallback op.name op.fallback = .refuse := by
  revert replaced
  cases d <;> rcases op with op | op | op <;> cases op <;> decide

theorem fallback_of_keeps {d : Desugaring} {op : BinaryOp} (kept : d.replaces op = false) :
    d.fallback op.name op.fallback = op.fallback := by
  revert kept
  cases d <;> rcases op with op | op | op <;> cases op <;> decide

/-- A call was refused that has lost its fallback. -/
def Refusal (d : Desugaring) (settings : Settings) (cause : Cause) : Prop :=
  ∃ name kinds, d.drops name = true ∧
    cause = .noMatchingOverload (settings.names.spelling name) kinds

end Desugaring

namespace Task

/-! ### Operands in order -/

/-- The values of expressions, evaluated one after the other. -/
def Interpretation.inOrder (self : Interpretation) (scope : ScopeId) :
    List (Expr Name) → EvalM (List Value)
  | [] => pure []
  | e :: es => do
    let value ← self (.expr scope e)
    let values ← self.inOrder scope es
    pure (value :: values)

open EvalM

variable {settings : Settings}

theorem run_exprs_below (fuel : Nat) (scope : ScopeId) (es : List (Expr Name)) :
    ((Task.exprs scope es).run settings fuel).Below ((run settings fuel).inOrder scope es) := by
  induction es generalizing fuel with
  | nil =>
    cases fuel with
    | zero => exact outOfFuel_below _
    | succ fuel => exact .refl _
  | cons e es ih =>
    cases fuel with
    | zero => exact outOfFuel_below _
    | succ fuel =>
      rw [run_succ]
      have earlier : fuel ≤ fuel + 1 := Nat.le_succ fuel
      refine (below_run settings earlier (.expr scope e)).bind fun value => ?_
      refine Below.bind ?_ fun values => .refl _
      exact (below_run settings earlier (.exprs scope es)).trans (ih (fuel + 1))

theorem below_run_exprs (fuel : Nat) (scope : ScopeId) (es : List (Expr Name)) :
    ((run settings fuel).inOrder scope es).Below
      ((Task.exprs scope es).run settings (fuel + es.length + 1)) := by
  induction es with
  | nil => exact .refl _
  | cons e es ih =>
    rw [run_succ]
    have later : fuel ≤ fuel + (e :: es).length := Nat.le_add_right _ _
    exact (below_run settings later (.expr scope e)).bind fun value =>
      ih.bind fun values => .refl _

/-! ### The desugared form of a task -/

/-- What an interpretation does with the desugared form of a task. -/
def Interpretation.desugared (d : Desugaring) (self : Interpretation) : Interpretation
  | .expr scope e => self (.expr scope (e.desugar d))
  | .exprs scope es => self (.exprs scope (Expr.desugarAll d es))
  | .stmts scope last body => self (.stmts scope last (Block.desugar d body))
  | .stmt scope last s => self (.stmt scope last (s.desugar d))
  | .whileLoop scope last cond body =>
    self (.whileLoop scope last (cond.desugar d) (Block.desugar d body))
  | .forLoop scope last binding body items =>
    self (.forLoop scope last binding (Block.desugar d body) items)
  | .dispatch scope name args given => self (.dispatch scope name args (d.fallback name given))
  | .invoke callee body home caller args =>
    self (.invoke (callee.desugar d) (Block.desugar d body) home caller args)

variable {d : Desugaring}

theorem Interpretation.desugared_expr (self : Interpretation) (scope : ScopeId) (e : Expr Name) :
    self.desugared d (.expr scope e) = self (.expr scope (e.desugar d)) := rfl

theorem Interpretation.desugared_dispatch {name : Name} {given kept : Fallback}
    (fallback : d.fallback name given = kept) (self : Interpretation) (scope : ScopeId)
    (args : List Value) :
    self.desugared d (.dispatch scope name args given) =
      self (.dispatch scope name args kept) := by
  subst fallback
  rfl

/-- What a call by name does once the operands have been evaluated one after the other. -/
def Interpretation.calling (self : Interpretation) (scope : ScopeId) (name : Name)
    (operands : List (Expr Name)) : EvalM Value := do
  let args ← self.inOrder scope operands
  self (.dispatch scope name args .refuse)

theorem Interpretation.calling_one (self : Interpretation) (scope : ScopeId) (name : Name)
    (e : Expr Name) :
    self.calling scope name [e] =
      (self (.expr scope e) >>= fun value => self (.dispatch scope name [value] .refuse)) := by
  simp [calling, inOrder]

theorem Interpretation.calling_two (self : Interpretation) (scope : ScopeId) (name : Name)
    (e e' : Expr Name) :
    self.calling scope name [e, e'] =
      (self (.expr scope e) >>= fun value => self (.expr scope e') >>= fun value' =>
        self (.dispatch scope name [value, value'] .refuse)) := by
  simp [calling, inOrder]

/-- The desugared form of an expression does what the expression does over desugared
sub-evaluations, unless it is a call in the place of an operator; the operator then evaluates its
operands in order and makes the same call. -/
theorem stepExpr_desugar (scope : ScopeId) (e : Expr Name) :
    (∀ self : Interpretation, stepExpr settings self scope (e.desugar d) =
      stepExpr settings (self.desugared d) scope e) ∨
    ∃ name operands, operands.length ≤ 2 ∧ e.desugar d = .call name operands ∧
      ∀ self : Interpretation, stepExpr settings (self.desugared d) scope e =
        self.calling scope name operands := by
  have refused : ∀ name, d.fallback name .refuse = .refuse := d.fallback_refuse
  cases e with
  | int n => exact .inl fun _ => rfl
  | float x => exact .inl fun _ => rfl
  | bool b => exact .inl fun _ => rfl
  | text str => exact .inl fun _ => rfl
  | vector items => exact .inl fun _ => rfl
  | ident name => exact .inl fun _ => rfl
  | binary op left right =>
    cases replaced : d.replaces op with
    | true =>
      refine .inr ⟨op.name, [left.desugar d, right.desugar d], Nat.le_refl 2, ?_, fun self => ?_⟩
      · simp only [Expr.desugar, replaced, if_true]
      · simp only [stepExpr, Interpretation.calling_two, Interpretation.desugared_expr,
          Interpretation.desugared_dispatch (Desugaring.fallback_of_replaces replaced)]
    | false =>
      refine .inl fun self => ?_
      simp only [stepExpr, Expr.desugar, replaced, Bool.false_eq_true, if_false,
        Interpretation.desugared_expr,
        Interpretation.desugared_dispatch (Desugaring.fallback_of_keeps replaced)]
  | unary op operand =>
    refine .inr ⟨op.name, [operand.desugar d], Nat.le_succ 1, rfl, fun self => ?_⟩
    simp only [stepExpr, Interpretation.calling_one, Interpretation.desugared_expr,
      Interpretation.desugared_dispatch (refused _)]
  | rangeTo stop =>
    refine .inr ⟨rangeName, [stop.desugar d], Nat.le_succ 1, rfl, fun self => ?_⟩
    simp only [stepExpr, Interpretation.calling_one, Interpretation.desugared_expr,
      Interpretation.desugared_dispatch (refused _)]
  | rangeFrom start stop =>
    refine .inr ⟨rangeName, [start.desugar d, stop.desugar d], Nat.le_refl 2, rfl, fun self => ?_⟩
    simp only [stepExpr, Interpretation.calling_two, Interpretation.desugared_expr,
      Interpretation.desugared_dispatch (refused _)]
  | member element collection =>
    refine .inl fun self => ?_
    simp only [stepExpr, Expr.desugar, Interpretation.desugared_expr,
      Interpretation.desugared_dispatch (refused _)]
  | index target position =>
    cases d with
    | plain => exact .inl fun _ => rfl
    | full =>
      refine .inr ⟨indexName, [target.desugar .full, position.desugar .full], Nat.le_refl 2, rfl,
        fun self => ?_⟩
      have dropped : Desugaring.fallback .full indexName .explainIndexing = .refuse := rfl
      simp only [stepExpr, Interpretation.calling_two, Interpretation.desugared_expr,
        Interpretation.desugared_dispatch dropped]
  | call callee args =>
    refine .inl fun self => ?_
    simp only [stepExpr, Expr.desugar, Interpretation.desugared_dispatch (refused _)]
    rfl
  | block body => exact .inl fun _ => rfl

/-- The desugared form of any other compound task does what the task does over desugared
sub-evaluations. -/
theorem step_desugared {task : Task} (compound : task.Compound)
    (other : ∀ scope e, task ≠ .expr scope e) (self : Interpretation) :
    (step settings self : Interpretation).desugared d task =
      task.step settings (self.desugared d) := by
  cases task with
  | expr scope e => exact (other scope e rfl).elim
  | exprs scope es => cases es <;> rfl
  | stmts scope last body => cases body <;> rfl
  | stmt scope last s =>
    cases s with
    | function name params body => exact compound.elim
    | _ => rfl
  | whileLoop scope last cond body => rfl
  | forLoop scope last binding body items => cases items <;> rfl
  | dispatch scope name args given => exact compound.elim
  | invoke callee body home caller args => exact compound.elim

/-! ### Fuel -/

theorem desugared_below {fuel more : Nat} (enough : fuel ≤ more) (task : Task) :
    ((run settings fuel).desugared d task).Below ((run settings more).desugared d task) := by
  cases task <;> (simp only [Interpretation.desugared]; exact below_run settings enough _)

/-- The desugared form of a compound task ends only where the task ends over desugared
sub-evaluations. -/
theorem desugared_run_below (fuel : Nat) {task : Task} (compound : task.Compound) :
    ((run settings (fuel + 1)).desugared d task).Below
      (task.step settings ((run settings fuel).desugared d)) := by
  have unfolded : (run settings (fuel + 1) : Interpretation) = step settings (run settings fuel) :=
    funext (run_succ settings fuel)
  rw [unfolded]
  by_cases isExpr : ∃ scope e, task = .expr scope e
  · obtain ⟨scope, e, rfl⟩ := isExpr
    change (stepExpr settings (run settings fuel) scope (e.desugar d)).Below
      (stepExpr settings ((run settings fuel).desugared d) scope e)
    rcases stepExpr_desugar scope e with same | ⟨name, operands, -, call, sugar⟩
    · rw [same]
      exact .refl _
    · rw [call, sugar]
      exact (run_exprs_below fuel scope operands).bind fun args => .refl _
  · rw [step_desugared compound fun scope e same => isExpr ⟨scope, e, same⟩]
    exact .refl _

/-- Where a compound task ends over desugared sub-evaluations, its desugared form ends with a little
more fuel. -/
theorem below_desugared_run (fuel : Nat) {task : Task} (compound : task.Compound) :
    (task.step settings ((run settings fuel).desugared d)).Below
      ((run settings (fuel + 4)).desugared d task) := by
  have unfolded : ∀ fuel, (run settings (fuel + 1) : Interpretation) =
      step settings (run settings fuel) := fun fuel => funext (run_succ settings fuel)
  by_cases isExpr : ∃ scope e, task = .expr scope e
  · obtain ⟨scope, e, rfl⟩ := isExpr
    rcases stepExpr_desugar scope e with same | ⟨name, operands, short, call, sugar⟩
    · have unchanged : (Task.expr scope e).step settings ((run settings fuel).desugared d) =
          (run settings (fuel + 1)).desugared d (.expr scope e) := by
        rw [unfolded]
        exact (same _).symm
      rw [unchanged]
      exact desugared_below (by omega) _
    · rw [unfolded]
      change (stepExpr settings ((run settings fuel).desugared d) scope e).Below
        (stepExpr settings (run settings (fuel + 3)) scope (e.desugar d))
      rw [call, sugar]
      have operandsEnd : ((run settings fuel).inOrder scope operands).Below
          ((Task.exprs scope operands).run settings (fuel + 3)) :=
        (below_run_exprs fuel scope operands).trans (below_run settings (by omega) _)
      exact operandsEnd.bind fun args => below_run settings (by omega) _
  · rw [← step_desugared compound fun scope e same => isExpr ⟨scope, e, same⟩, ← unfolded]
    exact desugared_below (by omega) task

end Task

/-! ### The two runs -/

/-- The second machine is the desugared first one. -/
def Corresponds (d : Desugaring) (m n : Machine) : Prop :=
  n = m.desugar d

namespace Corresponds

variable {d : Desugaring} {m n : Machine}

theorem store_eq (corresponds : Corresponds d m n) : m.store = n.store := by
  rw [corresponds]
  rfl

theorem calls_eq (corresponds : Corresponds d m n) : m.calls = n.calls := by
  rw [corresponds]
  rfl

theorem lookup_eq (corresponds : Corresponds d m n) (site : ScopeId) (name : Name) :
    m.env.lookup site name = n.env.lookup site name := by
  rw [corresponds]
  exact (m.env.lookup_mapOverloads site name).symm

theorem native (corresponds : Corresponds d m n) (store : Store) :
    Corresponds d { m with store } { n with store } := by
  rw [corresponds]
  rfl

theorem assign (corresponds : Corresponds d m n) (site : ScopeId) (name : Name) (value : Value) :
    Corresponds d { m with env := m.env.assign site name value }
      { n with env := n.env.assign site name value } := by
  rw [corresponds]
  exact congrArg (fun env => { m with env }) (m.env.assign_mapOverloads site name value)

theorem declare (corresponds : Corresponds d m n) (site : ScopeId) (overload : Overload) :
    Corresponds d { m with env := m.env.register site overload }
      { n with env := n.env.register site (overload.desugar d) } := by
  rw [corresponds]
  exact congrArg (fun env => { m with env }) (m.env.register_mapOverloads site overload)

theorem candidates_eq (corresponds : Corresponds d m n) (site : ScopeId) (name : Name) :
    n.env.candidates site name = (m.env.candidates site name).map (Overload.desugar d) := by
  rw [corresponds]
  exact m.env.candidates_mapOverloads (Overload.name_desugar d) site name

theorem depth_eq (corresponds : Corresponds d m n) : n.env.depth = m.env.depth := by
  rw [corresponds]
  exact m.env.depth_mapOverloads

theorem fresh_eq (corresponds : Corresponds d m n) : n.env.fresh = m.env.fresh := by
  rw [corresponds]
  exact m.fresh_mapOverloads

theorem entered (corresponds : Corresponds d m n) (settings : Settings) (callee : Overload)
    (home caller : ScopeId) (args : List Value) :
    Corresponds d (m.entered settings callee home caller args)
      (n.entered settings (callee.desugar d) home caller args) := by
  rw [corresponds]
  exact m.entered_mapOverloads settings (callee.name_desugar d) (callee.params_desugar d) home
    caller args

theorem leave (corresponds : Corresponds d m n) (scope : ScopeId) :
    Corresponds d (m.leave scope) (n.leave scope) := by
  rw [corresponds]
  exact m.leave_mapOverloads scope

end Corresponds

/-- A run and the run of the desugared program, on machines that correspond. -/
def desugaring (settings : Settings) (d : Desugaring) (leftExcuse rightExcuse : Excuse) :
    Coupling settings settings where
  World := Unit
  related _ _ := Corresponds d
  allowed _ _ := True
  enterable _ _ _ _ _ _ := True
  leftExcuse := leftExcuse
  rightExcuse := rightExcuse
  names_eq := rfl
  store_eq := Corresponds.store_eq
  calls_eq := Corresponds.calls_eq
  lookup_eq corresponds _ := corresponds.lookup_eq _ _
  native store corresponds := corresponds.native store
  assign value corresponds _ := corresponds.assign _ _ value

namespace Desugaring

variable {settings : Settings} {d : Desugaring} {leftExcuse rightExcuse : Excuse}

theorem permits (task : Task) :
    (desugaring settings d leftExcuse rightExcuse).agreement.Permits () task := by
  cases task with
  | invoke callee body home caller args => exact trivial
  | _ => exact fun _ _ => trivial

section Calls

variable {self other : Task.Interpretation}
  (respects : (desugaring settings d leftExcuse rightExcuse).agreement.Respects self
    (other.desugared d))
include respects

/-- Among the desugared overloads the same one is selected.  Where none is, both calls fall back on
the same, or the second one is refused. -/
theorem stepSelection_agrees
    (covered : ∀ fault, d.Refusal settings fault.cause → rightExcuse.covers (some fault))
    {s : ScopeId} {name : Name} {args : List Value} {given : Fallback}
    {candidates : List Overload} :
    (desugaring settings d leftExcuse rightExcuse).Agree () s
      (Task.stepSelection settings self s name args given candidates)
      (Task.stepSelection settings other s name args (d.fallback name given)
        (candidates.map (Overload.desugar d))) := by
  unfold Task.stepSelection
  cases candidates with
  | nil => exact Coupling.agree_raise _
  | cons first rest =>
    have selects : ((first :: rest).map (Overload.desugar d)).find? (·.accepts args) =
        ((first :: rest).find? (·.accepts args)).map (Overload.desugar d) := by
      rw [List.find?_map]
      congr 2
      funext overload
      exact overload.accepts_desugar d args
    rw [List.map_cons] at selects
    simp only [List.map_cons, selects]
    cases (first :: rest).find? (·.accepts args) with
    | none =>
      cases dropped : d.drops name with
      | false =>
        have kept : d.fallback name given = given := by simp [fallback, dropped]
        rw [kept]
        exact (Coupling.agree_native _).traced
      | true =>
        have refused : d.fallback name given = .refuse := by simp [fallback, dropped]
        rw [refused]
        intro m n _
        refine .inr (.inl (covered _ ?_))
        exact ⟨name, _, dropped, CallStack.cause_attach _ _ _⟩
    | some callee =>
      obtain ⟨calleeName, params, body⟩ := callee
      cases body with
      | native run => exact (Coupling.agree_native (run args)).traced
      | user body home =>
        exact respects () (.invoke ⟨calleeName, params, .user body home⟩ body home s args) trivial

/-- The desugared function is refused where the function is, and its body runs on the machine that
corresponds. -/
theorem stepInvoke_agrees {callee : Overload} {body : Block Name} {home s : ScopeId}
    {args : List Value} :
    (desugaring settings d leftExcuse rightExcuse).Agree () s
      (Task.stepInvoke settings self callee body home s args)
      (Task.stepInvoke settings other (callee.desugar d) (Block.desugar d body) home s args) := by
  intro m n corresponds
  rw [Task.stepInvoke_apply, Task.stepInvoke_apply, Overload.name_desugar, corresponds.depth_eq,
    corresponds.fresh_eq, ← corresponds.calls_eq]
  cases settings.refusal ⟨callee.name, args.length⟩ m.calls m.env.depth with
  | some fault => exact .inr (.inr (.some ⟨rfl, corresponds⟩))
  | none =>
    have inside : (desugaring settings d leftExcuse rightExcuse).related () m.env.fresh
        (m.entered settings callee home s args)
        (n.entered settings (callee.desugar d) home s args) :=
      corresponds.entered settings callee home s args
    exact Coupling.body_agrees respects (fun _ _ => trivial) inside
      fun _ _ within => within.leave m.env.fresh

/-- Declarations, calls by name and entries agree with their desugared forms. -/
theorem step_agrees
    (covered : ∀ fault, d.Refusal settings fault.cause → rightExcuse.covers (some fault))
    {task : Task} (simple : ¬ task.Compound) :
    (desugaring settings d leftExcuse rightExcuse).Agree () task.scope (task.step settings self)
      ((Task.step settings other : Task.Interpretation).desugared d task) := by
  cases task with
  | stmt s last stmt =>
    cases stmt with
    | function name params body =>
      intro m n corresponds
      exact .inr (.inr (.some ⟨rfl, corresponds.declare s ⟨name, params, .user body s⟩⟩))
    | _ => exact (simple trivial).elim
  | dispatch s name args given =>
    intro m n corresponds
    change EndsAlike _ _ _
      (Task.stepSelection settings self s name args given (m.env.candidates s name) m)
      (Task.stepSelection settings other s name args (d.fallback name given)
        (n.env.candidates s name) n)
    rw [corresponds.candidates_eq]
    exact stepSelection_agrees respects covered m n corresponds
  | invoke callee body home caller args => exact stepInvoke_agrees respects
  | _ => exact (simple trivial).elim

end Calls

/-- Where the desugared program ends with a fault that excuses it, or does not end, nothing is said
about the program; otherwise the program ends alike. -/
theorem run_of_desugared (settings : Settings) (d : Desugaring) (fuel : Nat) :
    (desugaring settings d .nothing (.unfinishedOr (d.Refusal settings))).agreement.Respects
      (Task.run settings fuel) ((Task.run settings fuel).desugared d) := by
  induction fuel with
  | zero =>
    rintro _ task - m n -
    refine .inr (.inl ?_)
    cases task <;> exact trivial
  | succ fuel ih =>
    rintro _ task permits
    rw [Task.run_succ]
    by_cases compound : task.Compound
    · exact Coupling.Agree.of_above trivial (Agreement.compound_agrees ih compound permits)
        (Task.desugared_run_below fuel compound)
    · have unfolded : (Task.run settings (fuel + 1) : Task.Interpretation) =
          Task.step settings (Task.run settings fuel) := funext (Task.run_succ settings fuel)
      rw [unfolded]
      exact step_agrees ih (fun _ => id) compound

/-- Where a program ends, the desugared program ends alike with four times the fuel. -/
theorem desugared_of_run (settings : Settings) (fuel : Nat) :
    (desugaring settings .plain .unfinished .nothing).agreement.Respects
      (Task.run settings fuel) ((Task.run settings (4 * fuel)).desugared .plain) := by
  induction fuel with
  | zero =>
    rintro _ task - m n -
    rw [Task.run_zero]
    exact .inl trivial
  | succ fuel ih =>
    rintro _ task permits
    rw [Task.run_succ]
    by_cases compound : task.Compound
    · exact Coupling.Agree.of_below trivial rfl (Agreement.compound_agrees ih compound permits)
        (Task.below_desugared_run (4 * fuel) compound)
    · have unfolded : (Task.run settings (4 * fuel + 1) : Task.Interpretation) =
          Task.step settings (Task.run settings (4 * fuel)) := funext (Task.run_succ settings _)
      have covered : ∀ fault : Fault, Refusal .plain settings fault.cause →
          Excuse.nothing.covers (some fault) := by
        rintro fault ⟨name, kinds, dropped, -⟩
        cases dropped
      have steps := step_agrees ih covered compound
      rw [← unfolded] at steps
      exact Coupling.Agree.of_below trivial rfl steps (Task.desugared_below (by omega) task)

/-- If the desugared program ends, and not with a refusal that excuses it, then the program ends
alike. -/
theorem execStmts_of_desugar {fuel : Nat} {scope : ScopeId} {last : Value} {program : Block Name}
    {machine after' : Machine} {outcome : Except Fault Value}
    (ended : execStmts settings fuel scope last (Block.desugar d program) (machine.desugar d) =
      some (outcome, after'))
    (unrefused : ∀ fault, outcome = .error fault → ¬ d.Refusal settings fault.cause) :
    ∃ after, execStmts settings fuel scope last program machine = some (outcome, after) ∧
      after' = after.desugar d := by
  have ends := run_of_desugared settings d fuel () (.stmts scope last program) (permits _)
    machine (machine.desugar d) rfl
  change EndsAlike _ _ _ (execStmts settings fuel scope last program machine)
    (execStmts settings fuel scope last (Block.desugar d program) (machine.desugar d)) at ends
  rw [ended] at ends
  rcases ends with excused | excused | same
  · exact (Excused.not_nothing excused).elim
  · cases outcome with
    | ok value => exact excused.elim
    | error fault => exact (unrefused fault rfl excused).elim
  · exact same.exists_left

/-- If the program ends, then the desugared program ends alike. -/
theorem execStmts_desugar {fuel : Nat} {scope : ScopeId} {last : Value} {program : Block Name}
    {machine after : Machine} {outcome : Except Fault Value}
    (ended : execStmts settings fuel scope last program machine = some (outcome, after)) :
    execStmts settings (4 * fuel) scope last (Block.desugar .plain program)
      (machine.desugar .plain) = some (outcome, after.desugar .plain) := by
  have ends := desugared_of_run settings fuel () (.stmts scope last program) (permits _)
    machine (machine.desugar .plain) rfl
  change EndsAlike _ _ _ (execStmts settings fuel scope last program machine)
    (execStmts settings (4 * fuel) scope last (Block.desugar .plain program)
      (machine.desugar .plain)) at ends
  rw [ended] at ends
  rcases ends with excused | excused | same
  · exact (Excused.not_unfinished_some excused).elim
  · exact (Excused.not_nothing excused).elim
  · obtain ⟨_, ended', rfl⟩ := same.exists_right
    exact ended'

end Desugaring

/-- Operators mean the calls to their reserved names.

* In every table that grew from the initial one, the reserved calls have the names that the
  operators call.
* Where a program ends, the program with its operators replaced, equality and its negation apart,
  ends on the corresponding machine with the same outcome, and leaves the corresponding machine.
* Where that program ends, so does the original one.
* If equality, its negation and indexing are replaced, too, and the program ends without one of their
  calls having been refused, then the original program has ended alike. -/
theorem desugaring_preserves_meaning (settings : Settings) (scope : ScopeId) (last : Value)
    (program : Block Name) (machine : Machine) :
    (Interner.initial.spellings <+: settings.names.spellings →
      (∀ op : BinaryOp, settings.names.get? op.call = some op.name) ∧
      (∀ op : UnaryOp, settings.names.get? op.call = some op.name) ∧
      settings.names.get? rangeCall = some rangeName ∧
      settings.names.get? indexCall = some indexName) ∧
    (∀ fuel outcome after,
      execStmts settings fuel scope last program machine = some (outcome, after) →
      execStmts settings (4 * fuel) scope last (Block.desugar .plain program)
        (machine.desugar .plain) = some (outcome, after.desugar .plain)) ∧
    (∀ fuel outcome after',
      execStmts settings fuel scope last (Block.desugar .plain program) (machine.desugar .plain) =
        some (outcome, after') →
      ∃ after, execStmts settings fuel scope last program machine = some (outcome, after) ∧
        after' = after.desugar .plain) ∧
    ∀ fuel outcome after',
      execStmts settings fuel scope last (Block.desugar .full program) (machine.desugar .full) =
        some (outcome, after') →
      (∀ fault name kinds, outcome = .error fault →
        name ∈ [CompareOp.eq.name, CompareOp.ne.name, indexName] →
        fault.cause ≠ .noMatchingOverload (settings.names.spelling name) kinds) →
      ∃ after, execStmts settings fuel scope last program machine = some (outcome, after) ∧
        after' = after.desugar .full := by
  refine ⟨fun grown => ?_, fun fuel outcome after => Desugaring.execStmts_desugar,
    fun fuel outcome after' ended => ?_, fun fuel outcome after' ended unrefused => ?_⟩
  · refine ⟨fun op => Interner.get?_of_prefix grown op.get?_call, fun op => ?_, ?_, ?_⟩
    · cases op
      exact Interner.get?_of_prefix grown rfl
    · exact Interner.get?_of_prefix grown rfl
    · exact Interner.get?_of_prefix grown rfl
  · refine Desugaring.execStmts_of_desugar ended ?_
    rintro fault - ⟨name, kinds, dropped, -⟩
    cases dropped
  · refine Desugaring.execStmts_of_desugar ended ?_
    rintro fault failed ⟨name, kinds, dropped, cause⟩
    refine unrefused fault name kinds failed ?_ cause
    simpa [Desugaring.drops, or_assoc] using dropped

/-- Lexical scoping, without a limit on the depth of calls. -/
def lexicalCalls : Settings where
  names := .initial
  scoping := .lexical
  depthLimit := none

/-- Functions in the place of three operators: equality adds, addition negates its first operand, and
negation does nothing. -/
def operatorFunctions : List Overload :=
  [⟨CompareOp.eq.name, [⟨⟨17⟩, .any⟩, ⟨⟨18⟩, .any⟩],
      .user [.expr (.binary (.arith .add) (.ident ⟨17⟩) (.ident ⟨18⟩))] .global⟩,
    ⟨ArithOp.add.name, [⟨⟨17⟩, .any⟩, ⟨⟨18⟩, .any⟩],
      .user [.expr (.unary .not (.ident ⟨17⟩))] .global⟩,
    ⟨UnaryOp.not.name, [⟨⟨17⟩, .any⟩], .user [.expr (.ident ⟨17⟩)] .global⟩]

/-- The machine on which some functions are declared. -/
def machineWith (functions : List Overload) : Machine where
  store := { printer := .silent }
  env := ⟨#[{ overloads := functions }]⟩
  calls := .empty

theorem desugar_machineWith (d : Desugaring) (functions : List Overload) :
    (machineWith functions).desugar d = machineWith (functions.map (Overload.desugar d)) := by
  simp [machineWith, Machine.desugar, Machine.mapOverloads, Environment.mapOverloads,
    Scope.mapOverloads]

/-- The comparison of two integers. -/
def comparison : Block Name :=
  [.expr (.binary (.compare .eq) (.int 7) (.int 8))]

/-- Where these functions are declared, the comparison of two integers has the first one as its
value, and so has the desugared comparison. -/
theorem desugaring_preserves_meaning_operators :
    (∃ after, execStmts lexicalCalls 24 .global .void comparison (machineWith operatorFunctions) =
        some (.ok (.int 7), after) ∧
      execStmts lexicalCalls 96 .global .void (Block.desugar .plain comparison)
        ((machineWith operatorFunctions).desugar .plain) =
          some (.ok (.int 7), after.desugar .plain)) ∧
    ∃ after', execStmts lexicalCalls 32 .global .void (Block.desugar .full comparison)
        ((machineWith operatorFunctions).desugar .full) = some (.ok (.int 7), after') ∧
      ∃ after, execStmts lexicalCalls 32 .global .void comparison (machineWith operatorFunctions) =
        some (.ok (.int 7), after) ∧ after' = after.desugar .full := by
  obtain ⟨-, forward, -, full⟩ := desugaring_preserves_meaning lexicalCalls .global .void comparison
    (machineWith operatorFunctions)
  constructor
  · exact ⟨_, rfl, forward 24 _ _ rfl⟩
  · obtain ⟨after', ended⟩ : ∃ after', execStmts lexicalCalls 32 .global .void
        (Block.desugar .full comparison) ((machineWith operatorFunctions).desugar .full) =
          some (.ok (.int 7), after') := by
      rw [desugar_machineWith]
      exact ⟨_, rfl⟩
    exact ⟨after', ended, full 32 _ after' ended nofun⟩

end Multidispatch
