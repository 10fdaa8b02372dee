import Mathlib.Logic.Relator
import Multidispatch.Proofs.Coupling
import Multidispatch.Proofs.Nesting
import Multidispatch.Proofs.Numbering

/-!
# Evaluation under two numberings of the names

A machine holds names in its variables, in its overloads and in the frames of the calls under way, and
compares them with each other and with the names of the program.  If two machines and two programs
differ in their names only, and the names of one correspond one to one to those of the other, then the
two runs go the same way.  Names show in messages and in backtraces, where they are spelled; so
corresponding names have to have the same spelling, each in its own table.

## Main definitions

* `Settings.Renumbers` — names of two settings that correspond to each other
* `Scope.Alike`, `Environment.Alike`, `Machine.Alike` — machines that differ in their names only
* `Agrees` — computations that end alike on such machines
* `Renamed` — sub-evaluations that end alike on tasks that differ in their names only

## Main statements

* `Environment.Alike.lookup_eq`, `Environment.Alike.candidates` — what is found under corresponding
  names
* `Renamed.step` — a step goes the same way if the sub-evaluations do
* `renamed_run` — evaluation goes the same way
-/

namespace Multidispatch

/-- The names of two settings correspond to each other.  The reserved names have the same numbers on
both sides. -/
structure Settings.Renumbers (left right : Settings) (R : Name → Name → Prop) : Prop where
  scoping : left.scoping = right.scoping
  depthLimit : left.depthLimit = right.depthLimit
  unique : Relator.BiUnique R
  spelling : ∀ {a b}, R a b → left.names.spelling a = right.names.spelling b
  binary : ∀ op : BinaryOp, R op.name op.name
  unary : ∀ op : UnaryOp, R op.name op.name
  range : R rangeName rangeName
  member : R memberName memberName
  index : R indexName indexName

/-! ### Machines that differ in their names only -/

section Tables

variable {R : Name → Name → Prop}

/-- Variables with corresponding names and the same value. -/
structure Bindings.EntryAlike (R : Name → Name → Prop) (entry entry' : Name × Value) : Prop where
  name : R entry.1 entry'.1
  value : entry.2 = entry'.2

/-- Bodies of overloads that differ in their names only. -/
inductive OverloadBody.Alike (R : Name → Name → Prop) : OverloadBody → OverloadBody → Prop
  | native (run : Native) : Alike R (.native run) (.native run)
  | user {body body' : Block Name} (home : ScopeId) (alike : Block.Alike R body body') :
      Alike R (.user body home) (.user body' home)

/-- Overloads that differ in their names only. -/
structure Overload.Alike (R : Name → Name → Prop) (overload overload' : Overload) : Prop where
  name : R overload.name overload'.name
  params : List.Forall₂ (Param.Alike R) overload.params overload'.params
  body : overload.body.Alike R overload'.body

/-- Scopes that differ in their names only. -/
structure Scope.Alike (R : Name → Name → Prop) (scope scope' : Scope) : Prop where
  bindings : List.Forall₂ (Bindings.EntryAlike R) scope.bindings scope'.bindings
  overloads : List.Forall₂ (Overload.Alike R) scope.overloads scope'.overloads
  enclosing : scope.enclosing = scope'.enclosing

/-- Environments that differ in their names only. -/
structure Environment.Alike (R : Name → Name → Prop) (env env' : Environment) : Prop where
  depth : env.depth = env'.depth
  scope : ∀ id, Scope.Alike R (env.scope id) (env'.scope id)

/-- Frames that differ in their names only. -/
structure Frame.Alike (R : Name → Name → Prop) (frame frame' : Frame) : Prop where
  name : R frame.name frame'.name
  arity : frame.arity = frame'.arity

/-- Machines that differ in their names only. -/
structure Machine.Alike (R : Name → Name → Prop) (machine machine' : Machine) : Prop where
  store : machine.store = machine'.store
  env : machine.env.Alike R machine'.env
  calls : List.Forall₂ (Frame.Alike R) machine.calls.frames machine'.calls.frames

theorem Scope.Alike.empty : Scope.Alike R {} {} :=
  ⟨.nil, .nil, rfl⟩

namespace Bindings

variable (unique : Relator.BiUnique R) {bindings bindings' : Bindings} {name name' : Name}
  (alike : List.Forall₂ (EntryAlike R) bindings bindings') (related : R name name')
include unique alike related

theorem find?_eq_of_alike : bindings.find? name = bindings'.find? name' := by
  induction alike with
  | nil => rfl
  | @cons entry entry' rest rest' head _ ih =>
    obtain ⟨bound, value⟩ := entry
    obtain ⟨bound', value'⟩ := entry'
    have same : bound = name ↔ bound' = name' := Relator.rel_eq unique head.name related
    have value_eq : value = value' := head.value
    simp only [find?, same, ih, value_eq]

theorem insert_alike (value : Value) :
    List.Forall₂ (EntryAlike R) (bindings.insert name value) (bindings'.insert name' value) := by
  induction alike with
  | nil => exact .cons ⟨related, rfl⟩ .nil
  | @cons entry entry' rest rest' head tail ih =>
    obtain ⟨bound, old⟩ := entry
    obtain ⟨bound', old'⟩ := entry'
    have same : bound = name ↔ bound' = name' := Relator.rel_eq unique head.name related
    by_cases hit : bound = name
    · have hit' : bound' = name' := same.mp hit
      simp only [insert, hit, hit', if_true]
      exact .cons ⟨related, rfl⟩ tail
    · have miss : bound' ≠ name' := fun hit' => hit (same.mpr hit')
      simp only [insert, hit, miss, if_false]
      exact .cons head ih

end Bindings

theorem acceptsAll_eq_of_alike {params params' : List (Param Name)}
    (alike : List.Forall₂ (Param.Alike R) params params') (args : List Value) :
    acceptsAll params args = acceptsAll params' args := by
  induction alike generalizing args with
  | nil => rfl
  | cons head _ ih =>
    cases args with
    | nil => rfl
    | cons arg args => simp only [acceptsAll, head.tag, ih args]

/-- Among alike overloads in the same order, the first one that accepts the arguments is the same. -/
theorem Overload.find?_alike {candidates candidates' : List Overload}
    (alike : List.Forall₂ (Overload.Alike R) candidates candidates') (args : List Value) :
    Option.Rel (Overload.Alike R) (candidates.find? (·.accepts args))
      (candidates'.find? (·.accepts args)) := by
  induction alike with
  | nil => exact .none
  | cons head _ ih =>
    have accepts := acceptsAll_eq_of_alike head.params args
    simp only [List.find?_cons, Overload.accepts, accepts]
    split
    · exact .some head
    · exact ih

namespace Environment.Alike

variable {env env' : Environment} {name name' : Name}

theorem modifyScope (alike : env.Alike R env') (id : ScopeId) {change change' : Scope → Scope}
    (changes : ∀ {scope scope'}, Scope.Alike R scope scope' →
      Scope.Alike R (change scope) (change' scope')) :
    (env.modifyScope id change).Alike R (env'.modifyScope id change') where
  depth := by rw [depth_modifyScope, depth_modifyScope, alike.depth]
  scope other := by
    rw [scope_modifyScope, scope_modifyScope, alike.depth]
    split
    · exact changes (alike.scope other)
    · exact alike.scope other

theorem register (alike : env.Alike R env') (id : ScopeId) {overload overload' : Overload}
    (added : overload.Alike R overload') :
    (env.register id overload).Alike R (env'.register id overload') :=
  alike.modifyScope id fun scopes =>
    ⟨scopes.bindings, List.rel_append scopes.overloads (.cons added .nil), scopes.enclosing⟩

theorem bindLocal (unique : Relator.BiUnique R) (alike : env.Alike R env') (id : ScopeId)
    (related : R name name') (value : Value) :
    (env.bindLocal id name value).Alike R (env'.bindLocal id name' value) :=
  alike.modifyScope id fun scopes =>
    ⟨Bindings.insert_alike unique scopes.bindings related value, scopes.overloads,
      scopes.enclosing⟩

theorem bindParams (unique : Relator.BiUnique R) (alike : env.Alike R env') (id : ScopeId)
    {params params' : List (Param Name)} (named : List.Forall₂ (Param.Alike R) params params')
    (args : List Value) :
    (env.bindParams id params args).Alike R (env'.bindParams id params' args) := by
  induction named generalizing env env' args with
  | nil => exact alike
  | cons head _ ih =>
    cases args with
    | nil => exact alike
    | cons arg args => exact ih (alike.bindLocal unique id head.name arg) args

theorem chain_eq (alike : env.Alike R env') (id : ScopeId) : env.chain id = env'.chain id := by
  rw [chain, chain, (alike.scope id).enclosing]

/-- Corresponding names have the same value. -/
theorem lookup_eq (unique : Relator.BiUnique R) (alike : env.Alike R env') (site : ScopeId)
    (related : R name name') : env.lookup site name = env'.lookup site name' := by
  have same : (fun id => (env.scope id).bindings.find? name) =
      fun id => (env'.scope id).bindings.find? name' := by
    funext id
    exact Bindings.find?_eq_of_alike unique (alike.scope id).bindings related
  rw [lookup, lookup, alike.chain_eq, same]

/-- Corresponding names are bound in the same scope. -/
theorem holder_eq (unique : Relator.BiUnique R) (alike : env.Alike R env') (site : ScopeId)
    (related : R name name') : env.holder site name = env'.holder site name' := by
  have same : (fun id => (env.scope id).bindings.contains name) =
      fun id => (env'.scope id).bindings.contains name' := by
    funext id
    rw [Bindings.contains, Bindings.contains,
      Bindings.find?_eq_of_alike unique (alike.scope id).bindings related]
  rw [holder, holder, alike.chain_eq, same]

theorem assign (unique : Relator.BiUnique R) (alike : env.Alike R env') (site : ScopeId)
    (related : R name name') (value : Value) :
    (env.assign site name value).Alike R (env'.assign site name' value) := by
  rw [Environment.assign, Environment.assign, alike.holder_eq unique site related]
  exact alike.bindLocal unique _ related value

/-- The overloads of corresponding names are alike, in the same order. -/
theorem candidates (unique : Relator.BiUnique R) (alike : env.Alike R env') (site : ScopeId)
    (related : R name name') :
    List.Forall₂ (Overload.Alike R) (env.candidates site name) (env'.candidates site name') := by
  rw [Environment.candidates, Environment.candidates, alike.chain_eq]
  refine List.rel_flatMap (List.forall₂_same.mpr fun id _ => rfl) ?_
  rintro id _ rfl
  refine List.rel_filter (fun overload overload' named => ?_) (alike.scope id).overloads
  simp only [decide_eq_true_eq]
  exact Relator.rel_eq unique named.name related

theorem extended (alike : env.Alike R env') (parent : ScopeId) :
    (env.extended parent).Alike R (env'.extended parent) where
  depth := by rw [depth_extended, depth_extended, alike.depth]
  scope id := by
    rw [scope_extended, scope_extended, fresh, fresh, alike.depth]
    split
    · exact ⟨.nil, .nil, alike.chain_eq parent⟩
    · exact alike.scope id

theorem popScope (alike : env.Alike R env') (id : ScopeId) :
    (env.popScope id).Alike R (env'.popScope id) := by
  unfold Environment.popScope
  rw [alike.depth]
  split
  · have sizes : env.scopes.size = env'.scopes.size := alike.depth
    constructor
    · simp only [Environment.depth, Array.size_pop, sizes]
    · intro other
      simp only [Environment.scope, Array.getElem?_pop, sizes]
      split
      · exact alike.scope other
      · exact .empty
  · exact alike

end Environment.Alike

/-! ### Calls -/

variable {left right : Settings}

namespace Settings.Renumbers

variable (renumbers : left.Renumbers right R) {stack stack' : CallStack}
  (alike : List.Forall₂ (Frame.Alike R) stack.frames stack'.frames)
include renumbers alike

/-- The calls under way show alike in backtraces. -/
theorem attach_eq (fault : Fault) :
    stack.attach left.names fault = stack'.attach right.names fault := by
  have empty : stack.frames.isEmpty = stack'.frames.isEmpty := by
    cases stack
    cases stack'
    cases alike <;> rfl
  have captured : stack.capture left.names = stack'.capture right.names := by
    refine congrArg Backtrace.mk (List.forall₂_eq_eq_eq ▸ List.rel_map ?_ alike)
    intro frame frame' frames
    show TraceFrame.mk (left.names.spelling frame.name) frame.arity = _
    rw [renumbers.spelling frames.name, frames.arity]
  rw [CallStack.attach, CallStack.attach, CallStack.isEmpty, CallStack.isEmpty, empty, captured]

/-- Corresponding calls are refused alike. -/
theorem refusal_eq {frame frame' : Frame} (frames : frame.Alike R frame') (depth : Nat) :
    left.refusal frame stack depth = right.refusal frame' stack' depth := by
  have depths : stack.depth = stack'.depth := alike.length_eq
  have entered : List.Forall₂ (Frame.Alike R) (CallStack.mk (frame :: stack.frames)).frames
      (CallStack.mk (frame' :: stack'.frames)).frames := .cons frames alike
  unfold Settings.refusal CallStack.push
  rw [renumbers.depthLimit, depths]
  cases right.depthLimit with
  | none => simp only [renumbers.attach_eq entered]
  | some max =>
    by_cases full : max ≤ stack'.depth
    · simp only [full, if_true, renumbers.attach_eq alike]
    · simp only [full, if_false, renumbers.attach_eq entered]

end Settings.Renumbers

namespace Machine.Alike

variable {m n : Machine}

theorem entered (renumbers : left.Renumbers right R) (alike : m.Alike R n)
    {callee callee' : Overload} (named : callee.Alike R callee') (home caller : ScopeId)
    (args : List Value) :
    (m.entered left callee home caller args).Alike R (n.entered right callee' home caller args) where
  store := alike.store
  env := by
    have parent : left.parentOf home caller = right.parentOf home caller := by
      rw [Settings.parentOf, Settings.parentOf, renumbers.scoping]
    have fresh : m.env.fresh = n.env.fresh := congrArg ScopeId.mk alike.env.depth
    rw [Machine.entered, Machine.entered, parent, fresh]
    exact (alike.env.extended _).bindParams renumbers.unique _ named.params args
  calls := .cons ⟨named.name, rfl⟩ alike.calls

theorem leave (alike : m.Alike R n) (scope : ScopeId) : (m.leave scope).Alike R (n.leave scope) where
  store := alike.store
  env := alike.env.popScope scope
  calls := by
    obtain ⟨_, _, ⟨frames⟩⟩ := m
    obtain ⟨_, _, ⟨frames'⟩⟩ := n
    have frames : List.Forall₂ (Frame.Alike R) frames frames' := alike.calls
    cases frames with
    | nil => exact .nil
    | cons _ tail => exact tail

end Machine.Alike

end Tables

/-! ### Computations that end alike -/

section Computations

variable {α β γ δ : Type} {R : Name → Name → Prop} {left right : Settings}

/-- On machines that differ in their names only, two computations have the same outcome, and leave
such machines. -/
def Agrees (R : Name → Name → Prop) (x y : EvalM α) : Prop :=
  ∀ ⦃m n⦄, m.Alike R n → OutcomesAgree (Machine.Alike R) (x m) (y n)

namespace Agrees

theorem pure (a : α) : Agrees R (pure a) (pure a) :=
  fun _ _ alike => .some ⟨rfl, alike⟩

theorem bind {x y : EvalM α} {f g : α → EvalM β} (first : Agrees R x y)
    (next : ∀ a, Agrees R (f a) (g a)) : Agrees R (x >>= f) (y >>= g) := by
  intro m n alike
  rw [EvalM.bind_apply, EvalM.bind_apply]
  have ends := first alike
  generalize x m = result at ends ⊢
  generalize y n = result' at ends ⊢
  cases ends with
  | none => exact .none
  | @some p q both =>
    obtain ⟨outcome, m'⟩ := p
    obtain ⟨outcome', n'⟩ := q
    obtain ⟨rfl, alike'⟩ := both
    cases outcome with
    | error fault => exact .some ⟨rfl, alike'⟩
    | ok a => exact next a alike'

/-- What is read off the machines is related. -/
theorem read {view : Machine → β} {view' : Machine → γ} {f : β → EvalM α} {g : γ → EvalM α}
    {related : β → γ → Prop} (views : ∀ {m n}, m.Alike R n → related (view m) (view' n))
    (next : ∀ {b c}, related b c → Agrees R (f b) (g c)) :
    Agrees R (EvalM.read view >>= f) (EvalM.read view' >>= g) :=
  fun _ _ alike => next (views alike) alike

theorem modifyEnv {change change' : Environment → Environment}
    (changes : ∀ {env env'}, env.Alike R env' → (change env).Alike R (change' env')) :
    Agrees R (EvalM.modifyEnv change) (EvalM.modifyEnv change') :=
  fun _ _ alike => .some ⟨rfl, alike.store, changes alike.env, alike.calls⟩

theorem native (run : NativeM α) : Agrees R (EvalM.native run) (EvalM.native run) := by
  intro m n alike
  obtain ⟨store, env, calls⟩ := m
  obtain ⟨store', env', calls'⟩ := n
  obtain ⟨rfl, envs, frames⟩ := alike
  exact .some ⟨rfl, rfl, envs, frames⟩

theorem raise (renumbers : left.Renumbers right R) {cause cause' : Cause} (same : cause = cause') :
    Agrees R (EvalM.raise left cause : EvalM α) (EvalM.raise right cause') := by
  subst same
  exact fun m n alike => .some ⟨congrArg Except.error (renumbers.attach_eq alike.calls _), alike⟩

theorem traced (renumbers : left.Renumbers right R) {x y : EvalM α} (agrees : Agrees R x y) :
    Agrees R (EvalM.traced left x) (EvalM.traced right y) := by
  intro m n alike
  unfold EvalM.traced
  have ends := agrees alike
  generalize x m = result at ends ⊢
  generalize y n = result' at ends ⊢
  cases ends with
  | none => exact .none
  | @some p q both =>
    obtain ⟨outcome, m'⟩ := p
    obtain ⟨outcome', n'⟩ := q
    obtain ⟨rfl, alike'⟩ := both
    cases outcome with
    | error fault =>
      exact .some ⟨congrArg Except.error (renumbers.attach_eq alike'.calls fault), alike'⟩
    | ok a => exact .some ⟨rfl, alike'⟩

theorem condition (renumbers : left.Renumbers right R) (construct : String) (value : Value) :
    Agrees R (EvalM.condition left construct value) (EvalM.condition right construct value) := by
  cases value with
  | bool b => exact .pure b
  | _ => exact .raise renumbers rfl

end Agrees

end Computations

/-! ### One step -/

variable {R : Name → Name → Prop} {left right : Settings} {self other : Task.Interpretation}

/-- Sub-evaluations that end alike on tasks that differ in their names only. -/
structure Renamed (R : Name → Name → Prop) (eval eval' : Task.Interpretation) : Prop where
  expr : ∀ s {e e'}, Expr.Alike R e e' → Agrees R (eval (.expr s e)) (eval' (.expr s e'))
  exprs : ∀ s {es es'}, Expr.AllAlike R es es' → Agrees R (eval (.exprs s es)) (eval' (.exprs s es'))
  stmts : ∀ s last {body body'}, Block.Alike R body body' →
    Agrees R (eval (.stmts s last body)) (eval' (.stmts s last body'))
  stmt : ∀ s last {stmt stmt'}, Stmt.Alike R stmt stmt' →
    Agrees R (eval (.stmt s last stmt)) (eval' (.stmt s last stmt'))
  whileLoop : ∀ s last {cond cond' body body'}, Expr.Alike R cond cond' → Block.Alike R body body' →
    Agrees R (eval (.whileLoop s last cond body)) (eval' (.whileLoop s last cond' body'))
  forLoop : ∀ s last {name name' body body'} items, R name name' → Block.Alike R body body' →
    Agrees R (eval (.forLoop s last name body items)) (eval' (.forLoop s last name' body' items))
  dispatch : ∀ s {name name'} args fallback, R name name' →
    Agrees R (eval (.dispatch s name args fallback)) (eval' (.dispatch s name' args fallback))
  invoke : ∀ {callee callee' body body'} home caller args, callee.Alike R callee' →
    Block.Alike R body body' → Agrees R (eval (.invoke callee body home caller args))
      (eval' (.invoke callee' body' home caller args))

namespace Renamed

variable (renumbers : left.Renumbers right R) (subs : Renamed R self other)
include renumbers subs

theorem stepExpr (s : ScopeId) {e e' : Expr Name} (alike : Expr.Alike R e e') :
    Agrees R (Task.stepExpr left self s e) (Task.stepExpr right other s e') := by
  cases alike with
  | int n => exact .pure _
  | float x => exact .pure _
  | bool b => exact .pure _
  | text str => exact .native (Native.newText str)
  | vector items => exact (subs.exprs s items).bind fun _ => .native _
  | ident related =>
    refine .read (fun alike => alike.env.lookup_eq renumbers.unique s related) fun same => ?_
    subst same
    split
    · exact .pure _
    · exact .raise renumbers (congrArg _ (renumbers.spelling related))
  | binary op leftAlike rightAlike =>
    exact (subs.expr s leftAlike).bind fun _ => (subs.expr s rightAlike).bind fun _ =>
      subs.dispatch s _ _ (renumbers.binary op)
  | unary op operand =>
    exact (subs.expr s operand).bind fun _ => subs.dispatch s _ _ (renumbers.unary op)
  | rangeTo stop => exact (subs.expr s stop).bind fun _ => subs.dispatch s _ _ renumbers.range
  | rangeFrom start stop =>
    exact (subs.expr s start).bind fun _ => (subs.expr s stop).bind fun _ =>
      subs.dispatch s _ _ renumbers.range
  | member element collection =>
    exact (subs.expr s element).bind fun _ => (subs.expr s collection).bind fun _ =>
      subs.dispatch s _ _ renumbers.member
  | index target position =>
    exact (subs.expr s target).bind fun _ => (subs.expr s position).bind fun _ =>
      subs.dispatch s _ _ renumbers.index
  | call related args => exact (subs.exprs s args).bind fun _ => subs.dispatch s _ _ related
  | block body => exact subs.stmts s .void body

omit renumbers in
theorem stepExprs (s : ScopeId) {es es' : List (Expr Name)} (alike : Expr.AllAlike R es es') :
    Agrees R (Task.stepExprs self s es) (Task.stepExprs other s es') := by
  cases alike with
  | nil => exact .pure _
  | cons head tail =>
    exact (subs.expr s head).bind fun _ => (subs.exprs s tail).bind fun _ => .pure _

omit renumbers in
theorem stepStmts (s : ScopeId) (last : Value) {body body' : Block Name}
    (alike : Block.Alike R body body') :
    Agrees R (Task.stepStmts self s last body) (Task.stepStmts other s last body') := by
  cases alike with
  | nil => exact .pure _
  | cons head tail => exact (subs.stmt s last head).bind fun last' => subs.stmts s last' tail

theorem stepStmt (s : ScopeId) (last : Value) {stmt stmt' : Stmt Name}
    (alike : Stmt.Alike R stmt stmt') :
    Agrees R (Task.stepStmt left self s last stmt) (Task.stepStmt right other s last stmt') := by
  cases alike with
  | expr e => exact subs.expr s e
  | assign related value =>
    refine (subs.expr s value).bind fun v => ?_
    exact (Agrees.modifyEnv fun envs => envs.assign renumbers.unique s related v).bind
      fun _ => .pure _
  | ifThen cond body =>
    refine (subs.expr s cond).bind fun value => ?_
    refine (Agrees.condition renumbers "if" value).bind fun holds => ?_
    cases holds with
    | true => exact subs.stmts s .void body
    | false => exact .pure _
  | ifElse cond body alternative =>
    refine (subs.expr s cond).bind fun value => ?_
    refine (Agrees.condition renumbers "if" value).bind fun holds => ?_
    cases holds with
    | true => exact subs.stmts s .void body
    | false => exact subs.stmts s .void alternative
  | «while» cond body => exact subs.whileLoop s last cond body
  | «for» related iterable body =>
    refine (subs.expr s iterable).bind fun value => ?_
    cases value with
    | vector ref =>
      refine .read (fun alike => congrArg (·.heap.items ref) alike.store) fun same => ?_
      subst same
      exact subs.forLoop s last _ related body
    | _ => exact .raise renumbers rfl
  | function related params body =>
    have named : Overload.Alike R ⟨_, _, .user _ s⟩ ⟨_, _, .user _ s⟩ :=
      ⟨related, params, .user s body⟩
    exact (Agrees.modifyEnv fun envs => envs.register s named).bind fun _ => .pure _

theorem stepWhile (s : ScopeId) (last : Value) {cond cond' : Expr Name} {body body' : Block Name}
    (condAlike : Expr.Alike R cond cond') (bodyAlike : Block.Alike R body body') :
    Agrees R (Task.stepWhile left self s last cond body)
      (Task.stepWhile right other s last cond' body') := by
  refine (subs.expr s condAlike).bind fun value => ?_
  refine (Agrees.condition renumbers "while" value).bind fun holds => ?_
  cases holds with
  | true =>
    exact (subs.stmts s .void bodyAlike).bind fun last' => subs.whileLoop s last' condAlike bodyAlike
  | false => exact .pure _

theorem stepFor (s : ScopeId) (last : Value) {name name' : Name} {body body' : Block Name}
    (items : List Value) (related : R name name') (bodyAlike : Block.Alike R body body') :
    Agrees R (Task.stepFor self s last name body items)
      (Task.stepFor other s last name' body' items) := by
  cases items with
  | nil => exact .pure _
  | cons item items =>
    refine (Agrees.modifyEnv fun envs => envs.assign renumbers.unique s related item).bind
      fun _ => ?_
    exact (subs.stmts s .void bodyAlike).bind fun last' => subs.forLoop s last' items related bodyAlike

theorem stepSelection (s : ScopeId) {name name' : Name} (args : List Value) (fallback : Fallback)
    (related : R name name') {candidates candidates' : List Overload}
    (alike : List.Forall₂ (Overload.Alike R) candidates candidates') :
    Agrees R (Task.stepSelection left self s name args fallback candidates)
      (Task.stepSelection right other s name' args fallback candidates') := by
  have spelled := renumbers.spelling related
  -- Overloads are selected by the kinds of the arguments alone, so at the same place on both sides.
  have found := Overload.find?_alike alike args
  unfold Task.stepSelection
  cases alike with
  | nil => exact .raise renumbers (congrArg _ spelled)
  | cons head tail =>
    simp only
    generalize List.find? _ _ = selected at found ⊢
    generalize List.find? _ _ = selected' at found ⊢
    cases found with
    | none =>
      rw [spelled]
      exact (Agrees.native _).traced renumbers
    | @some callee callee' callees =>
      obtain ⟨calleeName, params, body⟩ := callee
      obtain ⟨calleeName', params', body'⟩ := callee'
      have bodies : body.Alike R body' := callees.body
      cases bodies with
      | native run => exact (Agrees.native _).traced renumbers
      | user home bodyAlike => exact subs.invoke home s args callees bodyAlike

theorem stepDispatch (s : ScopeId) {name name' : Name} (args : List Value) (fallback : Fallback)
    (related : R name name') :
    Agrees R (Task.stepDispatch left self s name args fallback)
      (Task.stepDispatch right other s name' args fallback) :=
  .read (fun alike => alike.env.candidates renumbers.unique s related)
    fun seen => subs.stepSelection renumbers s args fallback related seen

theorem stepInvoke {callee callee' : Overload} {body body' : Block Name} (home caller : ScopeId)
    (args : List Value) (named : callee.Alike R callee') (bodyAlike : Block.Alike R body body') :
    Agrees R (Task.stepInvoke left self callee body home caller args)
      (Task.stepInvoke right other callee' body' home caller args) := by
  intro m n alike
  have frames : Frame.Alike R ⟨callee.name, args.length⟩ ⟨callee'.name, args.length⟩ :=
    ⟨named.name, rfl⟩
  have fresh : m.env.fresh = n.env.fresh := congrArg ScopeId.mk alike.env.depth
  rw [Task.stepInvoke_apply, Task.stepInvoke_apply, renumbers.refusal_eq alike.calls frames,
    alike.env.depth, fresh]
  cases right.refusal ⟨callee'.name, args.length⟩ n.calls n.env.depth with
  | some fault => exact .some ⟨rfl, alike⟩
  | none =>
    have inside := (subs.stmts n.env.fresh .void bodyAlike).traced renumbers
      (alike.entered renumbers named home caller args)
    simp only [EvalM.protect]
    generalize EvalM.traced left _ _ = result at inside ⊢
    generalize EvalM.traced right _ _ = result' at inside ⊢
    cases inside with
    | none => exact .none
    | some both => exact .some ⟨both.1, both.2.leave _⟩

/-- A step goes the same way if the sub-evaluations do. -/
theorem step : Renamed R (Task.step left self) (Task.step right other) where
  expr s _ _ alike := subs.stepExpr renumbers s alike
  exprs s _ _ alike := subs.stepExprs s alike
  stmts s last _ _ alike := subs.stepStmts s last alike
  stmt s last _ _ alike := subs.stepStmt renumbers s last alike
  whileLoop s last _ _ _ _ cond body := subs.stepWhile renumbers s last cond body
  forLoop s last _ _ _ _ items related body := subs.stepFor renumbers s last items related body
  dispatch s _ _ args fallback related := subs.stepDispatch renumbers s args fallback related
  invoke home caller args named body := subs.stepInvoke renumbers home caller args named body

end Renamed

/-- Evaluation goes the same way on tasks and machines that differ in their names only. -/
theorem renamed_run (renumbers : left.Renumbers right R) (fuel : Nat) :
    Renamed R (Task.run left fuel) (Task.run right fuel) := by
  induction fuel with
  | zero =>
    -- Without fuel, no task has an outcome on either side.
    constructor <;> intros <;> exact fun _ _ _ => .none
  | succ fuel ih =>
    have leftStep : Task.run left (fuel + 1) = Task.step left (Task.run left fuel) :=
      funext (Task.run_succ left fuel)
    have rightStep : Task.run right (fuel + 1) = Task.step right (Task.run right fuel) :=
      funext (Task.run_succ right fuel)
    rw [leftStep, rightStep]
    exact ih.step renumbers

end Multidispatch
