import Multidispatch.Machine
import Multidispatch.Prelude

/-!
# Evaluation

Literals, variables and vectors are evaluated directly.  Every operator is a call to its reserved
name with its operands as arguments, so that one rule, `dispatch`, gives the meaning of operators,
natives and user functions alike: the call selects the first overload in sight that accepts the
arguments.  Operands and arguments are evaluated from left to right.

A block has the value of its last statement.  Assignments and declarations have none, that is, the
void value; a conditional has the value of the branch that ran; a loop has the value of its last
iteration, and if there was none, it keeps the value of the statement before it.  The bodies of
conditionals and loops run in the scope around them.

## Main definitions

* `Fallback` — what an operator does with operands that no overload accepts
* `evalExpr`, `evalAll` — the values of expressions
* `execStmts`, `execStmt` — the effects and values of statements
* `dispatch` — the call of a function by name
* `invoke` — the call of a user function that has been selected

## Design notes

Programs need not terminate, so evaluation recurses on fuel.  Every recursive call has one unit
less, and the computation without fuel has no outcome.
-/

namespace Multidispatch

/-- What becomes of a call that no overload accepts, although overloads of its name are in sight. -/
inductive Fallback where
  /-- The call fails. -/
  | refuse
  /-- The operands are compared as values. -/
  | compareContents (op : CompareOp)
  /-- The call fails, and the fault says why the operands cannot be indexed. -/
  | explainIndexing
deriving DecidableEq, Repr

/-- The outcome of the fallback for a call with a spelled name. -/
def Fallback.run (fallback : Fallback) (call : String) (args : List Value) : NativeM Value :=
  match fallback with
  | refuse => Native.fail (.noOverload call args)
  | compareContents op => op.byContents args
  | explainIndexing => Native.fail (Collection.notIndexable args)

/-- The fallback of a binary operator: only equality and its negation have one. -/
def BinaryOp.fallback : BinaryOp → Fallback
  | .compare .eq => .compareContents .eq
  | .compare .ne => .compareContents .ne
  | _ => .refuse

open EvalM

mutual

/-- The value of an expression in a scope. -/
def evalExpr (settings : Settings) : Nat → ScopeId → Expr Name → EvalM Value
  | 0, _, _ => outOfFuel
  | _ + 1, _, .int n => pure (.int n)
  | _ + 1, _, .float x => pure (.float x)
  | _ + 1, _, .bool b => pure (.bool b)
  | _ + 1, _, .text s => native (Native.newText s)
  | fuel + 1, scope, .vector items => do
    let values ← evalAll settings fuel scope items
    native (Native.newVector values.toArray)
  | _ + 1, scope, .ident name => do
    match ← read (·.env.lookup scope name) with
    | some value => pure value
    | none => raise settings (.unboundVariable (settings.names.spelling name))
  | fuel + 1, scope, .binary op left right => do
    let left ← evalExpr settings fuel scope left
    let right ← evalExpr settings fuel scope right
    dispatch settings fuel scope op.name [left, right] op.fallback
  | fuel + 1, scope, .unary op operand => do
    let operand ← evalExpr settings fuel scope operand
    dispatch settings fuel scope op.name [operand] .refuse
  | fuel + 1, scope, .rangeTo stop => do
    let stop ← evalExpr settings fuel scope stop
    dispatch settings fuel scope rangeName [stop] .refuse
  | fuel + 1, scope, .rangeFrom start stop => do
    let start ← evalExpr settings fuel scope start
    let stop ← evalExpr settings fuel scope stop
    dispatch settings fuel scope rangeName [start, stop] .refuse
  | fuel + 1, scope, .member element collection => do
    -- The element is evaluated first, and the collection is the first argument.
    let element ← evalExpr settings fuel scope element
    let collection ← evalExpr settings fuel scope collection
    dispatch settings fuel scope memberName [collection, element] .refuse
  | fuel + 1, scope, .index target position => do
    let target ← evalExpr settings fuel scope target
    let position ← evalExpr settings fuel scope position
    dispatch settings fuel scope indexName [target, position] .explainIndexing
  | fuel + 1, scope, .call callee args => do
    let args ← evalAll settings fuel scope args
    dispatch settings fuel scope callee args .refuse
  | fuel + 1, scope, .block body => execStmts settings fuel scope .void body

/-- The values of expressions in a scope, evaluated from left to right. -/
def evalAll (settings : Settings) : Nat → ScopeId → List (Expr Name) → EvalM (List Value)
  | 0, _, _ => outOfFuel
  | _ + 1, _, [] => pure []
  | fuel + 1, scope, e :: es => do
    let value ← evalExpr settings fuel scope e
    let values ← evalAll settings fuel scope es
    pure (value :: values)

/-- Runs statements in a scope; `last` is the value before them, and the result the value after. -/
def execStmts (settings : Settings) : Nat → ScopeId → Value → List (Stmt Name) → EvalM Value
  | 0, _, _, _ => outOfFuel
  | _ + 1, _, last, [] => pure last
  | fuel + 1, scope, last, s :: rest => do
    let last ← execStmt settings fuel scope last s
    execStmts settings fuel scope last rest

/-- Runs a statement in a scope; `last` is the value before it, and the result the value after. -/
def execStmt (settings : Settings) : Nat → ScopeId → Value → Stmt Name → EvalM Value
  | 0, _, _, _ => outOfFuel
  | fuel + 1, scope, _, .expr e => evalExpr settings fuel scope e
  | fuel + 1, scope, _, .assign name value => do
    let value ← evalExpr settings fuel scope value
    modifyEnv (·.assign scope name value)
    pure .void
  | fuel + 1, scope, _, .ifThen cond body => do
    let value ← evalExpr settings fuel scope cond
    let holds ← condition settings "if" value
    if holds then execStmts settings fuel scope .void body else pure .void
  | fuel + 1, scope, _, .ifElse cond body alternative => do
    let value ← evalExpr settings fuel scope cond
    let holds ← condition settings "if" value
    if holds then
      execStmts settings fuel scope .void body
    else
      execStmts settings fuel scope .void alternative
  | fuel + 1, scope, last, .while cond body => whileLoop settings fuel scope last cond body
  | fuel + 1, scope, last, .for binding iterable body => do
    let value ← evalExpr settings fuel scope iterable
    match value with
    | .vector ref =>
      -- The loop runs over the elements that the vector has now, whatever the body does to it.
      let items ← read (·.store.heap.items ref)
      forLoop settings fuel scope last binding body items.toList
    | value => raise settings (.notIterable value)
  | _ + 1, scope, _, .function name params body => do
    modifyEnv (·.register scope ⟨name, params, .user body scope⟩)
    pure .void

/-- Runs the body of a `while` as long as its condition holds. -/
def whileLoop (settings : Settings) :
    Nat → ScopeId → Value → Expr Name → List (Stmt Name) → EvalM Value
  | 0, _, _, _, _ => outOfFuel
  | fuel + 1, scope, last, cond, body => do
    let value ← evalExpr settings fuel scope cond
    let holds ← condition settings "while" value
    if holds then
      let last ← execStmts settings fuel scope .void body
      whileLoop settings fuel scope last cond body
    else
      pure last

/-- Runs the body of a `for` once for each of the given elements. -/
def forLoop (settings : Settings) :
    Nat → ScopeId → Value → Name → List (Stmt Name) → List Value → EvalM Value
  | 0, _, _, _, _, _ => outOfFuel
  | _ + 1, _, last, _, _, [] => pure last
  | fuel + 1, scope, _, binding, body, item :: items => do
    modifyEnv (·.assign scope binding item)
    let last ← execStmts settings fuel scope .void body
    forLoop settings fuel scope last binding body items

/-- Calls a function by name from a scope: the first overload in sight that accepts the arguments
runs, and if none does, the fallback decides. -/
def dispatch (settings : Settings) : Nat → ScopeId → Name → List Value → Fallback → EvalM Value
  | 0, _, _, _, _ => outOfFuel
  | fuel + 1, scope, name, args, fallback => do
    match ← read (·.env.candidates scope name) with
    | [] => raise settings (.unknownFunction (settings.names.spelling name))
    | candidates =>
      match candidates.find? (·.accepts args) with
      | none => traced settings (native (fallback.run (settings.names.spelling name) args))
      | some callee =>
        match callee.body with
        | .native run => traced settings (native (run args))
        | .user body home => invoke settings fuel callee body home scope args

/-- Runs the body of a user function in a scope of its own, which is released when the body ends,
with a value or with a fault. -/
def invoke (settings : Settings) :
    Nat → Overload → List (Stmt Name) → ScopeId → ScopeId → List Value → EvalM Value
  | 0, _, _, _, _, _ => outOfFuel
  | fuel + 1, callee, body, home, caller, args => do
    let inner ← enter settings callee home caller args
    protect (traced settings (execStmts settings fuel inner .void body)) (·.leave inner)

end

end Multidispatch
