import Multidispatch.Evaluator

/-!
# What a piece of a program does

An expression or a statement acts on the environment by reading variables, assigning to them,
calling functions and declaring them.  `Expr.actions` and `Stmt.actions` list these actions.  The
body of a declared function is not run where it is declared, so its actions are not among those of
the declaration; the declaration carries the body instead.

## Main definitions

* `Action` — what a piece of a program can do
* `Expr.actions`, `Stmt.actions`, `Block.actions` — what it does by itself
-/

namespace Multidispatch

/-- What a piece of a program can do to the environment. -/
inductive Action where
  /-- It reads a variable. -/
  | read (name : Name)
  /-- It assigns to a variable, by an assignment or as the variable of a `for`. -/
  | assign (name : Name)
  /-- It calls a function by name; operators call their reserved names. -/
  | call (name : Name)
  /-- It declares a function. -/
  | declare (name : Name) (params : List (Param Name)) (body : Block Name)

mutual

/-- The actions of an expression. -/
def Expr.actions : Expr Name → List Action
  | .int _ => []
  | .float _ => []
  | .bool _ => []
  | .text _ => []
  | .vector items => Expr.actionsAll items
  | .ident name => [.read name]
  | .binary op left right => left.actions ++ right.actions ++ [.call op.name]
  | .unary op operand => operand.actions ++ [.call op.name]
  | .rangeTo stop => stop.actions ++ [.call rangeName]
  | .rangeFrom start stop => start.actions ++ stop.actions ++ [.call rangeName]
  | .member element collection => element.actions ++ collection.actions ++ [.call memberName]
  | .index target position => target.actions ++ position.actions ++ [.call indexName]
  | .call callee args => Expr.actionsAll args ++ [.call callee]
  | .block body => Block.actions body

/-- The actions of expressions. -/
def Expr.actionsAll : List (Expr Name) → List Action
  | [] => []
  | e :: es => e.actions ++ Expr.actionsAll es

/-- The actions of a statement. -/
def Stmt.actions : Stmt Name → List Action
  | .expr e => e.actions
  | .assign name value => value.actions ++ [.assign name]
  | .ifThen condition body => condition.actions ++ Block.actions body
  | .ifElse condition body alternative =>
    condition.actions ++ Block.actions body ++ Block.actions alternative
  | .while condition body => condition.actions ++ Block.actions body
  | .for binding iterable body => iterable.actions ++ .assign binding :: Block.actions body
  | .function name params body => [.declare name params body]

/-- The actions of the statements of a block. -/
def Block.actions : List (Stmt Name) → List Action
  | [] => []
  | s :: rest => s.actions ++ Block.actions rest

end

end Multidispatch
