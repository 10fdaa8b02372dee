import Multidispatch.Kind
import Multidispatch.Operator

/-!
# Programs

A program is a block, that is, a list of statements.  Trees are generic in the type `ν` of their
identifiers: a source program spells its identifiers (`ν = String`), and a program that runs refers
to them by number (`ν = Name`).

## Main definitions

* `Expr`, `Stmt` — expressions and statements, mutually recursive
* `Block` — a list of statements
* `Param` — a parameter of a function, with what it accepts
* `Expr.form` — the word for the syntactic form of an expression
-/

namespace Multidispatch

/-- A parameter: its name and the tag that its argument has to match. -/
structure Param (ν : Type) where
  /-- The name bound in the body of the function. -/
  name : ν
  /-- What the parameter accepts. -/
  tag : Tag
deriving DecidableEq, Repr

mutual

/-- Expressions. -/
inductive Expr (ν : Type) where
  | int (n : Int64)
  | float (x : Float)
  | bool (b : Bool)
  | text (s : String)
  /-- A vector with one element for each expression. -/
  | vector (items : List (Expr ν))
  | ident (name : ν)
  | binary (op : BinaryOp) (left right : Expr ν)
  | unary (op : UnaryOp) (operand : Expr ν)
  /-- The range from one up to `stop`. -/
  | rangeTo (stop : Expr ν)
  /-- The range from `start` up to `stop`. -/
  | rangeFrom (start stop : Expr ν)
  /-- The question whether `element` occurs in `collection`. -/
  | member (element collection : Expr ν)
  /-- The element of `target` at `position`. -/
  | index (target position : Expr ν)
  | call (callee : ν) (args : List (Expr ν))
  /-- A block, for the value of its last statement. -/
  | block (body : List (Stmt ν))

/-- Statements. -/
inductive Stmt (ν : Type) where
  | expr (e : Expr ν)
  | assign (name : ν) (value : Expr ν)
  /-- A conditional without an alternative. -/
  | ifThen (condition : Expr ν) (body : List (Stmt ν))
  /-- A conditional with an alternative, which may be empty. -/
  | ifElse (condition : Expr ν) (body alternative : List (Stmt ν))
  | while (condition : Expr ν) (body : List (Stmt ν))
  /-- A loop over the elements of a vector. -/
  | for (binding : ν) (iterable : Expr ν) (body : List (Stmt ν))
  /-- The declaration of one overload of a function. -/
  | function (name : ν) (params : List (Param ν)) (body : List (Stmt ν))

end

/-- A list of statements, run in order in one scope. -/
abbrev Block (ν : Type) := List (Stmt ν)

/-- The word for the syntactic form of an expression. -/
def Expr.form {ν : Type} : Expr ν → String
  | .int _ => "int"
  | .float _ => "float"
  | .bool _ => "bool"
  | .text _ => "string"
  | .vector _ => "vector"
  | .ident _ => "ident"
  | .binary .. => "binary"
  | .unary .. => "unary"
  | .rangeTo _ => "range"
  | .rangeFrom .. => "range"
  | .member .. => "in"
  | .index .. => "index"
  | .call .. => "call"
  | .block _ => "block"

end Multidispatch
