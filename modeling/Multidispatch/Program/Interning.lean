import Multidispatch.Interner
import Multidispatch.Program

/-!
# Interning programs

`Block.intern` replaces the spelled identifiers of a source program by names.  The parts of a tree
are visited before the tree itself, so an identifier inside an argument is numbered before the
function that is called, and the body of a function before the function.

## Main definitions

* `Expr.intern`, `Stmt.intern`, `Block.intern` — from spelled to numbered identifiers
-/

namespace Multidispatch

/-- Interns the name of a parameter. -/
def Param.intern (param : Param String) : InternM (Param Name) := do
  let name ← Interner.intern param.name
  return ⟨name, param.tag⟩

/-- Interns the names of parameters, from left to right. -/
def Param.internAll : List (Param String) → InternM (List (Param Name))
  | [] => return []
  | p :: ps => do
    let p ← p.intern
    let ps ← internAll ps
    return p :: ps

mutual

/-- Interns the identifiers of an expression. -/
def Expr.intern : Expr String → InternM (Expr Name)
  | .int n => return .int n
  | .float x => return .float x
  | .bool b => return .bool b
  | .text s => return .text s
  | .vector items => do
    let items ← Expr.internAll items
    return .vector items
  | .ident x => do
    let x ← Interner.intern x
    return .ident x
  | .binary op left right => do
    let left ← left.intern
    let right ← right.intern
    return .binary op left right
  | .unary op operand => do
    let operand ← operand.intern
    return .unary op operand
  | .rangeTo stop => do
    let stop ← stop.intern
    return .rangeTo stop
  | .rangeFrom start stop => do
    let start ← start.intern
    let stop ← stop.intern
    return .rangeFrom start stop
  | .member element collection => do
    let element ← element.intern
    let collection ← collection.intern
    return .member element collection
  | .index target position => do
    let target ← target.intern
    let position ← position.intern
    return .index target position
  | .call callee args => do
    let args ← Expr.internAll args
    let callee ← Interner.intern callee
    return .call callee args
  | .block body => do
    let body ← Block.intern body
    return .block body

/-- Interns the identifiers of expressions, from left to right. -/
def Expr.internAll : List (Expr String) → InternM (List (Expr Name))
  | [] => return []
  | e :: es => do
    let e ← e.intern
    let es ← Expr.internAll es
    return e :: es

/-- Interns the identifiers of a statement. -/
def Stmt.intern : Stmt String → InternM (Stmt Name)
  | .expr e => do
    let e ← e.intern
    return .expr e
  | .assign x value => do
    let value ← value.intern
    let x ← Interner.intern x
    return .assign x value
  | .ifThen condition body => do
    let condition ← condition.intern
    let body ← Block.intern body
    return .ifThen condition body
  | .ifElse condition body alternative => do
    let condition ← condition.intern
    let body ← Block.intern body
    let alternative ← Block.intern alternative
    return .ifElse condition body alternative
  | .while condition body => do
    let condition ← condition.intern
    let body ← Block.intern body
    return .while condition body
  | .for binding iterable body => do
    let iterable ← iterable.intern
    let body ← Block.intern body
    let binding ← Interner.intern binding
    return .for binding iterable body
  | .function name params body => do
    let body ← Block.intern body
    let name ← Interner.intern name
    let params ← Param.internAll params
    return .function name params body

/-- Interns the identifiers of a block, statement by statement. -/
def Block.intern : List (Stmt String) → InternM (List (Stmt Name))
  | [] => return []
  | s :: ss => do
    let s ← s.intern
    let ss ← Block.intern ss
    return s :: ss

end

end Multidispatch
