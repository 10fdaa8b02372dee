import Multidispatch.Program

/-!
# Structural equality of programs

Two trees are equal when they have the same shape and the same leaves.  Leaves that are floats are
compared as numbers, so the two zeros are equal and a NaN differs from itself; this is why the test
is a function of its own and not the equality of the logic.

## Main definitions

* `Expr.same`, `Stmt.same`, `Block.same` — the tests
-/

namespace Multidispatch

variable {ν : Type} [DecidableEq ν]

mutual

/-- Whether two expressions are structurally equal. -/
def Expr.same : Expr ν → Expr ν → Bool
  | .int m, .int n => m == n
  | .float x, .float y => x == y
  | .bool a, .bool b => a == b
  | .text s, .text t => s == t
  | .vector xs, .vector ys => Expr.sameAll xs ys
  | .ident x, .ident y => decide (x = y)
  | .binary o a b, .binary p c d => decide (o = p) && Expr.same a c && Expr.same b d
  | .unary o a, .unary p c => decide (o = p) && Expr.same a c
  | .rangeTo a, .rangeTo c => Expr.same a c
  | .rangeFrom a b, .rangeFrom c d => Expr.same a c && Expr.same b d
  | .member a b, .member c d => Expr.same a c && Expr.same b d
  | .index a b, .index c d => Expr.same a c && Expr.same b d
  | .call f xs, .call g ys => decide (f = g) && Expr.sameAll xs ys
  | .block b, .block c => Block.same b c
  | _, _ => false

/-- Whether two lists of expressions are structurally equal. -/
def Expr.sameAll : List (Expr ν) → List (Expr ν) → Bool
  | [], [] => true
  | a :: as, b :: bs => Expr.same a b && Expr.sameAll as bs
  | _, _ => false

/-- Whether two statements are structurally equal. -/
def Stmt.same : Stmt ν → Stmt ν → Bool
  | .expr a, .expr c => Expr.same a c
  | .assign x a, .assign y c => decide (x = y) && Expr.same a c
  | .ifThen a b, .ifThen c d => Expr.same a c && Block.same b d
  | .ifElse a b e, .ifElse c d f => Expr.same a c && Block.same b d && Block.same e f
  | .while a b, .while c d => Expr.same a c && Block.same b d
  | .for x a b, .for y c d => decide (x = y) && Expr.same a c && Block.same b d
  | .function f ps b, .function g qs d => decide (f = g) && decide (ps = qs) && Block.same b d
  | _, _ => false

/-- Whether two blocks are structurally equal. -/
def Block.same : List (Stmt ν) → List (Stmt ν) → Bool
  | [], [] => true
  | s :: ss, t :: ts => Stmt.same s t && Block.same ss ts
  | _, _ => false

end

end Multidispatch
