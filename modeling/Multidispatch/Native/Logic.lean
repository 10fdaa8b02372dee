import Multidispatch.Native.Basic

/-!
# Logic

The logical operators are ordinary calls: both operands of `and` and `or` are evaluated before the
operator is applied.

## Main definitions

* `UnaryOp.apply`, `LogicOp.apply` — the natives of the operators
* `Logic.entries` — their entries in the prelude
-/

namespace Multidispatch

/-- Negation of a truth value. -/
def UnaryOp.apply (op : UnaryOp) : Native
  | [.bool b] => pure (.bool (!b))
  | args => Native.fail (.noOverload op.call args)

namespace LogicOp

/-- The operator on truth values. -/
def holds : LogicOp → Bool → Bool → Bool
  | and, a, b => a && b
  | or, a, b => a || b

/-- The operator as a native. -/
def apply (op : LogicOp) : Native
  | [.bool a, .bool b] => pure (.bool (op.holds a b))
  | args => Native.fail (.noOverload op.call args)

end LogicOp

/-- The entries of the logical operators. -/
def Logic.entries : List Entry :=
  ⟨UnaryOp.not.call, [Kind.boolean], UnaryOp.not.apply⟩ ::
    LogicOp.all.map fun op => ⟨op.call, [Kind.boolean, Kind.boolean], op.apply⟩

end Multidispatch
