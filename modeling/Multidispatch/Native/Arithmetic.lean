import Multidispatch.Native.Basic

/-!
# Arithmetic

Arithmetic on two integers is exact, and division truncates toward zero; a result that does not fit
and a division by zero are faults.  As soon as one operand is a float the other is promoted, and
the floating-point operation is applied, which has a result in every case.  Addition also
concatenates strings.

## Main definitions

* `ArithOp.ints`, `ArithOp.floats` — the operators on integers and on floats
* `ArithOp.apply` — the native of a numeric operator
* `Arithmetic.concat` — the native that joins two strings
* `Arithmetic.entries` — their entries in the prelude
-/

namespace Multidispatch

namespace ArithOp

/-- The word for the operation in messages. -/
def operation : ArithOp → String
  | add => "addition"
  | sub => "subtraction"
  | mul => "multiplication"
  | div => "division"

/-- The exact result on whole numbers; division truncates toward zero. -/
def exact : ArithOp → Int → Int → Int
  | add, a, b => a + b
  | sub, a, b => a - b
  | mul, a, b => a * b
  | div, a, b => a.tdiv b

/-- The result on integers, if the exact result fits. -/
def ints (op : ArithOp) (a b : Int64) : Except Cause Value :=
  if op = div ∧ b = 0 then
    .error .divisionByZero
  else
    match Integer.ofInt? (op.exact a.toInt b.toInt) with
    | some n => .ok (.int n)
    | none => .error (.integerOverflow op.operation)

/-- The result on floats. -/
def floats : ArithOp → Float → Float → Float
  | add, a, b => a + b
  | sub, a, b => a - b
  | mul, a, b => a * b
  | div, a, b => a / b

/-- The operator on two numbers. -/
def apply (op : ArithOp) : Native
  | [.int a, .int b] => Native.ofExcept (op.ints a b)
  | args =>
    match floatOperands? args with
    | some (a, b) => pure (.float (op.floats a b))
    | none => Native.fail (.noOverload op.call args)

end ArithOp

namespace Arithmetic

/-- A new string, the contents of the first string followed by those of the second. -/
def concat : Native
  | [.text a, .text b] => do
    let heap ← Native.heap
    Native.newText (heap.text a ++ heap.text b)
  | args => Native.fail (.noOverload ArithOp.add.call args)

/-- The entries of the arithmetic operators. -/
def entries : List Entry :=
  (ArithOp.all.flatMap fun op => numericPairs.map fun pair => ⟨op.call, pair, op.apply⟩) ++
    [⟨ArithOp.add.call, [Kind.string, Kind.string], concat⟩]

end Arithmetic

end Multidispatch
