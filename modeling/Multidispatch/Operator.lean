/-!
# Operators

Operators carry no meaning of their own.  Each one stands for a call to a reserved name, and the
overloads registered under that name decide what it does.  This module lists the operators, the
symbols programs write for them and the reserved names they call.

## Main definitions

* `ArithOp`, `LogicOp`, `CompareOp` — the three families of binary operators
* `BinaryOp`, `UnaryOp` — all operators
* `reservedCalls` — the sixteen reserved names, in the order in which every interner numbers them
-/

namespace Multidispatch

/-- The arithmetic operators. -/
inductive ArithOp where
  | add
  | sub
  | mul
  | div
deriving DecidableEq, Repr

/-- The logical operators of two operands. -/
inductive LogicOp where
  | and
  | or
deriving DecidableEq, Repr

/-- The comparison operators. -/
inductive CompareOp where
  | eq
  | ne
  | ge
  | gt
  | le
  | lt
deriving DecidableEq, Repr

/-- The operators of two operands, by family. -/
inductive BinaryOp where
  | arith (op : ArithOp)
  | logic (op : LogicOp)
  | compare (op : CompareOp)
deriving DecidableEq, Repr

/-- The operators of one operand. -/
inductive UnaryOp where
  | not
deriving DecidableEq, Repr

namespace ArithOp

/-- The arithmetic operators in the order in which they are listed. -/
def all : List ArithOp := [add, sub, mul, div]

/-- The reserved name that the operator calls. -/
def call : ArithOp → String
  | add => "__add__"
  | sub => "__sub__"
  | mul => "__mul__"
  | div => "__div__"

/-- The symbol that programs write. -/
def symbol : ArithOp → String
  | add => "+"
  | sub => "-"
  | mul => "*"
  | div => "/"

end ArithOp

namespace LogicOp

/-- The logical operators in the order in which they are listed. -/
def all : List LogicOp := [and, or]

/-- The reserved name that the operator calls. -/
def call : LogicOp → String
  | and => "__and__"
  | or => "__or__"

/-- The symbol that programs write. -/
def symbol : LogicOp → String
  | and => "and"
  | or => "or"

end LogicOp

namespace CompareOp

/-- The comparison operators in the order in which they are listed. -/
def all : List CompareOp := [eq, ne, ge, gt, le, lt]

/-- The reserved name that the operator calls. -/
def call : CompareOp → String
  | eq => "__eq__"
  | ne => "__ne__"
  | ge => "__gte__"
  | gt => "__gt__"
  | le => "__lte__"
  | lt => "__lt__"

/-- The symbol that programs write. -/
def symbol : CompareOp → String
  | eq => "=="
  | ne => "!="
  | ge => ">="
  | gt => ">"
  | le => "<="
  | lt => "<"

end CompareOp

namespace BinaryOp

/-- The binary operators in the order in which they are listed. -/
def all : List BinaryOp :=
  ArithOp.all.map arith ++ LogicOp.all.map logic ++ CompareOp.all.map compare

/-- The reserved name that the operator calls. -/
def call : BinaryOp → String
  | arith op => op.call
  | logic op => op.call
  | compare op => op.call

/-- The symbol that programs write. -/
def symbol : BinaryOp → String
  | arith op => op.symbol
  | logic op => op.symbol
  | compare op => op.symbol

/-- The operator that a symbol stands for. -/
def ofSymbol? (symbol : String) : Option BinaryOp :=
  all.find? fun op => op.symbol == symbol

end BinaryOp

namespace UnaryOp

/-- The reserved name that the operator calls. -/
def call : UnaryOp → String
  | not => "__not__"

/-- The symbol that programs write. -/
def symbol : UnaryOp → String
  | not => "not"

end UnaryOp

/-- The reserved name that range expressions call. -/
def rangeCall : String := "range"

/-- The reserved name that membership expressions call. -/
def memberCall : String := "__in__"

/-- The reserved name that indexing expressions call. -/
def indexCall : String := "__at__"

/-- The reserved names: the binary operators, then negation, ranges, membership and indexing. -/
def reservedCalls : List String :=
  BinaryOp.all.map BinaryOp.call ++ [UnaryOp.not.call, rangeCall, memberCall, indexCall]

end Multidispatch
