import Mathlib
import Multidispatch.Proofs.PreludeInSight

/-!
# Integer arithmetic

The arithmetic operators of the prelude compute with whole numbers and refuse what is not an
integer: the result is exact, or the operation fails.  Sums, differences and products may be too
large; a quotient is so in one case only, where the least integer is divided by minus one.  A
quotient is truncated toward zero, so its product with the divisor lies between zero and the
dividend, and what remains lies there too.  None of the steps that lead back from a quotient to its
dividend can therefore fail.

In the course of a session, this is what the operators do wherever no overload stands between them
and the prelude.

## Main definitions

* `Integer.Fits` — the whole numbers that are integers
* `ArithOp.Yields` — what an operator on two integers comes to
* `IsRemainder` — what a division may leave

## Main statements

* `Integer.fits_tdiv_iff` — which quotients are integers
* `ArithOp.ints_of_fits`, `ArithOp.ints_of_not_fits` — operations that succeed, and that fail
* `ArithOp.yields_ints` — an operator does what its native does
* `integer_arithmetic_is_exact_or_fails` — all operators on all integers
-/

namespace Multidispatch

/-! ### Whole numbers that are integers -/

namespace Integer

/-- The whole number is an integer of 64 bits. -/
def Fits (n : Int) : Prop :=
  -2 ^ 63 ≤ n ∧ n ≤ 2 ^ 63 - 1

theorem fits_toInt (k : Int64) : Fits k.toInt :=
  ⟨k.le_toInt, Int.le_sub_one_of_lt k.toInt_lt⟩

theorem exists_of_fits {n : Int} (fits : Fits n) :
    ∃ k : Int64, ofInt? n = some k ∧ k.toInt = n := by
  have found : ofInt? n = some (Int64.ofInt n) := if_pos fits
  exact ⟨_, found, toInt_of_ofInt? found⟩

theorem exists_of_lt {k : Nat} (fits : k < 2 ^ 63) : ∃ n : Int64, n.toInt = k :=
  ⟨.ofNat k, Int64.toInt_ofNat_of_lt fits⟩

theorem ofInt?_of_not_fits {n : Int} (beyond : ¬Fits n) : ofInt? n = none :=
  if_neg beyond

variable {a : Int}

/-- Of the quotients of an integer, only the one of the least integer by minus one is too large. -/
theorem fits_tdiv_iff (fits : Fits a) (b : Int) :
    Fits (a.tdiv b) ↔ ¬(a = -2 ^ 63 ∧ b = -1) := by
  constructor
  · rintro ⟨-, high⟩ ⟨rfl, rfl⟩
    exact absurd high (by decide)
  · intro regular
    have shrinks := Int.natAbs_tdiv_le_natAbs a b
    unfold Fits at fits ⊢
    by_cases least : a = -2 ^ 63
    · -- The quotient of the least integer could only be too large if the signs agree.
      have other : b ≠ -1 := fun same => regular ⟨least, same⟩
      by_cases negative : b < 0
      · have halved : (a.tdiv b).natAbs ≤ a.natAbs / 2 := by
          rw [Int.natAbs_tdiv]
          exact Nat.div_le_div_left (by omega) Nat.two_pos
        omega
      · have signs : (-a).tdiv b = -a.tdiv b := Int.neg_tdiv a b
        have nonneg : 0 ≤ (-a).tdiv b := Int.tdiv_nonneg (by omega) (by omega)
        omega
    · omega

/-- What is left after a division lies between zero and the dividend. -/
theorem tmod_between (a b : Int) :
    0 ≤ a.tmod b ∧ a.tmod b ≤ a ∨ a ≤ a.tmod b ∧ a.tmod b ≤ 0 := by
  have size : (a.tmod b).natAbs ≤ a.natAbs := by
    rw [Int.natAbs_tmod]
    exact Nat.mod_le _ _
  rcases Int.le_total 0 a with positive | negative
  · have nonneg := Int.tmod_nonneg b positive
    omega
  · have nonneg := Int.tmod_nonneg b (Int.neg_nonneg_of_nonpos negative)
    rw [Int.neg_tmod] at nonneg
    omega

theorem fits_tmod (fits : Fits a) (b : Int) : Fits (a.tmod b) := by
  have between := tmod_between a b
  unfold Fits at fits ⊢
  omega

/-- The product of a quotient and the divisor lies between zero and the dividend. -/
theorem fits_tdiv_mul (fits : Fits a) (b : Int) : Fits (a.tdiv b * b) := by
  have between := tmod_between a b
  have whole := Int.tdiv_mul_add_tmod a b
  unfold Fits at fits ⊢
  omega

end Integer

/-- What a division of whole numbers may leave: less than the divisor, and nothing or of the sign of
the dividend. -/
structure IsRemainder (a b r : Int) : Prop where
  smaller : r.natAbs < b.natAbs
  sign : r = 0 ∨ r.sign = a.sign

theorem isRemainder_tmod (a : Int) {b : Int} (nonzero : b ≠ 0) : IsRemainder a b (a.tmod b) where
  smaller := by
    rw [Int.natAbs_tmod]
    exact Nat.mod_lt _ (Int.natAbs_pos.mpr nonzero)
  sign := by
    by_cases divides : b ∣ a
    · exact .inl (Int.tmod_eq_zero_of_dvd divides)
    · exact .inr (by rw [Int.sign_tmod, if_neg divides])

/-! ### The natives -/

namespace ArithOp

variable {op : ArithOp} {a b : Int64}

/-- An operation succeeds if it is defined and its exact result is an integer, and then it returns
this result. -/
theorem ints_of_fits (defined : ¬(op = div ∧ b = 0))
    (fits : Integer.Fits (op.exact a.toInt b.toInt)) :
    ∃ n : Int64, n.toInt = op.exact a.toInt b.toInt ∧ op.ints a b = .ok (.int n) := by
  obtain ⟨n, found, same⟩ := Integer.exists_of_fits fits
  refine ⟨n, same, ?_⟩
  rw [ints, if_neg defined, found]

/-- An operation that is defined fails if its exact result is not an integer. -/
theorem ints_of_not_fits (defined : ¬(op = div ∧ b = 0))
    (beyond : ¬Integer.Fits (op.exact a.toInt b.toInt)) :
    op.ints a b = .error (.integerOverflow op.operation) := by
  rw [ints, if_neg defined, Integer.ofInt?_of_not_fits beyond]

theorem ints_div_zero (a : Int64) : div.ints a 0 = .error .divisionByZero :=
  if_pos ⟨rfl, rfl⟩

/-- A division fails for one of two reasons, and otherwise returns the quotient truncated toward
zero. -/
theorem ints_div_cases (a b : Int64) :
    (b = 0 ∧ div.ints a b = .error .divisionByZero) ∨
    (b ≠ 0 ∧ (a.toInt = -2 ^ 63 ∧ b.toInt = -1) ∧
      div.ints a b = .error (.integerOverflow "division")) ∨
    (b ≠ 0 ∧ ¬(a.toInt = -2 ^ 63 ∧ b.toInt = -1) ∧
      ∃ q : Int64, q.toInt = a.toInt.tdiv b.toInt ∧ div.ints a b = .ok (.int q)) := by
  by_cases zero : b = 0
  · rw [zero]
    exact .inl ⟨rfl, ints_div_zero a⟩
  · have defined : ¬(div = div ∧ b = 0) := fun both => zero both.2
    have fits_iff := Integer.fits_tdiv_iff (Integer.fits_toInt a) b.toInt
    by_cases extreme : a.toInt = -2 ^ 63 ∧ b.toInt = -1
    · exact .inr (.inl ⟨zero, extreme,
        ints_of_not_fits defined fun fits => fits_iff.mp fits extreme⟩)
    · exact .inr (.inr ⟨zero, extreme, ints_of_fits defined (fits_iff.mpr extreme)⟩)

theorem ints_div_eq_divisionByZero_iff (a b : Int64) :
    div.ints a b = .error .divisionByZero ↔ b = 0 := by
  rcases ints_div_cases a b with ⟨zero, fails⟩ | ⟨nonzero, -, fails⟩ | ⟨nonzero, -, q, -, succeeds⟩
  · exact iff_of_true fails zero
  · rw [fails]
    exact iff_of_false nofun nonzero
  · rw [succeeds]
    exact iff_of_false nofun nonzero

theorem ints_div_eq_integerOverflow_iff (a b : Int64) :
    div.ints a b = .error (.integerOverflow "division") ↔ a.toInt = -2 ^ 63 ∧ b.toInt = -1 := by
  rcases ints_div_cases a b with ⟨rfl, fails⟩ | ⟨-, extreme, fails⟩ | ⟨-, regular, q, -, succeeds⟩
  · rw [fails]
    exact iff_of_false nofun fun extreme => absurd extreme.2 (by decide)
  · exact iff_of_true fails extreme
  · rw [succeeds]
    exact iff_of_false nofun regular

/-- Whenever there is a quotient, its product with the divisor, the difference to the dividend and
the sum of the two are integers as well, and the difference is a remainder. -/
theorem exists_remainder (nonzero : b ≠ 0) (regular : ¬(a.toInt = -2 ^ 63 ∧ b.toInt = -1)) :
    ∃ q p r : Int64, div.ints a b = .ok (.int q) ∧ mul.ints q b = .ok (.int p) ∧
      sub.ints a p = .ok (.int r) ∧ add.ints p r = .ok (.int a) ∧
      IsRemainder a.toInt b.toInt r.toInt := by
  have fits := Integer.fits_toInt a
  have whole := Int.tdiv_mul_add_tmod a.toInt b.toInt
  obtain ⟨q, quotient, divided⟩ := @ints_of_fits div a b (fun both => nonzero both.2)
    ((Integer.fits_tdiv_iff fits _).mpr regular)
  have product_eq : mul.exact q.toInt b.toInt = a.toInt.tdiv b.toInt * b.toInt := by
    rw [quotient]
    rfl
  obtain ⟨p, product, multiplied⟩ := @ints_of_fits mul q b nofun
    (product_eq ▸ Integer.fits_tdiv_mul fits _)
  have difference_eq : sub.exact a.toInt p.toInt = a.toInt.tmod b.toInt := by
    show a.toInt - p.toInt = _
    omega
  obtain ⟨r, remainder, subtracted⟩ := @ints_of_fits sub a p nofun
    (difference_eq ▸ Integer.fits_tmod fits _)
  have sum_eq : add.exact p.toInt r.toInt = a.toInt := by
    show p.toInt + r.toInt = _
    omega
  obtain ⟨n, sum, added⟩ := @ints_of_fits add p r nofun (sum_eq ▸ fits)
  obtain rfl : n = a := Int64.toInt_inj.mp (sum.trans sum_eq)
  have remains : IsRemainder n.toInt b.toInt r.toInt := by
    rw [remainder, difference_eq]
    exact isRemainder_tmod _ fun zero => nonzero (Int64.toInt_inj.mp zero)
  exact ⟨q, p, r, divided, multiplied, subtracted, added, remains⟩

/-- For two integers the prelude has the native of the operator. -/
theorem select_ints (op : ArithOp) (a b : Int64) :
    Prelude.select op.call [.int a, .int b] =
      some ⟨op.call, [Kind.integer, Kind.integer], op.apply⟩ := by
  cases op <;> rfl

/-- The native leaves the store as it is. -/
theorem apply_ints (op : ArithOp) (a b : Int64) (store : Store) :
    op.apply [.int a, .int b] store = ((op.ints a b).mapError fun cause => { cause }, store) := by
  show Native.ofExcept (op.ints a b) store = _
  cases op.ints a b <;> rfl

/-- The operator, applied to two integers from a scope on a machine, comes to this outcome and
leaves the machine as it is. -/
def Yields (settings : Settings) (machine : Machine) (site : ScopeId) (op : ArithOp)
    (a b : Int64) (outcome : Except Fault Value) : Prop :=
  (BinaryOp.arith op).Yields settings machine site (.int a) (.int b) outcome

section Calls

variable {settings : Settings} {machine : Machine} {site : ScopeId}

/-- Where the natives of the prelude are found first, an operator on two integers does what its
native does. -/
theorem yields_ints (reserved : Interner.initial.spellings <+: settings.names.spellings)
    (first : Prelude.First settings machine.env site op.call) (a b : Int64) :
    op.Yields settings machine site a b ((op.ints a b).mapError (machine.fault settings)) := by
  have yields : op.Yields settings machine site a b _ :=
    BinaryOp.yields_of_first reserved first (select_ints op a b) (apply_ints op a b machine.store)
  cases result : op.ints a b <;> rwa [result] at yields

/-- The expression `a / b * b`. -/
def productOfQuotient (a b : Int64) : Expr Name :=
  .binary (.arith mul) (.binary (.arith div) (.int a) (.int b)) (.int b)

/-- An expression that takes a quotient times its divisor evaluates if the two steps do. -/
theorem evalExpr_productOfQuotient {q p : Int64}
    (divided : div.Yields settings machine site a b (.ok (.int q)))
    (multiplied : mul.Yields settings machine site q b (.ok (.int p))) (fuel : Nat) :
    evalExpr settings (fuel + 3) site (productOfQuotient a b) machine =
      some (.ok (.int p), machine) := by
  have quotient := divided.expr (fuel + 1) (.int a) (.int b) machine machine rfl rfl
  exact multiplied.expr (fuel + 2) _ (.int b) machine machine quotient rfl

end Calls

end ArithOp

/-! ### All operators on all integers -/

/-- Faults that are raised on the same machine tell their causes apart. -/
theorem Machine.mapError_fault_eq_iff {settings : Settings} {machine : Machine}
    {result : Except Cause Value} {cause : Cause} :
    result.mapError (machine.fault settings) = .error (machine.fault settings cause) ↔
      result = .error cause := by
  cases result with
  | ok value => exact iff_of_false nofun nofun
  | error cause' =>
    constructor
    · intro same
      have causes := congrArg Fault.cause (Except.error.inj same)
      rw [Machine.fault, Machine.fault, CallStack.cause_attach, CallStack.cause_attach] at causes
      exact congrArg Except.error causes
    · rintro ⟨⟩
      rfl

/-- In the course of a session on a new interpreter with the prelude, whatever has been registered
and declared in the global scope, the arithmetic operators on integers are exact or fail, from every
scope that sees no overloads of theirs before the global scope.  Sums, differences and products are
the exact ones if these are integers, and overflow otherwise.  A quotient fails to exist if the
divisor is zero, overflows if the least integer is divided by minus one, and is truncated toward
zero in all other cases.  In these, `a / b * b` and `a - a / b * b` evaluate as well, and the latter
is a remainder that gives the dividend when it is added to the former. -/
theorem integer_arithmetic_is_exact_or_fails {options : Options} {origin : Interpreter}
    {settings : Settings} {sub : Task} {machine : Machine} {site : ScopeId}
    (prelude : options.prelude = true)
    (reserved : Interner.initial.spellings <+: options.names.spellings)
    (built : Interpreter.build options = .ok origin)
    (evaluates : origin.Evaluates settings sub machine)
    (live : site.index < machine.env.depth) (a b : Int64) :
    (∀ op result word, (op, result, word) ∈ [(ArithOp.add, a.toInt + b.toInt, "addition"),
        (.sub, a.toInt - b.toInt, "subtraction"), (.mul, a.toInt * b.toInt, "multiplication")] →
      machine.env.Unshadowed site (BinaryOp.arith op).name →
      (-2 ^ 63 ≤ result ∧ result ≤ 2 ^ 63 - 1 → ∃ n : Int64, n.toInt = result ∧
        op.Yields settings machine site a b (.ok (.int n))) ∧
      (¬(-2 ^ 63 ≤ result ∧ result ≤ 2 ^ 63 - 1) →
        op.Yields settings machine site a b
          (.error (machine.fault settings (.integerOverflow word))))) ∧
    (machine.env.Unshadowed site (BinaryOp.arith .div).name → ∃ outcome,
      ArithOp.div.Yields settings machine site a b outcome ∧
      (outcome = .error (machine.fault settings .divisionByZero) ↔ b = 0) ∧
      (outcome = .error (machine.fault settings (.integerOverflow "division")) ↔
        a.toInt = -2 ^ 63 ∧ b.toInt = -1) ∧
      (b ≠ 0 → ¬(a.toInt = -2 ^ 63 ∧ b.toInt = -1) →
        ∃ q : Int64, q.toInt = a.toInt.tdiv b.toInt ∧ outcome = .ok (.int q))) ∧
    ((∀ op, machine.env.Unshadowed site (BinaryOp.arith op).name) → b ≠ 0 →
      ¬(a.toInt = -2 ^ 63 ∧ b.toInt = -1) → ∃ q p r : Int64,
      ArithOp.div.Yields settings machine site a b (.ok (.int q)) ∧
      ArithOp.mul.Yields settings machine site q b (.ok (.int p)) ∧
      ArithOp.sub.Yields settings machine site a p (.ok (.int r)) ∧
      ArithOp.add.Yields settings machine site p r (.ok (.int a)) ∧
      IsRemainder a.toInt b.toInt r.toInt ∧
      ∀ fuel,
        evalExpr settings (fuel + 4) site
            (.binary (.arith .sub) (.int a) (ArithOp.productOfQuotient a b)) machine =
          some (.ok (.int r), machine) ∧
        evalExpr settings (fuel + 4) site
            (.binary (.arith .add) (ArithOp.productOfQuotient a b) (.int r)) machine =
          some (.ok (.int a), machine)) := by
  have reserved' : Interner.initial.spellings <+: settings.names.spellings :=
    (reserved.trans (Prelude.grows_of_build built)).trans (Prelude.grows_of_evaluates evaluates)
  have yields : ∀ {op : ArithOp}, machine.env.Unshadowed site (BinaryOp.arith op).name →
      ∀ a b, op.Yields settings machine site a b
        ((op.ints a b).mapError (machine.fault settings)) := by
    intro op unshadowed a b
    have known := Interner.get?_of_prefix reserved' (BinaryOp.arith op).get?_call
    have first := Prelude.first_of_evaluates prelude built (Prelude.exists_entry (.arith op))
      evaluates known live unshadowed
    exact ArithOp.yields_ints reserved' first a b
  refine ⟨?_, ?_, ?_⟩
  · intro op result word among unshadowed
    have exact_eq : op ≠ .div ∧ result = op.exact a.toInt b.toInt ∧ word = op.operation := by
      simp only [List.mem_cons, Prod.mk.injEq, List.not_mem_nil, or_false] at among
      rcases among with ⟨rfl, rfl, rfl⟩ | ⟨rfl, rfl, rfl⟩ | ⟨rfl, rfl, rfl⟩ <;>
        exact ⟨nofun, rfl, rfl⟩
    obtain ⟨other, rfl, rfl⟩ := exact_eq
    have defined : ¬(op = .div ∧ b = 0) := fun both => other both.1
    have computed := yields unshadowed a b
    constructor
    · intro fits
      obtain ⟨n, same, succeeds⟩ := ArithOp.ints_of_fits defined fits
      rw [succeeds] at computed
      exact ⟨n, same, computed⟩
    · intro beyond
      rwa [ArithOp.ints_of_not_fits defined beyond] at computed
  · intro unshadowed
    refine ⟨_, yields unshadowed a b, ?_, ?_, ?_⟩
    · rw [Machine.mapError_fault_eq_iff, ArithOp.ints_div_eq_divisionByZero_iff]
    · rw [Machine.mapError_fault_eq_iff, ArithOp.ints_div_eq_integerOverflow_iff]
    · intro nonzero regular
      obtain ⟨zero, -⟩ | ⟨-, extreme, -⟩ | ⟨-, -, q, quotient, succeeds⟩ :=
        ArithOp.ints_div_cases a b
      · exact absurd zero nonzero
      · exact absurd extreme regular
      · rw [succeeds]
        exact ⟨q, quotient, rfl⟩
  · intro unshadowed nonzero regular
    obtain ⟨q, p, r, divided, multiplied, subtracted, added, remains⟩ :=
      ArithOp.exists_remainder nonzero regular
    have yieldsQuotient := yields (unshadowed .div) a b
    have yieldsProduct := yields (unshadowed .mul) q b
    have yieldsDifference := yields (unshadowed .sub) a p
    have yieldsSum := yields (unshadowed .add) p r
    rw [divided] at yieldsQuotient
    rw [multiplied] at yieldsProduct
    rw [subtracted] at yieldsDifference
    rw [added] at yieldsSum
    refine ⟨q, p, r, yieldsQuotient, yieldsProduct, yieldsDifference, yieldsSum, remains, ?_⟩
    intro fuel
    have product := ArithOp.evalExpr_productOfQuotient yieldsQuotient yieldsProduct fuel
    exact ⟨yieldsDifference.expr (fuel + 3) (.int a) _ machine machine rfl product,
      yieldsSum.expr (fuel + 3) _ (.int r) machine machine product rfl⟩

/-- A function that does nothing. -/
def idleFunction : Overload :=
  ⟨⟨27⟩, [], .user [] .global⟩

/-- A host registers another addition of integers, and a program declares the idle function. -/
def addingSession : List Request :=
  [.registerNative ArithOp.add.call [⟨"", Kind.integer⟩, ⟨"", Kind.integer⟩] fun _ => pure .void,
    .load [.function "idle" [] []], .run 3 [.function ⟨27⟩ [] []]]

set_option maxRecDepth 20000 in
/-- After this session the idle function can be called, and its scope lies in the global one. -/
theorem addingSession_declares :
    ∃ origin after : Interpreter, Interpreter.build { mode := .test } = .ok origin ∧
      origin.serveAll addingSession = some after ∧
      Interner.intern "idle" after.names = .ok (⟨27⟩, after.names) ∧
      after.machine.env.resolve .global ⟨27⟩ [] = some idleFunction ∧
      after.settings.refusal ⟨⟨27⟩, 0⟩ after.machine.calls after.machine.env.depth = none ∧
      let inside := after.machine.entered after.settings idleFunction .global .global []
      after.machine.env.fresh = ⟨1⟩ ∧ inside.env.depth = 2 ∧ inside.calls.depth = 1 ∧
      inside.env.chain ⟨1⟩ = [⟨1⟩, .global] ∧ (inside.env.scope ⟨1⟩).overloads = [] :=
  ⟨_, _, rfl, rfl, rfl, rfl, rfl, rfl, rfl, rfl, rfl, rfl⟩

/-- Inside a call of the idle function, and although the host has registered another addition, two
and three are five; the largest integer plus one overflows, and so does the least one by minus one;
and minus seven by two leaves a remainder. -/
theorem integer_arithmetic_is_exact_or_fails_inside_call :
    ∃ origin settings machine, Interpreter.build { mode := .test } = .ok origin ∧
      origin.Evaluates settings (.stmts ⟨1⟩ .void []) machine ∧ machine.calls.depth = 1 ∧
      (∃ n : Int64, n.toInt = 5 ∧
        ArithOp.add.Yields settings machine ⟨1⟩ 2 3 (.ok (.int n))) ∧
      ArithOp.add.Yields settings machine ⟨1⟩ 9223372036854775807 1
        (.error (machine.fault settings (.integerOverflow "addition"))) ∧
      ArithOp.div.Yields settings machine ⟨1⟩ (-9223372036854775808) (-1)
        (.error (machine.fault settings (.integerOverflow "division"))) ∧
      ∃ r : Int64, IsRemainder (-7) 2 r.toInt ∧
        evalExpr settings 4 ⟨1⟩
            (.binary (.arith .sub) (.int (-7)) (ArithOp.productOfQuotient (-7) 2)) machine =
          some (.ok (.int r), machine) := by
  obtain ⟨origin, after, built, served, interned, selects, admitted, fresh, depth, calls, chain,
    empty⟩ := addingSession_declares
  let inside := after.machine.entered after.settings idleFunction .global .global []
  have reaches := @Task.reaches_body after.settings after.machine .global .global ⟨27⟩ [] .refuse
    idleFunction [] selects rfl admitted 0
  rw [fresh] at reaches
  have evaluates : origin.Evaluates after.settings (.stmts ⟨1⟩ .void []) inside :=
    ⟨addingSession, after, _, _, served, .call [] interned, reaches⟩
  have live : (⟨1⟩ : ScopeId).index < inside.env.depth := by
    rw [depth]
    exact Nat.one_lt_two
  have unshadowed : ∀ name, inside.env.Unshadowed ⟨1⟩ name := by
    intro name id listed inner
    rw [chain, List.mem_cons, List.mem_singleton] at listed
    rw [listed.resolve_right inner, Scope.overloadsOf, empty]
    rfl
  have arithmetic := @integer_arithmetic_is_exact_or_fails _ _ _ _ _ _ rfl (List.prefix_refl _)
    built evaluates live
  have sum := (arithmetic 2 3).1 .add 5 "addition" (by decide) (unshadowed _)
  have overflow := (arithmetic 9223372036854775807 1).1 .add 9223372036854775808 "addition"
    (by decide) (unshadowed _)
  obtain ⟨outcome, yields, -, extreme, -⟩ :=
    (arithmetic (-9223372036854775808) (-1)).2.1 (unshadowed _)
  rw [extreme.mpr (by decide)] at yields
  obtain ⟨q, p, r, -, -, -, -, remains, evaluated⟩ := (arithmetic (-7) 2).2.2
    (fun _ => unshadowed _) (by decide) (by decide)
  exact ⟨origin, after.settings, inside, built, evaluates, calls, sum.1 (by decide),
    overflow.2 (by decide), yields, r, remains, (evaluated 0).1⟩

end Multidispatch
