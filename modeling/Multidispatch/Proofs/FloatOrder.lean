import Mathlib
import Multidispatch.Native.Comparison

/-!
# The order of floats

The order of floats is partial: a NaN is ordered with nothing, itself included.  With the operands
exchanged, the order is reversed.  A promoted integer is a number, so among an integer and a float
only the float can be a NaN.

The order of floats is read off their unpacked form, which has a constructor for each class of
floats, so these facts are proved by cases on the class.

## Main statements

* `floatOrder_eq_compare` — the order of floats is that of their unpacked forms
* `floatOrder_swap` — exchanging the operands reverses the order
* `floatOrder_eq_none_iff` — which floats have no order
* `floatOrder_eq_some_eq_iff` — equal floats are those whose order is equality
* `isNaN_promote` — a promoted integer is a number
-/

namespace Multidispatch

open Float.Model (UnpackedFloat Format)

/-! ### Comparison of unpacked floats -/

/-- Exchanging the operands reverses a comparison. -/
theorem compare_swap (a b : UnpackedFloat) : b.compare a = (a.compare b).map Ordering.swap := by
  cases a with
  | notANumber => cases b <;> rfl
  | infinity s =>
    cases b with
    | infinity t => cases s <;> cases t <;> rfl
    | _ => cases s <;> rfl
  | zero s =>
    cases b with
    | finite t => cases t <;> rfl
    | infinity t => cases t <;> rfl
    | _ => rfl
  | finite s m e positive =>
    cases b with
    | finite t m' e' positive' =>
      cases s <;> cases t <;>
        simp [UnpackedFloat.compare, Ordering.swap_then, ← Std.OrientedCmp.eq_swap]
    | infinity t => cases s <;> cases t <;> rfl
    | _ => cases s <;> rfl

/-- A comparison has no answer if one of the operands is not a number. -/
theorem compare_eq_none_iff (a b : UnpackedFloat) :
    a.compare b = none ↔ a = .notANumber ∨ b = .notANumber := by
  fun_cases UnpackedFloat.compare a b <;> simp_all

theorem isNaN_iff_unpack (x : Float) : x.isNaN = true ↔ x.toModel.unpack = .notANumber :=
  UnpackedFloat.isNaN_iff

/-! ### The order of floats -/

/-- The order of floats is that of their unpacked forms. -/
theorem floatOrder_eq_compare (x y : Float) :
    floatOrder x y = x.toModel.unpack.compare y.toModel.unpack := by
  have lt_iff : ∀ x y : Float, x < y ↔ x.toModel.unpack.compare y.toModel.unpack = some .lt :=
    fun x y => decide_eq_true_iff.trans beq_iff_eq
  have eq_iff : (x == y) = true ↔ x.toModel.unpack.compare y.toModel.unpack = some .eq := by
    show (x.toModel.unpack.compare y.toModel.unpack == some .eq) = true ↔ _
    exact beq_iff_eq
  have gt_iff := lt_iff y x
  rw [compare_swap x.toModel.unpack] at gt_iff
  simp only [floatOrder, lt_iff x y, gt_iff, eq_iff]
  rcases x.toModel.unpack.compare y.toModel.unpack with _ | ⟨_ | _ | _⟩ <;> rfl

/-- Exchanging two floats reverses their order. -/
theorem floatOrder_swap (x y : Float) : floatOrder y x = (floatOrder x y).map Ordering.swap := by
  rw [floatOrder_eq_compare, floatOrder_eq_compare]
  exact compare_swap _ _

/-- Two floats have no order if one of them is a NaN. -/
theorem floatOrder_eq_none_iff (x y : Float) :
    floatOrder x y = none ↔ x.isNaN = true ∨ y.isNaN = true := by
  rw [floatOrder_eq_compare, compare_eq_none_iff, isNaN_iff_unpack, isNaN_iff_unpack]

/-- Equal floats are those whose order is equality. -/
theorem floatOrder_eq_some_eq_iff (x y : Float) :
    floatOrder x y = some .eq ↔ (x == y) = true := by
  rw [floatOrder_eq_compare]
  exact beq_iff_eq.symm

/-! ### Promoted integers -/

/-- What packs a number unpacks as a number. -/
theorem unpack_pack_ne_notANumber {format : Format} {a : UnpackedFloat} (number : a ≠ .notANumber) :
    UnpackedFloat.unpack format (UnpackedFloat.pack format a) ≠ .notANumber := by
  -- Only infinities and NaNs have an exponent of ones alone, and an infinity has no mantissa.
  have of_exponent : ∀ sign {exponent} mantissa, exponent ≠ -1#_ → UnpackedFloat.unpack format
      (UnpackedFloat.packComponents format sign exponent mantissa) ≠ .notANumber := by
    intro sign exponent mantissa inner
    simp only [UnpackedFloat.unpack, UnpackedFloat.unpackExponent_packComponents, if_neg inner]
    split
    · split <;> simp
    · simp
  fun_cases UnpackedFloat.pack format a with
  | case1 => exact absurd rfl number
  | case2 sign => simp [UnpackedFloat.packedInfinity, UnpackedFloat.unpack]
  | case3 sign => simp
  | case4 => simp [UnpackedFloat.packedInfinity, UnpackedFloat.unpack]
  | case5 sign m e positive bits biased fits normal =>
    refine of_exponent _ _ fun ones => ?_
    have same := congrArg BitVec.toNat ones
    rw [BitVec.neg_one_eq_allOnes, BitVec.toNat_allOnes, BitVec.toNat_ofNat,
      Nat.mod_eq_of_lt (by omega)] at same
    omega
  | case6 => exact of_exponent _ _ (by simp [Nat.ne_of_gt format.he])

/-- Rounding a whole multiple of a power of two gives a number. -/
theorem normalize_ne_notANumber (format : Format) (n e : Int) (sign : UnpackedFloat.Sign) :
    UnpackedFloat.normalize format n e sign ≠ .notANumber := by
  have rounded : ∀ sign m e, UnpackedFloat.round format sign m e ≠ .notANumber := by
    intro sign m e
    simp only [UnpackedFloat.round, UnpackedFloat.roundWithAccuracy]
    split <;> simp
  unfold UnpackedFloat.normalize
  split
  · exact rounded _ _ _
  · simp
  · exact rounded _ _ _

/-- A promoted integer is a number. -/
theorem isNaN_promote (n : Int64) : (Integer.promote n).isNaN = false := by
  have packed : (Integer.promote n).toModel.unpack =
      UnpackedFloat.unpack .binary64 (UnpackedFloat.pack .binary64 (.ofInt64 .binary64 n)) := rfl
  rw [← Bool.not_eq_true, isNaN_iff_unpack, packed]
  exact unpack_pack_ne_notANumber (normalize_ne_notANumber _ _ _ _)

end Multidispatch
