/-!
# Integers

Integers have 64 bits.  Arithmetic on them is exact: a result is computed as a whole number and
refused if it does not fit.

## Main definitions

* `Integer.ofInt?` — the integer equal to a whole number, if there is one
* `Integer.promote` — the float nearest to an integer

## Main statements

* `Integer.toInt_of_ofInt?` — the integer found is equal to the whole number
* `Integer.ofInt?_toInt` — every integer is found
-/

namespace Multidispatch.Integer

/-- The integer equal to a whole number, or `none` if the number does not fit 64 bits. -/
def ofInt? (n : Int) : Option Int64 :=
  if -9223372036854775808 ≤ n ∧ n ≤ 9223372036854775807 then some (Int64.ofInt n) else none

/-- The integer found for a whole number is equal to it. -/
theorem toInt_of_ofInt? {n : Int} {k : Int64} (found : ofInt? n = some k) : k.toInt = n := by
  unfold ofInt? at found
  split at found
  · next fits =>
    cases found
    exact Int64.toInt_ofInt_of_le fits.1 (by omega)
  · cases found

/-- Every integer is found for its own value. -/
theorem ofInt?_toInt (k : Int64) : ofInt? k.toInt = some k := by
  have low := k.le_toInt
  have high := k.toInt_lt
  unfold ofInt?
  rw [if_pos ⟨by omega, by omega⟩, Int64.ofInt_toInt]

/-- The float nearest to an integer; of two that are equally near, the one with the even
mantissa. -/
def promote (n : Int64) : Float :=
  .ofModel (.ofInt64 n)

end Multidispatch.Integer
