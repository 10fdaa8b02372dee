import Multidispatch.Numeral.Shortest

/-!
# The text of a float

A float is written with the fewest digits that identify it.  From one ten-thousandth up to, not
including, ten to the sixteenth the point is written in its place, with a digit on either side of
it; all other numbers are written with an exponent, which has no plus sign and no padding.

## Main definitions

* `positional`, `withExponent` — the two layouts
* `floatText` — the text of a float
-/

namespace Multidispatch.Numeral

/-- The digits of a number, most significant first. -/
def digitChars (n : Nat) : List Char :=
  Nat.toDigits 10 n

/-- The decimal with its point in place and a digit on either side of the point; `lead` is the
power of ten of the leading digit. -/
def positional (digits : List Char) (lead : Int) : List Char :=
  if lead < 0 then
    ['0', '.'] ++ List.replicate (-lead - 1).toNat '0' ++ digits
  else
    let whole := (lead + 1).toNat
    let padded := digits ++ List.replicate (whole - digits.length) '0'
    let fraction := padded.drop whole
    padded.take whole ++ '.' :: (if fraction.isEmpty then ['0'] else fraction)

/-- The decimal with one digit before the point and an exponent; a single digit has no point. -/
def withExponent (digits : List Char) (lead : Int) : List Char :=
  let mantissa :=
    match digits with
    | [] => []
    | [d] => [d]
    | d :: rest => d :: '.' :: rest
  mantissa ++ 'e' :: (toString lead).toList

/-- The text of a finite float without its sign. -/
def magnitudeText (bits : UInt64) : List Char :=
  let x := Binary.ofBits bits
  if x.mantissa = 0 then
    ['0', '.', '0']
  else
    let decimal := x.shortest
    let digits := digitChars decimal.digits
    let lead := decimal.exponent + digits.length - 1
    if -4 ≤ lead ∧ lead < 16 then positional digits lead else withExponent digits lead

/-- The text of a float. -/
def floatText (x : Float) : String :=
  if x.isNaN then
    "NaN"
  else
    let bits := x.toBits
    let sign := if bits >>> 63 = 1 then ['-'] else []
    let magnitude := bits &&& 0x7FFFFFFFFFFFFFFF
    let text := if magnitude = 0x7FF0000000000000 then "inf".toList else magnitudeText magnitude
    String.ofList (sign ++ text)

end Multidispatch.Numeral
