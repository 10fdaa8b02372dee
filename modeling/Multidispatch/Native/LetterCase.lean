import Multidispatch.Native.Basic
import Multidispatch.Text.Case

/-!
# Letter case

Each conversion of letter case has two natives.  The one whose name ends in an exclamation mark
changes the string itself and returns it; the other leaves the string alone and returns a new one.

## Main definitions

* `LetterCase` — the two cases
* `LetterCase.inPlace`, `LetterCase.copy` — the natives
* `LetterCase.entries` — the entries in the prelude
-/

namespace Multidispatch

/-- The case to which letters are converted. -/
inductive LetterCase where
  | upper
  | lower
deriving DecidableEq, Repr

namespace LetterCase

/-- The conversion of a text. -/
def convert : LetterCase → String → String
  | upper => Text.toUpper
  | lower => Text.toLower

/-- The name of the native that returns a new string. -/
def copyCall : LetterCase → String
  | upper => "upper"
  | lower => "lower"

/-- The name of the native that changes its string. -/
def inPlaceCall (case : LetterCase) : String :=
  case.copyCall ++ "!"

/-- Converts a string in place and returns it. -/
def inPlace (case : LetterCase) : Native
  | [.text ref] => do
    Native.modifyHeap fun heap => heap.setText ref (case.convert (heap.text ref))
    return .text ref
  | args => Native.fail (.noOverload case.inPlaceCall args)

/-- A new string, the conversion of a string. -/
def copy (case : LetterCase) : Native
  | [.text ref] => do
    let heap ← Native.heap
    Native.newText (case.convert (heap.text ref))
  | args => Native.fail (.noOverload case.copyCall args)

/-- The entries of the conversions. -/
def entries : List Entry :=
  [upper, lower].flatMap fun case =>
    [⟨case.inPlaceCall, [Kind.string], case.inPlace⟩, ⟨case.copyCall, [Kind.string], case.copy⟩]

end LetterCase

end Multidispatch
