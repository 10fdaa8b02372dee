import Multidispatch.Heap.Format
import Multidispatch.Native.Basic

/-!
# Printing

## Main definitions

* `line` — the line that is printed for a value
* `print` — the native that prints it
* `entries` — its entry in the prelude
-/

namespace Multidispatch.Show

/-- The display text of a value, followed by its kind. -/
def line (heap : Heap) (value : Value) : String :=
  heap.display value ++ " (type: " ++ value.kind.word ++ ")"

/-- Prints a value on a line of its own. -/
def print : Native
  | [value] => do
    let heap ← Native.heap
    Native.print (line heap value)
    return .void
  | args => Native.fail (.noOverload "show" args)

/-- The entry of the native that prints. -/
def entries : List Entry :=
  [⟨"show", [.any], print⟩]

end Multidispatch.Show
