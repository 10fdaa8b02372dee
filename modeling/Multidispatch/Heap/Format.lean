import Multidispatch.Heap
import Multidispatch.Numeral.Notation
import Multidispatch.Text.Escape
import Multidispatch.Text.Join

/-!
# The text of a value

Values are written in two styles.  The display style is for the readers of a program's output; the
debug style names the kind of every value and quotes strings so that the text can be told apart
from any other.  A vector that is reached through itself is written as three dots in brackets.

## Main definitions

* `Style` — the two styles
* `Heap.render` — the text of a value in a style
* `Heap.display`, `Heap.debug` — the two texts of a value
* `Heap.shown` — the display text, without quotes around a string

## Design notes

A branch of the text opens each vector at most once, so the depth of the recursion is bounded by
the number of vectors on the heap.
-/

namespace Multidispatch

/-- How values are written. -/
inductive Style where
  /-- As in a program's output. -/
  | display
  /-- With the kind of every value. -/
  | debug
deriving DecidableEq, Repr

namespace Style

/-- What stands before the elements of a vector. -/
def opening : Style → String
  | display => "["
  | debug => "Vector(["

/-- What stands after the elements of a vector. -/
def closing : Style → String
  | display => "]"
  | debug => "])"

end Style

namespace Heap

/-- The text of a value that is not a vector. -/
def renderLeaf (heap : Heap) : Style → Value → String
  | .display, .void => "void"
  | .debug, .void => "Void"
  | .display, .int n => toString n.toInt
  | .debug, .int n => "Int(" ++ toString n.toInt ++ ")"
  | .display, .float x => Numeral.floatText x
  | .debug, .float x => "Float(" ++ Numeral.floatText x ++ ")"
  | .display, .bool b => if b then "true" else "false"
  | .debug, .bool b => "Bool(" ++ (if b then "true" else "false") ++ ")"
  | .display, .text ref => "\"" ++ heap.text ref ++ "\""
  | .debug, .text ref => "Str(" ++ Text.quote (heap.text ref) ++ ")"
  | _, .vector _ => ""

/-- The text of a value below the vectors in `above`, to the given depth. -/
def renderBelow (heap : Heap) (style : Style) : Nat → List VectorRef → Value → String
  | 0, _, _ => ""
  | depth + 1, above, .vector ref =>
    let contents :=
      if ref ∈ above then
        "..."
      else
        Text.commaSeparated ((heap.items ref).toList.map (heap.renderBelow style depth (ref :: above)))
    style.opening ++ contents ++ style.closing
  | _ + 1, _, value => heap.renderLeaf style value

/-- A depth that no text of a value on the heap exceeds. -/
def renderDepth (heap : Heap) : Nat :=
  heap.vectors.size + 2

/-- The text of a value. -/
def render (heap : Heap) (style : Style) (value : Value) : String :=
  heap.renderBelow style heap.renderDepth [] value

/-- The text of a value in a program's output. -/
def display (heap : Heap) (value : Value) : String :=
  heap.render .display value

/-- The text of a value with the kind of every part. -/
def debug (heap : Heap) (value : Value) : String :=
  heap.render .debug value

/-- The text of a value as it is shown to a user: strings are written as they are. -/
def shown (heap : Heap) : Value → String
  | .text ref => heap.text ref
  | value => heap.display value

/-- The debug text of a string, seen as a buffer. -/
def debugText (heap : Heap) (ref : TextRef) : String :=
  Text.quote (heap.text ref)

/-- The debug text of a vector, seen as a buffer: its elements, each written on its own. -/
def debugItems (heap : Heap) (ref : VectorRef) : String :=
  "[" ++ Text.commaSeparated ((heap.items ref).toList.map heap.debug) ++ "]"

end Heap

end Multidispatch
