/-!
# Printers

A program prints whole lines.  Where they go is the choice of the printer: a buffer keeps them to
be read back, the silent printer drops them, and the console hands them on to the terminal.

## Main definitions

* `Printer` — a destination of lines
* `Printer.line` — prints a line
* `Printer.output` — what can be read back
* `Printer.clear` — forgets what can be read back
* `Printer.Takes` — a printer has taken one more line

## Main statements

* `Printer.lines_line_buffer`, `Printer.output_line_buffer` — what can be read back after a line
* `Printer.takes_line` — printing a line is taking it, for every printer
-/

namespace Multidispatch

/-- A destination of printed lines. -/
inductive Printer where
  /-- Keeps the lines, in the order in which they were printed. -/
  | buffer (lines : Array String)
  /-- Drops the lines. -/
  | silent
  /-- Hands the lines on to the terminal; `handed` are those printed so far, for the outer layer
  that owns the terminal. -/
  | console (handed : Array String)
deriving DecidableEq, Repr

namespace Printer

/-- A buffer without lines. -/
def emptyBuffer : Printer := buffer #[]

instance : Inhabited Printer := ⟨emptyBuffer⟩

/-- Prints a line. -/
def line (printer : Printer) (s : String) : Printer :=
  match printer with
  | buffer lines => buffer (lines.push s)
  | silent => silent
  | console handed => console (handed.push s)

/-- The lines that can be read back. -/
def lines : Printer → Array String
  | buffer lines => lines
  | silent => #[]
  | console _ => #[]

/-- The text that can be read back: each line with its line end. -/
def output (printer : Printer) : String :=
  printer.lines.foldl (fun text s => text ++ s ++ "\n") ""

/-- Forgets what can be read back. -/
def clear : Printer → Printer
  | buffer _ => emptyBuffer
  | silent => silent
  | console handed => console handed

/-! ### What printing does to what can be read back -/

/-- A printer has taken one more line.  A buffer has it behind the lines that it kept, and the text
that can be read back ends in it; the terminal was handed it behind all others; and a printer that
drops lines is as it was. -/
structure Takes (before : Printer) (s : String) (after : Printer) : Prop where
  kept : ∀ lines, before = buffer lines →
    after = buffer (lines.push s) ∧ after.output = before.output ++ s ++ "\n"
  handedOn : ∀ handed, before = console handed → after = console (handed.push s)
  dropped : before = silent → after = silent

@[simp] theorem lines_line_buffer (lines : Array String) (s : String) :
    ((buffer lines).line s).lines = lines.push s := rfl

/-- A line that is printed to a buffer is read back behind all others, with its line end. -/
@[simp] theorem output_line_buffer (lines : Array String) (s : String) :
    ((buffer lines).line s).output = (buffer lines).output ++ s ++ "\n" := by
  rw [output, lines_line_buffer, Array.foldl_push]
  rfl

theorem takes_line (printer : Printer) (s : String) : printer.Takes s (printer.line s) := by
  constructor
  · rintro lines rfl
    exact ⟨rfl, output_line_buffer lines s⟩
  · rintro handed rfl
    rfl
  · rintro rfl
    rfl

end Printer

end Multidispatch
