import Multidispatch.Environment
import Multidispatch.Native.Arithmetic
import Multidispatch.Native.Collection
import Multidispatch.Native.Comparison
import Multidispatch.Native.LetterCase
import Multidispatch.Native.Logic
import Multidispatch.Native.Show

/-!
# The prelude

The prelude gives the operators their meaning and adds the functions that every program can call.
Its overloads are registered in the global scope, before any other.

## Main definitions

* `Prelude.entries` — all entries, in the order of their registration
* `Prelude.register` — registers them
-/

namespace Multidispatch.Prelude

/-- All entries of the prelude, in the order of their registration. -/
def entries : List Entry :=
  Arithmetic.entries ++ Comparison.entries ++ Logic.entries ++ Collection.entries ++
    LetterCase.entries ++ Show.entries

/-- The overload that an entry registers under a name; its parameters are anonymous. -/
def overload (name : Name) (entry : Entry) : Overload where
  name := name
  params := entry.signature.map fun tag => ⟨.anonymous, tag⟩
  body := .native entry.run

/-- Registers entries in the global scope, one after the other. -/
def registerAll : List Entry → Environment → InternM Environment
  | [], env => return env
  | entry :: rest, env => do
    let name ← Interner.intern entry.call
    registerAll rest (env.register .global (overload name entry))

/-- Registers the prelude in the global scope. -/
def register (env : Environment) : InternM Environment :=
  registerAll entries env

end Multidispatch.Prelude
