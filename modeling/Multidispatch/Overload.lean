import Multidispatch.Interner
import Multidispatch.Program
import Multidispatch.Store
import Multidispatch.Text.Join

/-!
# Overloads

An overload pairs a name and a list of parameters with a body.  Operators, natives and functions
declared by a program are all overloads, and one rule decides which of them a call selects: the
first one in sight with as many parameters as there are arguments, each of which accepts the
argument in its place.

## Main definitions

* `ScopeId` — the number of a scope
* `Overload` — a name, parameters and a body
* `Overload.accepts` — whether an overload can be called with given arguments
-/

namespace Multidispatch

/-- The number of a scope in the environment. -/
structure ScopeId where
  /-- The position of the scope in the environment. -/
  index : Nat
deriving DecidableEq, Repr

namespace ScopeId

/-- The scope in which programs run. -/
def global : ScopeId := ⟨0⟩

instance : Inhabited ScopeId := ⟨global⟩

/-- The written form of the number, for diagnostics. -/
def describe (id : ScopeId) : String :=
  "ScopeId(" ++ toString id.index ++ ")"

end ScopeId

/-- What is run when an overload is called. -/
inductive OverloadBody where
  /-- A function written outside the language. -/
  | native (run : Native)
  /-- A block of the program, declared in the scope `home`. -/
  | user (block : Block Name) (home : ScopeId)

/-- One of possibly several functions of the same name. -/
structure Overload where
  /-- The name under which the overload is called. -/
  name : Name
  /-- The parameters, in the order of the arguments. -/
  params : List (Param Name)
  /-- What a call runs. -/
  body : OverloadBody

/-- Whether there is an argument for each parameter, of a kind that the parameter accepts. -/
def acceptsAll : List (Param Name) → List Value → Bool
  | [], [] => true
  | param :: params, arg :: args => param.tag.accepts arg.kind && acceptsAll params args
  | _, _ => false

namespace Overload

/-- The number of parameters. -/
def arity (overload : Overload) : Nat :=
  overload.params.length

/-- Whether the body is written outside the language. -/
def isNative (overload : Overload) : Bool :=
  match overload.body with
  | .native _ => true
  | .user .. => false

/-- The scope in which a function of the program was declared. -/
def home? (overload : Overload) : Option ScopeId :=
  match overload.body with
  | .native _ => none
  | .user _ home => some home

/-- Whether the overload can be called with these arguments. -/
def accepts (overload : Overload) (args : List Value) : Bool :=
  acceptsAll overload.params args

/-- The written form of a parameter, for diagnostics. -/
def describeParam (param : Param Name) : String :=
  "Argument \x7b name: " ++ param.name.describe ++ ", ty: " ++ param.tag.word ++ " \x7d"

/-- The written form of an overload, for diagnostics. -/
def describe (overload : Overload) : String :=
  "Method \x7b name: " ++ overload.name.describe ++
    ", params: [" ++ Text.commaSeparated (overload.params.map describeParam) ++
    "], kind: " ++ (if overload.isNative then "\"native\"" else "\"user\"") ++ " \x7d"

end Overload

end Multidispatch
