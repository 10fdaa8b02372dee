import Multidispatch.Name
import Multidispatch.Operator

/-!
# Interning

An interner numbers spellings in the order in which they first arrive.  A spelling keeps its number
for good, and the reserved names come first, so that their numbers are the same in every interner.

## Main definitions

* `Interner` — the table of spellings, by number
* `Interner.initial` — the interner that knows the empty spelling and the reserved names
* `Interner.get?`, `Interner.spelling` — from spelling to name and back
* `Interner.intern` — the name of a spelling, which is numbered if it is new
* `BinaryOp.name`, `UnaryOp.name`, `rangeName`, `memberName`, `indexName` — the reserved names

## Main statements

* `Interner.spelling_intern` — the name that interning gives is spelled as it was interned
* `Interner.spelling_initial_binary` — the reserved names are spelled as the operators say

## Design notes

Names fit 32 bits, so an interner holds at most `Interner.capacity` spellings.  Interning a new
spelling into a full table fails and leaves the table as it was.
-/

namespace Multidispatch

/-- A table of distinct spellings; the position of a spelling is its number. -/
structure Interner where
  /-- The spellings, by number. -/
  spellings : List String
deriving DecidableEq, Repr

/-- Why a spelling could not be interned. -/
inductive InternError where
  /-- The table already holds this many spellings and has no number left. -/
  | overflow (count : Nat)
deriving DecidableEq, Repr

/-- The message of the error. -/
def InternError.message : InternError → String
  | overflow count =>
    "interner exceeded capacity: " ++ toString count ++ " strings, max is 4294967295"

/-- Computations that may intern spellings. -/
abbrev InternM := StateT Interner (Except InternError)

namespace Interner

/-- The number of spellings that an interner can hold: two to the power of thirty-two. -/
def capacity : Nat := 4294967296

/-- The number of spellings held. -/
def size (names : Interner) : Nat :=
  names.spellings.length

/-- Whether nothing has been interned beyond the empty spelling. -/
def isEmpty (names : Interner) : Bool :=
  names.size ≤ 1

/-- The name of a spelling that has been interned. -/
def get? (names : Interner) (spelling : String) : Option Name :=
  (names.spellings.idxOf? spelling).map Name.mk

/-- The spelling of a name; a number never issued spells the empty string. -/
def spelling (names : Interner) (name : Name) : String :=
  names.spellings[name.index]?.getD ""

/-- The name of a spelling, which gets the next number if it is new. -/
def intern (spelling : String) : InternM Name := fun names =>
  match names.get? spelling with
  | some name => .ok (name, names)
  | none =>
    if names.size < capacity then
      .ok (⟨names.size⟩, ⟨names.spellings ++ [spelling]⟩)
    else
      .error (.overflow names.size)

/-- The interner in which every other starts: the empty spelling, then the reserved names. -/
def initial : Interner :=
  ⟨"" :: reservedCalls⟩

instance : Inhabited Interner := ⟨initial⟩

/-- A spelling that has a name is the spelling of that name. -/
theorem spelling_of_get? {names : Interner} {s : String} {name : Name}
    (known : names.get? s = some name) : names.spelling name = s := by
  obtain ⟨i, position, rfl⟩ := Option.map_eq_some_iff.1 known
  obtain ⟨bound, hit, -⟩ := List.findIdx?_eq_some_iff_getElem.1 position
  have same : names.spellings[i] = s := by simpa using hit
  simp [spelling, bound, same]

/-- Interning gives a name whose spelling is the one interned. -/
theorem spelling_intern {names after : Interner} {s : String} {name : Name}
    (interned : intern s names = .ok (name, after)) : after.spelling name = s := by
  unfold intern at interned
  split at interned
  · cases interned
    exact spelling_of_get? (by assumption)
  · split at interned
    · cases interned
      simp [spelling, size]
    · cases interned

end Interner

/-! ### Reserved names

The numbers are those of `Interner.initial`, and so of every interner that grew from it. -/

/-- The name that the operator calls. -/
def ArithOp.name : ArithOp → Name
  | .add => ⟨1⟩
  | .sub => ⟨2⟩
  | .mul => ⟨3⟩
  | .div => ⟨4⟩

/-- The name that the operator calls. -/
def LogicOp.name : LogicOp → Name
  | .and => ⟨5⟩
  | .or => ⟨6⟩

/-- The name that the operator calls. -/
def CompareOp.name : CompareOp → Name
  | .eq => ⟨7⟩
  | .ne => ⟨8⟩
  | .ge => ⟨9⟩
  | .gt => ⟨10⟩
  | .le => ⟨11⟩
  | .lt => ⟨12⟩

/-- The name that the operator calls. -/
def BinaryOp.name : BinaryOp → Name
  | .arith op => op.name
  | .logic op => op.name
  | .compare op => op.name

/-- The name that the operator calls. -/
def UnaryOp.name : UnaryOp → Name
  | .not => ⟨13⟩

/-- The name that range expressions call. -/
def rangeName : Name := ⟨14⟩

/-- The name that membership expressions call. -/
def memberName : Name := ⟨15⟩

/-- The name that indexing expressions call. -/
def indexName : Name := ⟨16⟩

/-- The numbers given to the operators spell the reserved calls of those operators. -/
theorem Interner.spelling_initial_binary (op : BinaryOp) :
    Interner.initial.spelling op.name = op.call := by
  cases op with
  | arith op => cases op <;> rfl
  | logic op => cases op <;> rfl
  | compare op => cases op <;> rfl

end Multidispatch
