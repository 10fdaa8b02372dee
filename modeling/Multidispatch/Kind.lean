/-!
# Kinds and tags

Every value has one of six kinds.  A parameter declares a tag, which either asks for one kind or
accepts them all.  There is no coercion between kinds: a parameter that asks for a float refuses an
integer.

## Main definitions

* `Kind` — the kind of a value
* `Tag` — what a parameter accepts
* `Tag.covers`, `Tag.accepts` — the order on tags, and its reading on kinds
-/

namespace Multidispatch

/-- The kind of a value. -/
inductive Kind where
  | void
  | integer
  | float
  | boolean
  | string
  | vector
deriving DecidableEq, Repr, Inhabited

namespace Kind

/-- The word by which messages and programs refer to the kind. -/
def word : Kind → String
  | void => "Void"
  | integer => "Integer"
  | float => "Float"
  | boolean => "Boolean"
  | string => "String"
  | vector => "Vector"

/-- All kinds, in the order in which they are listed. -/
def all : List Kind := [void, integer, float, boolean, string, vector]

end Kind

/-- What a parameter accepts: values of one kind, or any value. -/
inductive Tag where
  | only (kind : Kind)
  | any
deriving DecidableEq, Repr, Inhabited

namespace Tag

instance : Coe Kind Tag := ⟨only⟩

/-- The word by which messages and programs refer to the tag. -/
def word : Tag → String
  | only kind => kind.word
  | any => "Any"

/-- All tags, in the order in which they are listed. -/
def all : List Tag := Kind.all.map only ++ [any]

/-- A tag covers another when it accepts at least as much: `any` covers every tag, and otherwise a
tag covers itself alone. -/
def covers (tag other : Tag) : Bool :=
  tag = any || tag = other

/-- Whether a value of this kind may be passed where the tag is declared. -/
def accepts (tag : Tag) (kind : Kind) : Bool :=
  tag.covers kind

@[simp] theorem any_accepts (kind : Kind) : any.accepts kind = true := by
  simp [accepts, covers]

@[simp] theorem only_accepts (wanted kind : Kind) :
    (only wanted).accepts kind = decide (wanted = kind) := by
  simp [accepts, covers]

end Tag

end Multidispatch
