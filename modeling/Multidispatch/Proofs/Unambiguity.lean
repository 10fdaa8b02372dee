import Multidispatch.Proofs.EqualityLaws
import Multidispatch.Proofs.Quotation
import Multidispatch.Proofs.Unfolding

/-!
# Debug texts are unambiguous

The debug text of a value names the kind of every part and quotes strings, so that the tree of the
value can be read back from it, whatever characters the strings consist of.  Values without cycles
and floats are equal exactly if they stand for the same tree.  Hence they are equal exactly if their
debug texts are the same.

Floats are left out because two zeros of different sign are equal and written differently, and what
is not a number is written in one way and does not equal itself.

## Main definitions

* `Tree.legible` — a tree without floats and cuts
* `Tree.chars` — the characters of the debug text of a tree

## Main statements

* `Tree.tellsApart_chars` — trees are told apart by their debug texts
* `Heap.Denotes.legible_iff` — a tree is legible exactly if no float can be reached
* `Heap.Denotes.equal_iff` — values are equal exactly if they stand for the same tree
* `Heap.debug_text_is_unambiguous` — values are equal exactly if their debug texts are the same
-/

namespace Multidispatch

open Text

namespace Tree

mutual

/-- The tree has no floats and no cuts. -/
def legible : Tree → Bool
  | float _ => false
  | cut => false
  | vector elements => legibleAll elements
  | _ => true

/-- None of the trees has floats or cuts. -/
def legibleAll : List Tree → Bool
  | [] => true
  | tree :: trees => tree.legible && legibleAll trees

end

theorem legible_of_mem {trees : List Tree} (legible : legibleAll trees = true) {tree : Tree}
    (listed : tree ∈ trees) : tree.legible = true := by
  induction trees with
  | nil => cases listed
  | cons first trees ih =>
    rw [legibleAll, Bool.and_eq_true] at legible
    rcases List.mem_cons.mp listed with rfl | later
    · exact legible.1
    · exact ih legible.2 later

/-! ### Reading trees back -/

/-- The characters of the debug text of a tree. -/
def chars (tree : Tree) : List Char :=
  (tree.render .debug).toList

theorem renderAll_eq_map (style : Style) (trees : List Tree) :
    renderAll style trees = trees.map (render style) := by
  induction trees with
  | nil => rfl
  | cons tree trees ih => rw [renderAll, ih, List.map_cons]

theorem chars_vector_nil : chars (vector []) = "Vector([".toList ++ ']' :: [')'] := by
  decide

theorem chars_vector_cons (tree : Tree) (trees : List Tree) :
    chars (vector (tree :: trees)) =
      "Vector([".toList ++ (tree.chars ++
        (trees.flatMap (fun other => ',' :: ' ' :: other.chars) ++ ']' :: [')'])) := by
  rw [chars, render, renderAll, String.toList_append, String.toList_append, toList_commaSeparated,
    renderAll_eq_map, List.flatMap_map]
  simp [chars]

/-- The first two characters of the debug text, which tell the kind of the tree. -/
def lead : Tree → List Char
  | void => ['V', 'o']
  | int _ => ['I', 'n']
  | float _ => ['F', 'l']
  | bool _ => ['B', 'o']
  | text _ => ['S', 't']
  | vector _ => ['V', 'e']
  | cut => ['V', 'e']

theorem take_two_chars (tree : Tree) (rest : List Char) : (tree.chars ++ rest).take 2 = tree.lead := by
  cases tree <;> simp [chars, render, lead]

/-- Trees of different kinds are told apart. -/
theorem tellsApart_of_lead_ne {tree other : Tree} (kinds : tree.lead ≠ other.lead) :
    TellsApart chars tree other := by
  intro rest rest' same
  have lead := congrArg (List.take 2) same
  rw [take_two_chars, take_two_chars] at lead
  exact absurd lead kinds

/-- No debug text begins with a bracket. -/
theorem avoidsStart_chars (tree : Tree) : AvoidsStart chars ']' tree := by
  intro rest rest' same
  have lead := tree.take_two_chars rest
  rw [same] at lead
  cases tree <;> simp [Tree.lead] at lead

/-- Vectors can be read back if their elements can.  Behind an element there is a comma if another one
follows, and a bracket otherwise. -/
theorem eq_of_chars_vector {trees others : List Tree} {rest rest' : List Char}
    (each : ∀ tree ∈ trees, ∀ other, other ∈ others → TellsApart chars tree other)
    (same : chars (vector trees) ++ rest = chars (vector others) ++ rest') :
    trees = others ∧ rest = rest' := by
  cases trees with
  | nil =>
    cases others with
    | nil => exact ⟨rfl, List.append_cancel_left same⟩
    | cons other others =>
      rw [chars_vector_nil, chars_vector_cons, List.append_assoc, List.append_assoc,
        List.append_assoc] at same
      exact absurd (List.append_cancel_left same).symm (avoidsStart_chars other _ _)
  | cons tree trees =>
    cases others with
    | nil =>
      rw [chars_vector_nil, chars_vector_cons, List.append_assoc, List.append_assoc,
        List.append_assoc] at same
      exact absurd (List.append_cancel_left same) (avoidsStart_chars tree _ _)
    | cons other others =>
      rw [chars_vector_cons, chars_vector_cons] at same
      simp only [List.append_assoc, List.cons_append] at same
      rw [List.forall_mem_cons] at each
      obtain ⟨rfl, onward⟩ := each.1 other List.mem_cons_self _ _ (List.append_cancel_left same)
      have apart : ∀ tree ∈ trees, ∀ other, other ∈ others →
          TellsApart (fun other : Tree => ',' :: ' ' :: other.chars) tree other := by
        intro tree listed other listed' rest rest' same
        exact each.2 tree listed other (List.mem_cons_of_mem _ listed') rest rest'
          (List.cons.inj (List.cons.inj same).2).2
      have avoids : ∀ tree : Tree,
          AvoidsStart (fun other : Tree => ',' :: ' ' :: other.chars) ']' tree :=
        fun tree rest rest' same => absurd (List.cons.inj same).1 (by decide)
      obtain ⟨rfl, following⟩ :=
        eq_of_flatMap_append apart (fun tree _ => avoids tree) (fun other _ => avoids other) onward
      exact ⟨rfl, (List.cons.inj following).2⟩

/-- Trees without floats and cuts are told apart by their debug texts. -/
theorem tellsApart_chars {tree other : Tree} (legible : tree.legible = true)
    (legible' : other.legible = true) : TellsApart chars tree other := by
  induction tree using Tree.induction generalizing other with
  | float x => cases legible
  | cut => cases legible
  | void =>
    cases other with
    | void => exact fun rest rest' same => ⟨rfl, List.append_cancel_left same⟩
    | _ => exact tellsApart_of_lead_ne (by simp [lead])
  | int n =>
    cases other with
    | int m =>
      intro rest rest' same
      simp only [chars, render, String.toList_append, List.append_assoc] at same
      have digits := List.append_cancel_left same
      obtain ⟨rfl, following⟩ := tellsApart_closed_int n m rest rest' (by simpa using digits)
      exact ⟨rfl, following⟩
    | _ => exact tellsApart_of_lead_ne (by simp [lead])
  | bool b =>
    cases other with
    | bool b' =>
      intro rest rest' same
      cases b <;> cases b' <;> simp_all [chars, render]
    | _ => exact tellsApart_of_lead_ne (by simp [lead])
  | text s =>
    cases other with
    | text s' =>
      intro rest rest' same
      simp only [chars, render, String.toList_append, List.append_assoc] at same
      obtain ⟨rfl, following⟩ := tellsApart_quote s s' _ _ (List.append_cancel_left same)
      exact ⟨rfl, List.append_cancel_left following⟩
    | _ => exact tellsApart_of_lead_ne (by simp [lead])
  | vector elements ih =>
    cases other with
    | cut => cases legible'
    | vector others =>
      intro rest rest' same
      have each : ∀ tree ∈ elements, ∀ other, other ∈ others → TellsApart chars tree other :=
        fun tree listed other listed' => ih tree listed (legible_of_mem legible listed)
          (legible_of_mem legible' listed')
      obtain ⟨rfl, following⟩ := eq_of_chars_vector each same
      exact ⟨rfl, following⟩
    | _ => exact tellsApart_of_lead_ne (by simp [lead])

end Tree

namespace Heap

/-! ### Equal values stand for the same tree -/

mutual

/-- Without floats in reach, the tree of a value is legible. -/
theorem Denotes.legible {heap : Heap} {value : Value} {tree : Tree}
    (denotes : heap.Denotes value tree) (noFloat : ∀ x, ¬heap.Reaches value (.float x)) :
    tree.legible = true :=
  match denotes with
  | .leaf leaf => by
    cases value with
    | float x => exact absurd .refl (noFloat x)
    | vector ref => cases leaf
    | _ =>
      cases leaf
      rfl
  | .vector ref each => each.legible fun element listed x reached =>
    noFloat x (.head ⟨ref, rfl, Array.mem_toList_iff.mp listed⟩ reached)

theorem DenotesEach.legible {heap : Heap} {values : List Value} {trees : List Tree}
    (denotes : heap.DenotesEach values trees)
    (noFloat : ∀ value ∈ values, ∀ x, ¬heap.Reaches value (.float x)) :
    Tree.legibleAll trees = true :=
  match denotes with
  | .nil => rfl
  | .cons head tail => by
    rw [List.forall_mem_cons] at noFloat
    rw [Tree.legibleAll, head.legible noFloat.1, tail.legible noFloat.2, Bool.and_true]

end

/-- The tree of a value is legible exactly if no float can be reached. -/
theorem Denotes.legible_iff {heap : Heap} {value : Value} {tree : Tree}
    (denotes : heap.Denotes value tree) :
    tree.legible = true ↔ ∀ x, ¬heap.Reaches value (.float x) := by
  refine ⟨fun legible x reached => ?_, denotes.legible⟩
  induction reached using Relation.ReflTransGen.head_induction_on generalizing tree with
  | refl =>
    cases denotes with
    | leaf leaf =>
      cases leaf
      cases legible
  | head listed _ ih =>
    obtain ⟨elements, rfl, part, found, denotes⟩ := denotes.of_element listed
    exact ih denotes (Tree.legible_of_mem legible found)

/-- Two leaves are equal exactly if they stand for the same tree, floats apart. -/
theorem equalLeaves_iff {heap : Heap} {a b : Value} {tree other : Tree}
    (leaf : heap.leaf? a = some tree) (leaf' : heap.leaf? b = some other)
    (legible : tree.legible = true) : heap.equalLeaves a b = true ↔ tree = other := by
  cases a <;> cases leaf <;> cases b <;> cases leaf' <;> simp_all [equalLeaves, Tree.legible]

theorem vector?_of_leaf? {heap : Heap} {value : Value} {tree : Tree}
    (leaf : heap.leaf? value = some tree) :
    value.vector? = none ∧ ∀ elements, tree ≠ .vector elements := by
  cases value <;> cases leaf <;> exact ⟨rfl, nofun⟩

mutual

/-- Two values that stand for trees, the first one without floats, are equal exactly if they stand
for the same tree. -/
theorem Denotes.equal_iff {heap : Heap} {a b : Value} {tree other : Tree}
    (denotes : heap.Denotes a tree) (denotes' : heap.Denotes b other)
    (legible : tree.legible = true) : heap.equal a b = true ↔ tree = other := by
  rw [equal_iff_matches]
  match denotes, denotes' with
  | .leaf leaf, .leaf leaf' =>
    rw [matches_iff_equalLeaves (.inl (vector?_of_leaf? leaf).1)]
    exact equalLeaves_iff leaf leaf' legible
  | .leaf leaf, .vector ref each =>
    refine iff_of_false (fun m => ?_) ((vector?_of_leaf? leaf).2 _)
    obtain ⟨t, rfl⟩ := m.symm.exists_vector
    cases leaf
  | .vector ref each, .leaf leaf =>
    refine iff_of_false (fun m => ?_) fun same => (vector?_of_leaf? leaf).2 _ same.symm
    obtain ⟨t, rfl⟩ := m.exists_vector
    cases leaf
  | .vector ref each, .vector ref' each' =>
    rw [Tree.vector.injEq, ← each.forall₂_equal_iff each' legible]
    refine ⟨?_, .inr⟩
    rintro (rfl | elements)
    · rw [each.forall₂_equal_iff each' legible]
      exact each.unique each'
    · exact elements

theorem DenotesEach.forall₂_equal_iff {heap : Heap} {as bs : List Value} {trees others : List Tree}
    (denotes : heap.DenotesEach as trees) (denotes' : heap.DenotesEach bs others)
    (legible : Tree.legibleAll trees = true) :
    List.Forall₂ (fun a b => heap.equal a b = true) as bs ↔ trees = others := by
  match denotes, denotes' with
  | .nil, .nil => exact iff_of_true .nil rfl
  | .nil, .cons _ _ => exact iff_of_false nofun nofun
  | .cons _ _, .nil => exact iff_of_false nofun nofun
  | .cons head tail, .cons head' tail' =>
    rw [Tree.legibleAll, Bool.and_eq_true] at legible
    rw [List.forall₂_cons, head.equal_iff head' legible.1, tail.forall₂_equal_iff tail' legible.2,
      List.cons.injEq]

end

/-- Two values from which neither a cycle nor a float can be reached are equal exactly if their debug
texts are the same. -/
theorem debug_text_is_unambiguous {heap : Heap} {a b : Value} (acyclic : heap.Acyclic a)
    (acyclic' : heap.Acyclic b) (noFloat : ∀ x, ¬heap.Reaches a (.float x))
    (noFloat' : ∀ x, ¬heap.Reaches b (.float x)) :
    heap.equal a b = true ↔ heap.debug a = heap.debug b := by
  obtain ⟨tree, denotes⟩ := acyclic_iff_denotes.mp acyclic
  obtain ⟨other, denotes'⟩ := acyclic_iff_denotes.mp acyclic'
  have legible := denotes.legible_iff.mpr noFloat
  have legible' := denotes'.legible_iff.mpr noFloat'
  rw [denotes.equal_iff denotes' legible, debug, debug, denotes.unfolds.render_eq,
    denotes'.unfolds.render_eq]
  refine ⟨congrArg _, fun same => ?_⟩
  have chars : tree.chars ++ [] = other.chars ++ [] := by rw [Tree.chars, same, Tree.chars]
  exact (Tree.tellsApart_chars legible legible' [] [] chars).1

/-- A vector of one string whose characters are those between two strings, and two vectors of two
strings each, which share one of them.  The first one differs from the second one, and the second one
equals the third. -/
theorem debug_text_is_unambiguous_delimiters :
    let heap : Heap :=
      ⟨#["a\"), Str(\"b", "a", "b", "a"],
        #[#[.text ⟨0⟩], #[.text ⟨1⟩, .text ⟨2⟩], #[.text ⟨3⟩, .text ⟨2⟩]]⟩
    heap.debug (.vector ⟨0⟩) ≠ heap.debug (.vector ⟨1⟩) ∧
      heap.debug (.vector ⟨1⟩) = heap.debug (.vector ⟨2⟩) := by
  intro heap
  have first : heap.Denotes (.vector ⟨0⟩) (.vector [.text "a\"), Str(\"b"]) :=
    .vector _ (.cons (.leaf rfl) .nil)
  have pair : ∀ ref : VectorRef, ref = ⟨1⟩ ∨ ref = ⟨2⟩ →
      heap.Denotes (.vector ref) (.vector [.text "a", .text "b"]) := by
    rintro ref (rfl | rfl) <;> exact .vector _ (.cons (.leaf rfl) (.cons (.leaf rfl) .nil))
  have one := pair ⟨1⟩ (.inl rfl)
  have other := pair ⟨2⟩ (.inr rfl)
  rw [Ne, ← debug_text_is_unambiguous first.acyclic one.acyclic (first.legible_iff.mp rfl)
      (one.legible_iff.mp rfl),
    ← debug_text_is_unambiguous one.acyclic other.acyclic (one.legible_iff.mp rfl)
      (other.legible_iff.mp rfl)]
  decide

end Heap

end Multidispatch
