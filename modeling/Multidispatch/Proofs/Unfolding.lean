import Multidispatch.Heap.Format
import Multidispatch.Proofs.Bisimilarity
import Mathlib.Logic.Relation

/-!
# The text of a value is that of its tree

A value unfolds into a tree: its elements are the branches, and a buffer that is shared is unfolded
wherever it is met.  Where a branch comes back to a vector that it has passed through, it is cut.
The text of a value is the text of this tree, in both styles.  A branch passes through each vector of
the heap at most once, so that unfolding ends on every heap.

A value from which no cycle can be reached unfolds without a cut.  Its tree, and so its text, tells
nothing about which buffers are shared.

## Main definitions

* `Tree`, `Tree.render` — trees of values, and their text
* `Heap.Unfolds` — the tree of a value below other vectors, cut where it comes back to one of them
* `Heap.Denotes` — the tree of a value that is not cut anywhere
* `Heap.Reaches`, `Heap.Acyclic` — what can be reached through vectors

## Main statements

* `Heap.exists_unfolds`, `Heap.Unfolds.unique` — every value unfolds into one tree
* `Heap.Unfolds.renderBelow_eq` — the text of a value is that of its tree
* `Heap.acyclic_iff_denotes` — values without cycles are those with a tree that is not cut
* `Heap.text_renders_unfolding` — the text of every value
-/

namespace Multidispatch

/-! ### Trees -/

/-- What a value unfolds into. -/
inductive Tree where
  | void
  | int (n : Int64)
  | float (x : Float)
  | bool (b : Bool)
  | text (s : String)
  | vector (elements : List Tree)
  /-- The place where a branch comes back to a vector that it has passed through. -/
  | cut

namespace Tree

/-- What holds of a vector if it holds of its elements, and of all other trees, holds of every tree. -/
@[elab_as_elim]
theorem induction {motive : Tree → Prop} (void : motive void) (int : ∀ n, motive (int n))
    (float : ∀ x, motive (float x)) (bool : ∀ b, motive (bool b)) (text : ∀ s, motive (text s))
    (vector : ∀ elements, (∀ tree ∈ elements, motive tree) → motive (vector elements))
    (cut : motive cut) (tree : Tree) : motive tree :=
  @Tree.rec motive (fun trees => ∀ tree ∈ trees, motive tree) void int float bool text vector cut
    nofun (fun _ _ head tail => List.forall_mem_cons.mpr ⟨head, tail⟩) tree

mutual

/-- The text of a tree. -/
def render : Style → Tree → String
  | .display, void => "void"
  | .debug, void => "Void"
  | .display, int n => toString n.toInt
  | .debug, int n => "Int(" ++ toString n.toInt ++ ")"
  | .display, float x => Numeral.floatText x
  | .debug, float x => "Float(" ++ Numeral.floatText x ++ ")"
  | .display, bool b => if b then "true" else "false"
  | .debug, bool b => "Bool(" ++ (if b then "true" else "false") ++ ")"
  | .display, text s => "\"" ++ s ++ "\""
  | .debug, text s => "Str(" ++ Text.quote s ++ ")"
  | .display, vector elements => "[" ++ Text.commaSeparated (renderAll .display elements) ++ "]"
  | .debug, vector elements => "Vector([" ++ Text.commaSeparated (renderAll .debug elements) ++ "])"
  | .display, cut => "[...]"
  | .debug, cut => "Vector([...])"

/-- The texts of trees. -/
def renderAll : Style → List Tree → List String
  | _, [] => []
  | style, tree :: trees => tree.render style :: renderAll style trees

end

mutual

/-- No branch of the tree is cut. -/
def uncut : Tree → Bool
  | vector elements => uncutAll elements
  | cut => false
  | _ => true

/-- No branch of any of the trees is cut. -/
def uncutAll : List Tree → Bool
  | [] => true
  | tree :: trees => tree.uncut && uncutAll trees

end

end Tree

namespace Heap

/-- The tree of a value that is not a vector. -/
def leaf? (heap : Heap) : Value → Option Tree
  | .void => some .void
  | .int n => some (.int n)
  | .float x => some (.float x)
  | .bool b => some (.bool b)
  | .text ref => some (.text (heap.text ref))
  | .vector _ => none

/-! ### Unfolding -/

mutual

/-- A value, below the vectors that a branch has passed through, unfolds into a tree. -/
inductive Unfolds (heap : Heap) : List VectorRef → Value → Tree → Prop
  /-- Values that are not vectors are the leaves. -/
  | leaf {above : List VectorRef} {value : Value} {tree : Tree} (leaf : heap.leaf? value = some tree) :
      Unfolds heap above value tree
  /-- A vector among its own ancestors is cut. -/
  | cut {above : List VectorRef} {ref : VectorRef} (ancestor : ref ∈ above) :
      Unfolds heap above (.vector ref) .cut
  /-- Any other vector unfolds into its elements, of which it is an ancestor. -/
  | vector {above : List VectorRef} (ref : VectorRef) {elements : List Tree} (new : ref ∉ above)
      (each : UnfoldsEach heap (ref :: above) (heap.items ref).toList elements) :
      Unfolds heap above (.vector ref) (.vector elements)

/-- Values below the same vectors unfold into trees, one by one. -/
inductive UnfoldsEach (heap : Heap) : List VectorRef → List Value → List Tree → Prop
  | nil {above : List VectorRef} : UnfoldsEach heap above [] []
  | cons {above : List VectorRef} {value : Value} {values : List Value} {tree : Tree}
      {trees : List Tree} (head : Unfolds heap above value tree)
      (tail : UnfoldsEach heap above values trees) :
      UnfoldsEach heap above (value :: values) (tree :: trees)

end

mutual

/-- A value unfolds into one tree. -/
theorem Unfolds.unique {heap : Heap} {above : List VectorRef} {value : Value} {tree other : Tree}
    (one : heap.Unfolds above value tree) (another : heap.Unfolds above value other) :
    tree = other :=
  match one, another with
  | .leaf found, .leaf found' => Option.some.inj (found.symm.trans found')
  | .cut _, .cut _ => rfl
  | .cut ancestor, .vector _ new _ => absurd ancestor new
  | .vector _ new _, .cut ancestor => absurd ancestor new
  | .vector _ _ each, .vector _ _ each' => congrArg Tree.vector (each.unique each')

theorem UnfoldsEach.unique {heap : Heap} {above : List VectorRef} {values : List Value}
    {trees others : List Tree} (one : heap.UnfoldsEach above values trees)
    (another : heap.UnfoldsEach above values others) : trees = others :=
  match one, another with
  | .nil, .nil => rfl
  | .cons head tail, .cons head' tail' => congrArg₂ List.cons (head.unique head') (tail.unique tail')

end

/-! ### Unfolding ends -/

/-- The number of vectors of the heap that a branch has not passed through. -/
def unopened (heap : Heap) (above : List VectorRef) : Nat :=
  ((Finset.range heap.vectors.size).image VectorRef.mk \ above.toFinset).card

/-- A branch that passes through a new vector of the heap leaves fewer for what follows. -/
theorem unopened_cons_lt {heap : Heap} {above : List VectorRef} {ref : VectorRef} (new : ref ∉ above)
    (issued : ref.index < heap.vectors.size) : heap.unopened (ref :: above) < heap.unopened above := by
  have before : ref ∈ (Finset.range heap.vectors.size).image VectorRef.mk \ above.toFinset := by
    rw [Finset.mem_sdiff, List.mem_toFinset]
    exact ⟨Finset.mem_image.mpr ⟨ref.index, Finset.mem_range.mpr issued, rfl⟩, new⟩
  unfold unopened
  rw [List.toFinset_cons, Finset.sdiff_insert]
  exact Finset.card_erase_lt_of_mem before

theorem unopened_nil_lt_renderDepth (heap : Heap) : heap.unopened [] < heap.renderDepth := by
  have vectors : heap.unopened [] ≤ ((Finset.range heap.vectors.size).image VectorRef.mk).card :=
    Finset.card_le_card Finset.sdiff_subset
  have size : ((Finset.range heap.vectors.size).image VectorRef.mk).card ≤ heap.vectors.size := by
    refine Nat.le_trans Finset.card_image_le ?_
    rw [Finset.card_range]
  unfold renderDepth
  omega

/-- Values that unfold one by one unfold together. -/
theorem exists_unfoldsEach {heap : Heap} {above : List VectorRef} {values : List Value}
    (each : ∀ value ∈ values, ∃ tree, heap.Unfolds above value tree) :
    ∃ trees, heap.UnfoldsEach above values trees := by
  induction values with
  | nil => exact ⟨[], .nil⟩
  | cons value values ih =>
    obtain ⟨tree, head⟩ := each value List.mem_cons_self
    obtain ⟨trees, tail⟩ := ih fun other listed => each other (List.mem_cons_of_mem _ listed)
    exact ⟨tree :: trees, .cons head tail⟩

/-- Every value unfolds into a tree, on every heap. -/
theorem exists_unfolds (heap : Heap) (above : List VectorRef) (value : Value) :
    ∃ tree, heap.Unfolds above value tree := by
  -- The measure is the number of vectors that the branch has not passed through.
  induction left : heap.unopened above using Nat.strong_induction_on generalizing above value with
  | _ _ ih =>
    cases value with
    | vector ref =>
      by_cases ancestor : ref ∈ above
      · exact ⟨.cut, .cut ancestor⟩
      · have each : ∀ value ∈ (heap.items ref).toList,
            ∃ tree, heap.Unfolds (ref :: above) value tree := by
          intro value element
          have fewer := unopened_cons_lt ancestor (lt_of_mem_items element)
          exact ih _ (left ▸ fewer) (ref :: above) value rfl
        obtain ⟨elements, unfolded⟩ := exists_unfoldsEach each
        exact ⟨.vector elements, .vector ref ancestor unfolded⟩
    | _ => exact ⟨_, .leaf rfl⟩

/-! ### The text is that of the tree -/

theorem renderBelow_leaf {heap : Heap} {value : Value} {tree : Tree}
    (leaf : heap.leaf? value = some tree) (style : Style) (depth : Nat) (above : List VectorRef) :
    heap.renderBelow style (depth + 1) above value = tree.render style := by
  cases value with
  | vector ref => cases leaf
  | _ =>
    cases leaf
    cases style <;> rfl

mutual

/-- A text that is not stopped by its depth is that of the tree. -/
theorem Unfolds.renderBelow_eq {heap : Heap} {above : List VectorRef} {value : Value} {tree : Tree}
    (unfolds : heap.Unfolds above value tree) (style : Style) {depth : Nat}
    (enough : heap.unopened above < depth) :
    heap.renderBelow style depth above value = tree.render style :=
  match depth, unfolds with
  | 0, _ => absurd enough (Nat.not_lt_zero _)
  | depth + 1, .leaf leaf => renderBelow_leaf leaf style depth above
  | depth + 1, .cut ancestor => by
    rw [renderBelow, if_pos ancestor]
    cases style <;> rfl
  | depth + 1, .vector _ new each => by
    rw [renderBelow, if_neg new, each.map_renderBelow style]
    · cases style <;> rfl
    · intro element listed
      have fewer := unopened_cons_lt new (lt_of_mem_items listed)
      omega

theorem UnfoldsEach.map_renderBelow {heap : Heap} {above : List VectorRef} {values : List Value}
    {trees : List Tree} (unfolds : heap.UnfoldsEach above values trees) (style : Style) {depth : Nat}
    (enough : ∀ value ∈ values, heap.unopened above < depth) :
    values.map (heap.renderBelow style depth above) = Tree.renderAll style trees :=
  match unfolds with
  | .nil => rfl
  | .cons head tail => by
    rw [List.map_cons, head.renderBelow_eq style (enough _ List.mem_cons_self),
      tail.map_renderBelow style fun other listed => enough other (List.mem_cons_of_mem _ listed)]
    rfl

end

theorem Unfolds.render_eq {heap : Heap} {value : Value} {tree : Tree}
    (unfolds : heap.Unfolds [] value tree) (style : Style) :
    heap.render style value = tree.render style :=
  unfolds.renderBelow_eq style heap.unopened_nil_lt_renderDepth

/-! ### Trees without cuts -/

mutual

/-- A value stands for a tree: a vector for the tree of its elements, however deep it goes. -/
inductive Denotes (heap : Heap) : Value → Tree → Prop
  | leaf {value : Value} {tree : Tree} (leaf : heap.leaf? value = some tree) :
      Denotes heap value tree
  | vector (ref : VectorRef) {elements : List Tree}
      (each : DenotesEach heap (heap.items ref).toList elements) :
      Denotes heap (.vector ref) (.vector elements)

/-- Values stand for trees, one by one. -/
inductive DenotesEach (heap : Heap) : List Value → List Tree → Prop
  | nil : DenotesEach heap [] []
  | cons {value : Value} {values : List Value} {tree : Tree} {trees : List Tree}
      (head : Denotes heap value tree) (tail : DenotesEach heap values trees) :
      DenotesEach heap (value :: values) (tree :: trees)

end

mutual

theorem Denotes.unique {heap : Heap} {value : Value} {tree other : Tree}
    (one : heap.Denotes value tree) (another : heap.Denotes value other) : tree = other :=
  match one, another with
  | .leaf found, .leaf found' => Option.some.inj (found.symm.trans found')
  | .vector _ each, .vector _ each' => congrArg Tree.vector (each.unique each')

theorem DenotesEach.unique {heap : Heap} {values : List Value} {trees others : List Tree}
    (one : heap.DenotesEach values trees) (another : heap.DenotesEach values others) :
    trees = others :=
  match one, another with
  | .nil, .nil => rfl
  | .cons head tail, .cons head' tail' => congrArg₂ List.cons (head.unique head') (tail.unique tail')

end

/-- A leaf is not cut. -/
theorem uncut_of_leaf? {heap : Heap} {value : Value} {tree : Tree}
    (leaf : heap.leaf? value = some tree) : tree.uncut = true := by
  cases value with
  | vector ref => cases leaf
  | _ =>
    cases leaf
    rfl

mutual

theorem Denotes.uncut {heap : Heap} {value : Value} {tree : Tree}
    (denotes : heap.Denotes value tree) : tree.uncut = true :=
  match denotes with
  | .leaf leaf => uncut_of_leaf? leaf
  | .vector _ each => each.uncut

theorem DenotesEach.uncut {heap : Heap} {values : List Value} {trees : List Tree}
    (denotes : heap.DenotesEach values trees) : Tree.uncutAll trees = true :=
  match denotes with
  | .nil => rfl
  | .cons head tail => by rw [Tree.uncutAll, head.uncut, tail.uncut, Bool.and_true]

end

mutual

/-- A value that unfolds without a cut stands for its tree. -/
theorem Unfolds.denotes {heap : Heap} {above : List VectorRef} {value : Value} {tree : Tree}
    (unfolds : heap.Unfolds above value tree) (uncut : tree.uncut = true) :
    heap.Denotes value tree :=
  match unfolds with
  | .leaf leaf => .leaf leaf
  | .cut _ => by cases uncut
  | .vector ref _ each => .vector ref (each.denotes uncut)

theorem UnfoldsEach.denotes {heap : Heap} {above : List VectorRef} {values : List Value}
    {trees : List Tree} (unfolds : heap.UnfoldsEach above values trees)
    (uncut : Tree.uncutAll trees = true) : heap.DenotesEach values trees :=
  match unfolds with
  | .nil => .nil
  | .cons head tail => by
    rw [Tree.uncutAll, Bool.and_eq_true] at uncut
    exact .cons (head.denotes uncut.1) (tail.denotes uncut.2)

end

/-! ### Cycles -/

/-- The second value is an element of the first one, which is a vector. -/
def Element (heap : Heap) (value element : Value) : Prop :=
  ∃ ref, value = .vector ref ∧ element ∈ heap.items ref

/-- The second value can be reached from the first one, through any number of vectors. -/
def Reaches (heap : Heap) : Value → Value → Prop :=
  Relation.ReflTransGen heap.Element

/-- No value that can be reached contains itself, directly or through others. -/
def Acyclic (heap : Heap) (value : Value) : Prop :=
  ∀ other, heap.Reaches value other → ¬Relation.TransGen heap.Element other other

theorem Acyclic.of_element {heap : Heap} {value element : Value} (acyclic : heap.Acyclic value)
    (listed : heap.Element value element) : heap.Acyclic element :=
  fun other reached => acyclic other (.head listed reached)

mutual

/-- Without a cycle there is no cut: a vector among its own ancestors could be reached from itself. -/
theorem Unfolds.uncut {heap : Heap} {above : List VectorRef} {value : Value} {tree : Tree}
    (unfolds : heap.Unfolds above value tree) (acyclic : heap.Acyclic value)
    (below : ∀ ref ∈ above, Relation.TransGen heap.Element (.vector ref) value) :
    tree.uncut = true :=
  match unfolds with
  | .leaf leaf => uncut_of_leaf? leaf
  | .cut ancestor => absurd (below _ ancestor) (acyclic _ .refl)
  | .vector ref _ each => by
    refine each.uncut ?_ ?_
    · exact fun element listed => acyclic.of_element ⟨ref, rfl, Array.mem_toList_iff.mp listed⟩
    · intro element listed ancestor passed
      have inside : heap.Element (.vector ref) element := ⟨ref, rfl, Array.mem_toList_iff.mp listed⟩
      rcases List.mem_cons.mp passed with rfl | earlier
      · exact .single inside
      · exact (below ancestor earlier).tail inside

theorem UnfoldsEach.uncut {heap : Heap} {above : List VectorRef} {values : List Value}
    {trees : List Tree} (unfolds : heap.UnfoldsEach above values trees)
    (acyclic : ∀ value ∈ values, heap.Acyclic value)
    (below : ∀ value ∈ values, ∀ ref ∈ above, Relation.TransGen heap.Element (.vector ref) value) :
    Tree.uncutAll trees = true :=
  match unfolds with
  | .nil => rfl
  | .cons head tail => by
    rw [List.forall_mem_cons] at acyclic below
    rw [Tree.uncutAll, head.uncut acyclic.1 below.1, tail.uncut acyclic.2 below.2, Bool.and_true]

end

/-- Each of several values stands for one of their trees. -/
theorem DenotesEach.exists_of_mem {heap : Heap} {values : List Value} {trees : List Tree}
    (denotes : heap.DenotesEach values trees) {value : Value} (listed : value ∈ values) :
    ∃ tree ∈ trees, heap.Denotes value tree := by
  induction values generalizing trees with
  | nil => cases listed
  | cons first values ih =>
    cases denotes with
    | cons head tail =>
      rcases List.mem_cons.mp listed with rfl | later
      · exact ⟨_, List.mem_cons_self, head⟩
      · obtain ⟨tree, found, denotes⟩ := ih tail later
        exact ⟨tree, List.mem_cons_of_mem _ found, denotes⟩

/-- The elements of a value stand for the elements of its tree. -/
theorem Denotes.of_element {heap : Heap} {value element : Value} {tree : Tree}
    (denotes : heap.Denotes value tree) (listed : heap.Element value element) :
    ∃ elements, tree = .vector elements ∧ ∃ part ∈ elements, heap.Denotes element part := by
  obtain ⟨ref, rfl, listed⟩ := listed
  cases denotes with
  | leaf leaf => cases leaf
  | vector _ each => exact ⟨_, rfl, each.exists_of_mem (Array.mem_toList_iff.mpr listed)⟩

/-- What is inside a value stands for a smaller tree. -/
theorem Denotes.of_transGen {heap : Heap} {value other : Value} {tree : Tree}
    (denotes : heap.Denotes value tree) (inside : Relation.TransGen heap.Element value other) :
    ∃ part, heap.Denotes other part ∧ sizeOf part < sizeOf tree := by
  induction inside using Relation.TransGen.head_induction_on generalizing tree with
  | single listed =>
    obtain ⟨elements, rfl, part, found, denotes⟩ := denotes.of_element listed
    have smaller := List.sizeOf_lt_of_mem found
    exact ⟨part, denotes, by rw [Tree.vector.sizeOf_spec]; omega⟩
  | head listed _ ih =>
    obtain ⟨elements, rfl, part, found, denotes⟩ := denotes.of_element listed
    obtain ⟨inner, denotes', smaller'⟩ := ih denotes
    have smaller := List.sizeOf_lt_of_mem found
    exact ⟨inner, denotes', by rw [Tree.vector.sizeOf_spec]; omega⟩

/-- A value that stands for a tree has no cycle: its tree would be a part of itself. -/
theorem Denotes.acyclic {heap : Heap} {value : Value} {tree : Tree}
    (denotes : heap.Denotes value tree) : heap.Acyclic value := by
  intro other reached cycle
  obtain ⟨part, denotes⟩ : ∃ part, heap.Denotes other part := by
    rcases Relation.reflTransGen_iff_eq_or_transGen.mp reached with rfl | inside
    · exact ⟨tree, denotes⟩
    · obtain ⟨part, denotes, -⟩ := denotes.of_transGen inside
      exact ⟨part, denotes⟩
  obtain ⟨part', denotes', smaller⟩ := denotes.of_transGen cycle
  rw [denotes'.unique denotes] at smaller
  exact Nat.lt_irrefl _ smaller

/-- A value unfolds without a cut exactly if no cycle can be reached from it. -/
theorem Unfolds.uncut_iff {heap : Heap} {value : Value} {tree : Tree}
    (unfolds : heap.Unfolds [] value tree) : tree.uncut = true ↔ heap.Acyclic value :=
  ⟨fun uncut => (unfolds.denotes uncut).acyclic, fun acyclic => unfolds.uncut acyclic nofun⟩

/-- A value that stands for a tree unfolds into it. -/
theorem Denotes.unfolds {heap : Heap} {value : Value} {tree : Tree}
    (denotes : heap.Denotes value tree) : heap.Unfolds [] value tree := by
  obtain ⟨other, unfolds⟩ := heap.exists_unfolds [] value
  have same := (unfolds.denotes (unfolds.uncut_iff.mpr denotes.acyclic)).unique denotes
  rwa [same] at unfolds

/-- Values without cycles are those that stand for a tree. -/
theorem acyclic_iff_denotes {heap : Heap} {value : Value} :
    heap.Acyclic value ↔ ∃ tree, heap.Denotes value tree := by
  constructor
  · intro acyclic
    obtain ⟨tree, unfolds⟩ := heap.exists_unfolds [] value
    exact ⟨tree, unfolds.denotes (unfolds.uncut_iff.mpr acyclic)⟩
  · rintro ⟨tree, denotes⟩
    exact denotes.acyclic

/-! ### The text of a value -/

theorem DenotesEach.map_render {heap : Heap} {values : List Value} {trees : List Tree}
    (denotes : heap.DenotesEach values trees) (style : Style) :
    values.map (heap.render style) = Tree.renderAll style trees := by
  induction values generalizing trees with
  | nil =>
    cases denotes
    rfl
  | cons value values ih =>
    cases denotes with
    | cons head tail =>
      rw [List.map_cons, ih tail, head.unfolds.render_eq style]
      rfl

/-- The debug text of a vector without cycles has the debug text of its buffer inside. -/
theorem debug_vector {heap : Heap} {ref : VectorRef} (acyclic : heap.Acyclic (.vector ref)) :
    heap.debug (.vector ref) = "Vector(" ++ heap.debugItems ref ++ ")" := by
  obtain ⟨tree, denotes⟩ := acyclic_iff_denotes.mp acyclic
  rw [debug, denotes.unfolds.render_eq .debug]
  cases denotes with
  | leaf leaf => cases leaf
  | vector _ each =>
    have texts : (heap.items ref).toList.map heap.debug = _ := each.map_render .debug
    rw [debugItems, texts, Tree.render, ← String.toList_inj]
    simp

/-- The text of a value, in both styles and on every heap, is that of the one tree into which the
value unfolds.  The tree is cut nowhere exactly if no cycle can be reached from the value.  Then it is
the plain tree of the value; all values that stand for the same tree, on whatever heap and with
whatever buffers shared, have the same text; and the debug text of a vector has that of its buffer
inside. -/
theorem text_renders_unfolding (heap : Heap) (value : Value) :
    ∃ tree, heap.Unfolds [] value tree ∧ (∀ other, heap.Unfolds [] value other → other = tree) ∧
      heap.display value = tree.render .display ∧ heap.debug value = tree.render .debug ∧
      (tree.uncut = true ↔ heap.Acyclic value) ∧
      (heap.Acyclic value → heap.Denotes value tree) ∧
      (∀ (heap' : Heap) (value' : Value), heap'.Denotes value' tree →
        heap'.display value' = heap.display value ∧ heap'.debug value' = heap.debug value) ∧
      ∀ ref, value = .vector ref → heap.Acyclic value →
        heap.debug value = "Vector(" ++ heap.debugItems ref ++ ")" := by
  obtain ⟨tree, unfolds⟩ := heap.exists_unfolds [] value
  have rendered : ∀ style, heap.render style value = tree.render style := unfolds.render_eq
  refine ⟨tree, unfolds, fun other => ?_, rendered .display, rendered .debug, unfolds.uncut_iff,
    fun acyclic => unfolds.denotes (unfolds.uncut_iff.mpr acyclic), ?_, ?_⟩
  · exact fun unfolds' => unfolds'.unique unfolds
  · intro heap' value' denotes
    have rendered' : ∀ style, heap'.render style value' = tree.render style :=
      denotes.unfolds.render_eq
    exact ⟨(rendered' .display).trans (rendered .display).symm,
      (rendered' .debug).trans (rendered .debug).symm⟩
  · rintro ref rfl acyclic
    exact debug_vector acyclic

/-- A vector that holds another vector twice, and a vector that holds itself.  The first one is written
in full, as if each of its elements were a vector of its own; the second one is cut. -/
theorem text_renders_unfolding_sharing :
    let heap : Heap :=
      ⟨#["s"], #[#[.text ⟨0⟩], #[.vector ⟨0⟩, .vector ⟨0⟩], #[.int 1, .vector ⟨2⟩]]⟩
    heap.Acyclic (.vector ⟨1⟩) ∧ heap.display (.vector ⟨1⟩) = "[[\"s\"], [\"s\"]]" ∧
      heap.debug (.vector ⟨1⟩) = "Vector(" ++ heap.debugItems ⟨1⟩ ++ ")" ∧
      ¬heap.Acyclic (.vector ⟨2⟩) ∧ heap.display (.vector ⟨2⟩) = "[1, [...]]" ∧
      heap.debug (.vector ⟨2⟩) = "Vector([Int(1), Vector([...])])" := by
  intro heap
  have single : heap.Denotes (.vector ⟨0⟩) (.vector [.text "s"]) :=
    .vector _ (.cons (.leaf rfl) .nil)
  have shared : heap.Denotes (.vector ⟨1⟩) (.vector [.vector [.text "s"], .vector [.text "s"]]) :=
    .vector _ (.cons single (.cons single .nil))
  have cyclic : heap.Unfolds [] (.vector ⟨2⟩) (.vector [.int 1, .cut]) :=
    .vector _ (by decide) (.cons (.leaf rfl) (.cons (.cut (by decide)) .nil))
  obtain ⟨tree, -, unique, display, -, -, -, -, handle⟩ := heap.text_renders_unfolding (.vector ⟨1⟩)
  obtain ⟨tree', -, unique', display', debug', uncut', -⟩ :=
    heap.text_renders_unfolding (.vector ⟨2⟩)
  rw [← unique _ shared.unfolds] at display
  rw [← unique' _ cyclic] at display' debug' uncut'
  refine ⟨shared.acyclic, display.trans ?_, handle ⟨1⟩ rfl shared.acyclic, ?_, display'.trans ?_,
    debug'.trans ?_⟩
  · decide
  · rw [← uncut']
    decide
  · decide
  · decide

end Heap

end Multidispatch
