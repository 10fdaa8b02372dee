import Multidispatch.Heap.Equality
import Mathlib.Data.List.Forall2
import Mathlib.Data.Finset.Card
import Mathlib.Data.Finset.Prod

/-!
# Equality is bisimilarity

On a heap with cycles, equality of values cannot be read off finite trees.  Two values are bisimilar
if some relation holds between them whose pairs all match: leaves by their contents, and vectors
either because they are the same buffer or element by element, again in the relation.  Equality of
values decides this relation.

The comparison remembers the pairs of vectors that it has begun to compare, also after their
comparison has ended, and takes them for equal.  This is right because the whole comparison ends
with the first difference: if it ends without one, the remembered pairs form a relation of the kind
above.  Each nested comparison remembers a new pair, so the comparison ends.

## Main definitions

* `Heap.Matches`, `Heap.Bisimilar` — bisimilarity of values
* `Heap.Compares`, `Heap.ComparesEach` — the finished comparisons, without a bound on their depth
* `Heap.Vouched` — what the pairs met so far vouch for
* `Heap.unmet` — how many pairs of vectors have not been met

## Main statements

* `Heap.compares_equalWithin` — a comparison ends before its depth is exhausted
* `Heap.Compares.vouched` — a comparison without a difference leaves pairs that vouch for each other
* `Heap.equal_iff_bisimilar` — equality of values is bisimilarity
-/

namespace Multidispatch

namespace Heap

/-! ### Bisimilarity -/

/-- A pair of values matches, given when elements of vectors count as equal. -/
def Matches (heap : Heap) (R : Value → Value → Prop) : Value → Value → Prop
  | .void, .void => True
  | .int m, .int n => m = n
  | .float x, .float y => (x == y) = true
  | .bool a, .bool b => a = b
  | .text r, .text t => heap.text r = heap.text t
  | .vector r, .vector t =>
    r = t ∨ List.Forall₂ R (heap.items r).toList (heap.items t).toList
  | _, _ => False

/-- Two values are related by some relation whose pairs all match. -/
def Bisimilar (heap : Heap) (a b : Value) : Prop :=
  ∃ R : Value → Value → Prop, R a b ∧ ∀ x y, R x y → heap.Matches R x y

/-- Two values are both vectors, or they are compared as leaves. -/
theorem vectors_or_leaves (a b : Value) :
    (∃ r t, a = .vector r ∧ b = .vector t) ∨ (a.vector? = none ∨ b.vector? = none) := by
  cases a with
  | vector r =>
    cases b with
    | vector t => exact .inl ⟨r, t, rfl, rfl⟩
    | _ => exact .inr (.inr rfl)
  | _ => exact .inr (.inl rfl)

/-- Whether leaves match does not depend on the relation. -/
theorem matches_iff_equalLeaves {heap : Heap} {R : Value → Value → Prop} {a b : Value}
    (leaf : a.vector? = none ∨ b.vector? = none) :
    heap.Matches R a b ↔ heap.equalLeaves a b = true := by
  cases a <;> cases b <;> simp_all [Matches, equalLeaves, Value.vector?]

theorem Matches.mono {heap : Heap} {R S : Value → Value → Prop} (sub : ∀ x y, R x y → S x y)
    {a b : Value} (m : heap.Matches R a b) : heap.Matches S a b := by
  rcases vectors_or_leaves a b with ⟨r, t, rfl, rfl⟩ | leaf
  · rcases m with same | elements
    · exact .inl same
    · exact .inr (elements.imp fun x y => sub x y)
  · exact (matches_iff_equalLeaves leaf).mpr ((matches_iff_equalLeaves leaf).mp m)

/-- Bisimilarity is itself a relation whose pairs all match. -/
theorem Bisimilar.matches {heap : Heap} {a b : Value} (h : heap.Bisimilar a b) :
    heap.Matches heap.Bisimilar a b := by
  obtain ⟨R, related, closed⟩ := h
  exact (closed a b related).mono fun x y between => ⟨R, between, closed⟩

/-! ### The comparison without a bound -/

mutual

/-- A finished comparison of two values, with its answer and the pairs met by then. -/
inductive Compares (heap : Heap) : Met → Value → Value → Bool × Met → Prop
  /-- Values that are not both vectors are compared at once. -/
  | leaves {met : Met} {a b : Value} (leaf : a.vector? = none ∨ b.vector? = none) :
      Compares heap met a b (heap.equalLeaves a b, met)
  /-- The same buffer, and a pair that has been met, count as equal. -/
  | known {met : Met} {r t : VectorRef} (known : r = t ∨ (r, t) ∈ met) :
      Compares heap met (.vector r) (.vector t) (true, met)
  /-- Vectors of different sizes differ. -/
  | sizes {met : Met} {r t : VectorRef} (new : ¬ (r = t ∨ (r, t) ∈ met))
      (differ : (heap.items r).size ≠ (heap.items t).size) :
      Compares heap met (.vector r) (.vector t) (false, (r, t) :: met)
  /-- Vectors of one size are compared element by element, after their pair has been noted. -/
  | elements {met : Met} (r t : VectorRef) {answer : Bool × Met}
      (new : ¬ (r = t ∨ (r, t) ∈ met)) (same : (heap.items r).size = (heap.items t).size)
      (each : ComparesEach heap ((r, t) :: met) (heap.items r).toList (heap.items t).toList answer) :
      Compares heap met (.vector r) (.vector t) answer

/-- A finished comparison of two lists of equal length, up to the first difference. -/
inductive ComparesEach (heap : Heap) : Met → List Value → List Value → Bool × Met → Prop
  /-- Nothing is left to compare. -/
  | done {met : Met} : ComparesEach heap met [] [] (true, met)
  /-- A pair differs, and the rest is not looked at. -/
  | differ {met met' : Met} {a b : Value} {as bs : List Value}
      (head : Compares heap met a b (false, met')) (same : as.length = bs.length) :
      ComparesEach heap met (a :: as) (b :: bs) (false, met')
  /-- A pair counts as equal, and the comparison goes on with all pairs met by then. -/
  | next {met : Met} (between : Met) {a b : Value} {as bs : List Value} {answer : Bool × Met}
      (head : Compares heap met a b (true, between))
      (rest : ComparesEach heap between as bs answer) :
      ComparesEach heap met (a :: as) (b :: bs) answer

end

mutual

/-- Pairs that have been met are never forgotten. -/
theorem Compares.subset {heap : Heap} {met : Met} {a b : Value} {answer : Bool × Met}
    (c : heap.Compares met a b answer) : met ⊆ answer.2 :=
  match c with
  | .leaves _ => List.Subset.refl _
  | .known _ => List.Subset.refl _
  | .sizes _ _ => List.subset_cons_self _ _
  | .elements _ _ _ _ each => List.Subset.trans (List.subset_cons_self _ _) each.subset

theorem ComparesEach.subset {heap : Heap} {met : Met} {as bs : List Value} {answer : Bool × Met}
    (c : heap.ComparesEach met as bs answer) : met ⊆ answer.2 :=
  match c with
  | .done => List.Subset.refl _
  | .differ head _ => head.subset
  | .next _ head rest => List.Subset.trans head.subset rest.subset

end

/-! ### A comparison without a difference proves bisimilarity -/

/-- What the pairs met so far vouch for: leaves that are equal, the same buffer, and the pairs
themselves. -/
def Vouched (heap : Heap) (met : Met) : Value → Value → Prop
  | .vector r, .vector t => r = t ∨ (r, t) ∈ met
  | a, b => heap.equalLeaves a b = true

/-- The elements of a pair of vectors are vouched for, position by position. -/
def Expanded (heap : Heap) (met : Met) (pair : VectorRef × VectorRef) : Prop :=
  List.Forall₂ (heap.Vouched met) (heap.items pair.1).toList (heap.items pair.2).toList

theorem vouched_iff_equalLeaves {heap : Heap} {met : Met} {a b : Value}
    (leaf : a.vector? = none ∨ b.vector? = none) :
    heap.Vouched met a b ↔ heap.equalLeaves a b = true := by
  cases a with
  | vector r =>
    cases b with
    | vector t => rcases leaf with no | no <;> cases no
    | _ => exact Iff.rfl
  | _ => exact Iff.rfl

theorem Vouched.mono {heap : Heap} {met met' : Met} (sub : met ⊆ met') {a b : Value}
    (v : heap.Vouched met a b) : heap.Vouched met' a b := by
  rcases vectors_or_leaves a b with ⟨r, t, rfl, rfl⟩ | leaf
  · exact v.imp_right fun listed => sub listed
  · exact (vouched_iff_equalLeaves leaf).mpr ((vouched_iff_equalLeaves leaf).mp v)

theorem Expanded.mono {heap : Heap} {met met' : Met} (sub : met ⊆ met')
    {pair : VectorRef × VectorRef} (e : heap.Expanded met pair) : heap.Expanded met' pair :=
  List.Forall₂.imp (fun _ _ v => v.mono sub) e

mutual

/-- A comparison without a difference vouches for its values, and every pair that it met anew has
been expanded. -/
theorem Compares.vouched {heap : Heap} {met : Met} {a b : Value} {answer : Bool × Met}
    (c : heap.Compares met a b answer) (equal : answer.1 = true) :
    heap.Vouched answer.2 a b ∧ ∀ pair ∈ answer.2, pair ∉ met → heap.Expanded answer.2 pair :=
  match c with
  | .leaves leaf => ⟨(vouched_iff_equalLeaves leaf).mpr equal, fun _ listed new => absurd listed new⟩
  | .known known => ⟨known, fun _ listed new => absurd listed new⟩
  | .sizes _ _ => by cases equal
  | .elements r t _ _ each => by
    obtain ⟨elements, expanded⟩ := each.vouched equal
    refine ⟨.inr (each.subset List.mem_cons_self), fun pair listed new => ?_⟩
    -- The pair itself has just been expanded; the others are new to the elements as well.
    by_cases own : pair = (r, t)
    · rw [own]
      exact elements
    · exact expanded pair listed fun earlier => (List.mem_cons.mp earlier).elim own new

/-- Elements that all compare equal are vouched for, and every pair met anew has been expanded. -/
theorem ComparesEach.vouched {heap : Heap} {met : Met} {as bs : List Value} {answer : Bool × Met}
    (c : heap.ComparesEach met as bs answer) (equal : answer.1 = true) :
    List.Forall₂ (heap.Vouched answer.2) as bs ∧
      ∀ pair ∈ answer.2, pair ∉ met → heap.Expanded answer.2 pair :=
  match c with
  | .done => ⟨.nil, fun _ listed new => absurd listed new⟩
  | .differ _ _ => by cases equal
  | .next between head rest => by
    obtain ⟨first, expanded⟩ := head.vouched rfl
    obtain ⟨others, expanded'⟩ := rest.vouched equal
    refine ⟨.cons (first.mono rest.subset) others, fun pair listed new => ?_⟩
    -- A pair was met while the head was compared, or later.
    by_cases earlier : pair ∈ between
    · exact (expanded pair earlier new).mono rest.subset
    · exact expanded' pair listed earlier

end

/-- If all pairs that have been met are expanded, what they vouch for is bisimilar. -/
theorem bisimilar_of_vouched {heap : Heap} {met : Met}
    (expanded : ∀ pair ∈ met, heap.Expanded met pair) {a b : Value} (v : heap.Vouched met a b) :
    heap.Bisimilar a b := by
  refine ⟨heap.Vouched met, v, fun x y between => ?_⟩
  rcases vectors_or_leaves x y with ⟨r, t, rfl, rfl⟩ | leaf
  · rcases between with same | listed
    · exact .inl same
    · exact .inr (expanded (r, t) listed)
  · exact (matches_iff_equalLeaves leaf).mpr ((vouched_iff_equalLeaves leaf).mp between)

/-! ### Bisimilar values compare without a difference -/

mutual

theorem Compares.equal_of_bisimilar {heap : Heap} {met : Met} {a b : Value} {answer : Bool × Met}
    (c : heap.Compares met a b answer) (similar : heap.Bisimilar a b) : answer.1 = true :=
  match c with
  | .leaves leaf => (matches_iff_equalLeaves leaf).mp similar.matches
  | .known _ => rfl
  | .sizes new differ => by
    rcases similar.matches with same | elements
    · exact absurd (.inl same) new
    · exact absurd (by simpa using elements.length_eq) differ
  | .elements r t new _ each => by
    rcases similar.matches with same | elements
    · exact absurd (.inl same) new
    · exact each.equal_of_bisimilar elements

theorem ComparesEach.equal_of_bisimilar {heap : Heap} {met : Met} {as bs : List Value}
    {answer : Bool × Met} (c : heap.ComparesEach met as bs answer)
    (similar : List.Forall₂ heap.Bisimilar as bs) : answer.1 = true :=
  match c, similar with
  | .done, _ => rfl
  | .differ head _, .cons first _ => head.equal_of_bisimilar first
  | .next _ _ rest, .cons _ others => rest.equal_of_bisimilar others

end

/-! ### The comparison ends -/

/-- The pairs of vectors of the heap. -/
def vectorPairs (heap : Heap) : Finset (VectorRef × VectorRef) :=
  (Finset.range heap.vectors.size ×ˢ Finset.range heap.vectors.size).image fun pair =>
    (⟨pair.1⟩, ⟨pair.2⟩)

theorem mem_vectorPairs {heap : Heap} {r t : VectorRef} (left : r.index < heap.vectors.size)
    (right : t.index < heap.vectors.size) : (r, t) ∈ heap.vectorPairs := by
  refine Finset.mem_image.mpr ⟨(r.index, t.index), ?_, rfl⟩
  rw [Finset.mem_product, Finset.mem_range, Finset.mem_range]
  exact ⟨left, right⟩

/-- The number of pairs of vectors of the heap that have not been met. -/
def unmet (heap : Heap) (met : Met) : Nat :=
  (heap.vectorPairs \ met.toFinset).card

theorem unmet_le_of_subset (heap : Heap) {met met' : Met} (sub : met ⊆ met') :
    heap.unmet met' ≤ heap.unmet met := by
  refine Finset.card_le_card (Finset.sdiff_subset_sdiff (Finset.Subset.refl _) ?_)
  intro pair listed
  rw [List.mem_toFinset] at listed ⊢
  exact sub listed

/-- Meeting a new pair of vectors of the heap leaves fewer pairs to meet. -/
theorem unmet_cons_lt (heap : Heap) {met : Met} {r t : VectorRef} (new : (r, t) ∉ met)
    (left : r.index < heap.vectors.size) (right : t.index < heap.vectors.size) :
    heap.unmet ((r, t) :: met) < heap.unmet met := by
  have before : (r, t) ∈ heap.vectorPairs \ met.toFinset := by
    rw [Finset.mem_sdiff, List.mem_toFinset]
    exact ⟨mem_vectorPairs left right, new⟩
  have rest : heap.vectorPairs \ ((r, t) :: met).toFinset =
      (heap.vectorPairs \ met.toFinset).erase (r, t) := by
    rw [List.toFinset_cons, Finset.sdiff_insert]
  unfold unmet
  rw [rest]
  exact Finset.card_erase_lt_of_mem before

theorem unmet_nil_lt_comparisonDepth (heap : Heap) : heap.unmet [] < heap.comparisonDepth := by
  have pairs : heap.vectorPairs.card ≤ heap.vectors.size * heap.vectors.size := by
    refine Nat.le_trans Finset.card_image_le ?_
    rw [Finset.card_product, Finset.card_range]
  have bound : heap.unmet [] ≤ heap.vectorPairs.card := Finset.card_le_card Finset.sdiff_subset
  unfold comparisonDepth
  omega

/-- Only a vector of the heap has elements. -/
theorem lt_of_mem_items {heap : Heap} {r : VectorRef} {a : Value}
    (element : a ∈ (heap.items r).toList) : r.index < heap.vectors.size := by
  by_contra missing
  have unissued : heap.vectors[r.index]? = none := Array.getElem?_eq_none (by omega)
  have empty : heap.items r = #[] := by rw [items, unissued, Option.getD_none]
  rw [empty] at element
  cases element

theorem equalWithin_leaves (heap : Heap) (depth : Nat) (met : Met) {a b : Value}
    (leaf : a.vector? = none ∨ b.vector? = none) :
    heap.equalWithin (depth + 1) met a b = (heap.equalLeaves a b, met) := by
  cases a with
  | vector r =>
    cases b with
    | vector t => rcases leaf with no | no <;> cases no
    | _ => rfl
  | _ => rfl

/-- If every comparison of elements is finished, so is the comparison of the lists. -/
theorem comparesEach_equalEach {heap : Heap} {compare : Met → Value → Value → Bool × Met}
    {met : Met} {as bs : List Value} (same : as.length = bs.length)
    (finished : ∀ a ∈ as, ∀ b ∈ bs, ∀ met', met ⊆ met' →
      heap.Compares met' a b (compare met' a b)) :
    heap.ComparesEach met as bs (equalEach compare met as bs) := by
  induction as generalizing met bs with
  | nil =>
    obtain rfl : bs = [] := List.length_eq_zero_iff.mp same.symm
    exact .done
  | cons a as ih =>
    cases bs with
    | nil => cases same
    | cons b bs =>
      have head := finished a List.mem_cons_self b List.mem_cons_self met (List.Subset.refl met)
      rw [equalEach]
      rcases answered : compare met a b with ⟨equal, between⟩
      rw [answered] at head
      cases equal with
      | false => exact .differ head (Nat.succ.inj same)
      | true =>
        refine .next between head (ih (Nat.succ.inj same) ?_)
        intro x inLeft y inRight met' later
        exact finished x (List.mem_cons_of_mem _ inLeft) y (List.mem_cons_of_mem _ inRight) met'
          (List.Subset.trans head.subset later)

/-- A comparison whose depth exceeds the number of pairs left to meet is finished. -/
theorem compares_equalWithin {heap : Heap} {depth : Nat} {met : Met} {a b : Value}
    (enough : heap.unmet met < depth) :
    heap.Compares met a b (heap.equalWithin depth met a b) := by
  induction depth generalizing met a b with
  | zero => omega
  | succ depth ih =>
    rcases vectors_or_leaves a b with ⟨r, t, rfl, rfl⟩ | leaf
    · rw [equalWithin]
      split
      · next known => exact .known known
      · next new =>
        split
        · next same =>
          refine .elements r t new same (comparesEach_equalEach (by simpa using same) ?_)
          intro x inLeft y inRight met' later
          -- An element exists on either side, so both vectors are on the heap and their pair counts.
          have fewer := heap.unmet_cons_lt (fun listed => new (.inr listed))
            (lt_of_mem_items inLeft) (lt_of_mem_items inRight)
          have still := heap.unmet_le_of_subset later
          exact ih (by omega)
        · next differ => exact .sizes new differ
    · rw [equalWithin_leaves heap depth met leaf]
      exact .leaves leaf

/-- Equality of values is the answer of a finished comparison that starts without met pairs. -/
theorem compares_equal (heap : Heap) (a b : Value) :
    ∃ met, heap.Compares [] a b (heap.equal a b, met) :=
  ⟨_, compares_equalWithin heap.unmet_nil_lt_comparisonDepth⟩

/-! ### Equality of values -/

theorem equal_iff_bisimilar (heap : Heap) (a b : Value) :
    heap.equal a b = true ↔ heap.Bisimilar a b := by
  -- No pair has been met at the start, so every pair met at the end has been expanded.
  obtain ⟨met, finished⟩ := heap.compares_equal a b
  constructor
  · intro equal
    obtain ⟨vouched, expanded⟩ := finished.vouched equal
    exact bisimilar_of_vouched (fun pair listed => expanded pair listed List.not_mem_nil) vouched
  · exact fun similar => finished.equal_of_bisimilar similar

-- A vector that contains itself equals each of two vectors that contain each other.
example : Heap.equal ⟨#[], #[#[.vector ⟨0⟩], #[.vector ⟨2⟩], #[.vector ⟨1⟩]]⟩
    (.vector ⟨0⟩) (.vector ⟨1⟩) = true := by
  decide

/-- Comparing many pairs one after the other, with all pairs of vectors met on the way kept, asks
for bisimilarity of each. -/
theorem equalEach_iff_bisimilar (heap : Heap) {as bs : List Value} (same : as.length = bs.length) :
    (equalEach (heap.equalWithin heap.comparisonDepth) [] as bs).1 = true ↔
      List.Forall₂ heap.Bisimilar as bs := by
  have finished : heap.ComparesEach [] as bs
      (equalEach (heap.equalWithin heap.comparisonDepth) [] as bs) := by
    refine comparesEach_equalEach same ?_
    intro a _ b _ met later
    refine compares_equalWithin (Nat.lt_of_le_of_lt ?_ heap.unmet_nil_lt_comparisonDepth)
    exact heap.unmet_le_of_subset later
  constructor
  · intro equal
    obtain ⟨vouched, expanded⟩ := finished.vouched equal
    exact vouched.imp fun x y =>
      bisimilar_of_vouched fun pair listed => expanded pair listed List.not_mem_nil
  · exact fun similar => finished.equal_of_bisimilar similar

/-- Equality of values ends on every heap and decides bisimilarity.  Keeping the pairs met in
comparisons that have ended does not change an answer: pairs of values compared one after the other
are all equal if each of them is equal when judged alone, in whatever order they come. -/
theorem equal_decides_bisimilarity (heap : Heap) (a b : Value) (pairs : List (Value × Value)) :
    (∃ met, heap.Compares [] a b (heap.equal a b, met)) ∧
      (heap.equal a b = true ↔ heap.Bisimilar a b) ∧
      ((equalEach (heap.equalWithin heap.comparisonDepth) []
          (pairs.map Prod.fst) (pairs.map Prod.snd)).1 = true ↔
        ∀ pair ∈ pairs, heap.equal pair.1 pair.2 = true) := by
  refine ⟨heap.compares_equal a b, heap.equal_iff_bisimilar a b, ?_⟩
  rw [equalEach_iff_bisimilar heap (by simp)]
  rw [List.forall₂_map_left_iff, List.forall₂_map_right_iff, List.forall₂_same]
  simp only [equal_iff_bisimilar]

end Heap

end Multidispatch
