import Mathlib
import Multidispatch.Proofs.Bisimilarity

/-!
# The laws of equality

Equality of values is symmetric and transitive on every heap, and every value equals itself except
a float that is not a number.  A vector equals itself even if such a float is among its elements,
since a buffer is not compared with itself; so a vector with such an element equals itself and no
other vector, in particular no copy of itself.

The laws are laws of bisimilarity.  Relations whose pairs all match can be turned around and
composed.  Where one of two steps leads from a buffer to itself, the other one is taken alone, since
the elements of a buffer need not equal themselves.

## Main statements

* `Heap.Bisimilar.symm`, `Heap.Bisimilar.trans` — bisimilarity is symmetric and transitive
* `Heap.equal_iff_matches` — equality of two values, in terms of equality of their elements
* `Heap.equal_self_iff` — which values equal themselves
* `Heap.equal_obeys_laws` — the laws of equality, also of buffers
* `Heap.copy_compares_alike_iff` — when a vector and a copy of it compare alike
-/

namespace Multidispatch

namespace Heap

variable {heap : Heap} {a b c : Value}

/-! ### The laws for leaves -/

/-- Only values that are not vectors are equal as leaves. -/
theorem vector?_of_equalLeaves (equal : heap.equalLeaves a b = true) :
    a.vector? = none ∧ b.vector? = none := by
  cases a <;> cases b <;> simp_all [equalLeaves, Value.vector?]

theorem equalLeaves_comm (heap : Heap) (a b : Value) :
    heap.equalLeaves a b = heap.equalLeaves b a := by
  cases a <;> cases b <;> simp [equalLeaves, BEq.comm]

theorem equalLeaves_trans (first : heap.equalLeaves a b = true)
    (second : heap.equalLeaves b c = true) : heap.equalLeaves a c = true := by
  cases a <;> cases b <;> cases c <;> simp_all [equalLeaves]
  case float x y z => exact BEq.trans first second
  case text r s t => grind

/-! ### The laws of bisimilarity -/

section Laws

variable {R : Value → Value → Prop}

theorem Matches.symm (m : heap.Matches R a b) : heap.Matches (flip R) b a := by
  rcases vectors_or_leaves a b with ⟨r, t, rfl, rfl⟩ | leaf
  · exact m.imp Eq.symm List.Forall₂.flip
  · rw [matches_iff_equalLeaves leaf.symm, equalLeaves_comm]
    exact (matches_iff_equalLeaves leaf).mp m

/-- Only a vector matches a vector. -/
theorem Matches.exists_vector {r : VectorRef} (m : heap.Matches R (.vector r) b) :
    ∃ t, b = .vector t := by
  cases b with
  | vector t => exact ⟨t, rfl⟩
  | _ => exact m.elim

/-- Lists that are related position by position compose. -/
theorem forall₂_comp {as bs cs : List Value} (first : List.Forall₂ R as bs)
    (second : List.Forall₂ R bs cs) : List.Forall₂ (fun x z => ∃ y, R x y ∧ R y z) as cs := by
  induction first generalizing cs with
  | nil =>
    cases second
    exact .nil
  | cons head _ ih =>
    cases second with
    | cons head' tail' => exact .cons ⟨_, head, head'⟩ (ih tail')

/-- Matching pairs compose.  If one of the two steps stays at a buffer, the other step alone leads
from the elements of the first value to those of the last. -/
theorem Matches.comp (first : heap.Matches R a b) (second : heap.Matches R b c) :
    heap.Matches (fun x z => R x z ∨ ∃ y, R x y ∧ R y z) a c := by
  rcases vectors_or_leaves a b with ⟨r, s, rfl, rfl⟩ | leaf
  · obtain ⟨t, rfl⟩ := second.exists_vector
    rcases first with rfl | elements
    · exact second.imp_right fun elements => elements.imp fun _ _ => .inl
    · rcases second with rfl | elements'
      · exact .inr (elements.imp fun _ _ => .inl)
      · exact .inr ((forall₂_comp elements elements').imp fun _ _ => .inr)
  · have equal := (matches_iff_equalLeaves leaf).mp first
    obtain ⟨left, middle⟩ := vector?_of_equalLeaves equal
    have equal' := (matches_iff_equalLeaves (.inl middle)).mp second
    exact (matches_iff_equalLeaves (.inl left)).mpr (equalLeaves_trans equal equal')

theorem Bisimilar.symm (h : heap.Bisimilar a b) : heap.Bisimilar b a := by
  obtain ⟨R, related, closed⟩ := h
  exact ⟨flip R, related, fun x y between => (closed y x between).symm⟩

theorem Bisimilar.trans (first : heap.Bisimilar a b) (second : heap.Bisimilar b c) :
    heap.Bisimilar a c := by
  refine ⟨fun x z => heap.Bisimilar x z ∨ ∃ y, heap.Bisimilar x y ∧ heap.Bisimilar y z,
    .inr ⟨b, first, second⟩, ?_⟩
  rintro x z (direct | ⟨y, left, right⟩)
  · exact direct.matches.mono fun _ _ => .inl
  · exact left.matches.comp right.matches

/-- Two values that match by bisimilar elements are bisimilar. -/
theorem bisimilar_iff_matches : heap.Bisimilar a b ↔ heap.Matches heap.Bisimilar a b := by
  refine ⟨Bisimilar.matches, fun m => ?_⟩
  refine ⟨fun x y => heap.Bisimilar x y ∨ x = a ∧ y = b, .inr ⟨rfl, rfl⟩, ?_⟩
  rintro x y (similar | ⟨rfl, rfl⟩)
  · exact similar.matches.mono fun _ _ => .inl
  · exact m.mono fun _ _ => .inl

end Laws

/-! ### The laws of equality -/

/-- Equality of two values, in terms of equality of their elements. -/
theorem equal_iff_matches :
    heap.equal a b = true ↔ heap.Matches (fun x y => heap.equal x y = true) a b := by
  simp only [equal_iff_bisimilar]
  exact bisimilar_iff_matches

theorem equal_comm (heap : Heap) (a b : Value) : heap.equal a b = heap.equal b a := by
  rw [Bool.eq_iff_iff, equal_iff_bisimilar, equal_iff_bisimilar]
  exact ⟨Bisimilar.symm, Bisimilar.symm⟩

theorem equal_trans (first : heap.equal a b = true) (second : heap.equal b c = true) :
    heap.equal a c = true := by
  rw [equal_iff_bisimilar] at first second ⊢
  exact first.trans second

/-- Equal values are equal to the same values. -/
theorem equal_congr_left (same : heap.equal a b = true) (c : Value) :
    heap.equal a c = heap.equal b c := by
  rw [Bool.eq_iff_iff]
  have same' : heap.equal b a = true := by rw [equal_comm, same]
  exact ⟨equal_trans same', equal_trans same⟩

/-- The floats that are not numbers are the only values that do not equal themselves. -/
theorem equal_self_iff (heap : Heap) (a : Value) :
    heap.equal a a = true ↔ ¬∃ x, a = .float x ∧ x.isNaN = true := by
  rw [equal_iff_matches]
  cases a with
  | float x =>
    change (x == x) = true ↔ _
    have isNaN_iff : x.isNaN = true ↔ x = .nan := by simp
    rw [Float.beq_self_iff, ne_eq, ← isNaN_iff]
    refine not_congr ⟨fun notNumber => ⟨x, rfl, notNumber⟩, ?_⟩
    rintro ⟨_, ⟨⟩, notNumber⟩
    exact notNumber
  | vector r => exact iff_of_true (.inl rfl) (by simp)
  | _ => exact iff_of_true (by simp [Matches]) (by simp)

/-- Equality of strings as buffers is equality of the values that refer to them. -/
theorem equalTexts_eq (heap : Heap) (r t : TextRef) :
    heap.equalTexts r t = heap.equal (.text r) (.text t) := by
  rw [Bool.eq_iff_iff, equal_iff_matches]
  change (r == t || heap.text r == heap.text t) = true ↔ heap.text r = heap.text t
  rw [Bool.or_eq_true, beq_iff_eq, beq_iff_eq]
  exact or_iff_right_of_imp fun same => congrArg heap.text same

/-- Equality of vectors as buffers, which begins a new comparison with each element, is equality of
the values that refer to them, which remembers the pairs that it has met. -/
theorem equalVectors_eq (heap : Heap) (r t : VectorRef) :
    heap.equalVectors r t = heap.equal (.vector r) (.vector t) := by
  rw [Bool.eq_iff_iff, equal_iff_matches]
  change _ ↔ r = t ∨ List.Forall₂ _ _ _
  rw [List.forall₂_iff_zip, equalVectors]
  simp

/-- Equality of values is symmetric and transitive on every heap, and the floats that are not
numbers are the only values that do not equal themselves.  Two strings or two vectors are equal as
buffers if and only if the values that refer to them are equal. -/
theorem equal_obeys_laws (heap : Heap) :
    (∀ a b, heap.equal a b = heap.equal b a) ∧
      (∀ a b c, heap.equal a b = true → heap.equal b c = true → heap.equal a c = true) ∧
      (∀ a, heap.equal a a = true ↔ ¬∃ x, a = .float x ∧ x.isNaN = true) ∧
      (∀ r t, heap.equalTexts r t = heap.equal (.text r) (.text t)) ∧
      ∀ r t, heap.equalVectors r t = heap.equal (.vector r) (.vector t) := by
  exact ⟨heap.equal_comm, fun _ _ _ => equal_trans, heap.equal_self_iff, heap.equalTexts_eq,
    heap.equalVectors_eq⟩

/-- A vector that holds itself and what is not a number, and two vectors that hold each other and a
string.  The last two are equal to each other and so to themselves; the first one is equal to itself
as well. -/
theorem equal_obeys_laws_on_cycles :
    let heap : Heap :=
      ⟨#["s", "s"], #[#[.vector ⟨0⟩, .float (0.0 / 0.0)], #[.vector ⟨2⟩, .text ⟨0⟩],
        #[.vector ⟨1⟩, .text ⟨1⟩]]⟩
    heap.equal (.vector ⟨1⟩) (.vector ⟨2⟩) = true ∧
      heap.equal (.vector ⟨2⟩) (.vector ⟨1⟩) = true ∧
      heap.equal (.vector ⟨1⟩) (.vector ⟨1⟩) = true ∧
      heap.equal (.vector ⟨0⟩) (.vector ⟨0⟩) = true := by
  intro heap
  obtain ⟨symmetric, transitive, reflexive, -⟩ := heap.equal_obeys_laws
  have there : heap.equal (.vector ⟨1⟩) (.vector ⟨2⟩) = true := by decide
  have back : heap.equal (.vector ⟨2⟩) (.vector ⟨1⟩) = true := (symmetric _ _).trans there
  exact ⟨there, back, transitive _ _ _ there back, (reflexive _).mpr (by simp)⟩

/-! ### Vectors and their copies -/

/-- Copying a vector leaves its own elements as they were. -/
theorem items_copied (heap : Heap) (r : VectorRef) :
    (heap.newVector (heap.items r)).2.items r = heap.items r := by
  rcases Nat.lt_trichotomy r.index heap.vectors.size with issued | next | beyond
  · exact heap.items_newVector_of_lt _ r issued
  · obtain rfl : r = ⟨heap.vectors.size⟩ := congrArg VectorRef.mk next
    exact heap.items_newVector_same _
  · simp [newVector, items, Array.getElem?_push, Nat.ne_of_gt beyond]

/-- Vectors with the same elements are equal if all elements equal themselves. -/
theorem equal_of_items_eq {r t : VectorRef} (same : heap.items r = heap.items t)
    (numbers : ¬∃ x, .float x ∈ heap.items r ∧ x.isNaN = true) :
    heap.equal (.vector r) (.vector t) = true := by
  refine equal_iff_matches.mpr (.inr ?_)
  rw [← same, List.forall₂_same]
  intro element listed
  refine (heap.equal_self_iff element).mpr ?_
  rintro ⟨x, rfl, notNumber⟩
  exact numbers ⟨x, Array.mem_toList_iff.mp listed, notNumber⟩

/-- A vector with an element that is not a number equals itself and nothing else. -/
theorem equal_iff_eq_of_isNaN {r : VectorRef} {x : Float} (element : .float x ∈ heap.items r)
    (notNumber : x.isNaN = true) (b : Value) : heap.equal (.vector r) b = true ↔ b = .vector r := by
  rw [equal_iff_matches]
  constructor
  · intro m
    obtain ⟨t, rfl⟩ := m.exists_vector
    rcases m with same | elements
    · rw [same]
    · -- The element would equal its counterpart, and so, there and back again, itself.
      have back : List.Forall₂ (fun x y => heap.equal x y = true) (heap.items t).toList
          (heap.items r).toList :=
        elements.flip.imp fun x y equal => (heap.equal_comm x y).trans equal
      obtain ⟨y, there, back⟩ :=
        List.forall₂_same.mp (forall₂_comp elements back) _ (Array.mem_toList_iff.mpr element)
      exact absurd ⟨x, rfl, notNumber⟩ ((heap.equal_self_iff _).mp (equal_trans there back))
  · rintro rfl
    exact .inl rfl

/-- A vector and a copy of it compare alike with every value, whatever the elements share and
whatever cycles they are part of, except that a vector with an element that is not a number equals
itself and differs from its copy. -/
theorem copy_compares_alike_iff (heap : Heap) (r : VectorRef) (b : Value) :
    let (copy, extended) := heap.newVector (heap.items r)
    extended.equal (.vector r) b = extended.equal copy b ↔
      ¬((b = .vector r ∨ b = copy) ∧ ∃ x, .float x ∈ heap.items r ∧ x.isNaN = true) := by
  change (heap.newVector (heap.items r)).2.equal (.vector r) b =
    (heap.newVector (heap.items r)).2.equal (.vector ⟨heap.vectors.size⟩) b ↔ _
  have original := heap.items_copied r
  have copied := heap.items_newVector_same (heap.items r)
  by_cases unequal : ∃ x, .float x ∈ heap.items r ∧ x.isNaN = true
  · obtain ⟨x, element, notNumber⟩ := unequal
    -- The original has an element, so it was created before the copy.
    have apart : r ≠ ⟨heap.vectors.size⟩ := by
      rintro rfl
      exact Nat.lt_irrefl _ (lt_of_mem_items (Array.mem_toList_iff.mpr element))
    rw [Bool.eq_iff_iff, equal_iff_eq_of_isNaN (by rwa [original]) notNumber,
      equal_iff_eq_of_isNaN (by rwa [copied]) notNumber]
    constructor
    · rintro alike ⟨rfl | rfl, -⟩
      · exact apart (Value.vector.inj (alike.mp rfl))
      · exact apart (Value.vector.inj (alike.mpr rfl)).symm
    · intro neither
      exact iff_of_false (fun same => neither ⟨.inl same, x, element, notNumber⟩)
        fun same => neither ⟨.inr same, x, element, notNumber⟩
  · have alike := equal_of_items_eq (original.trans copied.symm) (by rwa [original])
    exact iff_of_true (equal_congr_left alike b) fun both => unequal both.2

/-- A vector whose only element is not a number equals itself, but its copy does not equal it: which
buffer holds the element decides. -/
theorem copy_compares_unlike_with_nan :
    let heap : Heap := ⟨#[], #[#[.float (0.0 / 0.0)]]⟩
    let (copy, extended) := heap.newVector (heap.items ⟨0⟩)
    extended.equal (.vector ⟨0⟩) (.vector ⟨0⟩) = true ∧
      extended.equal copy (.vector ⟨0⟩) = false := by
  decide

end Heap

end Multidispatch
