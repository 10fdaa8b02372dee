import Mathlib
import Multidispatch.Proofs.NativeContract
import Multidispatch.Proofs.PreludeCalls

/-!
# Vectors as lists

A vector is known by its reference alone.  Values that hold the same reference are aliases, and a
vector may hold references to other vectors and to itself.  For the natives that append, remove,
count and index, none of this matters: they act as if each reference stood for a list of values.  A
call through one alias is a call on the list of the vector, and the lists of all other vectors stay
as they are, whatever refers to what.

## Main definitions

* `VectorCall` — the calls of these natives, through a reference
* `Heap.lists` — the contents of all vectors, as lists
* `VectorCall.onLists`, `VectorCall.allOnLists` — what calls do to lists
* `VectorCall.runAll` — calls on the machine, one after the other

## Main statements

* `VectorCall.run_refines` — one call does to the vectors what it does to their lists
* `VectorCall.runAll_refines` — so do calls one after the other
* `vector_calls_refine_lists` — in particular, removing undoes appending
-/

namespace Multidispatch

/-- A call of a native on a vector. -/
inductive VectorCall where
  /-- Appends a value. -/
  | push (ref : VectorRef) (value : Value)
  /-- Removes the last value. -/
  | pop (ref : VectorRef)
  /-- Counts the values. -/
  | length (ref : VectorRef)
  /-- Finds the value at a position that counts from one. -/
  | elementAt (ref : VectorRef) (position : Int64)

namespace VectorCall

/-- The vector that the call is about. -/
def target : VectorCall → VectorRef
  | push ref _ => ref
  | pop ref => ref
  | length ref => ref
  | elementAt ref _ => ref

/-- The name that is called. -/
def spelling : VectorCall → String
  | push .. => "push!"
  | pop _ => "pop!"
  | length _ => "length"
  | elementAt .. => indexCall

/-- The arguments of the call. -/
def args : VectorCall → List Value
  | push ref value => [.vector ref, value]
  | pop ref => [.vector ref]
  | length ref => [.vector ref]
  | elementAt ref position => [.vector ref, .int position]

/-! ### Calls on lists -/

/-- What a call comes to and does if each reference stands for a list of values.  A position outside
the list and the removal from an empty list are faults, and so is a length that no integer can
hold. -/
def onLists : VectorCall → (VectorRef → List Value) → Except Cause Value × (VectorRef → List Value)
  | push ref value, lists => (.ok (.vector ref), Function.update lists ref (lists ref ++ [value]))
  | pop ref, lists =>
    match (lists ref).getLast? with
    | some last => (.ok last, Function.update lists ref (lists ref).dropLast)
    | none => (.error (.indexOutOfBounds 0 0), lists)
  | length ref, lists =>
    if (lists ref).length < 2 ^ 63 then (.ok (.int (Int64.ofInt (lists ref).length)), lists)
    else (.error (.integerOverflow "length"), lists)
  | elementAt ref position, lists =>
    if inside : 1 ≤ position.toInt ∧ position.toInt ≤ (lists ref).length then
      (.ok ((lists ref).get ⟨(position.toInt - 1).toNat, by omega⟩), lists)
    else (.error (.indexOutOfBounds position.toInt (lists ref).length), lists)

/-- What calls come to and do, one after the other. -/
def allOnLists : List VectorCall → (VectorRef → List Value) →
    List (Except Cause Value) × (VectorRef → List Value)
  | [], lists => ([], lists)
  | call :: calls, lists =>
    let (outcome, between) := call.onLists lists
    let (outcomes, after) := allOnLists calls between
    (outcome :: outcomes, after)

/-! ### Calls on the machine -/

/-- Calls natives one after the other, and goes on also if one of them fails. -/
def runAll (settings : Settings) (fuel : Nat) (site : ScopeId) :
    List VectorCall → Machine → Option (List (Except Fault Value) × Machine)
  | [], machine => some ([], machine)
  | call :: calls, machine => do
    let (outcome, between) ← callBySpelling settings fuel site call.spelling call.args machine
    let (outcomes, after) ← runAll settings fuel site calls between
    return (outcome :: outcomes, after)

end VectorCall

/-! ### The contents of the vectors -/

/-- The contents of all vectors, as lists. -/
def Heap.lists (heap : Heap) (ref : VectorRef) : List Value :=
  (heap.items ref).toList

namespace Heap

theorem lists_modifyItems (heap : Heap) {ref : VectorRef} (issued : ref.index < heap.vectors.size)
    (change : Array Value → Array Value) :
    (heap.modifyItems ref change).lists =
      Function.update heap.lists ref (change (heap.items ref)).toList := by
  funext other
  rw [lists, items_modifyItems]
  by_cases same : other = ref
  · rw [same, if_pos ⟨rfl, issued⟩, Function.update_self]
  · rw [if_neg fun both => same both.1.symm, Function.update_of_ne same]
    rfl

/-- As many vectors with the same lists are the same vectors. -/
theorem vectors_ext {heap heap' : Heap} (size : heap.vectors.size = heap'.vectors.size)
    (lists : heap.lists = heap'.lists) : heap.vectors = heap'.vectors := by
  refine Array.ext size fun i here there => ?_
  have same := congrFun lists ⟨i⟩
  simpa [Heap.lists, items, here, there] using same

end Heap

namespace VectorCall

/-! ### One call -/

/-- What a native has done is what the call does to the lists, and nothing else. -/
structure Refines (call : VectorCall) (store : Store) (result : Except Fault Value × Store) :
    Prop where
  outcome : result.1 = (call.onLists store.heap.lists).1.mapError fun cause => { cause }
  lists : result.2.heap.lists = (call.onLists store.heap.lists).2
  size : result.2.heap.vectors.size = store.heap.vectors.size
  texts : result.2.heap.texts = store.heap.texts
  printer : result.2.printer = store.printer

variable {store : Store} {ref : VectorRef}

/-- A call that only reads the lists leaves the store as it is. -/
theorem Refines.of_reading {call : VectorCall} {outcome : Except Fault Value}
    (same : outcome = (call.onLists store.heap.lists).1.mapError fun cause => { cause })
    (reads : (call.onLists store.heap.lists).2 = store.heap.lists) :
    call.Refines store (outcome, store) :=
  ⟨same, reads.symm, rfl, rfl, rfl⟩

theorem refines_push (issued : ref.index < store.heap.vectors.size) (value : Value) :
    (push ref value).Refines store (Collection.push [.vector ref, value] store) where
  outcome := rfl
  lists := by
    show (store.heap.modifyItems ref fun items => items.push value).lists = _
    rw [Heap.lists_modifyItems _ issued, Array.toList_push]
    rfl
  size := store.heap.size_vectors_modifyItems ref _
  texts := rfl
  printer := rfl

theorem refines_pop (issued : ref.index < store.heap.vectors.size) :
    (pop ref).Refines store (Collection.pop [.vector ref] store) := by
  have last : (store.heap.lists ref).getLast? = (store.heap.items ref).back? :=
    Array.getLast?_toList _
  cases found : (store.heap.items ref).back? with
  | none =>
    have ended : Collection.pop [.vector ref] store =
        (.error { cause := .indexOutOfBounds 0 0 }, store) := by
      simp only [Collection.pop, Heap.pop?, found]
      rfl
    rw [ended]
    refine .of_reading ?_ ?_ <;> simp only [onLists, last, found]
    rfl
  | some value =>
    have ended : Collection.pop [.vector ref] store =
        (.ok value, { store with heap := store.heap.modifyItems ref Array.pop }) := by
      simp only [Collection.pop, Heap.pop?, found]
    rw [ended]
    constructor
    case outcome =>
      simp only [onLists, last, found]
      rfl
    case lists =>
      show (store.heap.modifyItems ref Array.pop).lists = _
      simp only [onLists, last, found]
      rw [Heap.lists_modifyItems _ issued, Array.toList_pop]
      rfl
    case size => exact store.heap.size_vectors_modifyItems ref _
    all_goals rfl

theorem refines_length : (length ref).Refines store (Collection.length [.vector ref] store) := by
  have counted : (store.heap.lists ref).length = (store.heap.items ref).size := Array.length_toList
  have ended : Collection.length [.vector ref] store =
      Native.ofExcept (lengthValue (store.heap.items ref).size) store := rfl
  by_cases fits : (store.heap.items ref).size < 2 ^ 63
  · have found : lengthValue (store.heap.items ref).size =
        .ok (.int (Int64.ofInt (store.heap.items ref).size)) := by
      rw [lengthValue, Integer.ofInt?, if_pos (by omega)]
    rw [ended, found]
    refine .of_reading ?_ ?_ <;> simp only [onLists, counted, if_pos fits]
    rfl
  · have found : lengthValue (store.heap.items ref).size = .error (.integerOverflow "length") := by
      rw [lengthValue, Integer.ofInt?, if_neg (by omega)]
    rw [ended, found]
    refine .of_reading ?_ ?_ <;> simp only [onLists, counted, if_neg fits]
    rfl

theorem refines_elementAt (position : Int64) :
    (elementAt ref position).Refines store
      (Collection.elementAt [.vector ref, .int position] store) := by
  have counted : (store.heap.lists ref).length = (store.heap.items ref).size := Array.length_toList
  by_cases inside : 1 ≤ position.toInt ∧ position.toInt ≤ (store.heap.items ref).size
  · have here : (position.toInt - 1).toNat < (store.heap.items ref).size := by omega
    have found : (Collection.position? position (store.heap.items ref).size).bind
        ((store.heap.items ref)[·]?) = some (store.heap.items ref)[(position.toInt - 1).toNat] := by
      rw [Collection.position?, if_pos inside, Option.bind_some, Array.getElem?_eq_getElem here]
    have ended : Collection.elementAt [.vector ref, .int position] store =
        (.ok (store.heap.items ref)[(position.toInt - 1).toNat], store) := by
      simp only [Collection.elementAt, NativeM.heap_bind_apply, found]
      rfl
    rw [ended]
    refine .of_reading ?_ ?_ <;> simp only [onLists, counted, dif_pos inside]
    rfl
  · have missing : (Collection.position? position (store.heap.items ref).size).bind
        ((store.heap.items ref)[·]?) = none := by
      rw [Collection.position?, if_neg inside, Option.bind_none]
    have ended : Collection.elementAt [.vector ref, .int position] store =
        (.error { cause := .indexOutOfBounds position.toInt (store.heap.items ref).size },
          store) := by
      simp only [Collection.elementAt, NativeM.heap_bind_apply, missing]
      rfl
    rw [ended]
    refine .of_reading ?_ ?_ <;> simp only [onLists, counted, dif_neg inside]
    rfl

/-- Every call has a native, which does what the call does to the lists. -/
theorem exists_entry (call : VectorCall) (issued : call.target.index < store.heap.vectors.size) :
    ∃ entry, Prelude.select call.spelling call.args = some entry ∧
      call.Refines store (entry.run call.args store) := by
  cases call with
  | push ref value => exact ⟨_, rfl, refines_push issued value⟩
  | pop ref => exact ⟨_, rfl, refines_pop issued⟩
  | length ref => exact ⟨_, rfl, refines_length⟩
  | elementAt ref position => exact ⟨_, rfl, refines_elementAt position⟩

/-! ### Calls one after the other -/

variable {settings : Settings} {machine : Machine} {site : ScopeId}

/-- A call on the machine does to the vectors what it does to their lists, and nothing else. -/
theorem run_refines
    (first : ∀ call : VectorCall, Prelude.First settings machine.env site call.spelling)
    (fuel : Nat) {call : VectorCall}
    (issued : call.target.index < machine.store.heap.vectors.size) :
    ∃ vectors, callBySpelling settings (fuel + 1) site call.spelling call.args machine =
        some ((call.onLists machine.store.heap.lists).1.mapError (machine.fault settings),
          machine.withVectors vectors) ∧
      vectors.size = machine.store.heap.vectors.size ∧
      (machine.withVectors vectors).store.heap.lists =
        (call.onLists machine.store.heap.lists).2 := by
  obtain ⟨entry, selected, refines⟩ := call.exists_entry issued
  have called := callBySpelling_of_first (first call) selected fuel
  rcases ended : entry.run call.args machine.store with ⟨outcome, ⟨⟨texts, vectors⟩, printer⟩⟩
  rw [ended] at called refines
  obtain ⟨rfl, lists, size, rfl, rfl⟩ := refines
  refine ⟨vectors, ?_, size, lists⟩
  rw [called]
  cases (call.onLists machine.store.heap.lists).1 <;> rfl

/-- Calls on the machine, one after the other, do to the vectors what they do to their lists, and
nothing else. -/
theorem runAll_refines
    (first : ∀ call : VectorCall, Prelude.First settings machine.env site call.spelling)
    (fuel : Nat) {calls : List VectorCall}
    (issued : ∀ call ∈ calls, call.target.index < machine.store.heap.vectors.size) :
    ∃ vectors, runAll settings (fuel + 1) site calls machine =
        some ((allOnLists calls machine.store.heap.lists).1.map
          (Except.mapError (machine.fault settings)), machine.withVectors vectors) ∧
      vectors.size = machine.store.heap.vectors.size ∧
      (machine.withVectors vectors).store.heap.lists =
        (allOnLists calls machine.store.heap.lists).2 := by
  induction calls generalizing machine with
  | nil => exact ⟨machine.store.heap.vectors, rfl, rfl, rfl⟩
  | cons call calls ih =>
    obtain ⟨here, later⟩ := List.forall_mem_cons.mp issued
    obtain ⟨between, called, size, lists⟩ := run_refines first fuel here
    -- The call has created no vector, so the references of the other calls are still good.
    have issued' : ∀ call ∈ calls,
        call.target.index < (machine.withVectors between).store.heap.vectors.size := by
      intro call among
      show call.target.index < between.size
      rw [size]
      exact later call among
    obtain ⟨vectors, ran, size', lists'⟩ := @ih (machine.withVectors between) first issued'
    rw [lists] at ran lists'
    refine ⟨vectors, ?_, size'.trans size, lists'⟩
    rw [runAll, called]
    show (runAll settings (fuel + 1) site calls (machine.withVectors between) >>= _) = _
    rw [ran]
    rfl

end VectorCall

/-- The natives that append to vectors, remove from them, count and index act on vectors as they
would on lists, for every heap and for calls through any references, one after the other.  Nothing
but the contents of the vectors changes, and no vector is created.  In particular, appending a
value and removing it again returns the value and leaves the machine as it was, even if the value
is the vector itself. -/
theorem vector_calls_refine_lists {settings : Settings} {machine : Machine} {site : ScopeId}
    (first : ∀ call : VectorCall, Prelude.First settings machine.env site call.spelling)
    (fuel : Nat) :
    (∀ calls : List VectorCall,
      (∀ call ∈ calls, call.target.index < machine.store.heap.vectors.size) →
      ∃ vectors, VectorCall.runAll settings (fuel + 1) site calls machine =
          some ((VectorCall.allOnLists calls machine.store.heap.lists).1.map
            (Except.mapError (machine.fault settings)), machine.withVectors vectors) ∧
        vectors.size = machine.store.heap.vectors.size ∧
        (machine.withVectors vectors).store.heap.lists =
          (VectorCall.allOnLists calls machine.store.heap.lists).2) ∧
    ∀ (ref : VectorRef) (value : Value), ref.index < machine.store.heap.vectors.size →
      VectorCall.runAll settings (fuel + 1) site [.push ref value, .pop ref] machine =
        some ([.ok (.vector ref), .ok value], machine) := by
  refine ⟨fun calls issued => VectorCall.runAll_refines first fuel issued, ?_⟩
  intro ref value issued
  have restored : VectorCall.allOnLists [.push ref value, .pop ref] machine.store.heap.lists =
      ([.ok (.vector ref), .ok value], machine.store.heap.lists) := by
    simp [VectorCall.allOnLists, VectorCall.onLists]
  obtain ⟨vectors, ran, size, lists⟩ :=
    @VectorCall.runAll_refines _ _ _ first fuel [.push ref value, .pop ref]
      (by simp [VectorCall.target, issued])
  rw [restored] at ran lists
  have same : vectors = machine.store.heap.vectors := Heap.vectors_ext size lists
  rw [ran, same]
  rfl

/-- An empty vector is appended to a vector that holds itself, and is found at the second position;
nothing can be removed from it.  A vector can be appended to itself and removed again. -/
theorem vector_calls_refine_lists_self_holding :
    ∃ interpreter, Interpreter.build { mode := .test } = .ok interpreter ∧
      let store : Store := ⟨⟨#[], #[#[.vector ⟨0⟩], #[]]⟩, .emptyBuffer⟩
      let machine := interpreter.machine.withStore store
      let run := VectorCall.runAll interpreter.settings 1 .global
      (∃ vectors, run [.push ⟨0⟩ (.vector ⟨1⟩), .length ⟨0⟩, .elementAt ⟨0⟩ 2, .elementAt ⟨0⟩ 0,
          .pop ⟨1⟩] machine =
        some ([.ok (.vector ⟨0⟩), .ok (.int 2), .ok (.vector ⟨1⟩),
          .error (machine.fault interpreter.settings (.indexOutOfBounds 0 2)),
          .error (machine.fault interpreter.settings (.indexOutOfBounds 0 0))],
          machine.withVectors vectors)) ∧
      run [.push ⟨0⟩ (.vector ⟨0⟩), .pop ⟨0⟩] machine =
        some ([.ok (.vector ⟨0⟩), .ok (.vector ⟨0⟩)], machine) := by
  obtain ⟨interpreter, built, -, only⟩ := Prelude.exists_interpreter .test .dynamic
  refine ⟨interpreter, built, ?_⟩
  intro store machine run
  have first : ∀ call : VectorCall,
      Prelude.First interpreter.settings machine.env .global call.spelling := by
    intro call
    refine (only _ ?_).first
    cases call <;> exact of_decide_eq_true rfl
  obtain ⟨refine_lists, restore⟩ := @vector_calls_refine_lists _ machine _ first 0
  obtain ⟨vectors, ran, -⟩ := refine_lists [.push ⟨0⟩ (.vector ⟨1⟩), .length ⟨0⟩,
    .elementAt ⟨0⟩ 2, .elementAt ⟨0⟩ 0, .pop ⟨1⟩]
    (by simp [VectorCall.target, machine, store, Machine.withStore])
  exact ⟨⟨vectors, ran⟩, restore ⟨0⟩ (.vector ⟨0⟩) Nat.two_pos⟩

end Multidispatch
