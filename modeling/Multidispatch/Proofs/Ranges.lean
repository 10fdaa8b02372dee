import Multidispatch.Proofs.EqualityLaws
import Multidispatch.Proofs.PreludeCalls

/-!
# Ranges and fills

A range has as many elements as there are integers between its bounds, a number that may exceed
every integer.  It is computed without overflow, and a range or a fill that would have more
elements than the limit allows is refused with this number, as far as it can be counted.  All
others are created as new vectors, with exactly the integers that they should have.

## Main definitions

* `IsRange` — the elements of a range
* `Machine.newRef`, `Machine.withNew` — the reference to a new vector, and the machine with it

## Main statements

* `Collection.rangeItems_of_le`, `Collection.rangeItems_of_lt` — ranges within the limit, and
  beyond it
* `Collection.fillItems_of_le`, `Collection.fillItems_of_lt` — fills within the limit, and beyond it
* `IsRange.mem_iff` — which values are elements of a range
* `ranges_and_fills_are_exact` — what the calls of these natives do, for all integers
-/

namespace Multidispatch

/-- The elements are the integers between two bounds, one after the other. -/
structure IsRange (lo hi : Int64) (items : Array Value) : Prop where
  size : (items.size : Int) = max 0 (hi.toInt - lo.toInt + 1)
  element : ∀ i : Nat, 1 ≤ i → i ≤ items.size →
    ∃ n : Int64, items[i - 1]? = some (.int n) ∧ n.toInt = lo.toInt + i - 1

namespace IsRange

variable {lo hi : Int64} {items : Array Value}

/-- The elements of a range are the integers within its bounds, and no other values. -/
theorem mem_iff (isRange : IsRange lo hi items) (value : Value) :
    value ∈ items ↔ ∃ n : Int64, value = .int n ∧ lo.toInt ≤ n.toInt ∧ n.toInt ≤ hi.toInt := by
  have size := isRange.size
  constructor
  · intro among
    obtain ⟨i, inside, rfl⟩ := Array.mem_iff_getElem.mp among
    obtain ⟨n, found, position⟩ := isRange.element (i + 1) (by omega) (by omega)
    rw [Nat.add_sub_cancel, Array.getElem?_eq_getElem inside] at found
    exact ⟨n, Option.some.inj found, by omega, by omega⟩
  · rintro ⟨n, rfl, low, high⟩
    obtain ⟨m, found, position⟩ :=
      isRange.element (n.toInt - lo.toInt + 1).toNat (by omega) (by omega)
    have same : m = n := Int64.toInt_inj.mp (by omega)
    rw [← same]
    exact Array.mem_of_getElem? found

end IsRange

namespace Collection

theorem checkCapacity_of_le {requested : Nat} (within : requested ≤ 2 ^ 28) :
    checkCapacity requested = .ok () :=
  if_pos within

theorem checkCapacity_of_lt {requested : Nat} (beyond : 2 ^ 28 < requested) :
    checkCapacity requested = .error (.capacityExceeded requested (2 ^ 28)) :=
  if_neg (Nat.not_le.mpr beyond)

variable {lo hi : Int64}

/-- A range within the limit has the integers between its bounds. -/
theorem rangeItems_of_le (within : hi.toInt - lo.toInt + 1 ≤ 2 ^ 28) :
    ∃ items, rangeItems lo hi = .ok items ∧ IsRange lo hi items := by
  have low := lo.le_toInt
  have high := hi.toInt_lt
  have counted : min (hi.toInt - lo.toInt + 1).toNat countLimit ≤ 2 ^ 28 := by omega
  refine ⟨_, by rw [rangeItems, checkCapacity_of_le counted]; rfl, ?_⟩
  constructor
  · rw [Array.size_ofFn]
    omega
  · intro i positive inside
    rw [Array.size_ofFn] at inside
    refine ⟨Int64.ofInt (lo.toInt + (i - 1 : Nat)), ?_, ?_⟩
    · rw [Array.getElem?_ofFn, dif_pos (by omega)]
    · rw [Int64.toInt_ofInt_of_le (by omega) (by omega)]
      omega

/-- A range beyond the limit is refused, with the number of its elements as far as they can be
counted. -/
theorem rangeItems_of_lt (beyond : 2 ^ 28 < hi.toInt - lo.toInt + 1) :
    rangeItems lo hi =
      .error (.capacityExceeded (min (hi.toInt - lo.toInt + 1) (2 ^ 64 - 1)).toNat (2 ^ 28)) := by
  have counted : min (hi.toInt - lo.toInt + 1).toNat countLimit =
      (min (hi.toInt - lo.toInt + 1) (2 ^ 64 - 1)).toNat := by
    unfold countLimit
    omega
  rw [rangeItems, counted, checkCapacity_of_lt (by omega)]
  rfl

variable {count : Int64}

/-- A fill within the limit has as many copies as it should. -/
theorem fillItems_of_le (within : count.toInt ≤ 2 ^ 28) (value : Int64) :
    fillItems count value = .ok (Array.replicate (max 0 count.toInt).toNat (.int value)) := by
  have counted : count.toInt.toNat = (max 0 count.toInt).toNat := by omega
  rw [fillItems, checkCapacity_of_le (by omega), counted]
  rfl

/-- A fill beyond the limit is refused. -/
theorem fillItems_of_lt (beyond : 2 ^ 28 < count.toInt) (value : Int64) :
    fillItems count value = .error (.capacityExceeded count.toInt.toNat (2 ^ 28)) := by
  rw [fillItems, checkCapacity_of_lt (by omega)]
  rfl

end Collection

/-! ### Calls -/

/-- The reference to the next vector that is created. -/
def Machine.newRef (machine : Machine) : VectorRef :=
  ⟨machine.store.heap.vectors.size⟩

/-- The machine with one more vector. -/
def Machine.withNew (machine : Machine) (items : Array Value) : Machine :=
  machine.withVectors (machine.store.heap.vectors.push items)

/-- What a call ends with that creates a vector of elements, or fails as the making of them did. -/
def Machine.creating (settings : Settings) (machine : Machine) :
    Except Cause (Array Value) → Except Fault Value × Machine
  | .ok items => (.ok (.vector machine.newRef), machine.withNew items)
  | .error cause => (.error (machine.fault settings cause), machine)

@[simp] theorem Machine.items_withNew (machine : Machine) (items : Array Value) :
    (machine.withNew items).store.heap.items machine.newRef = items :=
  machine.store.heap.items_newVector_same items

section Calls

variable {settings : Settings} {machine : Machine} {site : ScopeId} {call : String}
  {args : List Value} {entry : Entry}

/-- The call of a native that makes elements and creates a vector of them. -/
theorem callBySpelling_creates (first : Prelude.First settings machine.env site call)
    (selected : Prelude.select call args = some entry) {made : Except Cause (Array Value)}
    (creates : entry.run args = (Native.ofExcept made >>= Native.newVector)) (fuel : Nat) :
    callBySpelling settings (fuel + 1) site call args machine =
      some (machine.creating settings made) := by
  rw [callBySpelling_of_first first selected, creates]
  cases made <;> rfl

/-- Membership in a vector compares its elements with the value. -/
theorem callBySpelling_member (first : Prelude.First settings machine.env site memberCall)
    (ref : VectorRef) (value : Value) (fuel : Nat) :
    callBySpelling settings (fuel + 1) site memberCall [.vector ref, value] machine =
      some (.ok (.bool ((machine.store.heap.items ref).any fun item =>
        machine.store.heap.equal item value)), machine) := by
  have selected : Prelude.select memberCall [.vector ref, value] =
      some ⟨memberCall, [Kind.vector, .any], Collection.contains⟩ := rfl
  rw [callBySpelling_of_first first selected]
  rfl

theorem equal_int_iff (heap : Heap) (n : Int64) (value : Value) :
    heap.equal (.int n) value = true ↔ value = .int n := by
  rw [Heap.equal_iff_matches]
  cases value <;> simp [Heap.Matches, eq_comm]

/-- The values that a range contains are its elements. -/
theorem IsRange.any_equal_iff {lo hi : Int64} {items : Array Value} (isRange : IsRange lo hi items)
    (heap : Heap) (value : Value) :
    (items.any fun item => heap.equal item value) = true ↔ value ∈ items := by
  rw [Array.any_eq_true']
  constructor
  · rintro ⟨item, among, equal⟩
    obtain ⟨n, rfl, -⟩ := (isRange.mem_iff item).mp among
    rw [(equal_int_iff heap n value).mp equal]
    exact among
  · intro among
    obtain ⟨n, rfl, -⟩ := (isRange.mem_iff value).mp among
    exact ⟨.int n, among, (equal_int_iff heap n _).mpr rfl⟩

end Calls

/-- Ranges and fills are exact for all integers.  A range of at most two to the power of
twenty-eight elements is a new vector of the integers between its bounds, so that these and no
other values are in it; any larger range is refused, with the number of its elements as far as it
can be counted.  A range with one bound begins at one.  A fill of at most as many elements is a new
vector of copies, none if the count is negative, and any larger one is refused. -/
theorem ranges_and_fills_are_exact {settings : Settings} {machine : Machine} {site : ScopeId}
    (first : ∀ call ∈ [rangeCall, "zeros", "ones", memberCall],
      Prelude.First settings machine.env site call) (fuel : Nat) :
    (∀ lo hi : Int64, hi.toInt - lo.toInt + 1 ≤ 2 ^ 28 → ∃ items,
      callBySpelling settings (fuel + 1) site rangeCall [.int lo, .int hi] machine =
        some (.ok (.vector machine.newRef), machine.withNew items) ∧
      IsRange lo hi items ∧
      ∀ value : Value, ∃ answer : Bool,
        callBySpelling settings (fuel + 1) site memberCall [.vector machine.newRef, value]
          (machine.withNew items) = some (.ok (.bool answer), machine.withNew items) ∧
        (answer = true ↔
          ∃ n : Int64, value = .int n ∧ lo.toInt ≤ n.toInt ∧ n.toInt ≤ hi.toInt)) ∧
    (∀ lo hi : Int64, 2 ^ 28 < hi.toInt - lo.toInt + 1 →
      callBySpelling settings (fuel + 1) site rangeCall [.int lo, .int hi] machine =
        some (.error (machine.fault settings (.capacityExceeded
          (min (hi.toInt - lo.toInt + 1) (2 ^ 64 - 1)).toNat (2 ^ 28))), machine)) ∧
    (∀ n : Int64, callBySpelling settings (fuel + 1) site rangeCall [.int n] machine =
      callBySpelling settings (fuel + 1) site rangeCall [.int 1, .int n] machine) ∧
    ∀ call value, (call, value) ∈ [("zeros", (0 : Int64)), ("ones", 1)] → ∀ n : Int64,
      (n.toInt ≤ 2 ^ 28 →
        callBySpelling settings (fuel + 1) site call [.int n] machine =
          some (.ok (.vector machine.newRef),
            machine.withNew (Array.replicate (max 0 n.toInt).toNat (.int value)))) ∧
      (2 ^ 28 < n.toInt →
        callBySpelling settings (fuel + 1) site call [.int n] machine =
          some (.error (machine.fault settings (.capacityExceeded n.toInt.toNat (2 ^ 28))),
            machine)) := by
  have ranges : ∀ lo hi : Int64,
      callBySpelling settings (fuel + 1) site rangeCall [.int lo, .int hi] machine =
        some (machine.creating settings (Collection.rangeItems lo hi)) := fun lo hi =>
    callBySpelling_creates (first rangeCall (by simp)) rfl rfl fuel
  refine ⟨?_, ?_, ?_, ?_⟩
  · intro lo hi within
    obtain ⟨items, made, isRange⟩ := Collection.rangeItems_of_le within
    refine ⟨items, by rw [ranges, made]; rfl, isRange, fun value => ?_⟩
    have asked := @callBySpelling_member settings (machine.withNew items) site
      (first memberCall (by simp)) machine.newRef value fuel
    refine ⟨_, asked, ?_⟩
    rw [Machine.items_withNew, isRange.any_equal_iff, isRange.mem_iff]
  · intro lo hi beyond
    rw [ranges, Collection.rangeItems_of_lt beyond]
    rfl
  · intro n
    rw [ranges]
    exact callBySpelling_creates (first rangeCall (by simp)) rfl rfl fuel
  · intro call value among n
    have filled : callBySpelling settings (fuel + 1) site call [.int n] machine =
        some (machine.creating settings (Collection.fillItems n value)) := by
      simp only [List.mem_cons, Prod.mk.injEq, List.not_mem_nil, or_false] at among
      rcases among with ⟨rfl, rfl⟩ | ⟨rfl, rfl⟩
      · exact callBySpelling_creates (first "zeros" (by simp)) rfl rfl fuel
      · exact callBySpelling_creates (first "ones" (by simp)) rfl rfl fuel
    constructor
    · intro within
      rw [filled, Collection.fillItems_of_le within]
      rfl
    · intro beyond
      rw [filled, Collection.fillItems_of_lt beyond]
      rfl

/-- After a session that has registered another function for ranges, the range from the second
largest integer to the largest one still has two elements, and the range over all integers is
refused. -/
theorem ranges_and_fills_are_exact_at_the_ends :
    ∃ origin after : Interpreter, Interpreter.build { mode := .test } = .ok origin ∧
      origin.serveAll [.registerNative rangeCall [⟨"n", Kind.integer⟩] fun _ => pure .void] =
        some after ∧
      let run := callBySpelling after.settings 1 .global
      (∃ items : Array Value, items.size = 2 ∧
        run rangeCall [.int 9223372036854775806, .int 9223372036854775807] after.machine =
          some (.ok (.vector after.machine.newRef), after.machine.withNew items)) ∧
      after.call 1 rangeCall [.int (-9223372036854775808), .int 9223372036854775807] =
        .ok (some (.error (after.machine.fault after.settings
          (.capacityExceeded 18446744073709551615 268435456)), after)) ∧
      run "ones" [.int (-3)] after.machine =
        some (.ok (.vector after.machine.newRef), after.machine.withNew #[]) := by
  obtain ⟨origin, built, -, only⟩ := Prelude.exists_interpreter .test .dynamic
  have served : ∃ after, origin.serveAll
      [.registerNative rangeCall [⟨"n", Kind.integer⟩] fun _ => pure .void] = some after := by
    simp only [Interpreter.serveAll, List.foldlM_cons, List.foldlM_nil, Interpreter.serve]
    cases origin.registerNative rangeCall [⟨"n", Kind.integer⟩] fun _ => pure .void <;>
      exact ⟨_, rfl⟩
  obtain ⟨after, served⟩ := served
  refine ⟨origin, after, built, served, ?_⟩
  intro run
  have wellFormed := Interpreter.wellFormed_of_build built
  have rooted := wellFormed.nested.rooted (Nat.zero_lt_of_lt wellFormed.live)
  have first : ∀ call ∈ [rangeCall, "zeros", "ones", memberCall],
      Prelude.First after.settings after.machine.env .global call := by
    intro call among
    refine (only call ?_).first.serveAll rooted served
    revert call
    decide
  obtain ⟨small, large, -, fills⟩ := ranges_and_fills_are_exact first 0
  obtain ⟨items, created, isRange, -⟩ := small 9223372036854775806 9223372036854775807 (by decide)
  have size : (items.size : Int) = 2 := isRange.size
  have refused := large (-9223372036854775808) 9223372036854775807 (by decide)
  obtain ⟨name, known, -⟩ := first rangeCall (by simp)
  refine ⟨⟨items, by omega, created⟩, ?_, (fills "ones" 1 (by simp) (-3)).1 (by decide)⟩
  rw [Interpreter.call_eq_callBySpelling known, Interpreter.runOn_eq, refused]
  rfl

end Multidispatch
