import Multidispatch.Proofs.Allocation

/-!
# The contract of the prelude

A native of the prelude is registered for the arguments that it can handle.  Called with arguments
that its signature accepts, it never comes to the point where it would have to refuse them.  It may
fail for a few reasons that depend on the contents of its arguments, and then it has changed nothing.
If it succeeds, it has changed at most the buffer of its first argument, and printed at most a line.

## Main definitions

* `creatingSignatures`, `returningCalls` — natives that create a buffer, and that return the buffer
  which they change
* `Entry.MayRaise` — the causes for which a native may fail
* `Entry.Obeys`, `Entry.KeepsContract` — what a call of a native may end in, and natives for which
  every call does

## Main statements

* `CompareOp.exists_order` — the kinds for which comparison by order is registered are ordered
* `Prelude.natives_obey_contract` — all natives of the prelude obey the contract, and keep references
  to buffers that exist
-/

namespace Multidispatch

/-! ### The contract -/

/-- The natives that return a buffer of their own making, with what they accept. -/
def creatingSignatures : List (String × List Tag) :=
  [(ArithOp.add.call, [Kind.string, Kind.string]), (rangeCall, [Kind.integer]),
    (rangeCall, [Kind.integer, Kind.integer]), ("zeros", [Kind.integer]), ("ones", [Kind.integer]),
    (LetterCase.upper.copyCall, [Kind.string]), (LetterCase.lower.copyCall, [Kind.string]),
    (indexCall, [Kind.string, Kind.integer])]

/-- The natives that return the buffer which they change. -/
def returningCalls : List String :=
  ["push!", LetterCase.upper.inPlaceCall, LetterCase.lower.inPlaceCall]

/-- The number of characters of a string, or of elements of a vector. -/
def Heap.extent (heap : Heap) : Value → Nat
  | .text ref => (heap.text ref).length
  | .vector ref => (heap.items ref).size
  | _ => 0

namespace Entry

/-- The causes for which a native may fail, given arguments that it accepts. -/
def MayRaise (entry : Entry) (args : List Value) (heap : Heap) : Cause → Prop
  | .integerOverflow operation =>
    (∃ op : ArithOp, entry.call = op.call ∧ entry.signature = [Kind.integer, Kind.integer] ∧
      operation = op.operation) ∨
    (entry.call = "length" ∧ operation = "length" ∧
      ∃ value, args = [value] ∧ 9223372036854775807 < heap.extent value)
  | .divisionByZero =>
    entry.call = ArithOp.div.call ∧ entry.signature = [Kind.integer, Kind.integer]
  | .indexOutOfBounds .. => entry.call = indexCall ∨ entry.call = "pop!"
  | .capacityExceeded .. => entry.call ∈ [rangeCall, "zeros", "ones"]
  | _ => False

/-- What a call of a native may end in. -/
structure Obeys (entry : Entry) (args : List Value) (store : Store)
    (result : Except Fault Value × Store) : Prop where
  /-- A call fails for one of the causes that are foreseen, and then nothing has changed. -/
  fault : ∀ fault, result.1 = .error fault →
    entry.MayRaise args store.heap fault.cause ∧ result.2 = store
  /-- A call changes no buffer, except that a native that works in place may change that of its first
  argument. -/
  buffers : store.heap.Extends
    (fun value => entry.call ∈ inPlaceCalls ∧ args.head? = some value) result.2.heap
  /-- A call prints nothing, unless that is its purpose. -/
  quiet : entry.call ≠ "show" → result.2.printer = store.printer
  /-- The native that prints prints one line, with its argument and the kind of its argument. -/
  shown : entry.call = "show" → ∃ value, args = [value] ∧
    store.printer.Takes (store.heap.display value ++ " (type: " ++ value.kind.word ++ ")")
      result.2.printer
  /-- A native that changes a buffer and returns one returns the one that it was given. -/
  returned : ∀ value, result.1 = .ok value → entry.call ∈ returningCalls → args.head? = some value
  /-- A conversion in place leaves the text that the conversion into a new string would return. -/
  converted : ∀ letters : LetterCase, entry.call = letters.inPlaceCall →
    ∃ copying ∈ Prelude.entries, copying.call = letters.copyCall ∧
      ∃ ref copied after, args = [.text ref] ∧ copying.run args store = (.ok (.text copied), after) ∧
        result.2.heap.text ref = after.heap.text copied
  /-- A native that creates a buffer returns a reference that did not exist before. -/
  created : ∀ value, result.1 = .ok value → (entry.call, entry.signature) ∈ creatingSignatures →
    ¬value.AllocatedIn store.heap ∧ value.AllocatedIn result.2.heap

/-- Every call with arguments that the signature accepts, and that refer to buffers that exist, obeys
the contract. -/
def KeepsContract (entry : Entry) : Prop :=
  ∀ (name : Name) (args : List Value) (store : Store),
    (Prelude.overload name entry).accepts args = true →
    (∀ value ∈ args, value.AllocatedIn store.heap) → entry.Obeys args store (entry.run args store)

end Entry

/-! ### Signatures -/

namespace Prelude

variable {name : Name} {call : String} {run : Native} {args : List Value}

/-- A native of one parameter is called with one argument, of a kind that the parameter accepts. -/
theorem accepts_one {tag : Tag} (accepted : (overload name ⟨call, [tag], run⟩).accepts args = true) :
    ∃ value, args = [value] ∧ tag.accepts value.kind = true := by
  match args with
  | [] => cases accepted
  | [value] => exact ⟨value, rfl, by simpa [Overload.accepts, acceptsAll, overload] using accepted⟩
  | _ :: _ :: _ => simp [Overload.accepts, acceptsAll, overload] at accepted

/-- A native of two parameters is called with two arguments, of kinds that the parameters accept. -/
theorem accepts_two {tag tag' : Tag}
    (accepted : (overload name ⟨call, [tag, tag'], run⟩).accepts args = true) :
    ∃ value value', args = [value, value'] ∧ tag.accepts value.kind = true ∧
      tag'.accepts value'.kind = true := by
  match args with
  | [] => cases accepted
  | [_] => simp [Overload.accepts, acceptsAll, overload] at accepted
  | [value, value'] =>
    exact ⟨value, value', rfl, by simpa [Overload.accepts, acceptsAll, overload] using accepted⟩
  | _ :: _ :: _ :: _ => simp [Overload.accepts, acceptsAll, overload] at accepted

end Prelude

namespace Value

variable {value : Value}

theorem exists_int (kind : Tag.accepts Kind.integer value.kind = true) : ∃ n, value = .int n := by
  cases value <;> simp_all [Value.kind]

theorem exists_float (kind : Tag.accepts Kind.float value.kind = true) : ∃ x, value = .float x := by
  cases value <;> simp_all [Value.kind]

theorem exists_bool (kind : Tag.accepts Kind.boolean value.kind = true) : ∃ b, value = .bool b := by
  cases value <;> simp_all [Value.kind]

theorem exists_text (kind : Tag.accepts Kind.string value.kind = true) :
    ∃ ref, value = .text ref := by
  cases value <;> simp_all [Value.kind]

theorem exists_vector (kind : Tag.accepts Kind.vector value.kind = true) :
    ∃ ref, value = .vector ref := by
  cases value <;> simp_all [Value.kind]

end Value

/-- A native that is registered for pairs of numbers is called with two integers, or with a float
among its operands. -/
theorem Prelude.accepts_numbers {name : Name} {call : String} {run : Native} {args : List Value}
    {pair : List Tag} (among : pair ∈ numericPairs)
    (accepted : (Prelude.overload name ⟨call, pair, run⟩).accepts args = true) :
    (pair = [Kind.integer, Kind.integer] ∧ ∃ a b, args = [.int a, .int b]) ∨
      ∃ x y, floatOperands? args = some (x, y) := by
  simp only [numericPairs, List.mem_cons, List.not_mem_nil, or_false] at among
  rcases among with rfl | rfl | rfl | rfl <;>
    obtain ⟨value, value', rfl, kind, kind'⟩ := accepts_two accepted
  · obtain ⟨a, rfl⟩ := Value.exists_int kind
    obtain ⟨b, rfl⟩ := Value.exists_int kind'
    exact .inl ⟨rfl, a, b, rfl⟩
  · obtain ⟨a, rfl⟩ := Value.exists_int kind
    obtain ⟨y, rfl⟩ := Value.exists_float kind'
    exact .inr ⟨_, _, rfl⟩
  · obtain ⟨x, rfl⟩ := Value.exists_float kind
    obtain ⟨b, rfl⟩ := Value.exists_int kind'
    exact .inr ⟨_, _, rfl⟩
  · obtain ⟨x, rfl⟩ := Value.exists_float kind
    obtain ⟨y, rfl⟩ := Value.exists_float kind'
    exact .inr ⟨_, _, rfl⟩

/-! ### Ways to end a call -/

namespace Entry.Obeys

variable {entry : Entry} {args : List Value} {store : Store}

/-- A native that neither prints nor returns a buffer that it has changed. -/
theorem of_ordinary {result : Except Fault Value × Store}
    (ordinary : entry.call ∉ "show" :: returningCalls)
    (fault : ∀ fault, result.1 = .error fault →
      entry.MayRaise args store.heap fault.cause ∧ result.2 = store)
    (buffers : store.heap.Extends
      (fun value => entry.call ∈ inPlaceCalls ∧ args.head? = some value) result.2.heap)
    (quiet : result.2.printer = store.printer)
    (created : ∀ value, result.1 = .ok value → (entry.call, entry.signature) ∈ creatingSignatures →
      ¬value.AllocatedIn store.heap ∧ value.AllocatedIn result.2.heap) :
    Obeys entry args store result := by
  rw [List.mem_cons, not_or] at ordinary
  refine ⟨fault, buffers, fun _ => quiet, fun shows => absurd shows ordinary.1,
    fun _ _ returns => absurd returns ordinary.2, fun letters inPlace => ?_, created⟩
  refine absurd ?_ ordinary.2
  rw [inPlace]
  cases letters <;> decide

theorem of_fault (ordinary : entry.call ∉ "show" :: returningCalls) {cause : Cause}
    (foreseen : entry.MayRaise args store.heap cause) :
    Obeys entry args store (Native.fail cause store) := by
  refine of_ordinary ordinary ?_ (.refl _ _) rfl nofun
  rintro _ ⟨⟩
  exact ⟨foreseen, rfl⟩

/-- A native that computes a value from the contents of its arguments. -/
theorem of_value (ordinary : entry.call ∉ "show" :: returningCalls)
    (reads : (entry.call, entry.signature) ∉ creatingSignatures) (value : Value) :
    Obeys entry args store (.ok value, store) :=
  of_ordinary ordinary nofun (.refl _ _) rfl fun _ _ creates => absurd creates reads

theorem of_except (ordinary : entry.call ∉ "show" :: returningCalls)
    (reads : (entry.call, entry.signature) ∉ creatingSignatures) {result : Except Cause Value}
    (foreseen : ∀ cause, result = .error cause → entry.MayRaise args store.heap cause) :
    Obeys entry args store (Native.ofExcept result store) := by
  cases result with
  | ok value => exact of_value ordinary reads value
  | error cause => exact of_fault ordinary (foreseen cause rfl)

theorem of_newText (ordinary : entry.call ∉ "show" :: returningCalls) (s : String) :
    Obeys entry args store (Native.newText s store) := by
  refine of_ordinary ordinary nofun (Heap.extends_newText _ _ s) rfl ?_
  rintro _ ⟨⟩ -
  refine ⟨Nat.lt_irrefl _, ?_⟩
  show store.heap.texts.size < (store.heap.newText s).2.texts.size
  simp [Heap.newText]

theorem of_newVector (ordinary : entry.call ∉ "show" :: returningCalls) (items : Array Value) :
    Obeys entry args store (Native.newVector items store) := by
  refine of_ordinary ordinary nofun (Heap.extends_newVector _ _ items) rfl ?_
  rintro _ ⟨⟩ -
  refine ⟨Nat.lt_irrefl _, ?_⟩
  show store.heap.vectors.size < (store.heap.newVector items).2.vectors.size
  simp [Heap.newVector]

/-- A native that makes a vector of as many elements as it is asked for, if they are not too many. -/
theorem of_items (ordinary : entry.call ∉ "show" :: returningCalls)
    {items : Except Cause (Array Value)}
    (foreseen : ∀ cause, items = .error cause → entry.MayRaise args store.heap cause) :
    Obeys entry args store ((Native.ofExcept items >>= Native.newVector) store) := by
  cases items with
  | ok items => exact of_newVector ordinary items
  | error cause => exact of_fault ordinary (foreseen cause rfl)

end Entry.Obeys

/-! ### The natives -/

open Entry Prelude

theorem NativeM.heap_bind_apply {α : Type} (f : Heap → NativeM α) (store : Store) :
    (Native.heap >>= f) store = f store.heap store := rfl

/-- Integer arithmetic fails if the result does not fit, and division by zero. -/
theorem ArithOp.cause_of_ints {op : ArithOp} {a b : Int64} {cause : Cause}
    (failed : op.ints a b = .error cause) :
    cause = .divisionByZero ∧ op = .div ∨ cause = .integerOverflow op.operation := by
  unfold ArithOp.ints at failed
  split at failed
  case isTrue zero =>
    cases failed
    exact .inl ⟨rfl, zero.1⟩
  case isFalse =>
    split at failed <;> cases failed
    exact .inr rfl

/-- With a float among the operands, arithmetic does not fail. -/
theorem ArithOp.apply_of_floats {op : ArithOp} {args : List Value} {x y : Float}
    (floats : floatOperands? args = some (x, y)) (store : Store) :
    op.apply args store = (.ok (.float (op.floats x y)), store) := by
  unfold ArithOp.apply
  split
  · cases floats
  · rw [floats]
    rfl

theorem ArithOp.keepsContract_apply (op : ArithOp) (pair : List Tag) (among : pair ∈ numericPairs) :
    KeepsContract ⟨op.call, pair, op.apply⟩ := by
  have ordinary : op.call ∉ "show" :: returningCalls := by cases op <;> decide
  have reads : (op.call, pair) ∉ creatingSignatures := by
    revert pair
    cases op <;> decide
  intro name args store accepted _
  rcases accepts_numbers among accepted with ⟨rfl, a, b, rfl⟩ | ⟨x, y, floats⟩
  · refine .of_except ordinary reads fun cause failed => ?_
    rcases ArithOp.cause_of_ints failed with ⟨rfl, rfl⟩ | rfl
    · exact ⟨rfl, rfl⟩
    · exact .inl ⟨op, rfl, rfl, rfl⟩
  · change Entry.Obeys _ args store (op.apply args store)
    rw [ArithOp.apply_of_floats floats]
    exact .of_value ordinary reads _

theorem Arithmetic.keepsContract_concat :
    KeepsContract ⟨ArithOp.add.call, [Kind.string, Kind.string], Arithmetic.concat⟩ := by
  intro name args store accepted _
  obtain ⟨value, value', rfl, kind, kind'⟩ := accepts_two accepted
  obtain ⟨a, rfl⟩ := Value.exists_text kind
  obtain ⟨b, rfl⟩ := Value.exists_text kind'
  exact .of_newText (by decide) _

/-- Operands whose kinds are ordered are compared. -/
theorem CompareOp.byOrder_of_order {op : CompareOp} {args : List Value} {store : Store}
    {order : Option Ordering} (ordered : orderOf? store.heap args = some order) :
    op.byOrder args store = (.ok (.bool (op.holds order)), store) := by
  simp only [CompareOp.byOrder, NativeM.heap_bind_apply, ordered]
  rfl

/-- The kinds for which an operator is registered by order are ordered. -/
theorem CompareOp.exists_order {name : Name} {op : CompareOp} {pair : List Tag}
    (among : pair ∈ numericPairs ++ [Comparison.booleanPair, Comparison.stringPair])
    {args : List Value}
    (accepted : (Prelude.overload name ⟨op.call, pair, op.byOrder⟩).accepts args = true)
    (heap : Heap) : ∃ order, orderOf? heap args = some order := by
  rw [List.mem_append, List.mem_pair] at among
  rcases among with numbers | rfl | rfl
  · rcases accepts_numbers numbers accepted with ⟨rfl, a, b, rfl⟩ | ⟨x, y, floats⟩
    · exact ⟨_, rfl⟩
    · exact ⟨floatOrder x y, by simp only [orderOf?, floats]⟩
  · obtain ⟨value, value', rfl, kind, kind'⟩ := accepts_two accepted
    obtain ⟨b, rfl⟩ := Value.exists_bool kind
    obtain ⟨b', rfl⟩ := Value.exists_bool kind'
    exact ⟨_, rfl⟩
  · obtain ⟨value, value', rfl, kind, kind'⟩ := accepts_two accepted
    obtain ⟨ref, rfl⟩ := Value.exists_text kind
    obtain ⟨ref', rfl⟩ := Value.exists_text kind'
    exact ⟨_, rfl⟩

theorem CompareOp.keepsContract_byOrder (op : CompareOp) (pair : List Tag)
    (among : pair ∈ numericPairs ++ [Comparison.booleanPair, Comparison.stringPair]) :
    KeepsContract ⟨op.call, pair, op.byOrder⟩ := by
  have ordinary : op.call ∉ "show" :: returningCalls := by cases op <;> decide
  have reads : (op.call, pair) ∉ creatingSignatures := by
    revert pair
    cases op <;> decide
  intro name args store accepted _
  obtain ⟨order, ordered⟩ := CompareOp.exists_order among accepted store.heap
  change Entry.Obeys _ args store (op.byOrder args store)
  rw [CompareOp.byOrder_of_order ordered]
  exact .of_value ordinary reads _

/-- Contents are compared whatever the kinds of the operands are. -/
theorem CompareOp.keepsContract_byContents (op : CompareOp) (pair : List Tag)
    (among : pair ∈ Comparison.contentsPairs) : KeepsContract ⟨op.call, pair, op.byContents⟩ := by
  have ordinary : op.call ∉ "show" :: returningCalls := by cases op <;> decide
  have reads : (op.call, pair) ∉ creatingSignatures := by
    revert pair
    cases op <;> decide
  intro name args store accepted _
  simp only [Comparison.contentsPairs, Comparison.stringPair, List.mem_cons, List.not_mem_nil,
    or_false] at among
  rcases among with rfl | rfl | rfl <;>
    obtain ⟨value, value', rfl, -, -⟩ := accepts_two accepted <;>
    exact .of_value ordinary reads _

theorem UnaryOp.keepsContract_not :
    KeepsContract ⟨UnaryOp.not.call, [Kind.boolean], UnaryOp.not.apply⟩ := by
  intro name args store accepted _
  obtain ⟨value, rfl, kind⟩ := accepts_one accepted
  obtain ⟨b, rfl⟩ := Value.exists_bool kind
  exact .of_value (by decide) (by decide) _

theorem LogicOp.keepsContract_apply (op : LogicOp) :
    KeepsContract ⟨op.call, [Kind.boolean, Kind.boolean], op.apply⟩ := by
  intro name args store accepted _
  obtain ⟨value, value', rfl, kind, kind'⟩ := accepts_two accepted
  obtain ⟨b, rfl⟩ := Value.exists_bool kind
  obtain ⟨b', rfl⟩ := Value.exists_bool kind'
  exact .of_value (by cases op <;> decide) (by cases op <;> decide) _

namespace Collection

/-- Elements that are asked for are too many, or they are made. -/
theorem cause_of_checkCapacity {requested : Nat} {α : Type} {a : α} {cause : Cause}
    (failed : (do checkCapacity requested; return a : Except Cause α) = .error cause) :
    cause = .capacityExceeded requested vectorLimit := by
  unfold checkCapacity at failed
  split at failed <;> cases failed
  rfl

theorem keepsContract_rangeTo : KeepsContract ⟨rangeCall, [Kind.integer], range⟩ := by
  intro name args store accepted _
  obtain ⟨value, rfl, kind⟩ := accepts_one accepted
  obtain ⟨last, rfl⟩ := Value.exists_int kind
  refine .of_items (by decide) fun cause failed => ?_
  rw [cause_of_checkCapacity failed]
  exact List.mem_of_elem_eq_true rfl

theorem keepsContract_range :
    KeepsContract ⟨rangeCall, [Kind.integer, Kind.integer], range⟩ := by
  intro name args store accepted _
  obtain ⟨value, value', rfl, kind, kind'⟩ := accepts_two accepted
  obtain ⟨first, rfl⟩ := Value.exists_int kind
  obtain ⟨last, rfl⟩ := Value.exists_int kind'
  refine .of_items (by decide) fun cause failed => ?_
  rw [cause_of_checkCapacity failed]
  exact List.mem_of_elem_eq_true rfl

theorem keepsContract_fill (call : String) (among : call ∈ ["zeros", "ones"]) (value : Int64) :
    KeepsContract ⟨call, [Kind.integer], fill call value⟩ := by
  have ordinary : call ∉ "show" :: returningCalls := by
    revert call
    decide
  intro name args store accepted _
  obtain ⟨value', rfl, kind⟩ := accepts_one accepted
  obtain ⟨count, rfl⟩ := Value.exists_int kind
  refine .of_items ordinary fun cause failed => ?_
  rw [cause_of_checkCapacity failed]
  exact List.mem_cons_of_mem _ among

/-- A length is refused if it exceeds all integers, and that is foreseen. -/
theorem mayRaise_of_lengthValue {heap : Heap} {value : Value} {signature : List Tag} {run : Native}
    {cause : Cause} (failed : lengthValue (heap.extent value) = .error cause) :
    MayRaise ⟨"length", signature, run⟩ [value] heap cause := by
  unfold lengthValue at failed
  split at failed
  case h_1 => cases failed
  case h_2 missing =>
    cases failed
    refine .inr ⟨rfl, rfl, value, rfl, Nat.lt_of_not_le fun fits => ?_⟩
    rw [Integer.ofInt?, if_pos ⟨by omega, by omega⟩] at missing
    cases missing

theorem keepsContract_length (kind : Kind) (among : kind ∈ [Kind.vector, Kind.string]) :
    KeepsContract ⟨"length", [kind], length⟩ := by
  have reads : ("length", [(kind : Tag)]) ∉ creatingSignatures := by
    revert kind
    decide
  intro name args store accepted _
  simp only [List.mem_cons, List.not_mem_nil, or_false] at among
  rcases among with rfl | rfl <;> obtain ⟨value, rfl, kind⟩ := accepts_one accepted
  · obtain ⟨ref, rfl⟩ := Value.exists_vector kind
    exact .of_except (by decide) reads fun _ failed => mayRaise_of_lengthValue failed
  · obtain ⟨ref, rfl⟩ := Value.exists_text kind
    exact .of_except (by decide) reads fun _ failed => mayRaise_of_lengthValue failed

theorem keepsContract_push : KeepsContract ⟨"push!", [Kind.vector, .any], push⟩ := by
  intro name args store accepted _
  obtain ⟨value, element, rfl, kind, -⟩ := accepts_two accepted
  obtain ⟨ref, rfl⟩ := Value.exists_vector kind
  refine ⟨nofun, ?_, fun _ => rfl, nofun, ?_, ?_, fun _ _ creates => absurd creates (by decide)⟩
  · exact Heap.extends_modifyItems ⟨by decide, rfl⟩ _ _
  · rintro _ ⟨⟩ -
    rfl
  · exact fun letters inPlace => absurd inPlace (by cases letters <;> decide)

theorem keepsContract_pop : KeepsContract ⟨"pop!", [Kind.vector], pop⟩ := by
  intro name args store accepted _
  obtain ⟨value, rfl, kind⟩ := accepts_one accepted
  obtain ⟨ref, rfl⟩ := Value.exists_vector kind
  change Entry.Obeys _ _ store (pop [.vector ref] store)
  cases found : (store.heap.items ref).back? with
  | none =>
    have ended : pop [.vector ref] store = Native.fail .popFromEmpty store := by
      simp only [pop, Heap.pop?, found]
    rw [ended]
    exact .of_fault (by decide) (.inr rfl)
  | some last =>
    have ended : pop [.vector ref] store =
        (.ok last, { store with heap := store.heap.modifyItems ref Array.pop }) := by
      simp only [pop, Heap.pop?, found]
    rw [ended]
    refine .of_ordinary (by decide) ?_ ?_ rfl fun _ _ creates => absurd creates (by decide)
    · rintro _ ⟨⟩
    · exact Heap.extends_modifyItems ⟨by decide, rfl⟩ _ _

theorem keepsContract_elementAt :
    KeepsContract ⟨indexCall, [Kind.vector, Kind.integer], elementAt⟩ := by
  intro name args store accepted _
  obtain ⟨value, position, rfl, kind, kind'⟩ := accepts_two accepted
  obtain ⟨ref, rfl⟩ := Value.exists_vector kind
  obtain ⟨index, rfl⟩ := Value.exists_int kind'
  change Entry.Obeys _ _ store (elementAt [.vector ref, .int index] store)
  cases found : (position? index (store.heap.items ref).size).bind ((store.heap.items ref)[·]?) with
  | some element =>
    have ended : elementAt [.vector ref, .int index] store = (.ok element, store) := by
      simp only [elementAt, NativeM.heap_bind_apply, found]
      rfl
    rw [ended]
    exact .of_value (by decide) (by decide) element
  | none =>
    have ended : elementAt [.vector ref, .int index] store =
        Native.fail (.indexOutOfBounds index.toInt (store.heap.items ref).size) store := by
      simp only [elementAt, NativeM.heap_bind_apply, found]
    rw [ended]
    exact .of_fault (by decide) (.inl rfl)

theorem keepsContract_charAt :
    KeepsContract ⟨indexCall, [Kind.string, Kind.integer], elementAt⟩ := by
  intro name args store accepted _
  obtain ⟨value, position, rfl, kind, kind'⟩ := accepts_two accepted
  obtain ⟨ref, rfl⟩ := Value.exists_text kind
  obtain ⟨index, rfl⟩ := Value.exists_int kind'
  change Entry.Obeys _ _ store (elementAt [.text ref, .int index] store)
  cases found : (position? index (store.heap.text ref).toList.length).bind
      ((store.heap.text ref).toList[·]?) with
  | some c =>
    have ended : elementAt [.text ref, .int index] store =
        Native.newText (String.singleton c) store := by
      simp only [elementAt, NativeM.heap_bind_apply, found]
    rw [ended]
    exact .of_newText (by decide) (String.singleton c)
  | none =>
    have ended : elementAt [.text ref, .int index] store =
        Native.fail (.indexOutOfBounds index.toInt (store.heap.text ref).toList.length) store := by
      simp only [elementAt, NativeM.heap_bind_apply, found]
    rw [ended]
    exact .of_fault (by decide) (.inl rfl)

theorem keepsContract_element : KeepsContract ⟨memberCall, [Kind.vector, .any], contains⟩ := by
  intro name args store accepted _
  obtain ⟨value, element, rfl, kind, -⟩ := accepts_two accepted
  obtain ⟨ref, rfl⟩ := Value.exists_vector kind
  exact .of_value (by decide) (by decide) _

theorem keepsContract_part :
    KeepsContract ⟨memberCall, [Kind.string, Kind.string], contains⟩ := by
  intro name args store accepted _
  obtain ⟨value, value', rfl, kind, kind'⟩ := accepts_two accepted
  obtain ⟨whole, rfl⟩ := Value.exists_text kind
  obtain ⟨part, rfl⟩ := Value.exists_text kind'
  exact .of_value (by decide) (by decide) _

end Collection

namespace LetterCase

/-- The conversion into a new string is registered beside the one in place. -/
theorem copy_mem_entries (letters : LetterCase) :
    ⟨letters.copyCall, [Kind.string], letters.copy⟩ ∈ Prelude.entries := by
  have listed : ⟨letters.copyCall, [Kind.string], letters.copy⟩ ∈ LetterCase.entries := by
    cases letters <;> simp [LetterCase.entries]
  simp only [Prelude.entries, List.mem_append, listed, true_or, or_true]

theorem inPlaceCall_inj {letters other : LetterCase}
    (same : letters.inPlaceCall = other.inPlaceCall) : letters = other := by
  revert same
  cases letters <;> cases other <;> decide

theorem keepsContract_inPlace (letters : LetterCase) :
    KeepsContract ⟨letters.inPlaceCall, [Kind.string], letters.inPlace⟩ := by
  intro name args store accepted allocated
  obtain ⟨value, rfl, kind⟩ := accepts_one accepted
  obtain ⟨ref, rfl⟩ := Value.exists_text kind
  have silent : letters.inPlaceCall ≠ "show" := by cases letters <;> decide
  have reads : (letters.inPlaceCall, [(Kind.string : Tag)]) ∉ creatingSignatures := by
    cases letters <;> decide
  refine ⟨nofun, ?_, fun _ => rfl, fun shows => absurd shows silent, ?_, ?_,
    fun _ _ creates => absurd creates reads⟩
  · exact Heap.extends_setText ⟨letters.inPlaceCall_mem, rfl⟩ _ _
  · rintro _ ⟨⟩ -
    rfl
  · intro other same
    obtain rfl := inPlaceCall_inj same
    let converted := letters.convert (store.heap.text ref)
    have issued : ref.index < store.heap.texts.size := allocated _ List.mem_cons_self
    have replaced : (store.heap.setText ref converted).text ref = converted := by
      rw [Heap.text_setText, if_pos ⟨rfl, issued⟩]
    exact ⟨_, copy_mem_entries letters, rfl, ref, _, _, rfl, rfl,
      replaced.trans (store.heap.text_newText_same converted).symm⟩

theorem keepsContract_copy (letters : LetterCase) :
    KeepsContract ⟨letters.copyCall, [Kind.string], letters.copy⟩ := by
  intro name args store accepted _
  obtain ⟨value, rfl, kind⟩ := accepts_one accepted
  obtain ⟨ref, rfl⟩ := Value.exists_text kind
  exact .of_newText (by cases letters <;> decide) _

end LetterCase

theorem Show.keepsContract_print : KeepsContract ⟨"show", [.any], Show.print⟩ := by
  intro name args store accepted _
  obtain ⟨value, rfl, -⟩ := accepts_one accepted
  refine ⟨nofun, .refl _ _, fun silent => absurd rfl silent, fun _ => ⟨value, rfl, ?_⟩,
    fun _ _ returns => absurd returns (by decide), ?_, fun _ _ creates => absurd creates (by decide)⟩
  · exact store.printer.takes_line (Show.line store.heap value)
  · exact fun letters inPlace => absurd inPlace (by cases letters <;> decide)

/-! ### The prelude -/

/-- All natives of the prelude keep the contract. -/
theorem Prelude.keepsContract : ∀ entry ∈ Prelude.entries, entry.KeepsContract := by
  apply Prelude.forall_signatures
  case arith => exact ArithOp.keepsContract_apply
  case concat => exact Arithmetic.keepsContract_concat
  case byOrder => exact CompareOp.keepsContract_byOrder
  case byContents => exact CompareOp.keepsContract_byContents
  case negation => exact UnaryOp.keepsContract_not
  case logic => exact LogicOp.keepsContract_apply
  case rangeTo => exact Collection.keepsContract_rangeTo
  case range => exact Collection.keepsContract_range
  case fill => exact Collection.keepsContract_fill
  case length => exact Collection.keepsContract_length
  case push => exact Collection.keepsContract_push
  case pop => exact Collection.keepsContract_pop
  case elementAt => exact Collection.keepsContract_elementAt
  case charAt => exact Collection.keepsContract_charAt
  case element => exact Collection.keepsContract_element
  case part => exact Collection.keepsContract_part
  case inPlace => exact LetterCase.keepsContract_inPlace
  case copy => exact LetterCase.keepsContract_copy
  case print => exact Show.keepsContract_print

/-- On a heap whose references are all to buffers that exist, a call of a native of the prelude with
arguments that its signature accepts obeys the contract, and leaves such a heap.  In particular the
native does not find that its arguments have the wrong kinds. -/
theorem Prelude.natives_obey_contract {entry : Entry} (listed : entry ∈ Prelude.entries) (name : Name)
    (args : List Value) (store : Store)
    (accepted : (Prelude.overload name entry).accepts args = true) (closed : store.heap.Closed)
    (allocated : ∀ value ∈ args, value.AllocatedIn store.heap) :
    entry.Obeys args store (entry.run args store) ∧
    (∀ fault, (entry.run args store).1 = .error fault →
      (∀ call kinds, fault.cause ≠ .noMatchingOverload call kinds) ∧
      ∀ context expected got, fault.cause ≠ .typeError context expected got) ∧
    (entry.run args store).2.heap.Closed ∧
    ∀ value, (entry.run args store).1 = .ok value →
      value.AllocatedIn (entry.run args store).2.heap := by
  have obeys := Prelude.keepsContract entry listed name args store accepted allocated
  obtain ⟨closed', -, holds⟩ :=
    (@Prelude.keeps_run store.heap (fun _ => True) entry listed).2 args store (.refl _ _) closed
      allocated
  refine ⟨obeys, fun fault failed => ?_, closed', holds⟩
  have foreseen := (obeys.fault fault failed).1
  constructor
  · intro call kinds unmatched
    rw [unmatched] at foreseen
    exact foreseen
  · intro context expected got mistyped
    rw [mistyped] at foreseen
    exact foreseen

/-- A vector may be appended to itself: it is returned, and the string beside it is as it was.  When
the vector is shown afterwards, to a buffer that keeps a line already, it is printed on a second
line. -/
theorem Prelude.natives_obey_contract_self_append :
    let append : Entry := ⟨"push!", [Kind.vector, .any], Collection.push⟩
    let printing : Entry := ⟨"show", [.any], Show.print⟩
    let store : Store := ⟨((Heap.newText {} "a").2.newVector #[.text ⟨0⟩]).2, .buffer #["before"]⟩
    let args : List Value := [.vector ⟨0⟩, .vector ⟨0⟩]
    let appended := (append.run args store).2
    let printed := (printing.run [.vector ⟨0⟩] appended).2
    (append ∈ Prelude.entries ∧ (Prelude.overload ⟨0⟩ append).accepts args = true ∧
      store.heap.Closed ∧ (∀ value ∈ args, value.AllocatedIn store.heap) ∧
      append.Obeys args store (append.run args store) ∧
      (append.run args store).1 = .ok (.vector ⟨0⟩) ∧ appended.heap.Closed ∧
      appended.heap.text ⟨0⟩ = "a" ∧ appended.heap.items ⟨0⟩ = #[.text ⟨0⟩, .vector ⟨0⟩]) ∧
    printing ∈ Prelude.entries ∧
      (Prelude.overload ⟨0⟩ printing).accepts [.vector ⟨0⟩] = true ∧
      (∀ value ∈ [Value.vector ⟨0⟩], value.AllocatedIn appended.heap) ∧
      printing.Obeys [.vector ⟨0⟩] appended (printing.run [.vector ⟨0⟩] appended) ∧
      printed.printer.lines = #["before", "[\"a\", [...]] (type: Vector)"] ∧
      printed.printer.output = "before\n[\"a\", [...]] (type: Vector)\n" := by
  intro append printing store args appended printed
  have listed : append ∈ Prelude.entries := by
    simp [append, Prelude.entries, Collection.entries]
  have listed' : printing ∈ Prelude.entries := by
    simp [printing, Prelude.entries, Show.entries]
  have closed : store.heap.Closed := by
    refine Heap.closed_newVector (Heap.closed_newText Heap.closed_empty "a") fun value among => ?_
    obtain rfl := Array.mem_singleton.mp among
    exact Nat.one_pos
  have allocated : ∀ value ∈ args, value.AllocatedIn store.heap := by
    intro value among
    obtain rfl : value = .vector ⟨0⟩ := by simpa [args] using among
    exact Nat.one_pos
  obtain ⟨obeys, -, closed', -⟩ :=
    Prelude.natives_obey_contract listed ⟨0⟩ args store rfl closed allocated
  have allocated' : ∀ value ∈ [Value.vector ⟨0⟩], value.AllocatedIn appended.heap := by
    intro value among
    obtain rfl := List.mem_singleton.mp among
    exact Nat.one_pos
  obtain ⟨obeys', -, -, -⟩ :=
    Prelude.natives_obey_contract listed' ⟨0⟩ [.vector ⟨0⟩] appended rfl closed' allocated'
  obtain ⟨_, ⟨⟩, takes⟩ := obeys'.shown rfl
  obtain ⟨lines, output⟩ := takes.kept #["before"] rfl
  refine ⟨⟨listed, rfl, closed, allocated, obeys, rfl, closed', rfl, rfl⟩, listed', rfl, allocated',
    obeys', ?_, output⟩
  rw [lines]
  rfl

end Multidispatch
