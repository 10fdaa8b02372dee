import Multidispatch.Interpreter
import Multidispatch.Proofs.Nesting

/-!
# The natives of the prelude

A new interpreter holds the overloads of the prelude and no others.  Its natives fall into a few
families, so what holds of each family holds of every overload of a new interpreter.  In particular,
their faults have no backtrace: it is for the evaluator to attach one.

## Main definitions

* `NativeM.Plain`, `Native.Plain` — faults are raised without a backtrace

## Main statements

* `Prelude.forall_signatures` — what holds of each family of natives, for its signatures, holds of all
  entries
* `Prelude.forall_entries`, `Prelude.forall_run` — what holds of each family of natives holds of all
  entries
* `Prelude.plain_run` — all natives of the prelude raise their faults without a backtrace
* `Interpreter.overloads_of_build` — a new interpreter holds overloads of the prelude only
-/

namespace Multidispatch

/-! ### Families of natives -/

/-- What holds of each family of natives, for the signatures under which it is registered, holds of
all entries. -/
theorem Prelude.forall_signatures {motive : Entry → Prop}
    (arith : ∀ op : ArithOp, ∀ pair ∈ numericPairs, motive ⟨op.call, pair, op.apply⟩)
    (concat : motive ⟨ArithOp.add.call, [Kind.string, Kind.string], Arithmetic.concat⟩)
    (byOrder : ∀ op : CompareOp,
      ∀ pair ∈ numericPairs ++ [Comparison.booleanPair, Comparison.stringPair],
        motive ⟨op.call, pair, op.byOrder⟩)
    (byContents : ∀ op : CompareOp, ∀ pair ∈ Comparison.contentsPairs,
      motive ⟨op.call, pair, op.byContents⟩)
    (negation : motive ⟨UnaryOp.not.call, [Kind.boolean], UnaryOp.not.apply⟩)
    (logic : ∀ op : LogicOp, motive ⟨op.call, [Kind.boolean, Kind.boolean], op.apply⟩)
    (rangeTo : motive ⟨rangeCall, [Kind.integer], Collection.range⟩)
    (range : motive ⟨rangeCall, [Kind.integer, Kind.integer], Collection.range⟩)
    (fill : ∀ call ∈ ["zeros", "ones"], ∀ value,
      motive ⟨call, [Kind.integer], Collection.fill call value⟩)
    (length : ∀ kind ∈ [Kind.vector, Kind.string], motive ⟨"length", [kind], Collection.length⟩)
    (push : motive ⟨"push!", [Kind.vector, .any], Collection.push⟩)
    (pop : motive ⟨"pop!", [Kind.vector], Collection.pop⟩)
    (elementAt : motive ⟨indexCall, [Kind.vector, Kind.integer], Collection.elementAt⟩)
    (charAt : motive ⟨indexCall, [Kind.string, Kind.integer], Collection.elementAt⟩)
    (element : motive ⟨memberCall, [Kind.vector, .any], Collection.contains⟩)
    (part : motive ⟨memberCall, [Kind.string, Kind.string], Collection.contains⟩)
    (inPlace : ∀ letters : LetterCase,
      motive ⟨letters.inPlaceCall, [Kind.string], letters.inPlace⟩)
    (copy : ∀ letters : LetterCase, motive ⟨letters.copyCall, [Kind.string], letters.copy⟩)
    (print : motive ⟨"show", [.any], Show.print⟩) : ∀ entry ∈ Prelude.entries, motive entry := by
  have arithmetic : ∀ entry ∈ Arithmetic.entries, motive entry := by
    intro entry listed
    simp only [Arithmetic.entries, List.mem_append, List.mem_flatMap, List.mem_map,
      List.mem_singleton] at listed
    rcases listed with ⟨op, -, pair, among, rfl⟩ | rfl
    · exact arith op pair among
    · exact concat
  have comparison : ∀ entry ∈ Comparison.entries, motive entry := by
    intro entry listed
    simp only [Comparison.entries, List.mem_append, List.mem_flatMap, List.mem_map] at listed
    rcases listed with ⟨op, -, ⟨pair, among, rfl⟩ | ⟨pair, among, rfl⟩⟩ | ⟨op, -, pair, among, rfl⟩
    · refine byOrder op pair (List.mem_append.mpr (among.imp_right fun boolean => ?_))
      exact List.mem_pair.mpr (.inl (List.mem_singleton.mp boolean))
    · exact byContents op pair among
    · exact byOrder op pair (List.mem_append.mpr among)
  have logical : ∀ entry ∈ Logic.entries, motive entry := by
    simp [Logic.entries, negation, logic]
  have collection : ∀ entry ∈ Collection.entries, motive entry := by
    simp [Collection.entries, rangeTo, range, fill, length, push, pop, elementAt, charAt, element,
      part]
  have letterCase : ∀ entry ∈ LetterCase.entries, motive entry := by
    simp [LetterCase.entries, inPlace, copy]
  have shown : ∀ entry ∈ Show.entries, motive entry := by
    simp [Show.entries, print]
  intro entry listed
  simp only [Prelude.entries, List.mem_append] at listed
  rcases listed with ((((listed | listed) | listed) | listed) | listed) | listed
  · exact arithmetic entry listed
  · exact comparison entry listed
  · exact logical entry listed
  · exact collection entry listed
  · exact letterCase entry listed
  · exact shown entry listed

/-- What holds of each family of natives, under its names, holds of all entries. -/
theorem Prelude.forall_entries {motive : Entry → Prop}
    (arith : ∀ (op : ArithOp) tags, motive ⟨op.call, tags, op.apply⟩)
    (concat : ∀ tags, motive ⟨ArithOp.add.call, tags, Arithmetic.concat⟩)
    (byOrder : ∀ (op : CompareOp) tags, motive ⟨op.call, tags, op.byOrder⟩)
    (byContents : ∀ (op : CompareOp) tags, motive ⟨op.call, tags, op.byContents⟩)
    (negation : ∀ (op : UnaryOp) tags, motive ⟨op.call, tags, op.apply⟩)
    (logic : ∀ (op : LogicOp) tags, motive ⟨op.call, tags, op.apply⟩)
    (range : ∀ tags, motive ⟨rangeCall, tags, Collection.range⟩)
    (fill : ∀ call tags value, motive ⟨call, tags, Collection.fill call value⟩)
    (length : ∀ tags, motive ⟨"length", tags, Collection.length⟩)
    (push : ∀ tags, motive ⟨"push!", tags, Collection.push⟩)
    (pop : ∀ tags, motive ⟨"pop!", tags, Collection.pop⟩)
    (elementAt : ∀ tags, motive ⟨indexCall, tags, Collection.elementAt⟩)
    (contains : ∀ tags, motive ⟨memberCall, tags, Collection.contains⟩)
    (inPlace : ∀ (letters : LetterCase) tags,
      motive ⟨letters.inPlaceCall, tags, letters.inPlace⟩)
    (copy : ∀ (letters : LetterCase) tags, motive ⟨letters.copyCall, tags, letters.copy⟩)
    (print : ∀ tags, motive ⟨"show", tags, Show.print⟩) :
    ∀ entry ∈ Prelude.entries, motive entry := by
  apply Prelude.forall_signatures
  case arith => exact fun op pair _ => arith op pair
  case byOrder => exact fun op pair _ => byOrder op pair
  case byContents => exact fun op pair _ => byContents op pair
  case logic => exact fun op => logic op _
  case fill => exact fun call _ value => fill call _ value
  case length => exact fun _ _ => length _
  case inPlace => exact fun letters => inPlace letters _
  case copy => exact fun letters => copy letters _
  case concat => exact concat _
  case negation => exact negation _ _
  case rangeTo => exact range _
  case range => exact range _
  case push => exact push _
  case pop => exact pop _
  case elementAt => exact elementAt _
  case charAt => exact elementAt _
  case element => exact contains _
  case part => exact contains _
  case print => exact print _

/-- What holds of each family of natives holds of the natives of all entries. -/
theorem Prelude.forall_run {motive : Native → Prop} (arith : ∀ op : ArithOp, motive op.apply)
    (concat : motive Arithmetic.concat) (byOrder : ∀ op : CompareOp, motive op.byOrder)
    (byContents : ∀ op : CompareOp, motive op.byContents)
    (negation : ∀ op : UnaryOp, motive op.apply) (logic : ∀ op : LogicOp, motive op.apply)
    (range : motive Collection.range)
    (fill : ∀ call value, motive (Collection.fill call value))
    (length : motive Collection.length) (push : motive Collection.push)
    (pop : motive Collection.pop) (elementAt : motive Collection.elementAt)
    (contains : motive Collection.contains)
    (inPlace : ∀ letters : LetterCase, motive letters.inPlace)
    (copy : ∀ letters : LetterCase, motive letters.copy) (print : motive Show.print) :
    ∀ entry ∈ Prelude.entries, motive entry.run :=
  Prelude.forall_entries (fun op _ => arith op) (fun _ => concat) (fun op _ => byOrder op)
    (fun op _ => byContents op) (fun op _ => negation op) (fun op _ => logic op) (fun _ => range)
    (fun call _ value => fill call value) (fun _ => length) (fun _ => push) (fun _ => pop)
    (fun _ => elementAt) (fun _ => contains) (fun letters _ => inPlace letters)
    (fun letters _ => copy letters) (fun _ => print)

/-! ### Faults without a backtrace -/

section Plain

variable {α β : Type}

/-- Every fault of the computation is raised without a backtrace. -/
def NativeM.Plain (x : NativeM α) : Prop :=
  ∀ (store : Store) (fault : Fault) (after : Store), x store = (.error fault, after) →
    fault.backtrace = none

/-- Every fault of the native is raised without a backtrace. -/
def Native.Plain (native : Native) : Prop :=
  ∀ args, NativeM.Plain (native args)

namespace NativeM

/-- A computation that does not fail. -/
theorem plain_of_ok {x : NativeM α} (succeeds : ∀ store, ∃ a after, x store = (.ok a, after)) :
    Plain x := by
  intro store fault after failed
  obtain ⟨a, after', ended⟩ := succeeds store
  rw [ended] at failed
  cases failed

theorem plain_pure (a : α) : Plain (pure a) :=
  plain_of_ok fun _ => ⟨_, _, rfl⟩

theorem plain_heap : Plain Native.heap :=
  plain_of_ok fun _ => ⟨_, _, rfl⟩

theorem plain_modifyHeap (change : Heap → Heap) : Plain (Native.modifyHeap change) :=
  plain_of_ok fun _ => ⟨_, _, rfl⟩

theorem plain_newText (s : String) : Plain (Native.newText s) :=
  plain_of_ok fun _ => ⟨_, _, rfl⟩

theorem plain_newVector (items : Array Value) : Plain (Native.newVector items) :=
  plain_of_ok fun _ => ⟨_, _, rfl⟩

theorem plain_print (s : String) : Plain (Native.print s) :=
  plain_of_ok fun _ => ⟨_, _, rfl⟩

theorem plain_fail (cause : Cause) : Plain (Native.fail cause : NativeM α) := by
  intro store fault after failed
  cases failed
  rfl

theorem plain_ofExcept (result : Except Cause α) : Plain (Native.ofExcept result) := by
  cases result with
  | ok a => exact plain_pure a
  | error cause => exact plain_fail cause

theorem Plain.bind {x : NativeM α} {f : α → NativeM β} (first : Plain x)
    (next : ∀ a, Plain (f a)) : Plain (x >>= f) := by
  intro store fault after failed
  have applied : (x >>= f) store =
      match x store with
      | (.ok a, store) => f a store
      | (.error fault, store) => (.error fault, store) := by
    change ExceptT.bindCont f (x store).1 (x store).2 = _
    rcases x store with ⟨_ | _, _⟩ <;> rfl
  rw [applied] at failed
  rcases ended : x store with ⟨fault' | a, store'⟩
  · rw [ended] at failed
    cases failed
    exact first store fault after ended
  · rw [ended] at failed
    exact next a store' fault after failed

/-- Reading the heap first does not fail. -/
theorem plain_heap_bind {f : Heap → NativeM α} (next : ∀ heap, Plain (f heap)) :
    Plain (Native.heap >>= f) :=
  plain_heap.bind next

end NativeM

open NativeM

theorem ArithOp.plain_apply (op : ArithOp) : Native.Plain op.apply := by
  intro args
  unfold ArithOp.apply
  split
  · exact plain_ofExcept _
  · split
    · exact plain_pure _
    · exact plain_fail _

theorem Arithmetic.plain_concat : Native.Plain Arithmetic.concat := by
  intro args
  unfold Arithmetic.concat
  split
  · exact plain_heap_bind fun heap => plain_newText _
  · exact plain_fail _

theorem CompareOp.plain_byOrder (op : CompareOp) : Native.Plain op.byOrder := by
  intro args
  refine plain_heap_bind fun heap => ?_
  split
  · exact plain_pure _
  · exact plain_fail _

theorem CompareOp.plain_byContents (op : CompareOp) : Native.Plain op.byContents := by
  intro args
  unfold CompareOp.byContents
  split
  · exact plain_heap_bind fun heap => plain_pure _
  · exact plain_fail _

theorem UnaryOp.plain_apply (op : UnaryOp) : Native.Plain op.apply := by
  intro args
  unfold UnaryOp.apply
  split
  · exact plain_pure _
  · exact plain_fail _

theorem LogicOp.plain_apply (op : LogicOp) : Native.Plain op.apply := by
  intro args
  unfold LogicOp.apply
  split
  · exact plain_pure _
  · exact plain_fail _

namespace Collection

theorem plain_range : Native.Plain range := by
  intro args
  unfold range
  split
  · exact (plain_ofExcept _).bind fun items => plain_newVector _
  · exact (plain_ofExcept _).bind fun items => plain_newVector _
  · exact plain_fail _

theorem plain_fill (call : String) (value : Int64) : Native.Plain (fill call value) := by
  intro args
  unfold fill
  split
  · exact (plain_ofExcept _).bind fun items => plain_newVector _
  · exact plain_fail _

theorem plain_length : Native.Plain length := by
  intro args
  unfold length
  split
  · exact plain_heap_bind fun heap => plain_ofExcept _
  · exact plain_heap_bind fun heap => plain_ofExcept _
  · exact plain_fail _

theorem plain_push : Native.Plain push := by
  intro args
  unfold push
  split
  · exact (plain_modifyHeap _).bind fun _ => plain_pure _
  · exact plain_fail _

theorem plain_pop : Native.Plain pop := by
  intro args
  unfold pop
  split
  · intro store fault after failed
    simp only at failed
    split at failed
    · cases failed
    · exact plain_fail _ _ _ _ failed
  · exact plain_fail _

theorem plain_elementAt : Native.Plain elementAt := by
  intro args
  unfold elementAt
  split
  · refine plain_heap_bind fun heap => ?_
    simp only
    split
    · exact plain_pure _
    · exact plain_fail _
  · refine plain_heap_bind fun heap => ?_
    simp only
    split
    · exact plain_newText _
    · exact plain_fail _
  · exact plain_fail _

theorem plain_contains : Native.Plain contains := by
  intro args
  unfold contains
  split
  · exact plain_heap_bind fun heap => plain_pure _
  · exact plain_heap_bind fun heap => plain_pure _
  · exact plain_fail _

end Collection

namespace LetterCase

theorem plain_inPlace (letters : LetterCase) : Native.Plain letters.inPlace := by
  intro args
  unfold inPlace
  split
  · exact (plain_modifyHeap _).bind fun _ => plain_pure _
  · exact plain_fail _

theorem plain_copy (letters : LetterCase) : Native.Plain letters.copy := by
  intro args
  unfold copy
  split
  · exact plain_heap_bind fun heap => plain_newText _
  · exact plain_fail _

end LetterCase

theorem Show.plain_print : Native.Plain Show.print := by
  intro args
  unfold Show.print
  split
  · exact plain_heap_bind fun heap => (NativeM.plain_print _).bind fun _ => plain_pure _
  · exact plain_fail _

/-- All natives of the prelude raise their faults without a backtrace. -/
theorem Prelude.plain_run : ∀ entry ∈ Prelude.entries, Native.Plain entry.run :=
  Prelude.forall_run ArithOp.plain_apply Arithmetic.plain_concat CompareOp.plain_byOrder
    CompareOp.plain_byContents UnaryOp.plain_apply LogicOp.plain_apply Collection.plain_range
    Collection.plain_fill Collection.plain_length Collection.plain_push Collection.plain_pop
    Collection.plain_elementAt Collection.plain_contains LetterCase.plain_inPlace
    LetterCase.plain_copy Show.plain_print

/-- The fallbacks of operators raise their faults without a backtrace, too. -/
theorem Fallback.plain_run (fallback : Fallback) (call : String) (args : List Value) :
    Plain (fallback.run call args) := by
  cases fallback with
  | refuse => exact plain_fail _
  | compareContents op => exact op.plain_byContents args
  | explainIndexing => exact plain_fail _

end Plain

/-! ### New interpreters -/

theorem Prelude.mem_overloads_registerAll {entries : List Entry} {env env' : Environment}
    {names names' : Interner}
    (registered : (Prelude.registerAll entries env).run names = .ok (env', names')) {id : ScopeId}
    {overload : Overload} (listed : overload ∈ (env'.scope id).overloads) :
    overload ∈ (env.scope id).overloads ∨
      ∃ name, ∃ entry ∈ entries, overload = Prelude.overload name entry := by
  induction entries generalizing env names with
  | nil =>
    cases registered
    exact .inl listed
  | cons entry rest ih =>
    rw [Prelude.registerAll, StateT.run_bind] at registered
    cases interned : (Interner.intern entry.call).run names with
    | error full =>
      rw [interned] at registered
      cases registered
    | ok named =>
      rw [interned] at registered
      rcases ih registered with earlier | ⟨name, entry', among, rfl⟩
      · rcases Environment.mem_overloads_register earlier with earlier | rfl
        · exact .inl earlier
        · exact .inr ⟨named.1, entry, List.mem_cons_self, rfl⟩
      · exact .inr ⟨name, entry', List.mem_cons_of_mem _ among, rfl⟩

/-- A new interpreter holds no other overloads than those of the prelude. -/
theorem Interpreter.overloads_of_build {options : Options} {interpreter : Interpreter}
    (built : Interpreter.build options = .ok interpreter) {id : ScopeId} {overload : Overload}
    (listed : overload ∈ (interpreter.machine.env.scope id).overloads) :
    ∃ name, ∃ entry ∈ Prelude.entries, overload = Prelude.overload name entry := by
  unfold Interpreter.build at built
  by_cases prelude : options.prelude = true
  · rw [if_pos prelude] at built
    simp only at built
    cases registered : (Prelude.register .initial).run options.names with
    | error full =>
      rw [registered] at built
      cases built
    | ok result =>
      rw [registered] at built
      cases built
      refine (Prelude.mem_overloads_registerAll registered listed).resolve_left ?_
      rw [Environment.overloads_initial]
      exact List.not_mem_nil
  · rw [if_neg prelude] at built
    cases built
    rw [Environment.overloads_initial] at listed
    cases listed

end Multidispatch
