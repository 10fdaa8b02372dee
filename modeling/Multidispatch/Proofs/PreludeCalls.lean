import Multidispatch.Proofs.Resolution

/-!
# Calls that the prelude answers

Every operator is a call, and in an interpreter with the prelude the overloads that the prelude has
registered are the first ones in the global scope.  From a scope where they are in front of all
other overloads of the call, a call with arguments that one of them accepts runs the first such
native, and all that it does is what this native does to the store.  Where there are no other
overloads at all, the call of an operator with arguments that none of them accepts comes to the
fallback of the operator.

## Main definitions

* `Prelude.overloadsOf`, `Prelude.select` — what the prelude has for a call, and for its arguments
* `Prelude.First`, `Prelude.Only` — the overloads of the prelude are in front, or there are no
  others
* `Machine.withStore`, `Machine.withVectors` — the machine after a native
* `callBySpelling` — the call of a function by the spelling of its name
* `BinaryOp.meaning` — what the prelude makes of an operator
* `BinaryOp.Yields` — what the application of an operator to two values comes to

## Main statements

* `Interpreter.call_eq_callBySpelling` — the calls of a host
* `callBySpelling_of_first` — a call does what the native does that the prelude has for it
* `BinaryOp.yields_of_first` — an operator does what the native of the prelude does
* `BinaryOp.yields_of_only` — or else its fallback, where there are no other overloads
* `Prelude.only_of_build`, `Prelude.First.serveAll` — new interpreters with the prelude, and what
  becomes of them in a session
-/

namespace Multidispatch

open EvalM

/-! ### What the prelude has for a call -/

/-- Whether a native can be called with these arguments. -/
def Entry.accepts (entry : Entry) (args : List Value) : Bool :=
  acceptsAll (entry.signature.map fun tag => ⟨.anonymous, tag⟩) args

namespace Prelude

/-- The overloads that the prelude registers for a call, under the name that numbers it. -/
def overloadsOf (call : String) (name : Name) : List Overload :=
  (entries.filter fun entry => entry.call = call).map (overload name)

/-- The native that the prelude has for the arguments of a call: the first one that accepts them. -/
def select (call : String) (args : List Value) : Option Entry :=
  entries.find? fun entry => entry.call = call && entry.accepts args

theorem select_eq (call : String) (args : List Value) :
    select call args =
      (entries.filter fun entry => entry.call = call).find? fun entry => entry.accepts args := by
  simp only [select, List.find?_filter, Bool.decide_and, Bool.decide_eq_true]

theorem find?_overloadsOf (call : String) (name : Name) (args : List Value) :
    (overloadsOf call name).find? (fun overload => overload.accepts args) =
      (select call args).map (overload name) := by
  rw [overloadsOf, List.find?_map, select_eq]
  rfl

/-- The prelude has natives for every operator. -/
theorem exists_entry (op : BinaryOp) : ∃ entry ∈ entries, entry.call = op.call := by
  rcases op with op | op | op <;> cases op <;> exact of_decide_eq_true rfl

theorem overloadsOf_ne_nil (op : BinaryOp) (name : Name) : overloadsOf op.call name ≠ [] := by
  obtain ⟨entry, among, same⟩ := exists_entry op
  rw [overloadsOf, Ne, List.map_eq_nil_iff]
  exact List.ne_nil_of_mem (List.mem_filter.mpr ⟨among, decide_eq_true same⟩)

/-- A call finds the overloads of the prelude before all others. -/
def First (settings : Settings) (env : Environment) (site : ScopeId) (call : String) : Prop :=
  ∃ name, settings.names.get? call = some name ∧ overloadsOf call name <+: env.candidates site name

/-- A call finds the overloads of the prelude and no others. -/
def Only (settings : Settings) (env : Environment) (site : ScopeId) (call : String) : Prop :=
  ∃ name, settings.names.get? call = some name ∧ env.candidates site name = overloadsOf call name

theorem Only.first {settings : Settings} {env : Environment} {site : ScopeId} {call : String}
    (only : Only settings env site call) : First settings env site call := by
  obtain ⟨name, known, alone⟩ := only
  exact ⟨name, known, by rw [alone]⟩

end Prelude

/-! ### Calls -/

section Calls

variable {settings : Settings} {machine : Machine} {site : ScopeId} {call : String} {name : Name}
  {args : List Value} {fallback : Fallback} {entry : Entry}

/-- The machine after a native, with what the native did to the store. -/
def Machine.withStore (machine : Machine) (store : Store) : Machine :=
  { machine with store }

/-- The machine with other vectors. -/
def Machine.withVectors (machine : Machine) (vectors : Array (Array Value)) : Machine :=
  machine.withStore { machine.store with heap := { machine.store.heap with vectors } }

/-- The fault that a cause is raised as on the machine, with the calls that are under way. -/
def Machine.fault (settings : Settings) (machine : Machine) (cause : Cause) : Fault :=
  machine.calls.attach settings.names { cause }

/-- What a native that is run on the machine ends with: its faults get the backtrace of the calls
that are under way. -/
theorem traced_native_apply (settings : Settings) (run : NativeM Value) (machine : Machine) :
    traced settings (native run) machine =
      some ((run machine.store).1.mapError (machine.calls.attach settings.names),
        machine.withStore (run machine.store).2) := by
  obtain ⟨store, env, calls⟩ := machine
  simp only [traced, native]
  rcases run store with ⟨fault | value, after⟩ <;> rfl

/-- The call of a name runs the native that the prelude has for the arguments. -/
theorem dispatch_of_selected
    (leads : Prelude.overloadsOf call name <+: machine.env.candidates site name)
    (selected : Prelude.select call args = some entry) (fuel : Nat) :
    dispatch settings (fuel + 1) site name args fallback machine =
      some ((entry.run args machine.store).1.mapError (machine.calls.attach settings.names),
        machine.withStore (entry.run args machine.store).2) := by
  have found : (machine.env.candidates site name).find? (fun overload => overload.accepts args) =
      some (Prelude.overload name entry) := by
    refine leads.find?_eq_some ?_
    rw [Prelude.find?_overloadsOf, selected]
    rfl
  rw [← traced_native_apply]
  change Task.stepSelection settings (Task.run settings fuel) site name args fallback
    (machine.env.candidates site name) machine = _
  cases listed : machine.env.candidates site name with
  | nil =>
    rw [listed] at found
    cases found
  | cons head rest =>
    rw [listed] at found
    simp only [Task.stepSelection, found, Prelude.overload]

/-- The call of a name that has overloads, none of which accepts the arguments, comes to the
fallback. -/
theorem dispatch_of_unmatched (inSight : machine.env.candidates site name ≠ [])
    (unmatched : machine.env.resolve site name args = none) (fuel : Nat) :
    dispatch settings (fuel + 1) site name args fallback machine =
      traced settings (native (fallback.run (settings.names.spelling name) args)) machine := by
  change Task.stepSelection settings (Task.run settings fuel) site name args fallback
    (machine.env.candidates site name) machine = _
  rw [Environment.resolve] at unmatched
  cases listed : machine.env.candidates site name with
  | nil => exact absurd listed inSight
  | cons head rest =>
    rw [listed] at unmatched
    simp only [Task.stepSelection, unmatched]

/-- Calls a function by the spelling of its name; a spelling that is not numbered names no
function. -/
def callBySpelling (settings : Settings) (fuel : Nat) (site : ScopeId) (call : String)
    (args : List Value) : EvalM Value :=
  match settings.names.get? call with
  | some name => dispatch settings fuel site name args .refuse
  | none => raise settings (.unknownFunction call)

/-- The call of a function by a host is a call by the spelling of its name. -/
theorem Interpreter.call_eq_callBySpelling {interpreter : Interpreter}
    (known : interpreter.names.get? call = some name) (fuel : Nat) (args : List Value) :
    interpreter.call fuel call args =
      .ok (interpreter.runOn (callBySpelling interpreter.settings fuel .global call args)) := by
  have named : interpreter.settings.names.get? call = some name := known
  have interned : Interner.intern call interpreter.names = .ok (name, interpreter.names) := by
    rw [Interner.intern, known]
  simp only [callBySpelling, named]
  rw [Interpreter.call, StateT.run, interned]
  rfl

/-- A call does to the store what the native does that the prelude has for the arguments, ends as
this native ends, and does nothing else. -/
theorem callBySpelling_of_first (first : Prelude.First settings machine.env site call)
    (selected : Prelude.select call args = some entry) (fuel : Nat) :
    callBySpelling settings (fuel + 1) site call args machine =
      some ((entry.run args machine.store).1.mapError (machine.calls.attach settings.names),
        machine.withStore (entry.run args machine.store).2) := by
  obtain ⟨name, known, leads⟩ := first
  simp only [callBySpelling, known]
  exact dispatch_of_selected leads selected fuel

end Calls

/-! ### Operators -/

namespace BinaryOp

/-- What the prelude makes of an operator: the native that it has for the operands, or else the
fallback of the operator. -/
def meaning (op : BinaryOp) (args : List Value) : NativeM Value :=
  match Prelude.select op.call args with
  | some entry => entry.run args
  | none => op.fallback.run op.call args

/-- The operator, applied to two values on the machine, comes to this outcome and leaves the machine
as it is.  This is so for the call of the operator, and for every expression whose operands come to
these values. -/
structure Yields (settings : Settings) (machine : Machine) (site : ScopeId) (op : BinaryOp)
    (a b : Value) (outcome : Except Fault Value) : Prop where
  call : ∀ fuel, dispatch settings (fuel + 1) site op.name [a, b] op.fallback machine =
    some (outcome, machine)
  expr : ∀ fuel left right start between,
    evalExpr settings fuel site left start = some (.ok a, between) →
    evalExpr settings fuel site right between = some (.ok b, machine) →
    evalExpr settings (fuel + 1) site (.binary op left right) start = some (outcome, machine)

section Yields

variable {settings : Settings} {machine : Machine} {site : ScopeId} {op : BinaryOp} {a b : Value}
  {outcome outcome' : Except Fault Value}

/-- An expression evaluates its operands and then calls its operator. -/
theorem yields_of_call
    (call : ∀ fuel, dispatch settings (fuel + 1) site op.name [a, b] op.fallback machine =
      some (outcome, machine)) : op.Yields settings machine site a b outcome where
  call := call
  expr fuel left right start between first second := by
    cases fuel with
    | zero =>
      rw [evalExpr] at first
      cases first
    | succ fuel =>
      show (evalExpr settings (fuel + 1) site left >>= fun left =>
        evalExpr settings (fuel + 1) site right >>= fun right =>
          dispatch settings (fuel + 1) site op.name [left, right] op.fallback) start = _
      rw [EvalM.bind_apply, first]
      show (evalExpr settings (fuel + 1) site right >>= _) between = _
      rw [EvalM.bind_apply, second]
      exact call fuel

theorem Yields.outcome_eq (yields : op.Yields settings machine site a b outcome)
    (yields' : op.Yields settings machine site a b outcome') : outcome = outcome' := by
  have same := (yields.call 0).symm.trans (yields'.call 0)
  exact congrArg Prod.fst (Option.some.inj same)

/-- Where a call of the operator finds the overloads of the prelude first, and one of these accepts
the operands, the operator comes to what this native does. -/
theorem yields_of_first (reserved : Interner.initial.spellings <+: settings.names.spellings)
    (first : Prelude.First settings machine.env site op.call) {entry : Entry}
    (selected : Prelude.select op.call [a, b] = some entry)
    (ends : entry.run [a, b] machine.store = (outcome, machine.store)) :
    op.Yields settings machine site a b
      (outcome.mapError (machine.calls.attach settings.names)) := by
  obtain ⟨name, known, leads⟩ := first
  have numbered := Interner.get?_of_prefix reserved op.get?_call
  obtain rfl : op.name = name := Option.some.inj (numbered.symm.trans known)
  refine yields_of_call fun fuel => ?_
  rw [dispatch_of_selected leads selected, ends]
  rfl

/-- Where a call of the operator finds the overloads of the prelude and no others, the operator
comes to what the prelude makes of it. -/
theorem yields_of_only (reserved : Interner.initial.spellings <+: settings.names.spellings)
    (only : Prelude.Only settings machine.env site op.call)
    (ends : op.meaning [a, b] machine.store = (outcome, machine.store)) :
    op.Yields settings machine site a b
      (outcome.mapError (machine.calls.attach settings.names)) := by
  unfold meaning at ends
  cases selected : Prelude.select op.call [a, b] with
  | some entry =>
    simp only [selected] at ends
    exact yields_of_first reserved only.first selected ends
  | none =>
    simp only [selected] at ends
    obtain ⟨name, known, alone⟩ := only
    have numbered := Interner.get?_of_prefix reserved op.get?_call
    obtain rfl : op.name = name := Option.some.inj (numbered.symm.trans known)
    have inSight : machine.env.candidates site op.name ≠ [] := by
      rw [alone]
      exact Prelude.overloadsOf_ne_nil op _
    have unmatched : machine.env.resolve site op.name [a, b] = none := by
      rw [Environment.resolve, alone, Prelude.find?_overloadsOf, selected]
      rfl
    refine yields_of_call fun fuel => ?_
    rw [dispatch_of_unmatched inSight unmatched, Interner.spelling_of_get? known,
      traced_native_apply, ends]
    rfl

end Yields

end BinaryOp

/-! ### New interpreters, and sessions on them -/

namespace Prelude

/-- Registering entries in the global scope adds one overload for each entry of a call to the
overloads of this call, in their order. -/
theorem registerAll_overloadsOf (entries : List Entry) (env : Environment)
    (live : ScopeId.global.index < env.depth) :
    InternM.Ensures (fun later after =>
      (∀ entry ∈ entries, ∃ name, later.get? entry.call = some name) ∧
      ∀ call name, later.get? call = some name →
        (after.scope .global).overloadsOf name = (env.scope .global).overloadsOf name ++
          (entries.filter fun entry => entry.call = call).map (overload name))
      (registerAll entries env) := by
  induction entries generalizing env with
  | nil => exact .pure ⟨nofun, fun _ _ _ => (List.append_nil _).symm⟩
  | cons entry rest ih =>
    refine (Interner.intern_ensures entry.call).bind fun registered => ?_
    have live' : ScopeId.global.index <
        (env.register .global (overload registered entry)).depth := by
      simpa using live
    refine ⟨(ih _ live').grows, ?_⟩
    intro names after later result ended onward numbered
    obtain ⟨named, listed⟩ := (ih _ live').holds ended onward
    refine ⟨List.forall_mem_cons.mpr ⟨⟨_, numbered⟩, named⟩, fun call name known => ?_⟩
    -- A table gives two spellings two numbers, so the names agree where the calls do.
    have alike : registered = name ↔ entry.call = call := by
      constructor
      · rintro rfl
        rw [← Interner.spelling_of_get? numbered, ← Interner.spelling_of_get? known]
      · rintro rfl
        exact Option.some.inj (numbered.symm.trans known)
    rw [listed call name known, Scope.overloadsOf, Scope.overloadsOf,
      Environment.overloads_register env .global _ live, if_pos rfl, List.filter_append,
      List.append_assoc, List.filter_cons]
    congr 1
    by_cases same : entry.call = call
    · obtain rfl := alike.mpr same
      simp [same, overload]
    · simp [same, overload, mt alike.mp same]

variable {options : Options} {interpreter after : Interpreter} {call : String}

/-- In a new interpreter, a call that the prelude has natives for finds these and no others. -/
theorem only_of_build (prelude : options.prelude = true)
    (built : Interpreter.build options = .ok interpreter)
    (listed : ∃ entry ∈ entries, entry.call = call) :
    Only interpreter.settings interpreter.machine.env .global call := by
  have wellFormed := Interpreter.wellFormed_of_build built
  have rooted := wellFormed.nested.rooted (Nat.zero_lt_of_lt wellFormed.live)
  obtain ⟨env, names, registered, rfl⟩ := Interpreter.build_eq built
  rw [Options.entries, if_pos prelude] at registered
  obtain ⟨named, overloads⟩ :=
    (registerAll_overloadsOf entries .initial Nat.one_pos).holds registered (List.prefix_refl _)
  obtain ⟨entry, among, rfl⟩ := listed
  obtain ⟨name, known⟩ := named entry among
  refine ⟨name, known, ?_⟩
  rw [rooted.candidates_eq]
  simpa [Scope.overloadsOf, overloadsOf] using overloads entry.call name known

/-- A new interpreter knows all names that it was given. -/
theorem grows_of_build (built : Interpreter.build options = .ok interpreter) :
    options.names.spellings <+: interpreter.settings.names.spellings := by
  obtain ⟨env, names, registered, rfl⟩ := Interpreter.build_eq built
  exact (registerAll_ensures _ _).grows registered

set_option maxRecDepth 20000 in
/-- There are interpreters in which the calls of the prelude find its natives and no others. -/
theorem exists_interpreter (mode : Mode) (scoping : Scoping) :
    ∃ interpreter, Interpreter.build { mode, scoping } = .ok interpreter ∧
      Interner.initial.spellings <+: interpreter.settings.names.spellings ∧
      ∀ call, (∃ entry ∈ entries, entry.call = call) →
        Only interpreter.settings interpreter.machine.env .global call := by
  have built : ∃ interpreter, Interpreter.build { mode, scoping } = .ok interpreter := ⟨_, rfl⟩
  obtain ⟨interpreter, built⟩ := built
  exact ⟨interpreter, built, grows_of_build built, fun _ listed => only_of_build rfl built listed⟩

/-- After a session on an interpreter in which a call from the global scope finds the natives of the
prelude first, it still does. -/
theorem First.serveAll {requests : List Request} (rooted : interpreter.machine.env.Rooted)
    (first : First interpreter.settings interpreter.machine.env .global call)
    (served : interpreter.serveAll requests = some after) :
    First after.settings after.machine.env .global call := by
  obtain ⟨name, known, leads⟩ := first
  obtain ⟨rooted', grown⟩ := Interpreter.serveAll_declares rooted served
  refine ⟨name, Interner.get?_of_prefix (Interpreter.serveAll_grows served) known, ?_⟩
  rw [rooted.candidates_eq] at leads
  rw [rooted'.candidates_eq]
  exact leads.trans (grown.filter _)

end Prelude

end Multidispatch
