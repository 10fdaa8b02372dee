import Multidispatch.Proofs.Numbering
import Multidispatch.Proofs.Task

/-!
# Sessions

A host makes requests to an interpreter, one after the other.  A request that fails leaves the
interpreter in the state in which it failed, and the session goes on from there; only a run that does
not end stops the session.

## Main definitions

* `Registration` — a native to be registered
* `Request` — what a host can ask of an interpreter
* `Interpreter.serve`, `Interpreter.serveAll` — the interpreter after a request, and after a session

## Main statements

* `Prelude.registerAll_ensures` — what the registration of the prelude does
* `Interpreter.build_eq`, `Interpreter.run_eq`, `Interpreter.call_eq`, `Interpreter.setGlobal_eq`,
  `Interpreter.registerNative_eq`, `Interpreter.load_eq` — what the single requests do
* `Interpreter.serve_grows` — names are only added
-/

namespace Multidispatch

/-! ### Registrations -/

/-- A native to be registered, with the spellings of its name and of its parameters. -/
structure Registration where
  /-- The name under which it is called. -/
  spelling : String
  /-- What its parameters accept, with their names. -/
  params : List (Param String)
  /-- What a call runs. -/
  native : Native

/-- An entry of the prelude, as a registration; its parameters are anonymous. -/
def Entry.registration (entry : Entry) : Registration where
  spelling := entry.call
  params := entry.signature.map fun tag => ⟨"", tag⟩
  native := entry.run

/-- The overload to which a registration leads if the table numbers its names. -/
structure Registration.Numbered (names : Interner) (registration : Registration)
    (overload : Overload) : Prop where
  name : names.Numbers registration.spelling overload.name
  params : List.Forall₂ (Param.Alike names.Numbers) registration.params overload.params
  body : overload.body = .native registration.native

theorem Registration.Numbered.mono {names later : Interner} {registration : Registration}
    {overload : Overload} (numbered : registration.Numbered names overload)
    (grown : names.spellings <+: later.spellings) : registration.Numbered later overload where
  name := Interner.get?_of_prefix grown numbered.name
  params := numbered.params.imp fun _ _ params =>
    ⟨Interner.get?_of_prefix grown params.name, params.tag⟩
  body := numbered.body

/-- Each of the overloads to which registrations lead belongs to one of these. -/
theorem Registration.exists_of_mem {names : Interner} {registrations : List Registration}
    {overloads : List Overload}
    (numbered : List.Forall₂ (Registration.Numbered names) registrations overloads)
    {overload : Overload} (listed : overload ∈ overloads) :
    ∃ registration ∈ registrations, registration.Numbered names overload := by
  induction numbered with
  | nil => cases listed
  | cons head _ ih =>
    rcases List.mem_cons.mp listed with rfl | later
    · exact ⟨_, List.mem_cons_self, head⟩
    · obtain ⟨registration, among, named⟩ := ih later
      exact ⟨registration, List.mem_cons_of_mem _ among, named⟩

/-- The overload that an entry registers is numbered by every table that knows its name. -/
theorem Prelude.numbered_overload {names : Interner} {name : Name} {entry : Entry}
    (grown : Interner.initial.spellings <+: names.spellings)
    (known : names.Numbers entry.call name) :
    entry.registration.Numbered names (Prelude.overload name entry) := by
  refine ⟨known, ?_, rfl⟩
  have anonymous : names.Numbers "" .anonymous := Interner.get?_of_prefix grown rfl
  simp only [Entry.registration, Prelude.overload, List.forall₂_map_left_iff,
    List.forall₂_map_right_iff, List.forall₂_same]
  exact fun tag _ => ⟨anonymous, rfl⟩

/-- The environment after overloads have been added to the global scope, one after the other. -/
def Environment.registerEach (env : Environment) (overloads : List Overload) : Environment :=
  overloads.foldl (fun env overload => env.register .global overload) env

/-- Registering entries adds one overload for each of them to the global scope, in their order. -/
theorem Prelude.registerAll_ensures (entries : List Entry) (env : Environment) :
    InternM.Ensures (fun later after => Interner.initial.spellings <+: later.spellings →
      ∃ overloads, List.Forall₂ (Registration.Numbered later) (entries.map Entry.registration)
        overloads ∧ after = env.registerEach overloads)
      (Prelude.registerAll entries env) := by
  induction entries generalizing env with
  | nil => exact .pure fun _ => ⟨[], .nil, rfl⟩
  | cons entry rest ih =>
    refine (Interner.intern_ensures entry.call).bind fun name => ?_
    constructor
    · exact (ih _).grows
    · intro names after later result ended onward known grown
      obtain ⟨overloads, numbered, rfl⟩ := (ih _).holds ended onward grown
      exact ⟨Prelude.overload name entry :: overloads,
        .cons (Prelude.numbered_overload grown known) numbered, rfl⟩

/-! ### Single requests -/

/-- The entries of the prelude that an interpreter is built with. -/
def Options.entries (options : Options) : List Entry :=
  if options.prelude then Prelude.entries else []

theorem Options.entries_subset (options : Options) : options.entries ⊆ Prelude.entries := by
  unfold Options.entries
  split
  · exact List.Subset.refl _
  · exact List.nil_subset _

namespace Interpreter

variable {interpreter after : Interpreter} {spelling : String}

/-- A new interpreter holds the entries of the prelude, if any, and is otherwise empty. -/
theorem build_eq {options : Options} (built : build options = .ok interpreter) :
    ∃ env names, Prelude.registerAll options.entries .initial options.names = .ok (env, names) ∧
      interpreter =
        { names
          mode := options.mode
          scoping := options.scoping
          machine :=
            { store := { printer := options.printer.getD options.mode.printer }
              env
              calls := .empty } } := by
  unfold build at built
  unfold Options.entries
  by_cases prelude : options.prelude = true
  · rw [if_pos prelude] at built ⊢
    cases registered : Prelude.registerAll Prelude.entries .initial options.names with
    | error full =>
      simp only [Prelude.register, StateT.run, registered] at built
      cases built
    | ok result =>
      simp only [Prelude.register, StateT.run, registered] at built
      cases built
      exact ⟨_, _, rfl, rfl⟩
  · rw [if_neg prelude] at built ⊢
    cases built
    exact ⟨_, _, rfl, rfl⟩

/-- Loading a program adds names. -/
theorem load_eq {source : Block String} {program : Block Name}
    (loaded : interpreter.load source = .ok (program, after)) :
    ∃ names, Block.intern source interpreter.names = .ok (program, names) ∧
      after = { interpreter with names } := by
  unfold load at loaded
  cases interned : (Block.intern source).run interpreter.names with
  | error full =>
    rw [interned] at loaded
    cases loaded
  | ok result =>
    rw [interned] at loaded
    cases loaded
    exact ⟨_, interned, rfl⟩

/-- Binding a global variable adds its name, and binds it in the global scope. -/
theorem setGlobal_eq {value : Value} (bound : interpreter.setGlobal spelling value = .ok after) :
    ∃ names name, Interner.intern spelling interpreter.names = .ok (name, names) ∧
      after = { interpreter with
        names
        machine := { interpreter.machine with
          env := interpreter.machine.env.bindLocal .global name value } } := by
  unfold setGlobal at bound
  cases interned : (Interner.intern spelling).run interpreter.names with
  | error full =>
    rw [interned] at bound
    cases bound
  | ok result =>
    rw [interned] at bound
    cases bound
    exact ⟨_, _, interned, rfl⟩

/-- Registering a native adds its names, and one overload to the global scope. -/
theorem registerNative_eq {params : List (Param String)} {native : Native}
    (registered : interpreter.registerNative spelling params native = .ok after) :
    ∃ names name numbered, interpreter.names.spellings <+: names.spellings ∧
      names.get? spelling = some name ∧
      List.Forall₂ (Param.Alike names.Numbers) params numbered ∧
      after = { interpreter with
        names
        machine := { interpreter.machine with
          env := interpreter.machine.env.register .global ⟨name, numbered, .native native⟩ } } := by
  unfold registerNative at registered
  simp only [StateT.run_bind] at registered
  cases paramsNumbered : (Param.internAll params).run interpreter.names with
  | error full =>
    rw [paramsNumbered] at registered
    cases registered
  | ok result =>
    obtain ⟨numbered, between⟩ := result
    rw [paramsNumbered] at registered
    change (((Interner.intern spelling).run between >>= _) >>= _) = _ at registered
    cases named : (Interner.intern spelling).run between with
    | error full =>
      rw [named] at registered
      cases registered
    | ok result' =>
      obtain ⟨name, names⟩ := result'
      rw [named] at registered
      cases registered
      have grown : between.spellings <+: names.spellings := Interner.prefix_of_intern named
      have ensured := Param.internAll_ensures params
      exact ⟨names, name, numbered, (ensured.grows paramsNumbered).trans grown,
        Interner.get?_of_intern named, ensured.holds paramsNumbered grown, rfl⟩

/-- A computation on the machine leaves the rest of the interpreter as it was. -/
theorem runOn_eq {α : Type} (interpreter : Interpreter) (x : EvalM α) :
    interpreter.runOn x =
      (x interpreter.machine).map fun result =>
        (result.1, { interpreter with machine := result.2 }) := by
  obtain ⟨names, mode, scoping, machine⟩ := interpreter
  simp only [runOn]
  cases x machine <;> rfl

theorem runOn_eq_some {α : Type} {x : EvalM α} {outcome : Except Fault α}
    (ended : interpreter.runOn x = some (outcome, after)) :
    ∃ machine, x interpreter.machine = some (outcome, machine) ∧
      after = { interpreter with machine } := by
  rw [runOn_eq] at ended
  obtain ⟨⟨outcome', machine⟩, run, same⟩ := Option.map_eq_some_iff.mp ended
  obtain ⟨rfl, rfl⟩ := Prod.mk.inj same
  exact ⟨machine, run, rfl⟩

/-- The outcome of a program and the machine that it leaves. -/
theorem run_eq (interpreter : Interpreter) (fuel : Nat) (program : Block Name) :
    (interpreter.run fuel program).map (fun result => (result.1, result.2.machine)) =
      execStmts interpreter.settings fuel .global .void program interpreter.machine := by
  rw [run, runOn_eq, Option.map_map]
  exact Option.map_id'

/-- A call adds the name of the function, and runs on the machine. -/
theorem call_eq {fuel : Nat} {args : List Value} {outcome : Except Fault Value}
    (ended : interpreter.call fuel spelling args = .ok (some (outcome, after))) :
    ∃ names name machine, Interner.intern spelling interpreter.names = .ok (name, names) ∧
      (Task.dispatch .global name args .refuse).run
        { interpreter with names : Interpreter }.settings fuel interpreter.machine =
          some (outcome, machine) ∧
      after = { interpreter with names, machine } := by
  unfold call at ended
  cases interned : (Interner.intern spelling).run interpreter.names with
  | error full =>
    rw [interned] at ended
    cases ended
  | ok result =>
    obtain ⟨name, names⟩ := result
    rw [interned] at ended
    change Except.ok (runOn _ _) = _ at ended
    obtain ⟨machine, ran, rfl⟩ := runOn_eq_some (Except.ok.inj ended)
    exact ⟨names, name, machine, interned, ran, rfl⟩

end Interpreter

/-! ### Sessions -/

/-- What a host can ask of an interpreter. -/
inductive Request where
  /-- To number the identifiers of a source program. -/
  | load (source : Block String)
  /-- To run a program. -/
  | run (fuel : Nat) (program : Block Name)
  /-- To call a function. -/
  | call (fuel : Nat) (spelling : String) (args : List Value)
  /-- To bind a global variable. -/
  | setGlobal (spelling : String) (value : Value)
  /-- To register a native in the global scope. -/
  | registerNative (spelling : String) (params : List (Param String)) (native : Native)
  /-- To change the heap, for instance to create the arguments of a call. -/
  | onHeap (change : Heap → Heap)
  /-- To forget the printed text. -/
  | clearOutput

namespace Interpreter

/-- The interpreter after a request, whether the request was met or failed; `none` if a run did not
end. -/
def serve (interpreter : Interpreter) : Request → Option Interpreter
  | .load source =>
    match interpreter.load source with
    | .ok (_, after) => some after
    | .error _ => some interpreter
  | .run fuel program => (interpreter.run fuel program).map Prod.snd
  | .call fuel spelling args =>
    match interpreter.call fuel spelling args with
    | .ok outcome => outcome.map Prod.snd
    | .error _ => some interpreter
  | .setGlobal spelling value =>
    match interpreter.setGlobal spelling value with
    | .ok after => some after
    | .error _ => some interpreter
  | .registerNative spelling params native =>
    match interpreter.registerNative spelling params native with
    | .ok after => some after
    | .error _ => some interpreter
  | .onHeap change => some (interpreter.onHeap fun heap => ((), change heap)).2
  | .clearOutput => some interpreter.clearOutput

/-- The interpreter after a session. -/
def serveAll (interpreter : Interpreter) (requests : List Request) : Option Interpreter :=
  requests.foldlM serve interpreter

variable {interpreter after : Interpreter}

theorem serveAll_cons {request : Request} {requests : List Request}
    (served : interpreter.serveAll (request :: requests) = some after) :
    ∃ between, interpreter.serve request = some between ∧
      between.serveAll requests = some after := by
  rw [serveAll, List.foldlM_cons] at served
  exact Option.bind_eq_some_iff.mp served

/-- What a request can do: it fails before it does anything, or it adds names and then does one
thing to the machine. -/
inductive Answer (interpreter : Interpreter) : Request → Interpreter → Prop
  | failed (request : Request) : Answer interpreter request interpreter
  | loaded {source : Block String} {program : Block Name} {names : Interner}
      (interned : Block.intern source interpreter.names = .ok (program, names)) :
      Answer interpreter (.load source) { interpreter with names }
  | ran {fuel : Nat} {program : Block Name} {outcome : Except Fault Value} {machine : Machine}
      (ended : (Task.stmts .global .void program).run interpreter.settings fuel
        interpreter.machine = some (outcome, machine)) :
      Answer interpreter (.run fuel program) { interpreter with machine }
  | called {fuel : Nat} {spelling : String} {args : List Value} {names : Interner} {name : Name}
      {outcome : Except Fault Value} {machine : Machine}
      (interned : Interner.intern spelling interpreter.names = .ok (name, names))
      (ended : (Task.dispatch .global name args .refuse).run
        { interpreter with names : Interpreter }.settings fuel interpreter.machine =
          some (outcome, machine)) :
      Answer interpreter (.call fuel spelling args) { interpreter with names, machine }
  | bound {spelling : String} {value : Value} {names : Interner} {name : Name}
      (interned : Interner.intern spelling interpreter.names = .ok (name, names)) :
      Answer interpreter (.setGlobal spelling value) { interpreter with
        names
        machine := { interpreter.machine with
          env := interpreter.machine.env.bindLocal .global name value } }
  | registered {spelling : String} {params : List (Param String)} {native : Native}
      {names : Interner} {name : Name} {numbered : List (Param Name)}
      (grown : interpreter.names.spellings <+: names.spellings)
      (known : names.get? spelling = some name) :
      Answer interpreter (.registerNative spelling params native) { interpreter with
        names
        machine := { interpreter.machine with
          env := interpreter.machine.env.register .global ⟨name, numbered, .native native⟩ } }
  | changed (change : Heap → Heap) :
      Answer interpreter (.onHeap change) { interpreter with
        machine := { interpreter.machine with
          store := { interpreter.machine.store with
            heap := change interpreter.machine.store.heap } } }
  | cleared :
      Answer interpreter .clearOutput { interpreter with
        machine := { interpreter.machine with
          store := { interpreter.machine.store with
            printer := interpreter.machine.store.printer.clear } } }

theorem answer_of_serve {request : Request} (served : interpreter.serve request = some after) :
    interpreter.Answer request after := by
  cases request with
  | load source =>
    simp only [serve] at served
    cases loaded : interpreter.load source with
    | error full =>
      rw [loaded] at served
      cases served
      exact .failed _
    | ok result =>
      rw [loaded] at served
      cases served
      obtain ⟨names, interned, same⟩ := load_eq loaded
      rw [same]
      exact .loaded interned
  | run fuel program =>
    obtain ⟨⟨outcome, _⟩, ended, rfl⟩ := Option.map_eq_some_iff.mp served
    obtain ⟨machine, ran, rfl⟩ := runOn_eq_some ended
    exact .ran ran
  | call fuel spelling args =>
    simp only [serve] at served
    cases called : interpreter.call fuel spelling args with
    | error full =>
      rw [called] at served
      cases served
      exact .failed _
    | ok result =>
      rw [called] at served
      obtain ⟨⟨outcome, _⟩, rfl, rfl⟩ := Option.map_eq_some_iff.mp served
      obtain ⟨names, name, machine, interned, ran, same⟩ := call_eq called
      rw [same]
      exact .called interned ran
  | setGlobal spelling value =>
    simp only [serve] at served
    cases bound : interpreter.setGlobal spelling value with
    | error full =>
      rw [bound] at served
      cases served
      exact .failed _
    | ok result =>
      rw [bound] at served
      cases served
      obtain ⟨names, name, interned, same⟩ := setGlobal_eq bound
      rw [same]
      exact .bound interned
  | registerNative spelling params native =>
    simp only [serve] at served
    cases registered : interpreter.registerNative spelling params native with
    | error full =>
      rw [registered] at served
      cases served
      exact .failed _
    | ok result =>
      rw [registered] at served
      cases served
      obtain ⟨names, name, numbered, grown, known, -, same⟩ := registerNative_eq registered
      rw [same]
      exact .registered grown known
  | onHeap change =>
    cases served
    exact .changed change
  | clearOutput =>
    cases served
    exact .cleared

/-- A request only adds names, at the end of the table. -/
theorem serve_grows {request : Request} (served : interpreter.serve request = some after) :
    interpreter.names.spellings <+: after.names.spellings := by
  cases answer_of_serve served with
  | loaded interned => exact (Block.intern_ensures _).grows interned
  | called interned ended => exact Interner.prefix_of_intern interned
  | bound interned => exact Interner.prefix_of_intern interned
  | registered grown known => exact grown
  | _ => exact List.prefix_refl _

theorem serveAll_grows {requests : List Request}
    (served : interpreter.serveAll requests = some after) :
    interpreter.names.spellings <+: after.names.spellings := by
  induction requests generalizing interpreter with
  | nil =>
    cases served
    exact List.prefix_refl _
  | cons request requests ih =>
    obtain ⟨between, first, rest⟩ := serveAll_cons served
    exact (serve_grows first).trans (ih rest)

end Interpreter

end Multidispatch
