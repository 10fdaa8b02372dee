import Multidispatch.Proofs.Renaming
import Multidispatch.Proofs.Session

/-!
# Results do not depend on the numbers of names

Which number a name gets depends on what was interned before, by whom and in which order.  An
interpreter may share its table of names with others, and with those that build programs.  What a
program does depends on none of this: built from one source against two tables, and run on two
interpreters of the same configuration on these tables, it has the same outcome, prints the same and
leaves the same heap and the same global variables.

## Main definitions

* `Interner.Pairs` — the names that two tables give to one spelling
* `Interner.Built` — a program was built from a source, at some time in the history of a table
* `Interpreter.SetUp` — an interpreter was set up with a configuration and has run nothing yet
* `Interpreter.Observation` — what can be seen of a run

## Main statements

* `Interpreter.SetUp.alike` — interpreters of one configuration differ in their names only
* `Machine.Alike.global_eq` — such interpreters have the same global variables
* `numbering_is_unobservable` — results do not depend on the numbers of names
-/

namespace Multidispatch

/-! ### Names with the same spelling -/

namespace Interner

variable {names names' later later' : Interner}

/-- The names that two tables give to one spelling. -/
def Pairs (names names' : Interner) : Name → Name → Prop :=
  Relation.Comp (flip names.Numbers) names'.Numbers

theorem numbers_unique {spelling spelling' : String} {name : Name}
    (known : names.Numbers spelling name) (known' : names.Numbers spelling' name) :
    spelling = spelling' :=
  (spelling_of_get? known).symm.trans (spelling_of_get? known')

/-- A name of one table has the spelling of at most one name of the other. -/
theorem biUnique_pairs (names names' : Interner) : Relator.BiUnique (names.Pairs names') := by
  constructor
  · rintro a b c ⟨s, first, second⟩ ⟨s', first', second'⟩
    obtain rfl := numbers_unique second second'
    exact Option.some.inj (first.symm.trans first')
  · rintro a b c ⟨s, first, second⟩ ⟨s', first', second'⟩
    obtain rfl := numbers_unique first first'
    exact Option.some.inj (second.symm.trans second')

theorem spelling_of_pairs {a b : Name} (paired : names.Pairs names' a b) :
    names.spelling a = names'.spelling b := by
  obtain ⟨s, first, second⟩ := paired
  exact (spelling_of_get? first).trans (spelling_of_get? second).symm

/-- The reserved names have the same numbers in all tables. -/
theorem pairs_of_initial (grown : initial.spellings <+: names.spellings)
    (grown' : initial.spellings <+: names'.spellings) {spelling : String} {name : Name}
    (known : initial.get? spelling = some name) : names.Pairs names' name name :=
  ⟨spelling, get?_of_prefix grown known, get?_of_prefix grown' known⟩

/-- A program was built from a source against a table of names, which may have grown since. -/
def Built (source : Block String) (names : Interner) (program : Block Name) : Prop :=
  ∃ before after, initial.GrowsTo before ∧ Block.intern source before = .ok (program, after) ∧
    after.GrowsTo names

theorem Built.alike {source : Block String} {program program' : Block Name}
    (built : Built source names program) (built' : Built source names' program') :
    Block.Alike (names.Pairs names') program program' := by
  obtain ⟨before, after, -, interned, grown⟩ := built
  obtain ⟨before', after', -, interned', grown'⟩ := built'
  have ensured := Block.intern_ensures source
  exact Block.Alike.join (ensured.holds interned grown.isPrefix)
    (ensured.holds interned' grown'.isPrefix)

end Interner

/-! ### Interpreters of one configuration -/

/-- An interpreter was set up with the given options and natives, and has run nothing yet.  The table
of names with which it was built, and what has been interned since, are left open. -/
inductive Interpreter.SetUp (options : Options) : List Registration → Interpreter → Prop
  | built {names : Interner} {interpreter : Interpreter} (reached : Interner.initial.GrowsTo names)
      (built : Interpreter.build { options with names } = .ok interpreter) :
      SetUp options [] interpreter
  | registered {natives : List Registration} {registration : Registration}
      {interpreter after : Interpreter} (setUp : SetUp options natives interpreter)
      (registered : interpreter.registerNative registration.spelling registration.params
        registration.native = .ok after) :
      SetUp options (natives ++ [registration]) after
  | interned {natives : List Registration} {interpreter : Interpreter} {names : Interner}
      (setUp : SetUp options natives interpreter) (grown : interpreter.names.GrowsTo names) :
      SetUp options natives { interpreter with names }

namespace Interpreter.SetUp

variable {options : Options} {natives : List Registration} {interpreter : Interpreter}

/-- The table of names knows the reserved names. -/
theorem reserved (setUp : SetUp options natives interpreter) :
    Interner.initial.spellings <+: interpreter.names.spellings := by
  induction setUp with
  | built reached built =>
    obtain ⟨env, names, registered, rfl⟩ := build_eq built
    exact reached.isPrefix.trans ((Prelude.registerAll_ensures _ _).grows registered)
  | registered setUp registered ih =>
    obtain ⟨names, name, numbered, grown, -, -, rfl⟩ := registerNative_eq registered
    exact ih.trans grown
  | interned setUp grown ih => exact ih.trans grown.isPrefix

/-- What an interpreter consists of, apart from its names, is determined by its configuration. -/
theorem eq_configured (setUp : SetUp options natives interpreter) :
    ∃ overloads, List.Forall₂ (Registration.Numbered interpreter.names)
        (options.entries.map Entry.registration ++ natives) overloads ∧
      interpreter =
        { names := interpreter.names
          mode := options.mode
          scoping := options.scoping
          machine :=
            { store := { printer := options.printer.getD options.mode.printer }
              env := Environment.initial.registerEach overloads
              calls := .empty } } := by
  induction setUp with
  | built reached built =>
    have reserved := (SetUp.built reached built).reserved
    obtain ⟨env, names, registered, rfl⟩ := build_eq built
    obtain ⟨overloads, numbered, rfl⟩ :=
      (Prelude.registerAll_ensures _ _).holds registered (List.prefix_refl _) reserved
    refine ⟨overloads, ?_, rfl⟩
    rw [List.append_nil]
    exact numbered
  | @registered natives registration interpreter after setUp registered ih =>
    obtain ⟨overloads, numbered, configured⟩ := ih
    obtain ⟨names, name, params, grown, known, paramsNumbered, rfl⟩ := registerNative_eq registered
    refine ⟨overloads ++ [⟨name, params, .native registration.native⟩], ?_, ?_⟩
    · rw [← List.append_assoc]
      exact List.rel_append (numbered.imp fun _ _ earlier => earlier.mono grown)
        (.cons ⟨known, paramsNumbered, rfl⟩ .nil)
    · rw [configured, Environment.registerEach, Environment.registerEach, List.foldl_append]
      rfl
  | interned setUp grown ih =>
    obtain ⟨overloads, numbered, configured⟩ := ih
    refine ⟨overloads, numbered.imp fun _ _ earlier => earlier.mono grown.isPrefix, ?_⟩
    rw [configured]

end Interpreter.SetUp

/-- Two overloads to which one registration leads are alike. -/
theorem Registration.Numbered.alike {names names' : Interner} {registration : Registration}
    {overload overload' : Overload} (numbered : registration.Numbered names overload)
    (numbered' : registration.Numbered names' overload') :
    overload.Alike (names.Pairs names') overload' where
  name := ⟨_, numbered.name, numbered'.name⟩
  params := Param.Alike.join numbered.params numbered'.params
  body := by
    rw [numbered.body, numbered'.body]
    exact .native _

/-- Registering one after the other what differs in its names only gives environments that differ in
their names only. -/
theorem Environment.Alike.registerEach {names names' : Interner}
    {registrations : List Registration} {overloads overloads' : List Overload}
    {env env' : Environment} (alike : env.Alike (names.Pairs names') env')
    (numbered : List.Forall₂ (Registration.Numbered names) registrations overloads)
    (numbered' : List.Forall₂ (Registration.Numbered names') registrations overloads') :
    (env.registerEach overloads).Alike (names.Pairs names') (env'.registerEach overloads') := by
  induction numbered generalizing env env' overloads' with
  | nil =>
    cases numbered'
    exact alike
  | cons head _ ih =>
    cases numbered' with
    | cons head' tail' =>
      show Alike _ ((env.register .global _).registerEach _) ((env'.register .global _).registerEach _)
      exact ih (alike.register .global (head.alike head')) tail'

theorem Environment.Alike.initial {R : Name → Name → Prop} :
    Environment.initial.Alike R Environment.initial where
  depth := rfl
  scope id := by
    obtain ⟨i⟩ := id
    rcases i with _ | i
    · exact .empty
    · have unused : Environment.initial.depth ≤ i + 1 := Nat.le_add_left 1 i
      rw [Environment.scope_of_depth_le unused]
      exact .empty

section Pair

variable {options : Options} {natives : List Registration} {left right : Interpreter}

/-- Interpreters of one configuration differ in their names only. -/
theorem Interpreter.SetUp.alike (setUp : left.SetUp options natives)
    (setUp' : right.SetUp options natives) :
    left.machine.Alike (left.names.Pairs right.names) right.machine := by
  obtain ⟨overloads, numbered, configured⟩ := setUp.eq_configured
  obtain ⟨overloads', numbered', configured'⟩ := setUp'.eq_configured
  have envs := Environment.Alike.initial.registerEach numbered numbered'
  rw [configured, configured']
  exact ⟨rfl, envs, .nil⟩

theorem Interpreter.SetUp.renumbers (setUp : left.SetUp options natives)
    (setUp' : right.SetUp options natives) :
    left.settings.Renumbers right.settings (left.names.Pairs right.names) := by
  have reserved : ∀ spelling {name}, Interner.initial.get? spelling = some name →
      left.names.Pairs right.names name name :=
    fun _ _ known => Interner.pairs_of_initial setUp.reserved setUp'.reserved known
  obtain ⟨_, -, configured⟩ := setUp.eq_configured
  obtain ⟨_, -, configured'⟩ := setUp'.eq_configured
  constructor
  case scoping =>
    show left.scoping = right.scoping
    rw [configured, configured']
  case depthLimit =>
    show left.mode.depthLimit = right.mode.depthLimit
    rw [configured, configured']
  case unique => exact Interner.biUnique_pairs _ _
  case spelling => exact Interner.spelling_of_pairs
  case binary => exact fun op => reserved op.call op.get?_call
  case unary =>
    intro op
    cases op
    exact reserved UnaryOp.not.call rfl
  case range => exact reserved rangeCall rfl
  case member => exact reserved memberCall rfl
  case index => exact reserved indexCall rfl

end Pair

/-! ### Global variables -/

/-- All names of variables correspond to names of the other side. -/
theorem Bindings.exists_related {R : Name → Name → Prop} {bindings bindings' : Bindings}
    (alike : List.Forall₂ (Bindings.EntryAlike R) bindings bindings') :
    (∀ {name value}, bindings.find? name = some value → ∃ name', R name name') ∧
      ∀ {name' value}, bindings'.find? name' = some value → ∃ name, R name name' := by
  induction alike with
  | nil => exact ⟨nofun, nofun⟩
  | @cons entry entry' _ _ head _ ih =>
    obtain ⟨bound, old⟩ := entry
    obtain ⟨bound', old'⟩ := entry'
    constructor
    · intro name value found
      by_cases hit : bound = name
      · exact ⟨bound', hit ▸ head.name⟩
      · rw [Bindings.find?, if_neg hit] at found
        exact ih.1 found
    · intro name' value found
      by_cases hit : bound' = name'
      · exact ⟨bound, hit ▸ head.name⟩
      · rw [Bindings.find?, if_neg hit] at found
        exact ih.2 found

/-- Interpreters that differ in their names only have the same global variables: a spelling that one
of them does not know is bound in neither. -/
theorem Machine.Alike.global_eq {left right : Interpreter}
    (alike : left.machine.Alike (left.names.Pairs right.names) right.machine) (spelling : String) :
    left.global? spelling = right.global? spelling := by
  unfold Interpreter.global?
  cases known : left.names.get? spelling with
  | some name =>
    cases known' : right.names.get? spelling with
    | some name' =>
      exact alike.env.lookup_eq (Interner.biUnique_pairs _ _) .global ⟨spelling, known, known'⟩
    | none =>
      -- A variable that is bound on one side has a name on the other, which then knows its spelling.
      show left.machine.env.lookup .global name = none
      rw [Option.eq_none_iff_forall_ne_some]
      intro value found
      obtain ⟨id, -, bound⟩ := List.exists_of_findSome?_eq_some found
      obtain ⟨name', s, first, second⟩ := (Bindings.exists_related (alike.env.scope id).bindings).1 bound
      obtain rfl := Interner.numbers_unique first known
      exact absurd (known'.symm.trans second) nofun
  | none =>
    cases known' : right.names.get? spelling with
    | none => rfl
    | some name' =>
      show none = right.machine.env.lookup .global name'
      rw [eq_comm, Option.eq_none_iff_forall_ne_some]
      intro value found
      obtain ⟨id, -, bound⟩ := List.exists_of_findSome?_eq_some found
      obtain ⟨name, s, first, second⟩ := (Bindings.exists_related (alike.env.scope id).bindings).2 bound
      obtain rfl := Interner.numbers_unique second known'
      exact absurd (known.symm.trans first) nofun

/-! ### Whole programs -/

/-- What can be seen of a run. -/
structure Interpreter.Observation where
  /-- The value or the fault with which the run ended. -/
  outcome : Except Fault Value
  /-- The contents of all strings and vectors. -/
  heap : Heap
  /-- The printed text. -/
  output : String
  /-- The global variables. -/
  global? : String → Option Value

/-- What can be seen of a run that ended. -/
def Interpreter.observe (result : Except Fault Value × Interpreter) : Interpreter.Observation where
  outcome := result.1
  heap := result.2.heap
  output := result.2.output
  global? := result.2.global?

/-- Results do not depend on the numbers of names.  A program is built from one source against two
tables of names with whatever history, and run on two interpreters that were set up with the same
options and natives on these tables.  Then both runs end with the same value, or with the same fault
and the same backtrace, or neither ends with the given fuel; and they leave the same heap, the same
printed text and the same global variables. -/
theorem numbering_is_unobservable {options : Options} {natives : List Registration}
    {source : Block String} {left right : Interpreter} {program program' : Block Name}
    (setUp : left.SetUp options natives) (setUp' : right.SetUp options natives)
    (built : Interner.Built source left.names program)
    (built' : Interner.Built source right.names program') (fuel : Nat) :
    (left.run fuel program).map Interpreter.observe =
      (right.run fuel program').map Interpreter.observe := by
  have ends := (renamed_run (setUp.renumbers setUp') fuel).stmts .global .void (built.alike built')
    (setUp.alike setUp')
  rw [Interpreter.run, Interpreter.run, Interpreter.runOn_eq, Interpreter.runOn_eq, Option.map_map,
    Option.map_map]
  change OutcomesAgree _ (execStmts left.settings fuel .global .void program left.machine)
    (execStmts right.settings fuel .global .void program' right.machine) at ends
  generalize execStmts left.settings fuel .global .void program left.machine = ended at ends ⊢
  generalize execStmts right.settings fuel .global .void program' right.machine = ended' at ends ⊢
  cases ends with
  | none => rfl
  | @some result result' both =>
    obtain ⟨outcome, m⟩ := result
    obtain ⟨outcome', n⟩ := result'
    obtain ⟨rfl, alike⟩ := both
    have globals : Interpreter.global? { left with machine := m } =
        Interpreter.global? { right with machine := n } :=
      funext (Machine.Alike.global_eq alike)
    have stores : m.store = n.store := alike.store
    simp only [Option.map_some, Function.comp, Interpreter.observe, Interpreter.heap,
      Interpreter.output, globals, stores]

/-- A program that assigns to a variable and calls a function that nobody has declared. -/
def namingSource : Block String :=
  [.assign "x" (.int 5), .expr (.call "f" [.ident "x"])]

/-- An interpreter without a prelude on a table that numbers two more names than the reserved ones. -/
def namingInterpreter (first second : String) : Interpreter where
  names := ⟨Interner.initial.spellings ++ [first, second]⟩
  mode := .test
  scoping := .dynamic
  machine := ⟨{ printer := .emptyBuffer }, .initial, .empty⟩

/-- The program on a table that knew no names before it, and on one that already knew the name of the
function.  The two give different numbers to the names of the program; both runs end with the same
fault, which spells the name of the function, and with the same variable. -/
theorem numbering_is_unobservable_unknown_function :
    ∃ program program' : Block Name, ∃ after after' : Interpreter,
      Interner.Built namingSource (namingInterpreter "x" "f").names program ∧
      Interner.Built namingSource (namingInterpreter "f" "x").names program' ∧
      (namingInterpreter "x" "f").names.get? "f" ≠ (namingInterpreter "f" "x").names.get? "f" ∧
      (namingInterpreter "x" "f").run 8 program =
        some (.error { cause := .unknownFunction "f" }, after) ∧
      (namingInterpreter "f" "x").run 8 program' =
        some (.error { cause := .unknownFunction "f" }, after') ∧
      after'.global? "x" = some (.int 5) := by
  have reached : Interner.initial.GrowsTo (namingInterpreter "x" "f").names :=
    .tail (.tail .refl ⟨"x", ⟨17⟩, rfl⟩) ⟨"f", ⟨18⟩, rfl⟩
  have knowing : Interner.initial.GrowsTo ⟨Interner.initial.spellings ++ ["f"]⟩ :=
    .tail .refl ⟨"f", ⟨17⟩, rfl⟩
  have reached' : Interner.initial.GrowsTo (namingInterpreter "f" "x").names :=
    knowing.tail ⟨"x", ⟨18⟩, rfl⟩
  have built : Interner.Built namingSource (namingInterpreter "x" "f").names
      [.assign ⟨17⟩ (.int 5), .expr (.call ⟨18⟩ [.ident ⟨17⟩])] := ⟨_, _, .refl, rfl, .refl⟩
  have built' : Interner.Built namingSource (namingInterpreter "f" "x").names
      [.assign ⟨18⟩ (.int 5), .expr (.call ⟨17⟩ [.ident ⟨18⟩])] := ⟨_, _, knowing, rfl, .refl⟩
  have setUp : (namingInterpreter "x" "f").SetUp { mode := .test, prelude := false } [] :=
    .built reached rfl
  have setUp' : (namingInterpreter "f" "x").SetUp { mode := .test, prelude := false } [] :=
    .built reached' rfl
  have same := numbering_is_unobservable setUp setUp' built built' 8
  obtain ⟨after, ended, bound⟩ : ∃ after, (namingInterpreter "x" "f").run 8
      [.assign ⟨17⟩ (.int 5), .expr (.call ⟨18⟩ [.ident ⟨17⟩])] =
        some (.error { cause := .unknownFunction "f" }, after) ∧
      after.global? "x" = some (.int 5) := ⟨_, rfl, rfl⟩
  rw [ended, Option.map_some] at same
  obtain ⟨⟨outcome', after'⟩, ended', observed⟩ := Option.map_eq_some_iff.mp same.symm
  have outcomes : outcome' = .error { cause := .unknownFunction "f" } :=
    congrArg Interpreter.Observation.outcome observed
  have globals : after'.global? = after.global? := congrArg Interpreter.Observation.global? observed
  refine ⟨_, _, after, after', built, built', by decide, ended, ?_, ?_⟩
  · rw [ended', outcomes]
  · rw [globals, bound]

end Multidispatch
