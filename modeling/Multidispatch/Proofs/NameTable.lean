import Mathlib.Data.List.Nodup
import Multidispatch.Proofs.Numbering

/-!
# Tables of names as bijections

A table of names is asked for the name of a spelling and for the spelling of a name.  After any
history of requests the two answers are inverse to each other: every spelling in the table has one
name and every number below the size of the table has one spelling.  Names never change their
spelling, and only a spelling that was interned has a name.

A table can find a spelling by search or keep an index beside the spellings.  The index is then a
second structure that every request has to keep inverse to the first one; with it, a table gives the
same answers to every history.

## Main definitions

* `NameRequest`, `NameAnswer` — what a table is asked and what it answers
* `NameTable` — the operations of a table, with `NameTable.serveAll` for a history of requests
* `Interner.operations`, `IndexedNames.operations` — a table that searches and one with an index
* `Interner.HandedOut`, `Interner.Named` — which names spellings got in a history
* `Interner.Bijective` — spellings and names correspond one to one

## Main statements

* `Interner.intern_cases` — what interning can do
* `Interner.traced_serveAll` — the table after a history, in terms of the answers given
* `NameTable.Refines.serveAll_eq` — tables that agree on each request agree on every history
* `names_correspond_to_spellings` — after every history, spellings and names correspond one to one
-/

namespace Multidispatch

/-! ### Requests and answers -/

/-- What a table of names is asked.  All who share a table ask the same one, so a history is one
list of requests, whoever makes them. -/
inductive NameRequest where
  /-- The name of a spelling, by someone who cannot go on without it. -/
  | intern (spelling : String)
  /-- The name of a spelling, or the reason why it gets none. -/
  | tryIntern (spelling : String)
  /-- The name of a spelling that has one already. -/
  | get (spelling : String)
  /-- The spelling of a name. -/
  | lookup (name : Name)
deriving DecidableEq, Repr

/-- What a table of names answers. -/
inductive NameAnswer where
  /-- The name that was asked for. -/
  | named (name : Name)
  /-- There is no name left, and whoever asked gives up with this message. -/
  | aborted (message : String)
  /-- There is no name left, for this reason. -/
  | refused (error : InternError)
  /-- The name of the spelling, if it has one. -/
  | found (name? : Option Name)
  /-- The spelling that was asked for. -/
  | spelled (spelling : String)
deriving DecidableEq, Repr

/-- The spelling that a request interns, if it interns one. -/
def NameRequest.interns : NameRequest → Option String
  | intern spelling => some spelling
  | tryIntern spelling => some spelling
  | get _ => none
  | lookup _ => none

/-- The operations of a table of names. -/
structure NameTable (τ : Type) where
  /-- The name of a spelling, which is numbered if it is new. -/
  intern : String → τ → Except InternError (Name × τ)
  /-- The name of a spelling that has one. -/
  get? : τ → String → Option Name
  /-- The spelling of a name. -/
  spelling : τ → Name → String

namespace NameTable

variable {τ σ : Type}

/-- The name of a spelling and the table with it, or a refusal and the table as it was. -/
def serveIntern (operations : NameTable τ) (table : τ) (spelling : String)
    (refusal : InternError → NameAnswer) : NameAnswer × τ :=
  match operations.intern spelling table with
  | .ok (name, after) => (.named name, after)
  | .error full => (refusal full, table)

theorem serveIntern_of_ok {operations : NameTable τ} {table after : τ} {spelling : String}
    {name : Name} (interned : operations.intern spelling table = .ok (name, after))
    (refusal : InternError → NameAnswer) :
    operations.serveIntern table spelling refusal = (.named name, after) := by
  rw [serveIntern, interned]

theorem serveIntern_of_error {operations : NameTable τ} {table : τ} {spelling : String}
    {full : InternError} (refused : operations.intern spelling table = .error full)
    (refusal : InternError → NameAnswer) :
    operations.serveIntern table spelling refusal = (refusal full, table) := by
  rw [serveIntern, refused]

/-- The answer to a request, and the table after it. -/
def serve (operations : NameTable τ) (table : τ) : NameRequest → NameAnswer × τ
  | .intern spelling => operations.serveIntern table spelling fun full => .aborted full.message
  | .tryIntern spelling => operations.serveIntern table spelling .refused
  | .get spelling => (.found (operations.get? table spelling), table)
  | .lookup name => (.spelled (operations.spelling table name), table)

/-- The requests of a history with their answers, and the table after it. -/
def serveAll (operations : NameTable τ) (table : τ) :
    List NameRequest → List (NameRequest × NameAnswer) × τ
  | [] => ([], table)
  | request :: requests =>
    let (answer, between) := operations.serve table request
    let (exchange, after) := operations.serveAll between requests
    ((request, answer) :: exchange, after)

/-- Two results of interning: the same name with related tables, or the same refusal. -/
inductive Interned (R : τ → σ → Prop) :
    Except InternError (Name × τ) → Except InternError (Name × σ) → Prop
  | named (name : Name) {after : τ} {after' : σ} (related : R after after') :
      Interned R (.ok (name, after)) (.ok (name, after'))
  | refused (full : InternError) : Interned R (.error full) (.error full)

/-- Related tables give the same answers and stay related. -/
structure Refines (operations : NameTable τ) (operations' : NameTable σ) (R : τ → σ → Prop) :
    Prop where
  intern : ∀ {table table'}, R table table' → ∀ spelling,
    Interned R (operations.intern spelling table) (operations'.intern spelling table')
  get? : ∀ {table table'}, R table table' → ∀ spelling,
    operations.get? table spelling = operations'.get? table' spelling
  spelling : ∀ {table table'}, R table table' → ∀ name,
    operations.spelling table name = operations'.spelling table' name

namespace Refines

variable {operations : NameTable τ} {operations' : NameTable σ} {R : τ → σ → Prop}

theorem serveIntern_eq (refines : operations.Refines operations' R) {table : τ} {table' : σ}
    (related : R table table') (spelling : String) (refusal : InternError → NameAnswer) :
    (operations.serveIntern table spelling refusal).1 =
        (operations'.serveIntern table' spelling refusal).1 ∧
      R (operations.serveIntern table spelling refusal).2
        (operations'.serveIntern table' spelling refusal).2 := by
  have both := refines.intern related spelling
  unfold serveIntern
  generalize operations.intern spelling table = result at both ⊢
  generalize operations'.intern spelling table' = result' at both ⊢
  cases both with
  | named name related => exact ⟨rfl, related⟩
  | refused full => exact ⟨rfl, related⟩

theorem serve_eq (refines : operations.Refines operations' R) {table : τ} {table' : σ}
    (related : R table table') (request : NameRequest) :
    (operations.serve table request).1 = (operations'.serve table' request).1 ∧
      R (operations.serve table request).2 (operations'.serve table' request).2 := by
  cases request with
  | intern spelling => exact refines.serveIntern_eq related spelling _
  | tryIntern spelling => exact refines.serveIntern_eq related spelling _
  | get spelling => exact ⟨congrArg NameAnswer.found (refines.get? related spelling), related⟩
  | lookup name => exact ⟨congrArg NameAnswer.spelled (refines.spelling related name), related⟩

/-- Tables that give the same answers to each request give the same answers to every history. -/
theorem serveAll_eq (refines : operations.Refines operations' R) {table : τ} {table' : σ}
    (related : R table table') (history : List NameRequest) :
    (operations.serveAll table history).1 = (operations'.serveAll table' history).1 ∧
      R (operations.serveAll table history).2 (operations'.serveAll table' history).2 := by
  induction history generalizing table table' with
  | nil => exact ⟨rfl, related⟩
  | cons request requests ih =>
    obtain ⟨answers, between⟩ := refines.serve_eq related request
    obtain ⟨exchanges, after⟩ := ih between
    refine ⟨?_, after⟩
    simp only [serveAll, answers, exchanges]

end Refines

end NameTable

/-! ### A table that searches -/

namespace Interner

variable {names after : Interner} {spelling : String} {name : Name}

/-- The operations of a table that finds a spelling by search. -/
def operations : NameTable Interner where
  intern := intern
  get? := get?
  spelling := Interner.spelling

theorem get?_eq_none_iff : names.get? spelling = none ↔ spelling ∉ names.spellings := by
  rw [get?, Option.map_eq_none_iff, List.idxOf?_eq_none_iff]

/-- A spelling that has a name stands at the number of the name. -/
theorem getElem?_of_get? (known : names.get? spelling = some name) :
    names.spellings[name.index]? = some spelling := by
  obtain ⟨i, position, rfl⟩ := Option.map_eq_some_iff.mp known
  obtain ⟨bound, hit, -⟩ := List.idxOf?_eq_some_iff.mp position
  exact List.getElem?_eq_some_iff.mpr ⟨bound, hit⟩

/-- If no spelling stands in the table twice, a spelling has the number at which it stands. -/
theorem get?_eq_some_iff (distinct : names.spellings.Nodup) :
    names.get? spelling = some name ↔ names.spellings[name.index]? = some spelling := by
  refine ⟨getElem?_of_get?, fun stands => ?_⟩
  have listed : spelling ∈ names.spellings := List.mem_of_getElem? stands
  obtain ⟨found, known⟩ : ∃ found, names.get? spelling = some found :=
    Option.ne_none_iff_exists'.mp fun unknown => get?_eq_none_iff.mp unknown listed
  have bound : name.index < names.spellings.length := (List.getElem?_eq_some_iff.mp stands).1
  have same : name.index = found.index :=
    (List.getElem?_inj bound distinct).mp (stands.trans (getElem?_of_get? known).symm)
  rw [known, Option.some_inj]
  exact congrArg Name.mk same.symm

/-- A spelling at the end of the table has the last number, unless it was in the table before. -/
theorem get?_append (names : Interner) (added asked : String) :
    get? ⟨names.spellings ++ [added]⟩ asked =
      (names.get? asked).or (if added = asked then some ⟨names.size⟩ else none) := by
  rw [get?, get?, List.idxOf?, List.findIdx?_append, Option.map_or, size]
  by_cases same : added = asked <;> simp [same, List.findIdx?_cons]

/-- What interning can do: the spelling has a name, or gets the next one, or there is none left. -/
theorem intern_cases (spelling : String) (names : Interner) :
    (∃ name, names.get? spelling = some name ∧ intern spelling names = .ok (name, names)) ∨
      (spelling ∉ names.spellings ∧ names.size < capacity ∧
        intern spelling names = .ok (⟨names.size⟩, ⟨names.spellings ++ [spelling]⟩)) ∨
      (spelling ∉ names.spellings ∧ capacity ≤ names.size ∧
        intern spelling names = .error (.overflow names.size)) := by
  unfold intern
  cases known : names.get? spelling with
  | some name => exact .inl ⟨name, rfl, rfl⟩
  | none =>
    have new := get?_eq_none_iff.mp known
    by_cases room : names.size < capacity
    · exact .inr (.inl ⟨new, room, if_pos room⟩)
    · exact .inr (.inr ⟨new, Nat.le_of_not_lt room, if_neg room⟩)

/-- A spelling was interned in an exchange and got a name. -/
def HandedOut (exchange : List (NameRequest × NameAnswer)) (spelling : String) (name : Name) :
    Prop :=
  ∃ request, request.interns = some spelling ∧ (request, .named name) ∈ exchange

/-- How a table results from another one in an exchange. -/
structure Traced (names : Interner) (exchange : List (NameRequest × NameAnswer))
    (after : Interner) : Prop where
  grown : names.spellings <+: after.spellings
  handedOut : ∀ {spelling name}, HandedOut exchange spelling name →
    after.get? spelling = some name
  accounted : ∀ spelling ∈ after.spellings,
    spelling ∈ names.spellings ∨ ∃ name, HandedOut exchange spelling name
  distinct : names.spellings.Nodup → after.spellings.Nodup
  bounded : names.size ≤ capacity → after.size ≤ capacity

namespace Traced

variable {between : Interner} {exchange exchange' : List (NameRequest × NameAnswer)}

/-- An exchange in which no name is handed out leaves the table as it is. -/
theorem idle (nothing : ∀ spelling name, ¬HandedOut exchange spelling name) :
    Traced names exchange names where
  grown := List.prefix_refl _
  handedOut handed := absurd handed (nothing _ _)
  accounted _ listed := .inl listed
  distinct := id
  bounded := id

/-- A spelling keeps its name. -/
theorem keeps (traced : Traced names exchange after) (known : names.get? spelling = some name) :
    after.get? spelling = some name :=
  get?_of_prefix traced.grown known

/-- One exchange after the other. -/
theorem append (first : Traced names exchange between) (second : Traced between exchange' after) :
    Traced names (exchange ++ exchange') after where
  grown := first.grown.trans second.grown
  handedOut := by
    rintro spelling name ⟨request, interns, listed⟩
    rcases List.mem_append.mp listed with earlier | later
    · exact second.keeps (first.handedOut ⟨request, interns, earlier⟩)
    · exact second.handedOut ⟨request, interns, later⟩
  accounted spelling listed := by
    rcases second.accounted spelling listed with earlier | ⟨name, request, interns, later⟩
    · rcases first.accounted spelling earlier with start | ⟨name, request, interns, handed⟩
      · exact .inl start
      · exact .inr ⟨name, request, interns, List.mem_append_left _ handed⟩
    · exact .inr ⟨name, request, interns, List.mem_append_right _ later⟩
  distinct start := second.distinct (first.distinct start)
  bounded start := second.bounded (first.bounded start)

end Traced

theorem handedOut_singleton {request : NameRequest} {answer : NameAnswer} :
    HandedOut [(request, answer)] spelling name ↔
      request.interns = some spelling ∧ answer = .named name := by
  simp [HandedOut, eq_comm]

/-- What a request to intern a spelling does to the table. -/
theorem traced_serveIntern {request : NameRequest} (interns : request.interns = some spelling)
    (names : Interner) {refusal : InternError → NameAnswer}
    (refuses : ∀ full name, refusal full ≠ .named name) :
    Traced names [(request, (operations.serveIntern names spelling refusal).1)]
      (operations.serveIntern names spelling refusal).2 := by
  rcases intern_cases spelling names with ⟨found, known, interned⟩ | ⟨new, room, interned⟩ |
    ⟨new, full, refused⟩
  · rw [operations.serveIntern_of_ok interned]
    refine ⟨List.prefix_refl _, ?_, fun _ listed => .inl listed, id, id⟩
    intro t name handed
    obtain ⟨same, ⟨⟩⟩ := handedOut_singleton.mp handed
    obtain rfl : spelling = t := Option.some.inj (interns.symm.trans same)
    exact known
  · rw [operations.serveIntern_of_ok interned]
    refine ⟨List.prefix_append _ _, ?_, ?_, ?_, ?_⟩
    · intro t name handed
      obtain ⟨same, ⟨⟩⟩ := handedOut_singleton.mp handed
      obtain rfl : spelling = t := Option.some.inj (interns.symm.trans same)
      exact get?_of_intern interned
    · intro t listed
      refine (List.mem_append.mp listed).imp_right fun added => ⟨⟨names.size⟩, ?_⟩
      rw [List.mem_singleton.mp added]
      exact handedOut_singleton.mpr ⟨interns, rfl⟩
    · intro distinct
      refine List.nodup_append.mpr ⟨distinct, List.nodup_singleton _, ?_⟩
      rintro t listed _ added rfl
      exact new (List.mem_singleton.mp added ▸ listed)
    · intro _
      rw [size, List.length_append]
      exact room
  · rw [operations.serveIntern_of_error refused]
    refine .idle fun t name handed => ?_
    exact refuses _ name (handedOut_singleton.mp handed).2

/-- What a request does to the table. -/
theorem traced_serve (names : Interner) (request : NameRequest) :
    Traced names [(request, (operations.serve names request).1)]
      (operations.serve names request).2 := by
  cases request with
  | intern spelling => exact traced_serveIntern rfl names fun _ _ => nofun
  | tryIntern spelling => exact traced_serveIntern rfl names fun _ _ => nofun
  | get spelling => exact .idle fun t name handed => nomatch (handedOut_singleton.mp handed).1
  | lookup name => exact .idle fun t name handed => nomatch (handedOut_singleton.mp handed).1

/-- What a history of requests does to the table. -/
theorem traced_serveAll (names : Interner) (history : List NameRequest) :
    Traced names (operations.serveAll names history).1 (operations.serveAll names history).2 := by
  induction history generalizing names with
  | nil => exact .idle fun _ _ handed => nomatch handed
  | cons request requests ih => exact (traced_serve names request).append (ih _)

/-! ### Spellings and names correspond -/

/-- A spelling has got a name: the table knew it from the start, or it was interned. -/
def Named (exchange : List (NameRequest × NameAnswer)) (spelling : String) (name : Name) : Prop :=
  initial.get? spelling = some name ∨ HandedOut exchange spelling name

/-- Spellings and names correspond one to one, in a table that results from an exchange. -/
structure Bijective (exchange : List (NameRequest × NameAnswer)) (names : Interner) : Prop where
  /-- No spelling stands in the table twice. -/
  distinct : names.spellings.Nodup
  /-- To find the name of a spelling is the inverse of finding the spelling of a name. -/
  inverse : ∀ spelling name,
    names.get? spelling = some name ↔ names.spellings[name.index]? = some spelling
  /-- The names that spellings have got are the numbers below the size of the table. -/
  issued : ∀ name, (∃ spelling, Named exchange spelling name) ↔ name.index < names.size
  /-- All numbers fit 32 bits. -/
  bounded : names.size ≤ capacity
  /-- The empty spelling is number zero, and the reserved calls come next, in the order in which
  they are listed. -/
  reserved : names.get? "" = some ⟨0⟩ ∧ reservedCalls.length = 16 ∧
    ∀ i spelling, reservedCalls[i]? = some spelling → names.get? spelling = some ⟨i + 1⟩
  /-- A spelling gets the same name every time. -/
  unique : ∀ spelling name name', Named exchange spelling name → Named exchange spelling name' →
    name = name'
  /-- Different spellings get different names. -/
  injective : ∀ spelling spelling' name, Named exchange spelling name →
    Named exchange spelling' name → spelling = spelling'
  /-- A name keeps its spelling, whatever is asked later. -/
  kept : ∀ spelling name, Named exchange spelling name →
    ∀ later, (operations.serveAll names later).2.spelling name = spelling
  /-- The spellings with a name are those that have got one. -/
  known : ∀ spelling, (names.get? spelling).isSome = true ↔ ∃ name, Named exchange spelling name
  /-- A number that no spelling has got spells the empty string. -/
  unissued : ∀ name, (¬∃ spelling, Named exchange spelling name) → names.spelling name = ""
  /-- A spelling is refused if it is new and the table holds as many as there are numbers of 32
  bits. -/
  refused : ∀ spelling, (∃ full, (operations.serve names (.tryIntern spelling)).1 = .refused full) ↔
    (¬∃ name, Named exchange spelling name) ∧ names.size = capacity
  /-- A refusal leaves the table as it is. -/
  unchanged : ∀ spelling full, (operations.serve names (.tryIntern spelling)).1 = .refused full →
    (operations.serve names (.tryIntern spelling)).2 = names

theorem distinct_initial : initial.spellings.Nodup := by
  decide

theorem get?_initial {i : Nat} (stands : initial.spellings[i]? = some spelling) :
    initial.get? spelling = some ⟨i⟩ :=
  (get?_eq_some_iff distinct_initial).mpr stands

section Exchange

variable {exchange : List (NameRequest × NameAnswer)}

/-- The names that spellings have got are those that the table knows. -/
theorem Traced.named_iff (traced : Traced initial exchange names) :
    Named exchange spelling name ↔ names.get? spelling = some name := by
  constructor
  · rintro (known | handed)
    · exact traced.keeps known
    · exact traced.handedOut handed
  · intro known
    have listed : spelling ∈ names.spellings := List.mem_of_getElem? (getElem?_of_get? known)
    rcases traced.accounted spelling listed with start | ⟨first, handed⟩
    · obtain ⟨i, stands⟩ := List.mem_iff_getElem?.mp start
      have first := get?_initial stands
      obtain rfl := Option.some.inj ((traced.keeps first).symm.trans known)
      exact .inl first
    · obtain rfl := Option.some.inj ((traced.handedOut handed).symm.trans known)
      exact .inr handed

/-- A spelling that is not in the table has got no name. -/
theorem Traced.exists_named_iff (traced : Traced initial exchange names) :
    (∃ name, Named exchange spelling name) ↔ spelling ∈ names.spellings := by
  rw [← not_iff_not, ← get?_eq_none_iff, Option.eq_none_iff_forall_ne_some]
  simp only [traced.named_iff, not_exists, ne_eq]

/-- A request for a name is refused if the spelling is new and no number is left. -/
theorem refused_iff (names : Interner) (spelling : String) :
    (∃ full, (operations.serve names (.tryIntern spelling)).1 = .refused full) ↔
      spelling ∉ names.spellings ∧ capacity ≤ names.size := by
  change (∃ full, (operations.serveIntern names spelling .refused).1 = .refused full) ↔ _
  rcases intern_cases spelling names with ⟨found, known, interned⟩ | ⟨-, room, interned⟩ |
    ⟨new, full, refused⟩
  · rw [operations.serveIntern_of_ok interned]
    refine iff_of_false (fun ⟨_, other⟩ => nomatch other) fun ⟨new, _⟩ => ?_
    exact new (List.mem_of_getElem? (getElem?_of_get? known))
  · rw [operations.serveIntern_of_ok interned]
    exact iff_of_false (fun ⟨_, other⟩ => nomatch other) fun ⟨_, full⟩ => Nat.not_lt.mpr full room
  · rw [operations.serveIntern_of_error refused]
    exact iff_of_true ⟨_, rfl⟩ ⟨new, full⟩

/-- Requests that are refused do not change the table. -/
theorem serve_of_refused {full : InternError}
    (refused : (operations.serve names (.tryIntern spelling)).1 = .refused full) :
    (operations.serve names (.tryIntern spelling)).2 = names := by
  change (operations.serveIntern names spelling .refused).1 = .refused full at refused
  change (operations.serveIntern names spelling .refused).2 = names
  cases interned : operations.intern spelling names with
  | ok result =>
    rw [operations.serveIntern_of_ok interned] at refused
    cases refused
  | error full => rw [operations.serveIntern_of_error interned]

theorem Traced.bijective (traced : Traced initial exchange names) : Bijective exchange names := by
  have distinct := traced.distinct distinct_initial
  have bounded : names.size ≤ capacity := traced.bounded (by decide)
  have issued : ∀ name, (∃ spelling, Named exchange spelling name) ↔ name.index < names.size := by
    intro name
    simp only [traced.named_iff, get?_eq_some_iff distinct, ← Option.isSome_iff_exists]
    rw [isSome_getElem?, size]
  constructor
  case distinct => exact distinct
  case inverse => exact fun spelling name => get?_eq_some_iff distinct
  case issued => exact issued
  case bounded => exact bounded
  case reserved =>
    have kept : ∀ {i spelling}, initial.spellings[i]? = some spelling →
        names.get? spelling = some ⟨i⟩ :=
      fun stands => traced.keeps (get?_initial stands)
    exact ⟨kept rfl, rfl, fun i spelling stands => kept stands⟩
  case unique =>
    intro spelling name name' named named'
    exact Option.some.inj ((traced.named_iff.mp named).symm.trans (traced.named_iff.mp named'))
  case injective =>
    intro spelling spelling' name named named'
    exact (spelling_of_get? (traced.named_iff.mp named)).symm.trans
      (spelling_of_get? (traced.named_iff.mp named'))
  case kept =>
    intro spelling name named later
    exact spelling_of_get? ((traced_serveAll names later).keeps (traced.named_iff.mp named))
  case known =>
    intro spelling
    simp only [traced.named_iff, Option.isSome_iff_exists]
  case unissued =>
    intro name never
    rw [issued, Nat.not_lt] at never
    rw [Interner.spelling, List.getElem?_eq_none never, Option.getD_none]
  case refused =>
    intro spelling
    rw [refused_iff, traced.exists_named_iff]
    refine and_congr_right fun _ => ⟨fun full => Nat.le_antisymm bounded full, fun full => ?_⟩
    exact Nat.le_of_eq full.symm
  case unchanged => exact fun spelling full => serve_of_refused

end Exchange

end Interner

/-! ### A table with an index -/

/-- A table of names that keeps the number of each spelling beside the spellings. -/
structure IndexedNames where
  /-- The number of each spelling. -/
  numbers : Std.HashMap String Nat
  /-- The spellings, by number. -/
  spellings : Array String

namespace IndexedNames

variable {table : IndexedNames} {names : Interner}

/-- The name of a spelling that has been interned. -/
def get? (table : IndexedNames) (spelling : String) : Option Name :=
  table.numbers[spelling]?.map Name.mk

/-- The spelling of a name; a number never issued spells the empty string. -/
def spelling (table : IndexedNames) (name : Name) : String :=
  table.spellings[name.index]?.getD ""

/-- The name of a spelling; a new spelling goes to the end of the spellings and into the index. -/
def intern (spelling : String) (table : IndexedNames) : Except InternError (Name × IndexedNames) :=
  match table.numbers[spelling]? with
  | some number => .ok (⟨number⟩, table)
  | none =>
    let number := table.spellings.size
    if number < Interner.capacity then
      .ok (⟨number⟩, ⟨table.numbers.insert spelling number, table.spellings.push spelling⟩)
    else
      .error (.overflow number)

/-- The operations of a table with an index. -/
def operations : NameTable IndexedNames := ⟨intern, get?, spelling⟩

/-- The requests that give the reserved names their numbers. -/
def reservations : List NameRequest :=
  ("" :: reservedCalls).map .intern

/-- The table in which the empty spelling and the reserved calls have been interned. -/
def initial : IndexedNames :=
  (operations.serveAll ⟨∅, #[]⟩ reservations).2

/-- A table with an index knows the same spellings by the same numbers as one that searches. -/
structure Represents (table : IndexedNames) (names : Interner) : Prop where
  spellings : table.spellings.toList = names.spellings
  get? : ∀ spelling, table.get? spelling = names.get? spelling

theorem Represents.size (represents : table.Represents names) :
    table.spellings.size = names.size := by
  rw [Interner.size, ← represents.spellings, Array.length_toList]

/-- A new spelling goes to the same place in the index and in the spellings. -/
theorem Represents.insert (represents : table.Represents names) {spelling : String}
    (new : names.get? spelling = none) :
    Represents ⟨table.numbers.insert spelling table.spellings.size, table.spellings.push spelling⟩
      ⟨names.spellings ++ [spelling]⟩ where
  spellings := by rw [Array.toList_push, represents.spellings]
  get? asked := by
    rw [Interner.get?_append, ← represents.get? asked, ← represents.size, IndexedNames.get?,
      IndexedNames.get?, Std.HashMap.getElem?_insert]
    by_cases same : spelling = asked
    · have unindexed : table.numbers[asked]? = none := by
        rw [← same, ← Option.map_eq_none_iff]
        exact (represents.get? spelling).trans new
      simp [same, unindexed]
    · simp [same]

theorem refines : operations.Refines Interner.operations Represents where
  intern {table names} represents spelling := by
    change NameTable.Interned Represents (intern spelling table) (Interner.intern spelling names)
    have indexed : table.numbers[spelling]?.map Name.mk = names.get? spelling :=
      represents.get? spelling
    unfold intern Interner.intern
    cases found : table.numbers[spelling]? with
    | some number =>
      rw [← indexed, found]
      exact .named _ represents
    | none =>
      have new : names.get? spelling = none := by rw [← indexed, found, Option.map_none]
      rw [new]
      simp only [represents.size]
      split
      · rw [← represents.size]
        exact .named _ (represents.insert new)
      · exact .refused _
  get? represents spelling := represents.get? spelling
  spelling {table names} represents name := by
    change table.spellings[name.index]?.getD "" = names.spellings[name.index]?.getD ""
    rw [← represents.spellings, Array.getElem?_toList]

/-- If searching for names is the inverse of reading spellings, so is looking up in the index. -/
theorem Represents.inverse (represents : table.Represents names)
    (inverse : ∀ spelling name,
      names.get? spelling = some name ↔ names.spellings[name.index]? = some spelling)
    (spelling : String) (number : Nat) :
    table.numbers[spelling]? = some number ↔ table.spellings[number]? = some spelling := by
  have searched := inverse spelling ⟨number⟩
  rw [← represents.get?, ← represents.spellings, Array.getElem?_toList] at searched
  rw [← searched, IndexedNames.get?, Option.map_eq_some_iff]
  simp

theorem represents_initial : initial.Represents .initial := by
  -- In a table that searches, the same requests lead from the empty table to the initial one.
  have empty : Represents ⟨∅, #[]⟩ ⟨[]⟩ := ⟨rfl, fun spelling => by simp [get?, Interner.get?]⟩
  exact (refines.serveAll_eq empty reservations).2

end IndexedNames

/-- After every history of requests, spellings and names correspond one to one.  A table that keeps
the names of spellings in an index gives the same answers, and its index stays inverse to its
spellings. -/
theorem names_correspond_to_spellings (history : List NameRequest) :
    let (exchange, names) := Interner.operations.serveAll .initial history
    let (exchange', table) := IndexedNames.operations.serveAll .initial history
    Interner.Bijective exchange names ∧ exchange' = exchange ∧
      table.spellings.toList = names.spellings ∧
      ∀ (spelling : String) (number : Nat),
        table.numbers[spelling]? = some number ↔ table.spellings[number]? = some spelling := by
  have bijective := (Interner.traced_serveAll .initial history).bijective
  obtain ⟨answers, represents⟩ :=
    IndexedNames.refines.serveAll_eq IndexedNames.represents_initial history
  exact ⟨bijective, answers, represents.spellings, represents.inverse bijective.inverse⟩

end Multidispatch
