import Multidispatch.Proofs.Agreement
import Multidispatch.Proofs.CallEntry

/-!
# Coupled runs

Two runs are coupled by a relation between their machines: started on related machines, they end
alike, on related machines.  A run may be excused from this.  An excuse covers some faults, or a
lack of fuel, and a run that ends with one of these need not be compared with the other run.  As no
construct recovers from a fault, whatever contains an excused computation is excused itself.

## Main definitions

* `OutcomesAgree` — two runs end alike
* `Excuse` — the ends of a run that are not compared
* `EndsAlike` — two runs end alike, or one of them is excused
* `Coupling` — a relation between machines that variables, values and natives respect

## Main statements

* `EndsAlike.bind` — what runs one after the other ends alike if its parts do
* `Coupling.agreement` — coupled runs are an agreement
* `Coupling.stepSelection_agrees` — a call that selects among the same overloads agrees
* `Coupling.body_agrees` — the body of a call agrees in the world of the call
-/

namespace Multidispatch

variable {α β : Type}

/-! ### Outcomes -/

/-- Two runs end alike: neither has an outcome, or both have the same outcome and leave machines
that are related. -/
def OutcomesAgree (after : Machine → Machine → Prop) (x y : Option (Except Fault α × Machine)) :
    Prop :=
  Option.Rel (fun p q => p.1 = q.1 ∧ after p.2 q.2) x y

theorem OutcomesAgree.mono {after after' : Machine → Machine → Prop}
    {x y : Option (Except Fault α × Machine)} (ends : OutcomesAgree after x y)
    (weaker : ∀ m n, after m n → after' m n) : OutcomesAgree after' x y := by
  cases ends with
  | none => exact .none
  | some both => exact .some ⟨both.1, weaker _ _ both.2⟩

/-- Where the second run ends, the first one ends alike. -/
theorem OutcomesAgree.exists_left {after : Machine → Machine → Prop}
    {x : Option (Except Fault α × Machine)} {outcome : Except Fault α} {n : Machine}
    (ends : OutcomesAgree after x (some (outcome, n))) :
    ∃ m, x = some (outcome, m) ∧ after m n := by
  cases ends with
  | some both =>
    rename_i result
    obtain ⟨outcome', m⟩ := result
    obtain ⟨rfl, related⟩ := both
    exact ⟨m, rfl, related⟩

/-- Where the first run ends, the second one ends alike. -/
theorem OutcomesAgree.exists_right {after : Machine → Machine → Prop}
    {y : Option (Except Fault α × Machine)} {outcome : Except Fault α} {m : Machine}
    (ends : OutcomesAgree after (some (outcome, m)) y) :
    ∃ n, y = some (outcome, n) ∧ after m n := by
  cases ends with
  | some both =>
    rename_i result
    obtain ⟨outcome', n⟩ := result
    obtain ⟨rfl, related⟩ := both
    exact ⟨n, rfl, related⟩

/-- Two runs that end alike on equal machines are the same. -/
theorem OutcomesAgree.eq {x y : Option (Except Fault α × Machine)}
    (ends : OutcomesAgree Eq x y) : x = y := by
  cases ends with
  | none => rfl
  | some both => exact congrArg some (Prod.ext both.1 both.2)

/-- The ends of a run that are not compared with those of another run: some faults, and perhaps the
lack of an outcome, for which `none` stands.  A fault that is covered stays so when it gets a
backtrace. -/
structure Excuse where
  /-- Which ends are excused. -/
  covers : Option Fault → Prop
  attach : ∀ (names : Interner) (stack : CallStack) (fault : Fault), covers (some fault) →
    covers (some (stack.attach names fault))

namespace Excuse

/-- Nothing is excused. -/
def nothing : Excuse where
  covers _ := False
  attach _ _ _ := id

/-- A run without an outcome is excused, and so are faults with some causes. -/
def unfinishedOr (causes : Cause → Prop) : Excuse where
  covers
    | none => True
    | some fault => causes fault.cause
  attach names stack fault covered := by
    simpa using covered

/-- A run without an outcome is excused. -/
def unfinished : Excuse :=
  unfinishedOr fun _ => False

end Excuse

/-- The outcome is not a value, and the excuse covers it. -/
def Excused (excuse : Excuse) : Option (Except Fault α × Machine) → Prop
  | none => excuse.covers none
  | some (.error fault, _) => excuse.covers (some fault)
  | some (.ok _, _) => False

namespace Excused

variable {excuse : Excuse} {x : EvalM α} {m : Machine}

theorem not_nothing {outcome : Option (Except Fault α × Machine)} :
    ¬ Excused .nothing outcome := by
  rcases outcome with _ | ⟨_ | _, _⟩ <;> exact id

theorem not_unfinished_some {result : Except Fault α × Machine} :
    ¬ Excused .unfinished (some result) := by
  obtain ⟨_ | _, _⟩ := result <;> exact id

/-- What goes on after an excused computation does not run. -/
theorem bind (excused : Excused excuse (x m)) (f : α → EvalM β) :
    Excused excuse ((x >>= f) m) := by
  rw [EvalM.bind_apply]
  rcases hx : x m with _ | ⟨fault | a, m'⟩
  · rwa [hx] at excused
  · rwa [hx] at excused
  · rw [hx] at excused
    exact excused.elim

theorem traced (excused : Excused excuse (x m)) (settings : Settings) :
    Excused excuse (EvalM.traced settings x m) := by
  unfold EvalM.traced
  rcases hx : x m with _ | ⟨fault | a, m'⟩
  · rwa [hx] at excused
  · rw [hx] at excused
    exact excuse.attach _ _ _ excused
  · rw [hx] at excused
    exact excused.elim

theorem protect (excused : Excused excuse (x m)) (after : Machine → Machine) :
    Excused excuse (EvalM.protect x after m) := by
  unfold EvalM.protect
  rcases hx : x m with _ | ⟨fault | a, m'⟩
  · rwa [hx] at excused
  · rwa [hx] at excused
  · rw [hx] at excused
    exact excused.elim

end Excused

/-- Two runs end alike, unless one of them is excused. -/
def EndsAlike (leftExcuse rightExcuse : Excuse) (after : Machine → Machine → Prop)
    (x y : Option (Except Fault α × Machine)) : Prop :=
  Excused leftExcuse x ∨ Excused rightExcuse y ∨ OutcomesAgree after x y

namespace EndsAlike

variable {leftExcuse rightExcuse : Excuse} {after after' : Machine → Machine → Prop}
  {x y : EvalM α} {m n : Machine}

/-- Where nothing is excused, runs end alike. -/
theorem outcomesAgree {x y : Option (Except Fault α × Machine)}
    (ends : EndsAlike .nothing .nothing after x y) : OutcomesAgree after x y :=
  (ends.resolve_left Excused.not_nothing).resolve_left Excused.not_nothing

/-- What runs one after the other ends alike if its parts do. -/
theorem bind {f g : α → EvalM β} (first : EndsAlike leftExcuse rightExcuse after (x m) (y n))
    (next : ∀ a m' n', after m' n' →
      EndsAlike leftExcuse rightExcuse after (f a m') (g a n')) :
    EndsAlike leftExcuse rightExcuse after ((x >>= f) m) ((y >>= g) n) := by
  rcases first with excused | excused | same
  · exact .inl (excused.bind f)
  · exact .inr (.inl (excused.bind g))
  · rw [EvalM.bind_apply, EvalM.bind_apply]
    generalize x m = outcome at same ⊢
    generalize y n = outcome' at same ⊢
    cases same with
    | none => exact .inr (.inr .none)
    | some both =>
      rename_i p q
      obtain ⟨result, m'⟩ := p
      obtain ⟨result', n'⟩ := q
      obtain ⟨rfl, related⟩ := both
      -- The outcomes are equal, so either both sides go on or both stop here.
      cases result with
      | ok a => exact next a m' n' related
      | error fault => exact .inr (.inr (.some ⟨rfl, related⟩))

/-- Faults get the same backtrace where the same calls are under way. -/
theorem traced {left right : Settings} (names : left.names = right.names)
    (calls : ∀ m n, after m n → m.calls = n.calls)
    (ends : EndsAlike leftExcuse rightExcuse after (x m) (y n)) :
    EndsAlike leftExcuse rightExcuse after (EvalM.traced left x m) (EvalM.traced right y n) := by
  rcases ends with excused | excused | same
  · exact .inl (excused.traced left)
  · exact .inr (.inl (excused.traced right))
  · refine .inr (.inr ?_)
    unfold EvalM.traced
    generalize x m = outcome at same ⊢
    generalize y n = outcome' at same ⊢
    cases same with
    | none => exact .none
    | some both =>
      rename_i p q
      obtain ⟨result, m'⟩ := p
      obtain ⟨result', n'⟩ := q
      obtain ⟨rfl, related⟩ := both
      cases result with
      | ok a => exact .some ⟨rfl, related⟩
      | error fault =>
        have traces : m'.calls.attach left.names fault = n'.calls.attach right.names fault := by
          rw [calls m' n' related, names]
        exact .some ⟨congrArg Except.error traces, related⟩

theorem protect {change change' : Machine → Machine}
    (ends : EndsAlike leftExcuse rightExcuse after (x m) (y n))
    (changed : ∀ m n, after m n → after' (change m) (change' n)) :
    EndsAlike leftExcuse rightExcuse after' (EvalM.protect x change m)
      (EvalM.protect y change' n) := by
  rcases ends with excused | excused | same
  · exact .inl (excused.protect change)
  · exact .inr (.inl (excused.protect change'))
  · refine .inr (.inr ?_)
    unfold EvalM.protect
    generalize x m = outcome at same ⊢
    generalize y n = outcome' at same ⊢
    cases same with
    | none => exact .none
    | some both => exact .some ⟨both.1, changed _ _ both.2⟩

end EndsAlike

/-! ### Couplings -/

/-- A relation between the machines of two runs, under the settings `left` and `right`, that
variables, values and natives respect, with what excuses the two runs. -/
structure Coupling (left right : Settings) where
  /-- What the relation is indexed by; every call may have a world of its own. -/
  World : Type
  /-- When two machines are related, in a world and in the scope in which evaluation goes on. -/
  related : World → ScopeId → Machine → Machine → Prop
  /-- What a program may do in a world. -/
  allowed : World → Action → Prop
  /-- Which functions, with which bodies, homes and arguments, may be entered in a world and from a
  scope. -/
  enterable : World → ScopeId → Overload → Block Name → ScopeId → List Value → Prop
  /-- What excuses the run on the left. -/
  leftExcuse : Excuse
  /-- What excuses the run on the right. -/
  rightExcuse : Excuse
  names_eq : left.names = right.names
  store_eq : ∀ {w s m n}, related w s m n → m.store = n.store
  calls_eq : ∀ {w s m n}, related w s m n → m.calls = n.calls
  lookup_eq : ∀ {w s m n name}, related w s m n → allowed w (.read name) →
    m.env.lookup s name = n.env.lookup s name
  /-- Natives may do to the store what they like. -/
  native : ∀ {w s m n} (store : Store), related w s m n →
    related w s { m with store } { n with store }
  assign : ∀ {w s m n name} (value : Value), related w s m n → allowed w (.assign name) →
    related w s { m with env := m.env.assign s name value }
      { n with env := n.env.assign s name value }

namespace Coupling

variable {left right : Settings} (coupling : Coupling left right)

/-- Two computations end alike on related machines. -/
def Agree (w : coupling.World) (s : ScopeId) (x y : EvalM α) : Prop :=
  ∀ m n, coupling.related w s m n →
    EndsAlike coupling.leftExcuse coupling.rightExcuse (coupling.related w s) (x m) (y n)

variable {coupling} {w : coupling.World} {s : ScopeId}

theorem agree_pure (a : α) : coupling.Agree w s (pure a) (pure a) :=
  fun _ _ related => .inr (.inr (.some ⟨rfl, related⟩))

theorem Agree.bind {x y : EvalM α} {f g : α → EvalM β} (first : coupling.Agree w s x y)
    (next : ∀ a, coupling.Agree w s (f a) (g a)) : coupling.Agree w s (x >>= f) (y >>= g) :=
  fun m n related => (first m n related).bind next

/-- Reading something that related machines have in common. -/
theorem agree_read {γ : Type} {view : Machine → γ} {f g : γ → EvalM α}
    (same : ∀ m n, coupling.related w s m n → view m = view n)
    (next : ∀ m n, coupling.related w s m n →
      EndsAlike coupling.leftExcuse coupling.rightExcuse (coupling.related w s) (f (view m) m)
        (g (view m) n)) :
    coupling.Agree w s (EvalM.read view >>= f) (EvalM.read view >>= g) := by
  intro m n related
  change EndsAlike _ _ _ (f (view m) m) (g (view n) n)
  rw [← same m n related]
  exact next m n related

theorem agree_raise (cause : Cause) :
    coupling.Agree w s (EvalM.raise left cause : EvalM α) (EvalM.raise right cause) := by
  intro m n related
  have traces : m.calls.attach left.names { cause } = n.calls.attach right.names { cause } := by
    rw [coupling.calls_eq related, coupling.names_eq]
  exact .inr (.inr (.some ⟨congrArg Except.error traces, related⟩))

theorem agree_native (run : NativeM α) :
    coupling.Agree w s (EvalM.native run) (EvalM.native run) := by
  intro m n related
  have stores := coupling.store_eq related
  obtain ⟨store, env, calls⟩ := m
  obtain ⟨_, env', calls'⟩ := n
  subst stores
  exact .inr (.inr (.some ⟨rfl, coupling.native (run store).2 related⟩))

theorem Agree.traced {x y : EvalM α} (agree : coupling.Agree w s x y) :
    coupling.Agree w s (EvalM.traced left x) (EvalM.traced right y) :=
  fun m n related => (agree m n related).traced coupling.names_eq fun _ _ => coupling.calls_eq

theorem agree_variable {name : Name} (allowed : coupling.allowed w (.read name)) :
    coupling.Agree w s (EvalM.variable left s name) (EvalM.variable right s name) := by
  refine agree_read (fun m n related => coupling.lookup_eq related allowed) fun m n related => ?_
  rw [← coupling.names_eq]
  cases m.env.lookup s name with
  | some value => exact agree_pure value m n related
  | none => exact agree_raise _ m n related

variable (coupling) in
/-- Coupled runs as an agreement. -/
def agreement : Agreement left right where
  World := coupling.World
  Agree w s := coupling.Agree w s
  allowed := coupling.allowed
  enterable := coupling.enterable
  pure := agree_pure
  bind := Agree.bind
  raise := agree_raise
  newText text := agree_native (Native.newText text)
  newVector items := agree_native (Native.newVector items)
  items ref m n related := by
    have items : m.store.heap.items ref = n.store.heap.items ref := by
      rw [coupling.store_eq related]
    exact .inr (.inr (.some ⟨congrArg Except.ok items, related⟩))
  lookup := agree_variable
  assign value allowed m n related :=
    .inr (.inr (.some ⟨rfl, coupling.assign value related allowed⟩))

/-! ### Calls -/

section Calls

variable {self other : Task.Interpretation} (respects : coupling.agreement.Respects self other)
include respects

/-- A call that selects among the same overloads agrees if every function that it may select may be
entered. -/
theorem stepSelection_agrees {name : Name} {args : List Value} {fallback : Fallback}
    {candidates : List Overload}
    (entries : ∀ callee ∈ candidates, callee.accepts args = true →
      ∀ body home, callee.body = .user body home →
        coupling.enterable w s callee body home args) :
    coupling.Agree w s (Task.stepSelection left self s name args fallback candidates)
      (Task.stepSelection right other s name args fallback candidates) := by
  unfold Task.stepSelection
  rw [← coupling.names_eq]
  cases candidates with
  | nil => exact agree_raise _
  | cons first rest =>
    simp only
    cases found : (first :: rest).find? (·.accepts args) with
    | none => exact (agree_native _).traced
    | some callee =>
      have listed := List.mem_of_find?_eq_some found
      have accepted : callee.accepts args = true := by simpa using List.find?_some found
      obtain ⟨calleeName, params, body⟩ := callee
      cases body with
      | native run => exact (agree_native (run args)).traced
      | user body home =>
        exact respects w (.invoke _ body home s args) (entries _ listed accepted body home rfl)

/-- The body of a call runs in the world of the call, which leads back to that of the caller. -/
theorem body_agrees {inner : coupling.World} {body : Block Name} {fresh : ScopeId} {m n : Machine}
    (inBody : ∀ action ∈ Block.actions body, coupling.allowed inner action)
    (entered : coupling.related inner fresh m n)
    (leaves : ∀ m' n', coupling.related inner fresh m' n' →
      coupling.related w s (m'.leave fresh) (n'.leave fresh)) :
    EndsAlike coupling.leftExcuse coupling.rightExcuse (coupling.related w s)
      (EvalM.protect (EvalM.traced left (self (.stmts fresh .void body))) (·.leave fresh) m)
      (EvalM.protect (EvalM.traced right (other (.stmts fresh .void body))) (·.leave fresh) n) := by
  have body : coupling.Agree inner fresh (self (.stmts fresh .void body))
      (other (.stmts fresh .void body)) := respects inner (.stmts fresh .void body) inBody
  exact (body.traced m n entered).protect leaves

end Calls

end Coupling

/-- The call of a selected function is refused, or its body runs on the machine after the entry. -/
theorem Task.stepInvoke_apply (settings : Settings) (self : Interpretation) (callee : Overload)
    (body : Block Name) (home caller : ScopeId) (args : List Value) (machine : Machine) :
    stepInvoke settings self callee body home caller args machine =
      match settings.refusal ⟨callee.name, args.length⟩ machine.calls machine.env.depth with
      | some fault => some (.error fault, machine)
      | none =>
        EvalM.protect (EvalM.traced settings (self (.stmts machine.env.fresh .void body)))
          (·.leave machine.env.fresh) (machine.entered settings callee home caller args) := by
  unfold stepInvoke
  rw [EvalM.bind_apply, EvalM.enter_apply]
  cases settings.refusal ⟨callee.name, args.length⟩ machine.calls machine.env.depth <;> rfl

end Multidispatch
