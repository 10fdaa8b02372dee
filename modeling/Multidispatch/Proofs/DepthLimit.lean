import Multidispatch.Proofs.Tolerance

/-!
# The limit on the depth of calls

The limit on the depth of calls shows in one way only: a call beyond it fails with a stack overflow,
and so does whatever made the call.  A run that ends in any other way is the same under every more
generous limit.

## Main definitions

* `LimitLE` — a limit is at most as generous as another

## Main statements

* `Settings.refusal_eq_none_of_le` — a call that is admitted is admitted under a more generous limit
* `depth_limit_is_transparent` — a run without a stack overflow does not depend on the limit
-/

namespace Multidispatch

/-- One limit is at most as generous as another; `none` is no limit at all. -/
def LimitLE : Option Nat → Option Nat → Prop
  | _, none => True
  | some lower, some upper => lower ≤ upper
  | none, some _ => False

/-- A frame that can be pushed under a limit can be pushed under a more generous one. -/
theorem CallStack.push_eq_ok_of_le {lower upper : Option Nat} (le : LimitLE lower upper)
    {stack entered : CallStack} {frame : Frame} (pushed : stack.push lower frame = .ok entered) :
    stack.push upper frame = .ok entered := by
  obtain ⟨rfl, room⟩ := CallStack.push_eq_ok pushed
  cases upper with
  | none => rfl
  | some max =>
    cases lower with
    | none => exact le.elim
    | some max' =>
      have below : stack.depth < max := Nat.lt_of_lt_of_le (room max' rfl) le
      simp only [CallStack.push, Nat.not_le_of_lt below, if_false]

namespace Settings

/-- Entry is refused with no other fault than a stack overflow. -/
theorem cause_of_refusal {settings : Settings} {frame : Frame} {calls : CallStack} {depth : Nat}
    {fault : Fault} (refused : settings.refusal frame calls depth = some fault) :
    ∃ limit, fault.cause = .stackOverflow limit := by
  unfold refusal at refused
  cases pushed : calls.push settings.depthLimit frame with
  | error cause =>
    rw [pushed] at refused
    cases refused
    unfold CallStack.push at pushed
    split at pushed
    · split at pushed
      · cases pushed
        exact ⟨_, CallStack.cause_attach _ _ _⟩
      · cases pushed
    · cases pushed
  | ok entered =>
    rw [pushed] at refused
    simp only at refused
    split at refused
    · cases refused
    · cases refused
      exact ⟨_, CallStack.cause_attach _ _ _⟩

/-- A call that is admitted under a limit is admitted under a more generous one. -/
theorem refusal_eq_none_of_le (settings : Settings) {lower upper : Option Nat}
    (le : LimitLE lower upper) {frame : Frame} {calls : CallStack} {depth : Nat}
    (admitted : { settings with depthLimit := lower }.refusal frame calls depth = none) :
    { settings with depthLimit := upper }.refusal frame calls depth = none := by
  unfold refusal at admitted ⊢
  cases pushed : calls.push lower frame with
  | error cause => simp [pushed] at admitted
  | ok entered =>
    rw [pushed] at admitted
    rw [CallStack.push_eq_ok_of_le le pushed]
    exact admitted

end Settings

/-- Runs under two limits are the same, unless the one under the stricter limit overflows. -/
def limitTolerance (settings : Settings) {lower upper : Option Nat} (le : LimitLE lower upper) :
    Tolerance { settings with depthLimit := lower } { settings with depthLimit := upper } where
  excuse := .unfinishedOr fun cause => ∃ limit, cause = .stackOverflow limit
  eq_but_limit := rfl
  refusals frame calls depth := by
    cases refused : { settings with depthLimit := lower }.refusal frame calls depth with
    | some fault => exact .inl ⟨fault, rfl, Settings.cause_of_refusal refused⟩
    | none => exact .inr (settings.refusal_eq_none_of_le le refused).symm

/-- An evaluation that ends under a limit on the depth of calls, with a value or with any fault but
a stack overflow, ends under every more generous limit, or without one, with the same outcome and
with the same machine. -/
theorem depth_limit_is_transparent (settings : Settings) (lower upper : Option Nat)
    (le : LimitLE lower upper) (fuel : Nat) (task : Task) (machine after : Machine)
    (outcome : Except Fault task.Result)
    (ended : task.run { settings with depthLimit := lower } fuel machine = some (outcome, after))
    (noOverflow : ∀ fault limit, outcome = .error fault → fault.cause ≠ .stackOverflow limit) :
    task.run { settings with depthLimit := upper } fuel machine = some (outcome, after) := by
  have runs := (limitTolerance settings le).run_agrees fuel task machine
  rw [ended] at runs
  refine (runs.resolve_left ?_).symm
  cases outcome with
  | ok value => exact id
  | error fault =>
    rintro ⟨limit, overflow⟩
    exact noOverflow fault limit rfl overflow

/-- A function that calls another one, which sets a variable and reads one that is not bound. -/
def nestedFunctions : List Overload :=
  [⟨⟨17⟩, [], .user [.expr (.call ⟨18⟩ [])] .global⟩,
   ⟨⟨18⟩, [], .user [.assign ⟨19⟩ (.int 7), .expr (.ident ⟨20⟩)] .global⟩]

/-- The machine on which these functions are declared, and one variable is bound. -/
def nestedMachine : Machine where
  store := { printer := .silent }
  env := ⟨#[{ bindings := [(⟨19⟩, .int 1)], overloads := nestedFunctions }]⟩
  calls := .empty

/-- Dynamic scoping, under a limit on the depth of calls. -/
def limitedSettings (limit : Option Nat) : Settings where
  names := .initial
  scoping := .dynamic
  depthLimit := limit

/-- One call at a time is not enough for the two functions.  Two are, and the fault that ends the run
then is the same without a limit, as is what the run has done before. -/
theorem depth_limit_is_transparent_nested :
    (∃ fault after, (Task.dispatch .global ⟨17⟩ [] .refuse).run (limitedSettings (some 1)) 12
        nestedMachine = some (.error fault, after) ∧ fault.cause = .stackOverflow 1) ∧
    ∃ fault after, fault.cause = .unboundVariable "" ∧
      (after.env.scope .global).bindings = [(⟨19⟩, .int 7)] ∧
      (Task.dispatch .global ⟨17⟩ [] .refuse).run (limitedSettings (some 2)) 12 nestedMachine =
        some (.error fault, after) ∧
      (Task.dispatch .global ⟨17⟩ [] .refuse).run (limitedSettings none) 12 nestedMachine =
        some (.error fault, after) := by
  constructor
  · exact ⟨_, _, rfl, rfl⟩
  · obtain ⟨fault, after, ended, cause, assigned⟩ : ∃ fault after,
        (Task.dispatch .global ⟨17⟩ [] .refuse).run (limitedSettings (some 2)) 12 nestedMachine =
          some (.error fault, after) ∧ fault.cause = .unboundVariable "" ∧
        (after.env.scope .global).bindings = [(⟨19⟩, .int 7)] := by
      refine ⟨_, _, rfl, ?_, ?_⟩ <;> rfl
    have noOverflow : ∀ fault' limit, (Except.error fault : Except Fault Value) = .error fault' →
        fault'.cause ≠ .stackOverflow limit := by
      rintro _ limit ⟨⟩ overflow
      rw [cause] at overflow
      cases overflow
    exact ⟨fault, after, cause, assigned, ended, depth_limit_is_transparent (limitedSettings none)
      (some 2) none trivial 12 _ nestedMachine after (.error fault) ended noOverflow⟩

end Multidispatch
