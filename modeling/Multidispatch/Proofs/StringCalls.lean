import Multidispatch.Proofs.EqualityLaws
import Multidispatch.Proofs.IntegerArithmetic
import Multidispatch.Proofs.NativeContract
import Multidispatch.Proofs.Occurrence

/-!
# Calls on strings

The natives that join strings, count and fetch their characters and look for one string in another
treat strings as sequences of characters, however many bytes a character takes.  Each of them is
described by what it does to the characters of its operands.  A computation that is made of them
creates strings and does nothing else, so its operands still are what they were; and two
computations that make the same characters make strings that are equal.

## Main definitions

* `Machine.Spells` — a value is a string with these characters
* `Machine.Gains` — a machine has become another by creating strings
* `Ends`, `Fails` — computations that end with a value, or fail, and create only strings
* `Makes`, `Returns`, `Equates` — a computation makes a string, returns a value, or ends as another
  one does
* `CallSite` — where calls are made, and the calls on strings from there
* `CallSite.FindsNatives` — these calls find the natives of the prelude first
* `CharacterAlgebra` — the laws of these calls

## Main statements

* `Ends.bind`, `Ends.bind_fails` — computations one after the other
* `makes_add`, `length_apply`, `isIn_apply`, `makes_charAt`, `fails_charAt` — what each of the
  natives does
* `makes_joinChars` — the characters of a string, fetched and joined one by one
* `contains_iff_surround` — what is in a string can be completed to it
* `string_calls_form_character_algebra` — all laws, for all strings
-/

namespace Multidispatch

/-! ### Strings on the machine -/

namespace Machine

/-- The machine with further strings. -/
def withTexts (machine : Machine) (added : Array String) : Machine :=
  machine.withStore { machine.store with
    heap := { machine.store.heap with texts := machine.store.heap.texts ++ added } }

/-- Strings have been created, and nothing else has changed. -/
def Gains (before after : Machine) : Prop :=
  ∃ added, after = before.withTexts added

/-- The value is a string, and this is what it says. -/
def Spells (machine : Machine) (value : Value) (text : String) : Prop :=
  ∃ ref : TextRef, value = .text ref ∧ machine.store.heap.texts[ref.index]? = some text

variable {before between after machine : Machine} {value value' : Value} {text : String}

theorem Gains.refl (machine : Machine) : machine.Gains machine :=
  ⟨#[], by rw [withTexts, Array.append_empty]; rfl⟩

theorem Gains.trans (first : before.Gains between) (second : between.Gains after) :
    before.Gains after := by
  obtain ⟨added, rfl⟩ := first
  obtain ⟨added', rfl⟩ := second
  exact ⟨added ++ added', by simp only [withTexts, withStore, Array.append_assoc]⟩

theorem Gains.env_eq (gains : before.Gains after) : after.env = before.env := by
  obtain ⟨added, rfl⟩ := gains
  rfl

theorem Gains.fault_eq (gains : before.Gains after) (settings : Settings) (cause : Cause) :
    after.fault settings cause = before.fault settings cause := by
  obtain ⟨added, rfl⟩ := gains
  rfl

/-- Strings that are created leave all others as they were. -/
theorem Spells.mono (spells : before.Spells value text) (gains : before.Gains after) :
    after.Spells value text := by
  obtain ⟨ref, rfl, found⟩ := spells
  obtain ⟨added, rfl⟩ := gains
  obtain ⟨issued, -⟩ := Array.getElem?_eq_some_iff.mp found
  exact ⟨ref, rfl, (Array.getElem?_append_left issued).trans found⟩

/-- What a string says is what the heap has for it. -/
theorem Spells.exists_ref (spells : machine.Spells value text) :
    ∃ ref, value = .text ref ∧ machine.store.heap.text ref = text := by
  obtain ⟨ref, same, found⟩ := spells
  exact ⟨ref, same, by rw [Heap.text, found, Option.getD_some]⟩

/-- Strings are equal if they say the same. -/
theorem Spells.equal_iff {text' : String} (spells : machine.Spells value text)
    (spells' : machine.Spells value' text') :
    machine.store.heap.equal value value' = true ↔ text = text' := by
  obtain ⟨ref, rfl, rfl⟩ := spells.exists_ref
  obtain ⟨ref', rfl, rfl⟩ := spells'.exists_ref
  rw [← Heap.equalTexts_eq, Heap.equalTexts, Bool.or_eq_true, beq_iff_eq, beq_iff_eq]
  refine or_iff_right_of_imp ?_
  rintro rfl
  rfl

end Machine

/-! ### Computations that create only strings -/

/-- The computation ends on the machine with a value that has a property there, and creates only
strings. -/
def Ends (machine : Machine) (x : EvalM Value) (property : Machine → Value → Prop) : Prop :=
  ∃ value after, x machine = some (.ok value, after) ∧ machine.Gains after ∧ property after value

/-- The computation fails on the machine, and creates only strings. -/
def Fails (settings : Settings) (machine : Machine) (x : EvalM Value) (cause : Cause) : Prop :=
  ∃ after, x machine = some (.error (machine.fault settings cause), after) ∧ machine.Gains after

/-- The computation makes a string that says this. -/
def Makes (machine : Machine) (x : EvalM Value) (text : String) : Prop :=
  Ends machine x fun after value => after.Spells value text

/-- The computation returns this value. -/
def Returns (machine : Machine) (x : EvalM Value) (value : Value) : Prop :=
  Ends machine x fun _ result => result = value

/-- The two computations, one after the other, end with equal values. -/
def Equates (machine : Machine) (x y : EvalM Value) : Prop :=
  Ends machine x fun between a => Ends between y fun after b => after.store.heap.equal a b = true

section Computations

variable {settings : Settings} {machine : Machine} {x y : EvalM Value} {f : Value → EvalM Value}
  {property property' : Machine → Value → Prop} {cause : Cause} {text : String} {value : Value}

theorem Ends.of_unchanged (ended : x machine = some (.ok value, machine))
    (holds : property machine value) : Ends machine x property :=
  ⟨value, machine, ended, .refl machine, holds⟩

theorem Fails.of_unchanged
    (failed : x machine = some (.error (machine.fault settings cause), machine)) :
    Fails settings machine x cause :=
  ⟨machine, failed, .refl machine⟩

theorem Ends.imp (ends : Ends machine x property)
    (implies : ∀ after value, machine.Gains after → property after value → property' after value) :
    Ends machine x property' := by
  obtain ⟨value, after, ended, gains, holds⟩ := ends
  exact ⟨value, after, ended, gains, implies after value gains holds⟩

/-- Computations one after the other. -/
theorem Ends.bind (ends : Ends machine x property)
    (next : ∀ after value, machine.Gains after → property after value →
      Ends after (f value) property') : Ends machine (x >>= f) property' := by
  obtain ⟨value, between, ended, gains, holds⟩ := ends
  obtain ⟨result, after, ended', gains', holds'⟩ := next between value gains holds
  exact ⟨result, after, by rw [EvalM.bind_apply, ended]; exact ended', gains.trans gains', holds'⟩

/-- Computations one after the other, of which the second fails. -/
theorem Ends.bind_fails (ends : Ends machine x property)
    (next : ∀ after value, machine.Gains after → property after value →
      Fails settings after (f value) cause) : Fails settings machine (x >>= f) cause := by
  obtain ⟨value, between, ended, gains, holds⟩ := ends
  obtain ⟨after, failed, gains'⟩ := next between value gains holds
  refine ⟨after, ?_, gains.trans gains'⟩
  rw [EvalM.bind_apply, ended, ← gains.fault_eq]
  exact failed

/-- What follows a computation that fails is not run. -/
theorem Fails.bind (fails : Fails settings machine x cause) :
    Fails settings machine (x >>= f) cause := by
  obtain ⟨after, failed, gains⟩ := fails
  exact ⟨after, by rw [EvalM.bind_apply, failed], gains⟩

/-- A computation that creates one string makes it. -/
theorem Makes.of_newText (created : x machine = some (.ok (machine.store.heap.newText text).1,
    machine.withStore { machine.store with heap := (machine.store.heap.newText text).2 })) :
    Makes machine x text := by
  refine ⟨_, _, created, ⟨#[text], ?_⟩, _, rfl, Array.getElem?_push_size⟩
  rw [Machine.withTexts, Heap.newText, ← Array.push_eq_append]

/-- A value that is there is made by returning it. -/
theorem Makes.pure (spells : machine.Spells value text) : Makes machine (pure value) text :=
  .of_unchanged rfl spells

/-- Computations that make the same are equal. -/
theorem Makes.equates (makes : Makes machine x text)
    (makes' : ∀ after, machine.Gains after → Makes after y text) : Equates machine x y :=
  makes.imp fun between _ gains spells => (makes' between gains).imp fun _ _ gains' spells' =>
    ((spells.mono gains').equal_iff spells').mpr rfl

/-- Computations that are equal, and one of which makes a string, make the same. -/
theorem Equates.text_eq {text' : String} (equates : Equates machine x y)
    (makes : Makes machine x text) (makes' : ∀ after, machine.Gains after → Makes after y text') :
    text = text' := by
  obtain ⟨a, between, ended, gains, b, after, ended', gains', equal⟩ := equates
  obtain ⟨_, _, again, -, spells⟩ := makes
  obtain ⟨rfl, rfl⟩ : a = _ ∧ between = _ := by simpa using ended.symm.trans again
  obtain ⟨_, _, again', -, spells'⟩ := makes' between gains
  obtain ⟨rfl, rfl⟩ : b = _ ∧ after = _ := by simpa using ended'.symm.trans again'
  exact ((spells.mono gains').equal_iff spells').mp equal

/-- Computations that return the same integer are equal. -/
theorem Returns.equates {n : Int64} (returns : Returns machine x (.int n))
    (returns' : ∀ after, machine.Gains after → Returns after y (.int n)) :
    Equates machine x y := by
  refine returns.imp fun between _ gains same => (returns' between gains).imp ?_
  rintro after _ - rfl
  rw [same, Heap.equal_iff_matches]
  exact rfl

end Computations

/-! ### Calls -/

/-- The functions that are called on strings, and on their lengths. -/
def stringCalls : List String :=
  [ArithOp.add.call, ArithOp.sub.call, "length", indexCall, memberCall]

/-- Where calls are made: under which settings, with how much fuel and in which scope. -/
structure CallSite where
  settings : Settings
  fuel : Nat
  scope : ScopeId

namespace CallSite

variable (here : CallSite)

/-- Calls a function by the spelling of its name. -/
def call (spelling : String) (args : List Value) : EvalM Value :=
  callBySpelling here.settings (here.fuel + 1) here.scope spelling args

/-- The literal of a string. -/
def literal (text : String) : EvalM Value :=
  evalExpr here.settings (here.fuel + 1) here.scope (.text text)

/-- The call `a + b`. -/
def add (a b : Value) : EvalM Value :=
  here.call ArithOp.add.call [a, b]

/-- The call `a - b`. -/
def sub (a b : Value) : EvalM Value :=
  here.call ArithOp.sub.call [a, b]

/-- The call `length(s)`. -/
def length (s : Value) : EvalM Value :=
  here.call "length" [s]

/-- The call `s[i]`. -/
def charAt (s i : Value) : EvalM Value :=
  here.call indexCall [s, i]

/-- The call `part in whole`. -/
def isIn (part whole : Value) : EvalM Value :=
  here.call memberCall [whole, part]

/-- Fetches the characters of a string at the first positions, and joins them one by one. -/
def joinChars (s : Value) : Nat → EvalM Value
  | 0 => here.literal ""
  | count + 1 => do
    let joined ← joinChars s count
    let c ← here.charAt s (.int (Int64.ofNat (count + 1)))
    here.add joined c

/-- Joins a string to what comes before and after it. -/
def surround (front : String) (u : Value) (back : String) : EvalM Value := do
  let p ← here.literal front
  let q ← here.literal back
  let begun ← here.add p u
  here.add begun q

/-- The calls on strings find the natives of the prelude first. -/
def FindsNatives (machine : Machine) : Prop :=
  ∀ spelling ∈ stringCalls, Prelude.First here.settings machine.env here.scope spelling

theorem makes_literal (machine : Machine) (text : String) :
    Makes machine (here.literal text) text :=
  .of_newText rfl

end CallSite

/-- There is a character at each position within a string. -/
theorem Text.exists_char {a : String} {i : Int64} (positive : 1 ≤ i.toInt)
    (within : i.toInt ≤ a.length) : ∃ char, a.toList[(i.toInt - 1).toNat]? = some char := by
  have inside : (i.toInt - 1).toNat < a.toList.length := by
    rw [String.length_toList]
    omega
  exact ⟨_, List.getElem?_eq_getElem inside⟩

theorem Text.ofList_take_succ {cs : List Char} {count : Nat} {char : Char}
    (found : cs[count]? = some char) :
    String.ofList (cs.take count) ++ .singleton char = .ofList (cs.take (count + 1)) := by
  refine String.ext ?_
  rw [List.take_add_one, found]
  simp

namespace CallSite.FindsNatives

variable {here : CallSite} {machine after : Machine} {s t u : Value} {a b c : String}

theorem mono (finds : here.FindsNatives machine) (gains : machine.Gains after) :
    here.FindsNatives after := by
  intro spelling among
  rw [gains.env_eq]
  exact finds spelling among

/-- A call does what the native does that the prelude has for it. -/
theorem call_apply (finds : here.FindsNatives machine) {spelling : String}
    (among : spelling ∈ stringCalls) {args : List Value} {entry : Entry}
    (selected : Prelude.select spelling args = some entry) {outcome : Except Fault Value}
    {store : Store} (ends : entry.run args machine.store = (outcome, store)) :
    here.call spelling args machine =
      some (outcome.mapError (machine.calls.attach here.settings.names),
        machine.withStore store) := by
  rw [call, callBySpelling_of_first (finds spelling among) selected, ends]

/-- A call whose native only reads the store leaves the machine as it is. -/
theorem call_reads (finds : here.FindsNatives machine) {spelling : String}
    (among : spelling ∈ stringCalls) {args : List Value} {entry : Entry}
    (selected : Prelude.select spelling args = some entry) {outcome : Except Cause Value}
    (reads : entry.run args machine.store =
      (outcome.mapError fun cause => { cause }, machine.store)) :
    here.call spelling args machine =
      some (outcome.mapError (machine.fault here.settings), machine) := by
  rw [finds.call_apply among selected reads]
  cases outcome <;> rfl

/-! ### What each of the natives does -/

/-- Joining strings makes the characters of the first and then those of the second. -/
theorem makes_add (finds : here.FindsNatives machine) (first : machine.Spells s a)
    (second : machine.Spells t b) : Makes machine (here.add s t) (a ++ b) := by
  obtain ⟨ref, rfl, rfl⟩ := first.exists_ref
  obtain ⟨ref', rfl, rfl⟩ := second.exists_ref
  have selected : Prelude.select ArithOp.add.call [.text ref, .text ref'] =
      some ⟨ArithOp.add.call, [Kind.string, Kind.string], Arithmetic.concat⟩ := rfl
  exact .of_newText (finds.call_apply (by simp [stringCalls]) selected rfl)

/-- Sums and differences of integers are the exact ones. -/
theorem arith_apply (finds : here.FindsNatives machine) {op : ArithOp} (among : op ∈ [.add, .sub])
    (m n : Int64) : here.call op.call [.int m, .int n] machine =
      some ((op.ints m n).mapError (machine.fault here.settings), machine) := by
  refine finds.call_reads ?_ (op.select_ints m n) (op.apply_ints m n machine.store)
  revert op
  decide

/-- A sum or a difference that is an integer is returned. -/
theorem returns_arith (finds : here.FindsNatives machine) {op : ArithOp} (among : op ∈ [.add, .sub])
    {m n k : Int64} (exact : op.exact m.toInt n.toInt = k.toInt) :
    Returns machine (here.call op.call [.int m, .int n]) (.int k) := by
  have defined : ¬(op = .div ∧ n = 0) := by
    rintro ⟨rfl, -⟩
    exact absurd among (by decide)
  obtain ⟨k', same, computed⟩ := ArithOp.ints_of_fits defined (exact ▸ Integer.fits_toInt k)
  obtain rfl : k' = k := Int64.toInt_inj.mp (same.trans exact)
  refine .of_unchanged ?_ rfl
  rw [finds.arith_apply among, computed]
  rfl

/-- A sum that is no integer overflows. -/
theorem fails_add (finds : here.FindsNatives machine) {m n : Int64}
    (beyond : ¬Integer.Fits (m.toInt + n.toInt)) :
    Fails here.settings machine (here.add (.int m) (.int n)) (.integerOverflow "addition") := by
  have overflows := @ArithOp.ints_of_not_fits .add m n nofun beyond
  refine .of_unchanged ((finds.arith_apply (by simp) m n).trans ?_)
  rw [overflows]
  rfl

/-- The length of a string is the number of its characters. -/
theorem length_apply (finds : here.FindsNatives machine) (spells : machine.Spells s a) :
    here.length s machine =
      some ((lengthValue a.length).mapError (machine.fault here.settings), machine) := by
  obtain ⟨ref, rfl, rfl⟩ := spells.exists_ref
  have selected : Prelude.select "length" [.text ref] =
      some ⟨"length", [Kind.string], Collection.length⟩ := rfl
  refine finds.call_reads (by simp [stringCalls]) selected ?_
  show Native.ofExcept (lengthValue (machine.store.heap.text ref).length) machine.store = _
  cases lengthValue (machine.store.heap.text ref).length <;> rfl

/-- Membership is occurrence. -/
theorem isIn_apply (finds : here.FindsNatives machine) (part : machine.Spells u c)
    (whole : machine.Spells s a) :
    here.isIn u s machine = some (.ok (.bool (Text.contains a c)), machine) := by
  obtain ⟨ref, rfl, rfl⟩ := part.exists_ref
  obtain ⟨ref', rfl, rfl⟩ := whole.exists_ref
  have selected : Prelude.select memberCall [.text ref', .text ref] =
      some ⟨memberCall, [Kind.string, Kind.string], Collection.contains⟩ := rfl
  exact finds.call_apply (by simp [stringCalls]) selected rfl

/-- A position within a string has a character, which is made into a string. -/
theorem makes_charAt (finds : here.FindsNatives machine) (spells : machine.Spells s a) {i : Int64}
    {char : Char} (positive : 1 ≤ i.toInt) (found : a.toList[(i.toInt - 1).toNat]? = some char) :
    Makes machine (here.charAt s (.int i)) (.singleton char) := by
  obtain ⟨ref, rfl, rfl⟩ := spells.exists_ref
  have selected : Prelude.select indexCall [.text ref, .int i] =
      some ⟨indexCall, [Kind.string, Kind.integer], Collection.elementAt⟩ := rfl
  obtain ⟨inside, -⟩ := List.getElem?_eq_some_iff.mp found
  have located : (Collection.position? i (machine.store.heap.text ref).toList.length).bind
      ((machine.store.heap.text ref).toList[·]?) = some char := by
    rw [Collection.position?, if_pos ⟨positive, by omega⟩, Option.bind_some, found]
  have ended : Collection.elementAt [.text ref, .int i] machine.store =
      Native.newText (.singleton char) machine.store := by
    simp only [Collection.elementAt, NativeM.heap_bind_apply, located]
  exact .of_newText (finds.call_apply (by simp [stringCalls]) selected ended)

/-- There is no character beyond the ends of a string. -/
theorem fails_charAt (finds : here.FindsNatives machine) (spells : machine.Spells s a) {i : Int64}
    (outside : ¬(1 ≤ i.toInt ∧ i.toInt ≤ a.length)) :
    Fails here.settings machine (here.charAt s (.int i)) (.indexOutOfBounds i.toInt a.length) := by
  obtain ⟨ref, rfl, rfl⟩ := spells.exists_ref
  have selected : Prelude.select indexCall [.text ref, .int i] =
      some ⟨indexCall, [Kind.string, Kind.integer], Collection.elementAt⟩ := rfl
  have missing : (Collection.position? i (machine.store.heap.text ref).length).bind
      ((machine.store.heap.text ref).toList[·]?) = none := by
    rw [Collection.position?, if_neg outside, Option.bind_none]
  have ended : Collection.elementAt [.text ref, .int i] machine.store =
      (.error { cause := .indexOutOfBounds i.toInt (machine.store.heap.text ref).length },
        machine.store) := by
    simp only [Collection.elementAt, NativeM.heap_bind_apply, String.length_toList, missing]
    rfl
  exact .of_unchanged (finds.call_apply (by simp [stringCalls]) selected ended)

/-! ### Lengths -/

/-- A length that is an integer is returned. -/
theorem returns_length (finds : here.FindsNatives machine) (spells : machine.Spells s a)
    {n : Int64} (counted : n.toInt = a.length) : Returns machine (here.length s) (.int n) := by
  have found : lengthValue a.length = .ok (.int n) := by
    rw [lengthValue, ← counted, Integer.ofInt?_toInt]
  refine .of_unchanged ?_ rfl
  rw [finds.length_apply spells, found]
  rfl

/-- A length that is no integer is refused. -/
theorem fails_length (finds : here.FindsNatives machine) (spells : machine.Spells s a)
    (beyond : 2 ^ 63 ≤ a.length) :
    Fails here.settings machine (here.length s) (.integerOverflow "length") := by
  have outside : ¬Integer.Fits a.length := fun fits => by
    have high := fits.2
    omega
  have refused : lengthValue a.length = .error (.integerOverflow "length") := by
    rw [lengthValue, Integer.ofInt?_of_not_fits outside]
  refine .of_unchanged ?_
  rw [finds.length_apply spells, refused]
  rfl

/-! ### Characters one by one -/

/-- The characters of a string at the first positions, fetched and joined one by one, are the
beginning of the string. -/
theorem makes_joinChars (finds : here.FindsNatives machine) (spells : machine.Spells s a)
    (fits : a.length < 2 ^ 63) {count : Nat} (within : count ≤ a.length) :
    Makes machine (here.joinChars s count) (.ofList (a.toList.take count)) := by
  -- The strings created on the way leave `s` as it is, so its characters can be fetched at any time.
  induction count with
  | zero => exact here.makes_literal _ ""
  | succ count ih =>
    have inside : count < a.toList.length := by rwa [String.length_toList]
    have position : (Int64.ofNat (count + 1)).toInt = (count + 1 : Nat) :=
      Int64.toInt_ofNat_of_lt (by omega)
    have offset : ((Int64.ofNat (count + 1)).toInt - 1).toNat = count := by omega
    have found : a.toList[((Int64.ofNat (count + 1)).toInt - 1).toNat]? = some a.toList[count] := by
      rw [offset, List.getElem?_eq_getElem inside]
    refine (ih (by omega)).bind fun between joined gains begun => ?_
    refine ((finds.mono gains).makes_charAt (spells.mono gains) (by omega) found).bind ?_
    intro after char gains' fetched
    have added := ((finds.mono gains).mono gains').makes_add (begun.mono gains') fetched
    rwa [Text.ofList_take_succ (List.getElem?_eq_getElem inside)] at added

/-- A string with something before it and something after it. -/
theorem makes_surround (finds : here.FindsNatives machine) (spells : machine.Spells u c)
    (front back : String) :
    Makes machine (here.surround front u back) (front ++ c ++ back) := by
  refine (here.makes_literal _ front).bind fun first p gains begun => ?_
  refine (here.makes_literal _ back).bind fun second q gains' ending => ?_
  have finds' := (finds.mono gains).mono gains'
  refine (finds'.makes_add (begun.mono gains') ((spells.mono gains).mono gains')).bind ?_
  intro third joined gains'' spells'
  exact (finds'.mono gains'').makes_add spells' (ending.mono gains'')

/-! ### Joined strings -/

/-- The two lengths of strings, added. -/
theorem returns_add_lengths (finds : here.FindsNatives machine) (first : machine.Spells s a)
    (second : machine.Spells t b) {n : Int64} (total : n.toInt = a.length + b.length) :
    Returns machine (do here.add (← here.length s) (← here.length t)) (.int n) := by
  have high := n.toInt_lt
  obtain ⟨m, counted⟩ := @Integer.exists_of_lt a.length (by omega)
  obtain ⟨k, counted'⟩ := @Integer.exists_of_lt b.length (by omega)
  refine (finds.returns_length first counted).bind ?_
  rintro between _ gains rfl
  have finds' := finds.mono gains
  refine (finds'.returns_length (second.mono gains) counted').bind ?_
  rintro after _ gains' rfl
  refine (finds'.mono gains').returns_arith (by simp) ?_
  show m.toInt + k.toInt = n.toInt
  omega

/-- Two lengths of strings whose sum is no integer are not added. -/
theorem fails_add_lengths (finds : here.FindsNatives machine) (first : machine.Spells s a)
    (second : machine.Spells t b) (beyond : 2 ^ 63 ≤ a.length + b.length) :
    ∃ word, Fails here.settings machine (do here.add (← here.length s) (← here.length t))
      (.integerOverflow word) := by
  -- One of the lengths may be too large by itself.
  by_cases fits : a.length < 2 ^ 63
  · obtain ⟨m, counted⟩ := Integer.exists_of_lt fits
    have returns := finds.returns_length first counted
    by_cases fits' : b.length < 2 ^ 63
    · obtain ⟨k, counted'⟩ := Integer.exists_of_lt fits'
      refine ⟨"addition", returns.bind_fails ?_⟩
      rintro between _ gains rfl
      refine ((finds.mono gains).returns_length (second.mono gains) counted').bind_fails ?_
      rintro after _ gains' rfl
      refine ((finds.mono gains).mono gains').fails_add fun inside => ?_
      have high := inside.2
      omega
    · refine ⟨"length", returns.bind_fails fun between _ gains _ => .bind ?_⟩
      exact (finds.mono gains).fails_length (second.mono gains) (by omega)
  · exact ⟨"length", (finds.fails_length first (by omega)).bind⟩

/-- A character of two strings joined. -/
theorem makes_charAt_add (finds : here.FindsNatives machine) (first : machine.Spells s a)
    (second : machine.Spells t b) {i : Int64} {char : Char} (positive : 1 ≤ i.toInt)
    (found : (a.toList ++ b.toList)[(i.toInt - 1).toNat]? = some char) :
    Makes machine (do here.charAt (← here.add s t) (.int i)) (.singleton char) := by
  refine (finds.makes_add first second).bind fun after joined gains spells => ?_
  refine (finds.mono gains).makes_charAt spells positive ?_
  rwa [String.toList_append]

/-- A character of the first of two strings is at the same place when they are joined. -/
theorem equates_charAt_left (finds : here.FindsNatives machine) (first : machine.Spells s a)
    (second : machine.Spells t b) {i : Int64} (positive : 1 ≤ i.toInt)
    (within : i.toInt ≤ a.length) :
    Equates machine (do here.charAt (← here.add s t) (.int i)) (here.charAt s (.int i)) := by
  obtain ⟨char, found⟩ := Text.exists_char positive within
  obtain ⟨inside, -⟩ := List.getElem?_eq_some_iff.mp found
  have makes := finds.makes_charAt_add first second positive
    ((List.getElem?_append_left inside).trans found)
  refine makes.equates fun after gains => ?_
  exact (finds.mono gains).makes_charAt (first.mono gains) positive found

/-- The character of a string at a position that is counted from the beginning of another one in
front of it. -/
theorem makes_charAt_sub (finds : here.FindsNatives machine) (first : machine.Spells s a)
    (second : machine.Spells t b) {i j : Int64} {char : Char} (same : j.toInt = i.toInt - a.length)
    (positive : 1 ≤ j.toInt) (found : b.toList[(j.toInt - 1).toNat]? = some char) :
    Makes machine (do here.charAt t (← here.sub (.int i) (← here.length s)))
      (.singleton char) := by
  have high := i.toInt_lt
  obtain ⟨n, counted⟩ := @Integer.exists_of_lt a.length (by omega)
  refine (finds.returns_length first counted).bind ?_
  rintro between _ gains rfl
  have exact : ArithOp.sub.exact i.toInt n.toInt = j.toInt := by
    show i.toInt - n.toInt = j.toInt
    omega
  refine ((finds.mono gains).returns_arith (by simp) exact).bind ?_
  rintro after _ gains' rfl
  have gained := gains.trans gains'
  exact (finds.mono gained).makes_charAt (second.mono gained) positive found

/-- A character of the second of two strings is behind the first when they are joined. -/
theorem equates_charAt_right (finds : here.FindsNatives machine) (first : machine.Spells s a)
    (second : machine.Spells t b) {i : Int64} (behind : a.length < i.toInt)
    (within : i.toInt ≤ a.length + b.length) :
    Equates machine (do here.charAt (← here.add s t) (.int i))
      (do here.charAt t (← here.sub (.int i) (← here.length s))) := by
  have high := i.toInt_lt
  obtain ⟨j, same⟩ : ∃ j : Int64, j.toInt = i.toInt - a.length :=
    ⟨Int64.ofInt (i.toInt - a.length), Int64.toInt_ofInt_of_le (by omega) (by omega)⟩
  have positive : 1 ≤ j.toInt := by omega
  obtain ⟨char, found⟩ := @Text.exists_char b j positive (by omega)
  have found' : (a.toList ++ b.toList)[(i.toInt - 1).toNat]? = some char := by
    have offset : (i.toInt - 1).toNat - a.toList.length = (j.toInt - 1).toNat := by
      rw [String.length_toList]
      omega
    rw [List.getElem?_append_right (by rw [String.length_toList]; omega), offset, found]
  have makes := finds.makes_charAt_add first second (by omega) found'
  refine makes.equates fun after gains => ?_
  exact (finds.mono gains).makes_charAt_sub (first.mono gains) (second.mono gains) same positive
    found

/-! ### Membership -/

/-- What is asked for is in a string if it occurs there. -/
theorem returns_isIn (finds : here.FindsNatives machine) (part : machine.Spells u c)
    (whole : machine.Spells s a) (occurs : Text.contains a c = true) :
    Returns machine (here.isIn u s) (.bool true) := by
  refine .of_unchanged (finds.isIn_apply part whole) ?_
  rw [occurs]

/-- A string is in those that equal it with something before it and something after it. -/
theorem contains_iff_surround (finds : here.FindsNatives machine) (part : machine.Spells u c)
    (whole : machine.Spells s a) :
    Text.contains a c = true ↔ ∃ p q, Equates machine (here.surround p u q) (pure s) := by
  have kept : ∀ after, machine.Gains after → Makes after (pure s) a := fun after gains =>
    .pure (whole.mono gains)
  rw [Text.contains_iff_exists]
  refine exists_congr fun p => exists_congr fun q => ?_
  have makes := finds.makes_surround part p q
  constructor
  · rintro rfl
    exact makes.equates kept
  · intro equates
    exact equates.text_eq makes kept

end CallSite.FindsNatives

/-! ### The laws -/

/-- The laws of the calls on strings, for three strings and what they say. -/
structure CharacterAlgebra (here : CallSite) (machine : Machine) (s t u : Value) (a b c : String) :
    Prop where
  /-- The length is the number of characters. -/
  length : a.length < 2 ^ 63 →
    ∃ n : Int64, n.toInt = a.length ∧ Returns machine (here.length s) (.int n)
  /-- Only a number that is no integer is refused. -/
  length_refused : 2 ^ 63 ≤ a.length →
    Fails here.settings machine (here.length s) (.integerOverflow "length")
  length_add : a.length + b.length < 2 ^ 63 →
    Equates machine (do here.length (← here.add s t))
      (do here.add (← here.length s) (← here.length t))
  /-- Where the two lengths cannot be added, the joined string has no length either. -/
  length_add_refused : 2 ^ 63 ≤ a.length + b.length →
    Fails here.settings machine (do here.length (← here.add s t)) (.integerOverflow "length") ∧
    ∃ word, Fails here.settings machine (do here.add (← here.length s) (← here.length t))
      (.integerOverflow word)
  /-- Positions count characters from one. -/
  charAt : ∀ i : Int64, 1 ≤ i.toInt → i.toInt ≤ a.length →
    ∃ char, a.toList[(i.toInt - 1).toNat]? = some char ∧
      Makes machine (here.charAt s (.int i)) (.singleton char)
  charAt_left : ∀ i : Int64, 1 ≤ i.toInt → i.toInt ≤ a.length →
    Equates machine (do here.charAt (← here.add s t) (.int i)) (here.charAt s (.int i))
  charAt_right : ∀ i : Int64, a.length < i.toInt → i.toInt ≤ a.length + b.length →
    Equates machine (do here.charAt (← here.add s t) (.int i))
      (do here.charAt t (← here.sub (.int i) (← here.length s)))
  charAt_outside : ∀ i : Int64, ¬(1 ≤ i.toInt ∧ i.toInt ≤ a.length + b.length) →
    Fails here.settings machine (do here.charAt (← here.add s t) (.int i))
      (.indexOutOfBounds i.toInt (a.length + b.length))
  /-- A string is made of the characters at the positions up to its length. -/
  joinChars : a.length < 2 ^ 63 → ∃ n : Int64, Returns machine (here.length s) (.int n) ∧
    Equates machine (here.joinChars s n.toInt.toNat) (pure s)
  add_assoc : Equates machine (do here.add (← here.add s t) u) (do here.add s (← here.add t u))
  add_empty : ∀ e, machine.Spells e "" → Equates machine (here.add s e) (pure s)
  empty_add : ∀ e, machine.Spells e "" → Equates machine (here.add e s) (pure s)
  /-- What is in a string can be completed to it, and its bytes are among those of the string. -/
  isIn : ∃ answer, here.isIn u s machine = some (.ok (.bool answer), machine) ∧
    (answer = true ↔ ∃ p q, Equates machine (here.surround p u q) (pure s)) ∧
    (answer = true ↔ Text.bytes c <:+: Text.bytes a)
  empty_isIn : ∀ e, machine.Spells e "" → Returns machine (here.isIn e s) (.bool true)
  charAt_isIn : ∀ i : Int64, 1 ≤ i.toInt → i.toInt ≤ a.length →
    Returns machine (do here.isIn (← here.charAt s (.int i)) s) (.bool true)

/-- Wherever they are found first, the natives of the prelude on strings form an algebra of
characters, for all strings and whatever bytes their characters take.  Lengths add up when strings
are joined, and characters keep their order; positions beyond the joined string are refused.  The
characters of a string, joined one by one, give it back.  Joining is associative, and the empty
string is neutral.  A string is in another if and only if something can be joined to it on both
sides to give the other; so the empty string and all characters of a string are in it. -/
theorem string_calls_form_character_algebra {here : CallSite} {machine : Machine}
    (finds : here.FindsNatives machine) {s t u : Value} {a b c : String}
    (first : machine.Spells s a) (second : machine.Spells t b) (third : machine.Spells u c) :
    CharacterAlgebra here machine s t u a b c := by
  have kept : ∀ after, machine.Gains after → Makes after (pure s) a := fun after gains =>
    .pure (first.mono gains)
  have joined := finds.makes_add first second
  constructor
  case length =>
    intro fits
    obtain ⟨n, counted⟩ := Integer.exists_of_lt fits
    exact ⟨n, counted, finds.returns_length first counted⟩
  case length_add =>
    intro fits
    obtain ⟨n, total⟩ := Integer.exists_of_lt fits
    have returns : Returns machine (do here.length (← here.add s t)) (.int n) := by
      refine joined.bind fun after value gains spells => ?_
      exact (finds.mono gains).returns_length spells (by rw [total, String.length_append])
    refine returns.equates fun after gains => ?_
    exact (finds.mono gains).returns_add_lengths (first.mono gains) (second.mono gains)
      (by rw [total, Nat.cast_add])
  case length_refused => exact fun beyond => finds.fails_length first beyond
  case length_add_refused =>
    intro beyond
    refine ⟨joined.bind_fails fun after value gains spells => ?_,
      finds.fails_add_lengths first second beyond⟩
    exact (finds.mono gains).fails_length spells (by rwa [String.length_append])
  case charAt =>
    intro i positive within
    obtain ⟨char, found⟩ := Text.exists_char positive within
    exact ⟨char, found, finds.makes_charAt first positive found⟩
  case charAt_left =>
    exact fun i positive within => finds.equates_charAt_left first second positive within
  case charAt_right =>
    exact fun i behind within => finds.equates_charAt_right first second behind within
  case charAt_outside =>
    intro i outside
    refine joined.bind_fails fun after value gains spells => ?_
    rw [← String.length_append]
    exact (finds.mono gains).fails_charAt spells (by rwa [String.length_append, Nat.cast_add])
  case joinChars =>
    intro fits
    obtain ⟨n, counted⟩ := Integer.exists_of_lt fits
    have makes := finds.makes_joinChars first fits (Nat.le_refl _)
    rw [← String.length_toList, List.take_length, String.ofList_toList, String.length_toList]
      at makes
    refine ⟨n, finds.returns_length first counted, ?_⟩
    rw [counted, Int.toNat_natCast]
    exact makes.equates kept
  case add_assoc =>
    have makes : Makes machine (do here.add (← here.add s t) u) (a ++ b ++ c) :=
      joined.bind fun after value gains spells =>
        (finds.mono gains).makes_add spells (third.mono gains)
    refine makes.equates fun after gains => ?_
    rw [String.append_assoc]
    have finds' := finds.mono gains
    refine (finds'.makes_add (second.mono gains) (third.mono gains)).bind ?_
    intro later value gains' spells
    exact (finds'.mono gains').makes_add ((first.mono gains).mono gains') spells
  case add_empty =>
    intro e empty
    have makes := finds.makes_add first empty
    rw [String.append_empty] at makes
    exact makes.equates kept
  case empty_add =>
    intro e empty
    have makes := finds.makes_add empty first
    rw [String.empty_append] at makes
    exact makes.equates kept
  case isIn =>
    exact ⟨_, finds.isIn_apply third first, finds.contains_iff_surround third first,
      Text.contains_iff_bytes⟩
  case empty_isIn =>
    intro e empty
    exact finds.returns_isIn empty first (Text.contains_iff_exists.mpr ⟨"", a, by simp⟩)
  case charAt_isIn =>
    intro i positive within
    obtain ⟨char, found⟩ := Text.exists_char positive within
    refine (finds.makes_charAt first positive found).bind fun after value gains spells => ?_
    exact (finds.mono gains).returns_isIn spells (first.mono gains)
      (Text.contains_singleton (List.mem_of_getElem? found))

/-- Of two strings in which most characters take several bytes, the first has three characters.
Joined, they have five: the fifth one is the second one of the second string, and there is no
sixth. -/
theorem string_calls_form_character_algebra_several_bytes :
    ∃ interpreter, Interpreter.build { mode := .test } = .ok interpreter ∧
      let store : Store := ⟨⟨#["日本é", "né", "本"], #[]⟩, .emptyBuffer⟩
      let machine := interpreter.machine.withStore store
      let here : CallSite := ⟨interpreter.settings, 0, .global⟩
      let s : Value := .text ⟨0⟩
      let t : Value := .text ⟨1⟩
      here.FindsNatives machine ∧ machine.Spells s "日本é" ∧ machine.Spells t "né" ∧
      machine.Spells (.text ⟨2⟩) "本" ∧
      (∃ n : Int64, n.toInt = 3 ∧ Returns machine (here.length s) (.int n)) ∧
      Equates machine (do here.charAt (← here.add s t) (.int 5))
        (do here.charAt t (← here.sub (.int 5) (← here.length s))) ∧
      Fails here.settings machine (do here.charAt (← here.add s t) (.int 6))
        (.indexOutOfBounds 6 5) ∧
      here.isIn (.text ⟨2⟩) s machine = some (.ok (.bool true), machine) := by
  obtain ⟨interpreter, built, -, only⟩ := Prelude.exists_interpreter .test .dynamic
  refine ⟨interpreter, built, ?_⟩
  intro store machine here s t
  have finds : here.FindsNatives machine := by
    intro spelling among
    refine (only spelling ?_).first
    revert spelling
    decide
  have first : machine.Spells s "日本é" := ⟨⟨0⟩, rfl, rfl⟩
  have second : machine.Spells t "né" := ⟨⟨1⟩, rfl, rfl⟩
  have third : machine.Spells (.text ⟨2⟩) "本" := ⟨⟨2⟩, rfl, rfl⟩
  have algebra := string_calls_form_character_algebra finds first second third
  obtain ⟨answer, asked, -, bytes⟩ := algebra.isIn
  rw [bytes.mpr (by decide)] at asked
  exact ⟨finds, first, second, third, algebra.length (by decide),
    algebra.charAt_right 5 (by decide) (by decide), algebra.charAt_outside 6 (by decide), asked⟩

end Multidispatch
