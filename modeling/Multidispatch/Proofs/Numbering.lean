import Mathlib.Data.List.Forall2
import Mathlib.Logic.Relation
import Multidispatch.Interpreter

/-!
# Numbering identifiers

A table of names only grows, and a spelling keeps the number that it has got.  So the names in a
numbered program are those that the table gives to the identifiers of the source, also in every table
into which it grows later.

Two trees are alike if they differ in their identifiers only, and these are related.  A source and its
numbered form are alike; so are two numbered forms of one source.

## Main definitions

* `Interner.GrowsTo` — a table results from another one by interning
* `Interner.Numbers` — the number that a table gives to a spelling
* `InternM.Ensures` — what a computation ends with, in view of the table at its end and all later ones
* `Expr.Alike`, `Stmt.Alike`, `Block.Alike` — trees that differ in their identifiers only

## Main statements

* `Interner.get?_of_prefix` — a spelling keeps its number
* `Block.intern_ensures` — a source and its numbered form are alike
* `Block.Alike.join` — two numbered forms of one source are alike
-/

namespace Multidispatch

/-! ### Growing tables -/

namespace Interner

variable {names later : Interner} {spelling : String} {name : Name}

/-- A table results from another one by interning spellings, one after the other. -/
def GrowsTo : Interner → Interner → Prop :=
  Relation.ReflTransGen fun names later =>
    ∃ spelling name, intern spelling names = .ok (name, later)

/-- The number that a table gives to a spelling. -/
def Numbers (names : Interner) (spelling : String) (name : Name) : Prop :=
  names.get? spelling = some name

/-- A spelling keeps its number when the table grows. -/
theorem get?_of_prefix (grown : names.spellings <+: later.spellings)
    (known : names.get? spelling = some name) : later.get? spelling = some name := by
  obtain ⟨added, extended⟩ := grown
  obtain ⟨i, position, rfl⟩ := Option.map_eq_some_iff.mp known
  refine Option.map_eq_some_iff.mpr ⟨i, ?_, rfl⟩
  rw [← extended, List.idxOf?, List.findIdx?_append]
  rw [List.idxOf?] at position
  rw [position]
  rfl

/-- Interning adds to the table, if anything, at its end. -/
theorem prefix_of_intern (interned : intern spelling names = .ok (name, later)) :
    names.spellings <+: later.spellings := by
  unfold intern at interned
  split at interned
  · cases interned
    exact List.prefix_refl _
  · split at interned
    · cases interned
      exact List.prefix_append _ _
    · cases interned

/-- The table at the end knows the spelling by the name that interning gave. -/
theorem get?_of_intern (interned : intern spelling names = .ok (name, later)) :
    later.get? spelling = some name := by
  unfold intern at interned
  split at interned
  · cases interned
    assumption
  case h_2 unknown =>
    split at interned
    · cases interned
      have absent : names.spellings.findIdx? (· == spelling) = none := by
        rw [get?, Option.map_eq_none_iff] at unknown
        exact unknown
      refine Option.map_eq_some_iff.mpr ⟨names.size, ?_, rfl⟩
      rw [List.idxOf?, List.findIdx?_append, absent]
      simp [size]
    · cases interned

theorem GrowsTo.isPrefix (grown : names.GrowsTo later) : names.spellings <+: later.spellings := by
  induction grown with
  | refl => exact List.prefix_refl _
  | tail _ interned ih =>
    obtain ⟨spelling, name, interned⟩ := interned
    exact ih.trans (prefix_of_intern interned)

end Interner

/-- The reserved call of an operator has the number of the operator. -/
theorem BinaryOp.get?_call (op : BinaryOp) : Interner.initial.get? op.call = some op.name := by
  cases op with
  | arith op => cases op <;> rfl
  | logic op => cases op <;> rfl
  | compare op => cases op <;> rfl

/-! ### Computations that intern -/

namespace InternM

variable {α β : Type} {names after : Interner}

/-- The computation adds to the table at its end, and what it ends with has a property in view of
every table into which the table at its end grows. -/
structure Ensures (post : Interner → α → Prop) (x : InternM α) : Prop where
  grows : ∀ {names after a}, x names = .ok (a, after) → names.spellings <+: after.spellings
  holds : ∀ {names after later a}, x names = .ok (a, after) →
    after.spellings <+: later.spellings → post later a

theorem bind_eq_ok {x : InternM α} {f : α → InternM β} {b : β}
    (ended : (x >>= f) names = .ok (b, after)) :
    ∃ a between, x names = .ok (a, between) ∧ f a between = .ok (b, after) := by
  change (x names >>= fun result => f result.1 result.2) = .ok (b, after) at ended
  cases first : x names with
  | error full =>
    rw [first] at ended
    cases ended
  | ok result =>
    rw [first] at ended
    exact ⟨result.1, result.2, rfl, ended⟩

namespace Ensures

variable {post : Interner → α → Prop} {post' : Interner → β → Prop}

theorem pure {a : α} (holds : ∀ {later}, post later a) : Ensures post (pure a : InternM α) := by
  constructor
  · rintro names after a' ⟨⟩
    exact List.prefix_refl _
  · rintro names after later a' ⟨⟩ _
    exact holds

theorem bind {x : InternM α} {f : α → InternM β} (first : Ensures post x)
    (next : ∀ a, Ensures (fun later b => post later a → post' later b) (f a)) :
    Ensures post' (x >>= f) := by
  constructor
  · intro names after b ended
    obtain ⟨a, between, ended, ended'⟩ := bind_eq_ok ended
    exact (first.grows ended).trans ((next a).grows ended')
  · intro names after later b ended onward
    obtain ⟨a, between, ended, ended'⟩ := bind_eq_ok ended
    exact (next a).holds ended' onward (first.holds ended (((next a).grows ended').trans onward))

end Ensures

end InternM

/-- Interning a spelling gives the number that the table has for it from then on. -/
theorem Interner.intern_ensures (spelling : String) :
    InternM.Ensures (fun later name => later.Numbers spelling name) (intern spelling) where
  grows := prefix_of_intern
  holds interned grown := get?_of_prefix grown (get?_of_intern interned)

/-! ### Trees that differ in their identifiers only -/

section Alike

variable {ν μ κ : Type}

/-- Parameters with related names that accept the same. -/
structure Param.Alike (R : ν → μ → Prop) (p : Param ν) (q : Param μ) : Prop where
  name : R p.name q.name
  tag : p.tag = q.tag

mutual

/-- Expressions that differ in their identifiers only, and these are related. -/
inductive Expr.Alike (R : ν → μ → Prop) : Expr ν → Expr μ → Prop
  | int (n : Int64) : Expr.Alike R (.int n) (.int n)
  | float (x : Float) : Expr.Alike R (.float x) (.float x)
  | bool (b : Bool) : Expr.Alike R (.bool b) (.bool b)
  | text (s : String) : Expr.Alike R (.text s) (.text s)
  | vector {items items'} (alike : Expr.AllAlike R items items') :
      Expr.Alike R (.vector items) (.vector items')
  | ident {x x'} (related : R x x') : Expr.Alike R (.ident x) (.ident x')
  | binary (op : BinaryOp) {left left' right right'} (leftAlike : Expr.Alike R left left')
      (rightAlike : Expr.Alike R right right') :
      Expr.Alike R (.binary op left right) (.binary op left' right')
  | unary (op : UnaryOp) {operand operand'} (alike : Expr.Alike R operand operand') :
      Expr.Alike R (.unary op operand) (.unary op operand')
  | rangeTo {stop stop'} (alike : Expr.Alike R stop stop') :
      Expr.Alike R (.rangeTo stop) (.rangeTo stop')
  | rangeFrom {start start' stop stop'} (startAlike : Expr.Alike R start start')
      (stopAlike : Expr.Alike R stop stop') :
      Expr.Alike R (.rangeFrom start stop) (.rangeFrom start' stop')
  | member {element element' collection collection'} (elementAlike : Expr.Alike R element element')
      (collectionAlike : Expr.Alike R collection collection') :
      Expr.Alike R (.member element collection) (.member element' collection')
  | index {target target' position position'} (targetAlike : Expr.Alike R target target')
      (positionAlike : Expr.Alike R position position') :
      Expr.Alike R (.index target position) (.index target' position')
  | call {callee callee' args args'} (related : R callee callee')
      (alike : Expr.AllAlike R args args') : Expr.Alike R (.call callee args) (.call callee' args')
  | block {body body'} (alike : Block.Alike R body body') : Expr.Alike R (.block body) (.block body')

/-- The same for lists of expressions. -/
inductive Expr.AllAlike (R : ν → μ → Prop) : List (Expr ν) → List (Expr μ) → Prop
  | nil : Expr.AllAlike R [] []
  | cons {e e' es es'} (head : Expr.Alike R e e') (tail : Expr.AllAlike R es es') :
      Expr.AllAlike R (e :: es) (e' :: es')

/-- The same for statements. -/
inductive Stmt.Alike (R : ν → μ → Prop) : Stmt ν → Stmt μ → Prop
  | expr {e e'} (alike : Expr.Alike R e e') : Stmt.Alike R (.expr e) (.expr e')
  | assign {x x' value value'} (related : R x x') (alike : Expr.Alike R value value') :
      Stmt.Alike R (.assign x value) (.assign x' value')
  | ifThen {cond cond' body body'} (condAlike : Expr.Alike R cond cond')
      (bodyAlike : Block.Alike R body body') :
      Stmt.Alike R (.ifThen cond body) (.ifThen cond' body')
  | ifElse {cond cond' body body' alternative alternative'} (condAlike : Expr.Alike R cond cond')
      (bodyAlike : Block.Alike R body body')
      (alternativeAlike : Block.Alike R alternative alternative') :
      Stmt.Alike R (.ifElse cond body alternative) (.ifElse cond' body' alternative')
  | while {cond cond' body body'} (condAlike : Expr.Alike R cond cond')
      (bodyAlike : Block.Alike R body body') :
      Stmt.Alike R (.while cond body) (.while cond' body')
  | for {x x' iterable iterable' body body'} (related : R x x')
      (iterableAlike : Expr.Alike R iterable iterable') (bodyAlike : Block.Alike R body body') :
      Stmt.Alike R (.for x iterable body) (.for x' iterable' body')
  | function {name name' params params' body body'} (related : R name name')
      (paramsAlike : List.Forall₂ (Param.Alike R) params params')
      (bodyAlike : Block.Alike R body body') :
      Stmt.Alike R (.function name params body) (.function name' params' body')

/-- The same for blocks. -/
inductive Block.Alike (R : ν → μ → Prop) : List (Stmt ν) → List (Stmt μ) → Prop
  | nil : Block.Alike R [] []
  | cons {s s' rest rest'} (head : Stmt.Alike R s s') (tail : Block.Alike R rest rest') :
      Block.Alike R (s :: rest) (s' :: rest')

end

/-! ### Sources and their numbered forms -/

theorem Param.intern_ensures (param : Param String) :
    InternM.Ensures (fun later numbered => Param.Alike later.Numbers param numbered)
      param.intern :=
  (Interner.intern_ensures _).bind fun _ => .pure fun known => ⟨known, rfl⟩

theorem Param.internAll_ensures (params : List (Param String)) :
    InternM.Ensures (fun later numbered => List.Forall₂ (Param.Alike later.Numbers) params numbered)
      (Param.internAll params) := by
  induction params with
  | nil => exact .pure .nil
  | cons param params ih =>
    exact (Param.intern_ensures param).bind fun _ => ih.bind fun _ => .pure fun tail head =>
      .cons head tail

mutual

/-- An expression and its numbered form are alike. -/
theorem Expr.intern_ensures : (e : Expr String) →
    InternM.Ensures (fun later numbered => Expr.Alike later.Numbers e numbered) e.intern
  | .int n => .pure (.int n)
  | .float x => .pure (.float x)
  | .bool b => .pure (.bool b)
  | .text s => .pure (.text s)
  | .vector items => (Expr.internAll_ensures items).bind fun _ => .pure .vector
  | .ident x => (Interner.intern_ensures x).bind fun _ => .pure .ident
  | .binary op left right =>
    (Expr.intern_ensures left).bind fun _ => (Expr.intern_ensures right).bind fun _ =>
      .pure fun r l => .binary op l r
  | .unary op operand => (Expr.intern_ensures operand).bind fun _ => .pure (.unary op)
  | .rangeTo stop => (Expr.intern_ensures stop).bind fun _ => .pure .rangeTo
  | .rangeFrom start stop =>
    (Expr.intern_ensures start).bind fun _ => (Expr.intern_ensures stop).bind fun _ =>
      .pure fun r l => .rangeFrom l r
  | .member element collection =>
    (Expr.intern_ensures element).bind fun _ => (Expr.intern_ensures collection).bind fun _ =>
      .pure fun r l => .member l r
  | .index target position =>
    (Expr.intern_ensures target).bind fun _ => (Expr.intern_ensures position).bind fun _ =>
      .pure fun r l => .index l r
  | .call callee args =>
    (Expr.internAll_ensures args).bind fun _ => (Interner.intern_ensures callee).bind fun _ =>
      .pure .call
  | .block body => (Block.intern_ensures body).bind fun _ => .pure .block

theorem Expr.internAll_ensures : (es : List (Expr String)) →
    InternM.Ensures (fun later numbered => Expr.AllAlike later.Numbers es numbered)
      (Expr.internAll es)
  | [] => .pure .nil
  | e :: es =>
    (Expr.intern_ensures e).bind fun _ => (Expr.internAll_ensures es).bind fun _ =>
      .pure fun tail head => .cons head tail

theorem Stmt.intern_ensures : (s : Stmt String) →
    InternM.Ensures (fun later numbered => Stmt.Alike later.Numbers s numbered) s.intern
  | .expr e => (Expr.intern_ensures e).bind fun _ => .pure .expr
  | .assign x value =>
    (Expr.intern_ensures value).bind fun _ => (Interner.intern_ensures x).bind fun _ =>
      .pure .assign
  | .ifThen condition body =>
    (Expr.intern_ensures condition).bind fun _ => (Block.intern_ensures body).bind fun _ =>
      .pure fun b c => .ifThen c b
  | .ifElse condition body alternative =>
    (Expr.intern_ensures condition).bind fun _ => (Block.intern_ensures body).bind fun _ =>
      (Block.intern_ensures alternative).bind fun _ => .pure fun a b c => .ifElse c b a
  | .while condition body =>
    (Expr.intern_ensures condition).bind fun _ => (Block.intern_ensures body).bind fun _ =>
      .pure fun b c => .while c b
  | .for binding iterable body =>
    (Expr.intern_ensures iterable).bind fun _ => (Block.intern_ensures body).bind fun _ =>
      (Interner.intern_ensures binding).bind fun _ => .pure fun x b i => .for x i b
  | .function name params body =>
    (Block.intern_ensures body).bind fun _ => (Interner.intern_ensures name).bind fun _ =>
      (Param.internAll_ensures params).bind fun _ => .pure fun ps x b => .function x ps b

/-- A source program and its numbered form are alike. -/
theorem Block.intern_ensures : (body : Block String) →
    InternM.Ensures (fun later numbered => Block.Alike later.Numbers body numbered)
      (Block.intern body)
  | [] => .pure .nil
  | s :: rest =>
    (Stmt.intern_ensures s).bind fun _ => (Block.intern_ensures rest).bind fun _ =>
      .pure fun tail head => .cons head tail

end

/-! ### Two numbered forms of one source -/

section Join

variable {R : κ → ν → Prop} {S : κ → μ → Prop}

theorem Param.Alike.join {params : List (Param κ)} {params₁ : List (Param ν)}
    {params₂ : List (Param μ)} (left : List.Forall₂ (Param.Alike R) params params₁)
    (right : List.Forall₂ (Param.Alike S) params params₂) :
    List.Forall₂ (Param.Alike (Relation.Comp (flip R) S)) params₁ params₂ := by
  induction left generalizing params₂ with
  | nil =>
    cases right
    exact .nil
  | cons head _ ih =>
    cases right with
    | cons head' tail' =>
      exact .cons ⟨⟨_, head.name, head'.name⟩, head.tag.symm.trans head'.tag⟩ (ih tail')

mutual

theorem Expr.Alike.join : {e : Expr κ} → {e₁ : Expr ν} → {e₂ : Expr μ} → Expr.Alike R e e₁ →
    Expr.Alike S e e₂ → Expr.Alike (Relation.Comp (flip R) S) e₁ e₂
  | .int _, _, _, .int n, .int _ => .int n
  | .float _, _, _, .float x, .float _ => .float x
  | .bool _, _, _, .bool b, .bool _ => .bool b
  | .text _, _, _, .text s, .text _ => .text s
  | .vector _, _, _, .vector a, .vector b => .vector (Expr.AllAlike.join a b)
  | .ident x, _, _, .ident a, .ident b => .ident ⟨x, a, b⟩
  | .binary _ _ _, _, _, .binary op a c, .binary _ b d =>
    .binary op (Expr.Alike.join a b) (Expr.Alike.join c d)
  | .unary _ _, _, _, .unary op a, .unary _ b => .unary op (Expr.Alike.join a b)
  | .rangeTo _, _, _, .rangeTo a, .rangeTo b => .rangeTo (Expr.Alike.join a b)
  | .rangeFrom _ _, _, _, .rangeFrom a c, .rangeFrom b d =>
    .rangeFrom (Expr.Alike.join a b) (Expr.Alike.join c d)
  | .member _ _, _, _, .member a c, .member b d =>
    .member (Expr.Alike.join a b) (Expr.Alike.join c d)
  | .index _ _, _, _, .index a c, .index b d =>
    .index (Expr.Alike.join a b) (Expr.Alike.join c d)
  | .call callee _, _, _, .call a c, .call b d => .call ⟨callee, a, b⟩ (Expr.AllAlike.join c d)
  | .block _, _, _, .block a, .block b => .block (Block.Alike.join a b)

theorem Expr.AllAlike.join : {es : List (Expr κ)} → {es₁ : List (Expr ν)} →
    {es₂ : List (Expr μ)} → Expr.AllAlike R es es₁ → Expr.AllAlike S es es₂ →
    Expr.AllAlike (Relation.Comp (flip R) S) es₁ es₂
  | [], _, _, .nil, .nil => .nil
  | _ :: _, _, _, .cons a c, .cons b d => .cons (Expr.Alike.join a b) (Expr.AllAlike.join c d)

theorem Stmt.Alike.join : {s : Stmt κ} → {s₁ : Stmt ν} → {s₂ : Stmt μ} → Stmt.Alike R s s₁ →
    Stmt.Alike S s s₂ → Stmt.Alike (Relation.Comp (flip R) S) s₁ s₂
  | .expr _, _, _, .expr a, .expr b => .expr (Expr.Alike.join a b)
  | .assign x _, _, _, .assign a c, .assign b d => .assign ⟨x, a, b⟩ (Expr.Alike.join c d)
  | .ifThen _ _, _, _, .ifThen a c, .ifThen b d =>
    .ifThen (Expr.Alike.join a b) (Block.Alike.join c d)
  | .ifElse _ _ _, _, _, .ifElse a c e, .ifElse b d f =>
    .ifElse (Expr.Alike.join a b) (Block.Alike.join c d) (Block.Alike.join e f)
  | .while _ _, _, _, .while a c, .while b d =>
    .while (Expr.Alike.join a b) (Block.Alike.join c d)
  | .for x _ _, _, _, .for a c e, .for b d f =>
    .for ⟨x, a, b⟩ (Expr.Alike.join c d) (Block.Alike.join e f)
  | .function name _ _, _, _, .function a c e, .function b d f =>
    .function ⟨name, a, b⟩ (Param.Alike.join c d) (Block.Alike.join e f)

/-- Two numbered forms of one source are alike. -/
theorem Block.Alike.join : {body : Block κ} → {body₁ : Block ν} → {body₂ : Block μ} →
    Block.Alike R body body₁ → Block.Alike S body body₂ →
    Block.Alike (Relation.Comp (flip R) S) body₁ body₂
  | [], _, _, .nil, .nil => .nil
  | _ :: _, _, _, .cons a c, .cons b d => .cons (Stmt.Alike.join a b) (Block.Alike.join c d)

end

end Join

end Alike

end Multidispatch
