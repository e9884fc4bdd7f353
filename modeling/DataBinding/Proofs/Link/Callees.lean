import DataBinding.Link.Linked
import DataBinding.Proofs.Grammar.Grouping
import DataBinding.Proofs.Link.Reads
import DataBinding.Proofs.Link.Resolve
import DataBinding.Proofs.Link.Sums
import DataBinding.Proofs.Printing.Tree

/-!
# Linking with another callee

Two trees that differ in the callee of one call are linked side by side: resolving, writing reads as
calls and listing paths go on alike around that call, so the linked trees differ only in what the two
callees become there.

Results:

* `Config.agree_resolve`: both trees are resolved, or neither is, by the same error.
* `Config.swapsCallee_reading`: the reads of both trees.
* `Config.agree_linkTree`: both trees linked.
* `Expr.SwapsCallee.watchers_eq`: what both trees depend on.
* `Expr.SwapsCallee.bare_eq_iff`: the trees are the same without parentheses if the callees are.
-/

namespace DataBinding

/-- The lists differ in one element, and `R` relates the two. -/
def DifferAt {α : Type} (R : α → α → Prop) (xs ys : List α) : Prop :=
  ∃ before a b behind, xs = before ++ a :: behind ∧ ys = before ++ b :: behind ∧ R a b

namespace DifferAt

variable {α : Type} {R : α → α → Prop} {xs ys : List α}

theorem cons (h : DifferAt R xs ys) (a : α) : DifferAt R (a :: xs) (a :: ys) := by
  obtain ⟨before, b, c, behind, rfl, rfl, hr⟩ := h
  exact ⟨a :: before, b, c, behind, rfl, rfl, hr⟩

theorem append (h : DifferAt R xs ys) (zs : List α) : DifferAt R (xs ++ zs) (ys ++ zs) := by
  obtain ⟨before, b, c, behind, rfl, rfl, hr⟩ := h
  exact ⟨before, b, c, behind ++ zs, by simp, by simp, hr⟩

theorem head {a b : α} (h : R a b) (xs : List α) : DifferAt R (a :: xs) (b :: xs) :=
  ⟨[], a, b, xs, rfl, rfl, h⟩

end DifferAt

namespace Config

variable {c : Config} {x y x' y' e e' : Expr} {inner outer : List String}

/-! ## Resolving -/

theorem agree_resolveList {R : Expr → Expr → Prop}
    (h : Agree R (c.resolve outer false e) (c.resolve outer false e')) (before behind : List Expr) :
    Agree (DifferAt R) (c.resolveList outer (before ++ e :: behind))
      (c.resolveList outer (before ++ e' :: behind)) := by
  induction before with
  | nil =>
    rw [List.nil_append, List.nil_append, resolveList, resolveList]
    exact h.bind fun _ _ hr => .behind fun _ => .ok (.head hr _)
  | cons a before ih =>
    rw [List.cons_append, List.cons_append, resolveList, resolveList]
    exact .behind fun _ => ih.bind fun _ _ hr => .ok (hr.cons _)

theorem agree_resolveEntries {R : Expr → Expr → Prop}
    (h : Agree R (c.resolve outer false e) (c.resolve outer false e')) (k : ObjectKey)
    (before behind : List (ObjectKey × Expr)) :
    Agree (DifferAt fun a b => a.1 = k ∧ b.1 = k ∧ R a.2 b.2)
      (c.resolveEntries outer (before ++ (k, e) :: behind))
      (c.resolveEntries outer (before ++ (k, e') :: behind)) := by
  induction before with
  | nil =>
    rw [List.nil_append, List.nil_append, resolveEntries, resolveEntries]
    exact h.bind fun _ _ hr => .behind fun _ => .ok (.head ⟨rfl, rfl, hr⟩ _)
  | cons a before ih =>
    rw [List.cons_append, List.cons_append, resolveEntries, resolveEntries]
    exact .behind fun _ => ih.bind fun _ _ hr => .ok (hr.cons _)

theorem agree_resolveStages {R : Expr → Expr → Prop}
    (h : Agree R (c.resolve outer false e) (c.resolve outer false e')) (s : Symbol)
    (before behind : List Expr) (earlier later : List (Symbol × List Expr)) :
    Agree (DifferAt fun a b => a.1 = s ∧ b.1 = s ∧ DifferAt R a.2 b.2)
      (c.resolveStages outer (earlier ++ (s, before ++ e :: behind) :: later))
      (c.resolveStages outer (earlier ++ (s, before ++ e' :: behind) :: later)) := by
  induction earlier with
  | nil =>
    rw [List.nil_append, List.nil_append, resolveStages, resolveStages]
    exact (agree_resolveList h before behind).bind fun _ _ hr =>
      .behind fun _ => .ok (.head ⟨rfl, rfl, hr⟩ _)
  | cons a earlier ih =>
    rw [List.cons_append, List.cons_append, resolveStages, resolveStages]
    exact .behind fun _ => ih.bind fun _ _ hr => .ok (hr.cons _)

/-- Two trees that differ in one callee are both resolved if both callees are there, to trees that differ
    in what the callees become. -/
theorem agree_resolve (h : x.SwapsCallee y inner outer e e')
    (hxy : Agree (fun r r' => r = x' ∧ r' = y') (c.resolve inner true x) (c.resolve inner true y))
    (callee : Bool) : Agree (fun r r' => x'.SwapsCallee y' inner outer r r')
      (c.resolve outer callee e) (c.resolve outer callee e') := by
  induction h generalizing callee with
  | here =>
    rw [resolve, resolve]
    refine hxy.bind ?_
    rintro _ _ ⟨rfl, rfl⟩
    exact .behind fun _ => .ok .here
  | condition _ ih =>
    rw [resolve, resolve]
    exact (ih false).bind fun _ _ h => .behind fun _ => .behind fun _ => .ok (.condition h)
  | yes _ ih =>
    rw [resolve, resolve]
    exact .behind fun _ => (ih false).bind fun _ _ h => .behind fun _ => .ok (.yes h)
  | alternative _ ih =>
    rw [resolve, resolve]
    exact .behind fun _ => .behind fun _ => (ih false).bind fun _ _ h => .ok (.alternative h)
  | operand _ ih =>
    rw [resolve, resolve]
    exact (ih false).bind fun _ _ h => .ok (.operand h)
  | left _ ih =>
    rw [resolve, resolve]
    exact (ih false).bind fun _ _ h => .behind fun _ => .ok (.left h)
  | right _ ih =>
    rw [resolve, resolve]
    exact .behind fun _ => (ih false).bind fun _ _ h => .ok (.right h)
  | member _ ih =>
    rw [resolve, resolve]
    exact (ih false).bind fun _ _ h => .ok (.member h)
  | object _ ih =>
    rw [resolve, resolve]
    exact (ih false).bind fun _ _ h => .behind fun _ => .ok (.object h)
  | key _ ih =>
    rw [resolve, resolve]
    exact .behind fun _ => (ih false).bind fun _ _ h => .ok (.key h)
  | callee _ ih =>
    rw [resolve, resolve]
    exact (ih true).bind fun _ _ h => .behind fun _ => .ok (.callee h)
  | @argument _ f e e' before behind _ ih =>
    rw [resolve, resolve]
    refine .behind fun _ => (agree_resolveList (ih false) before behind).bind ?_
    rintro _ _ ⟨_, _, _, _, rfl, rfl, h⟩
    exact .ok (.argument h)
  | @element _ e e' before behind _ ih =>
    rw [resolve, resolve]
    refine (agree_resolveList (ih false) before behind).bind ?_
    rintro _ _ ⟨_, _, _, _, rfl, rfl, h⟩
    exact .ok (.element h)
  | @value _ k e e' before behind _ ih =>
    rw [resolve, resolve]
    refine (agree_resolveEntries (ih false) k before behind).bind ?_
    rintro _ _ ⟨_, ⟨_, _⟩, ⟨_, _⟩, _, rfl, rfl, rfl, rfl, h⟩
    exact .ok (.value h)
  | inside _ ih =>
    rw [resolve, resolve]
    exact (ih false).bind fun _ _ h => .ok (.inside h)
  | input _ ih =>
    rw [resolve, resolve]
    exact (ih false).bind fun _ _ h => .behind fun _ => .ok (.input h)
  | @stageArgument _ input e e' s before behind earlier later _ ih =>
    rw [resolve, resolve]
    refine .behind fun _ => (agree_resolveStages (ih false) s before behind earlier later).bind ?_
    rintro _ _ ⟨_, ⟨_, _⟩, ⟨_, _⟩, _, rfl, rfl, rfl, rfl, _, _, _, _, rfl, rfl, h⟩
    exact .ok (.stageArgument h)
  | body _ ih =>
    rw [resolve, resolve]
    exact (ih false).bind fun _ _ h => .ok (.body h)

/-! ## Reads -/

@[simp] theorem readingList_append (scope : List String) (xs ys : List Expr) :
    c.readingList scope (xs ++ ys) = c.readingList scope xs ++ c.readingList scope ys := by
  induction xs with
  | nil => rfl
  | cons x xs ih => simp only [List.cons_append, readingList, ih]

@[simp] theorem readingEntries_append (scope : List String) (xs ys : List (ObjectKey × Expr)) :
    c.readingEntries scope (xs ++ ys) = c.readingEntries scope xs ++ c.readingEntries scope ys := by
  induction xs with
  | nil => rfl
  | cons x xs ih => simp only [List.cons_append, readingEntries, ih]

@[simp] theorem readingStages_append (scope : List String) (xs ys : List (Symbol × List Expr)) :
    c.readingStages scope (xs ++ ys) = c.readingStages scope xs ++ c.readingStages scope ys := by
  induction xs with
  | nil => rfl
  | cons x xs ih => simp only [List.cons_append, readingStages, ih]

/-- Two readings are alike, reads or not, and what they hold differs in the callee of one call. -/
inductive SwapsReading (x y : Expr) (inner outer : List String) : Reading → Reading → Prop where
  | read {args args' : List Expr}
      (h : DifferAt (fun a b => x.SwapsCallee y inner outer a b) args args') :
      SwapsReading x y inner outer (.read args) (.read args')
  | other {e e' : Expr} (h : x.SwapsCallee y inner outer e e') :
      SwapsReading x y inner outer (.other e) (.other e')

namespace SwapsReading

variable {r r' : Reading}

theorem expr (h : SwapsReading x y inner outer r r') : x.SwapsCallee y inner outer r.expr r'.expr := by
  cases h with
  | read h =>
    obtain ⟨_, _, _, _, rfl, rfl, h⟩ := h
    exact .argument h
  | other h => exact h

theorem memberOf (h : SwapsReading x y inner outer r r') (key : Expr) {other : Expr → Expr}
    (ho : ∀ e e', x.SwapsCallee y inner outer e e' → x.SwapsCallee y inner outer (other e) (other e')) :
    SwapsReading x y inner outer (r.memberOf key other) (r'.memberOf key other) := by
  cases h with
  | read h => exact .read (h.append _)
  | other h => exact .other (ho _ _ h)

/-- The two differ in the key of a member. -/
theorem memberOf_key {key key' : Expr} {other other' : Expr → Expr} (r : Reading)
    (h : x.SwapsCallee y inner outer key key')
    (ho : ∀ e, x.SwapsCallee y inner outer (other e) (other' e)) :
    SwapsReading x y inner outer (r.memberOf key other) (r.memberOf key' other') := by
  cases r with
  | read args => exact .read ⟨args, key, key', [], rfl, rfl, h⟩
  | other e => exact .other (ho e)

end SwapsReading

/-- Two trees that differ in one callee have readings that differ in what the callees become there, also
    in the place of a callee. -/
theorem swapsCallee_reading (h : x.SwapsCallee y inner outer e e') :
    SwapsReading (c.callee inner x) (c.callee inner y) inner outer (c.reading outer e)
        (c.reading outer e') ∧
      (c.callee inner x).SwapsCallee (c.callee inner y) inner outer (c.callee outer e)
        (c.callee outer e') := by
  induction h with
  | here =>
    rw [reading_call, reading_call, callee_call, callee_call]
    exact ⟨.other .here, .here⟩
  | condition _ ih => exact ⟨.other (.condition ih.1.expr), .condition ih.1.expr⟩
  | yes _ ih => exact ⟨.other (.yes ih.1.expr), .yes ih.1.expr⟩
  | alternative _ ih => exact ⟨.other (.alternative ih.1.expr), .alternative ih.1.expr⟩
  | operand _ ih => exact ⟨.other (.operand ih.1.expr), .operand ih.1.expr⟩
  | left _ ih => exact ⟨.other (.left ih.1.expr), .left ih.1.expr⟩
  | right _ ih => exact ⟨.other (.right ih.1.expr), .right ih.1.expr⟩
  | member _ ih => exact ⟨ih.1.memberOf _ fun _ _ => .member, .member ih.1.expr⟩
  | object _ ih => exact ⟨ih.1.memberOf _ fun _ _ => .object, .object ih.1.expr⟩
  | key _ ih => exact ⟨.memberOf_key _ ih.1.expr fun _ => .key ih.1.expr, .key ih.1.expr⟩
  | callee _ ih =>
    rw [reading_call, reading_call, callee_call, callee_call]
    exact ⟨.other (.callee ih.2), .callee ih.2⟩
  | argument _ ih =>
    rw [reading_call, reading_call, callee_call, callee_call]
    simp only [readingList_append, readingList]
    exact ⟨.other (.argument ih.1.expr), .argument ih.1.expr⟩
  | element _ ih =>
    simp only [callee, reading, Reading.expr, readingList_append, readingList]
    exact ⟨.other (.element ih.1.expr), .element ih.1.expr⟩
  | value _ ih =>
    simp only [callee, reading, Reading.expr, readingEntries_append, readingEntries]
    exact ⟨.other (.value ih.1.expr), .value ih.1.expr⟩
  | inside _ ih => exact ⟨.other (.inside ih.1.expr), .inside ih.1.expr⟩
  | input _ ih => exact ⟨.other (.input ih.1.expr), .input ih.1.expr⟩
  | stageArgument _ ih =>
    simp only [callee, reading, Reading.expr, readingStages_append, readingStages,
      readingList_append, readingList]
    exact ⟨.other (.stageArgument ih.1.expr), .stageArgument ih.1.expr⟩
  | body _ ih => exact ⟨.other (.body ih.1.expr), .body ih.1.expr⟩

/-! ## Linked trees -/

/-- Two trees that differ in one callee are both linked if both callees are resolved there, to trees that
    differ in what the callees become. -/
theorem agree_linkTree (h : x.SwapsCallee y inner [] e e')
    (hxy : Agree (fun r r' => r = x' ∧ r' = y') (c.resolve inner true x) (c.resolve inner true y)) :
    Agree (fun t t' => (c.callee inner x').SwapsCallee (c.callee inner y') inner [] t t')
      (c.linkTree e) (c.linkTree e') := by
  have hcalls := h.withoutPipeline
  -- what holds a call is no name by itself
  have hwrap : c.wrapName e.withoutPipeline = e.withoutPipeline ∧
      c.wrapName e'.withoutPipeline = e'.withoutPipeline := by
    generalize e.withoutPipeline = a at hcalls
    generalize e'.withoutPipeline = b at hcalls
    cases hcalls <;> exact ⟨rfl, rfl⟩
  rw [linkTree, linkTree, resolved, resolved, hwrap.1, hwrap.2]
  exact (agree_resolve hcalls hxy false).map fun _ _ hr => (swapsCallee_reading hr).1.expr

end Config

/-! ## Paths -/

namespace Expr

theorem paths_eq (e : Expr) : e.paths = e.watched?.toList ++ e.children.flatMap paths := by
  rw [paths, walk_eq, List.filterMap_cons, List.filterMap_flatMap]
  cases e.watched? <;> rfl

/-- The arguments of a call name the same path if they differ in a place that is no literal. -/
theorem pathSegments_middle {e e' : Expr} (h : ∀ l, e ≠ .literal l) (h' : ∀ l, e' ≠ .literal l)
    (before behind : List Expr) :
    pathSegments (before ++ e :: behind) = pathSegments (before ++ e' :: behind) := by
  induction before with
  | nil =>
    have hstop : ∀ {e : Expr}, (∀ l, e ≠ .literal l) → pathSegments (e :: behind) = [] := by
      intro e h
      cases e with
      | literal l => exact absurd rfl (h l)
      | _ => rfl
    rw [List.nil_append, List.nil_append, hstop h, hstop h']
  | cons a before ih =>
    cases a with
    | literal l => simp only [List.cons_append, pathSegments, ih]
    | _ => rfl

/-- In the place of a callee both give rise to the same paths. -/
structure WatchedAlike (x y : Expr) : Prop where
  call : ∀ args, (call x args).watched? = (call y args).watched?
  paths : x.paths = y.paths

namespace SwapsCallee

variable {x y e e' : Expr} {inner outer : List String}

theorem ne_literal (h : x.SwapsCallee y inner outer e e') :
    (∀ l, e ≠ .literal l) ∧ ∀ l, e' ≠ .literal l := by
  cases h <;> exact ⟨nofun, nofun⟩

theorem watched?_call (h : x.SwapsCallee y inner outer e e') (args : List Expr) :
    (call e args).watched? = (call e' args).watched? := by
  cases h <;> rfl

theorem paths_eq (h : x.SwapsCallee y inner outer e e') (hw : x.WatchedAlike y) :
    e.paths = e'.paths := by
  induction h with
  | here => simp only [Expr.paths_eq (call _ _), hw.call, children, List.flatMap_cons, hw.paths]
  | callee h ih =>
    simp only [Expr.paths_eq (call _ _), h.watched?_call, children, List.flatMap_cons, ih]
  | @argument _ f e e' before behind h ih =>
    have hnode : (call f (before ++ e :: behind)).watched? =
        (call f (before ++ e' :: behind)).watched? := by
      have hsegments := pathSegments_middle h.ne_literal.1 h.ne_literal.2 before behind
      cases f with
      | symbol s => simp only [watched?, watchedSegments, hsegments]
      | _ => rfl
    simp only [Expr.paths_eq (call _ _), hnode, children, List.flatMap_cons, List.flatMap_append, ih]
  | condition _ ih | yes _ ih | alternative _ ih =>
    simp only [Expr.paths_eq (conditional _ _ _), children, List.flatMap_cons, ih]
    rfl
  | operand _ ih =>
    simp only [Expr.paths_eq (unary _ _), children, List.flatMap_cons, ih]
    rfl
  | left _ ih | right _ ih => simp only [paths_binary, ih]
  | member _ ih =>
    simp only [Expr.paths_eq (Expr.member _ _), children, List.flatMap_cons, ih]
    rfl
  | object _ ih | key _ ih =>
    simp only [Expr.paths_eq (index _ _), children, List.flatMap_cons, ih]
    rfl
  | element _ ih =>
    simp only [Expr.paths_eq (array _), children, List.flatMap_append, List.flatMap_cons, ih]
    rfl
  | value _ ih =>
    simp only [Expr.paths_eq (.object _), children, List.map_append, List.map_cons,
      List.flatMap_append, List.flatMap_cons, ih]
    rfl
  | inside _ ih => simp only [paths_parens, ih]
  | input _ ih =>
    simp only [Expr.paths_eq (pipeline _ _), children, List.flatMap_cons, ih]
    rfl
  | stageArgument _ ih =>
    simp only [Expr.paths_eq (pipeline _ _), children, stageArgs, List.flatMap_append,
      List.flatMap_cons, ih]
    rfl
  | body _ ih =>
    simp only [Expr.paths_eq (arrow _ _), children, List.flatMap_cons, ih]
    rfl

/-- What the trees depend on does not tell them apart. -/
theorem watchers_eq (h : x.SwapsCallee y inner outer e e') (hw : x.WatchedAlike y) :
    e.watchers = e'.watchers := by
  rw [Expr.watchers_eq, Expr.watchers_eq, h.paths_eq hw]

end SwapsCallee

/-! ## Without parentheses -/

theorem bareList_append (xs ys : List Expr) :
    bareList (xs ++ ys) = bareList xs ++ bareList ys := by
  induction xs with
  | nil => rfl
  | cons x xs ih => simp only [List.cons_append, bareList, ih]

theorem bareEntries_append (xs ys : List (ObjectKey × Expr)) :
    bareEntries (xs ++ ys) = bareEntries xs ++ bareEntries ys := by
  induction xs with
  | nil => rfl
  | cons x xs ih => simp only [List.cons_append, bareEntries, ih]

/-- Without parentheses the trees are the same exactly if the callees are. -/
theorem SwapsCallee.bare_eq_iff {x y e e' : Expr} {inner outer : List String}
    (h : x.SwapsCallee y inner outer e e') (hl : e.Legible) : e.bare = e'.bare ↔ x.bare = y.bare := by
  induction h with
  | here => simp [bare]
  | condition _ ih | yes _ ih | alternative _ ih | operand _ ih | left _ ih | right _ ih
  | member _ ih | object _ ih | key _ ih | callee _ ih | argument _ ih | element _ ih | value _ ih
  | inside _ ih | body _ ih =>
    have ih := ih (hl.child (by simp [children]))
    simp [bare, bareList_append, bareList, bareEntries_append, bareEntries, ih]
  | input | stageArgument => exact hl.elim

end Expr

end DataBinding
