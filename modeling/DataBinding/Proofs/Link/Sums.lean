import DataBinding.Program.Basic
import Mathlib.Data.List.Basic

/-!
# Linking sums

Every step of linking treats a sum part by part: the first fault of a part is that of the sum, and the
sum depends on what its parts depend on.

Results:

* `isFirsts_iff`: what it is to keep each element where it stands first.
* `Expr.paths_concatenate`, `Expr.watchers_concatenate`: the paths that a sum depends on.
* `Config.linkTree_sum`: the linked tree of a sum.
-/

namespace DataBinding

/-! ## Each element once -/

section

variable {α β : Type} [DecidableEq α]

theorem distinct_append (xs ys : List α) :
    distinct (xs ++ ys) = distinct xs ++ (distinct ys).filter fun y => decide (y ∉ xs) := by
  induction xs with
  | nil =>
    rw [List.nil_append, distinct, List.nil_append]
    exact (List.filter_eq_self.2 fun y _ => by simp).symm
  | cons x xs ih =>
    rw [List.cons_append, distinct, ih, List.filter_append, List.filter_filter, distinct,
      List.cons_append]
    congr 2
    refine List.filter_congr fun y _ => ?_
    simp [not_or]

/-- What has no element twice stays as it is. -/
theorem distinct_eq_self {xs : List α} (h : xs.Nodup) : distinct xs = xs := by
  induction xs with
  | nil => rfl
  | cons x xs ih =>
    rw [List.nodup_cons] at h
    rw [distinct, ih h.2]
    congr 1
    refine List.filter_eq_self.2 fun y hy => ?_
    simp only [decide_eq_true_eq]
    rintro rfl
    exact h.1 hy

/-- The parts of a list may have their elements once to begin with. -/
theorem distinct_flatMap_distinct (xs : List β) (f : β → List α) :
    distinct (xs.flatMap fun x => distinct (f x)) = distinct (xs.flatMap f) := by
  induction xs with
  | nil => rfl
  | cons x xs ih =>
    rw [List.flatMap_cons, List.flatMap_cons, distinct_append, distinct_append, ih,
      distinct_eq_self (distinct_nodup (f x))]
    congr 1
    exact List.filter_congr fun y _ => by simp only [mem_distinct]

/-- The list has the elements of `xs`, each once, in the order in which they stand first there. -/
structure IsFirsts (ys xs : List α) : Prop where
  mem_iff : ∀ x, x ∈ ys ↔ x ∈ xs
  ordered : ys.Pairwise fun x y => xs.idxOf x < xs.idxOf y

theorem IsFirsts.nodup {ys xs : List α} (h : IsFirsts ys xs) : ys.Nodup := by
  refine h.ordered.imp fun hlt => ?_
  rintro rfl
  exact Nat.lt_irrefl _ hlt

theorem isFirsts_distinct (xs : List α) : IsFirsts (distinct xs) xs := by
  refine ⟨fun x => mem_distinct, ?_⟩
  induction xs with
  | nil => exact List.Pairwise.nil
  | cons x xs ih =>
    have hne : ∀ {y}, y ∈ (distinct xs).filter (fun y => decide (y ≠ x)) → x ≠ y := by
      intro y hy he
      exact of_decide_eq_true (List.mem_filter.1 hy).2 he.symm
    rw [distinct, List.pairwise_cons]
    constructor
    · intro y hy
      rw [List.idxOf_cons_self, List.idxOf_cons_ne xs (hne hy)]
      exact Nat.succ_pos _
    · refine (ih.sublist List.filter_sublist).imp_of_mem fun {y z} hy hz hlt => ?_
      rw [List.idxOf_cons_ne xs (hne hy), List.idxOf_cons_ne xs (hne hz)]
      exact Nat.succ_lt_succ hlt

/-- There is one such list. -/
theorem isFirsts_iff {ys xs : List α} : IsFirsts ys xs ↔ ys = distinct xs := by
  refine ⟨fun h => ?_, fun h => h ▸ isFirsts_distinct xs⟩
  have same : ys.Perm (distinct xs) := by
    rw [List.perm_ext_iff_of_nodup h.nodup (distinct_nodup xs)]
    intro x
    rw [h.mem_iff, mem_distinct]
  exact same.eq_of_pairwise (fun _ _ _ _ hlt hgt => absurd hlt (Nat.lt_asymm hgt)) h.ordered
    (isFirsts_distinct xs).ordered

end

/-! ## Paths -/

namespace Expr

/-- The paths that the nodes depend on, parents before children. -/
def paths (e : Expr) : List String := e.walk.filterMap watched?

theorem watchers_eq (e : Expr) : e.watchers = distinct e.paths := rfl

theorem paths_ofString (s : String) : (ofString s).paths = [] := by
  rw [paths, walk_eq]
  rfl

theorem paths_parens (e : Expr) : (parens e).paths = e.paths := by
  rw [paths, walk_eq]
  show ([e].flatMap walk).filterMap watched? = e.paths
  rw [List.flatMap_singleton]
  rfl

theorem paths_binary (op : BinaryOp) (left right : Expr) :
    (binary op left right).paths = left.paths ++ right.paths := by
  rw [paths, walk_eq]
  show ([left, right].flatMap walk).filterMap watched? = _
  rw [List.flatMap_cons, List.flatMap_singleton, List.filterMap_append]
  rfl

theorem paths_foldl (op : BinaryOp) (e : Expr) (es : List Expr) :
    (es.foldl (binary op) e).paths = e.paths ++ es.flatMap paths := by
  induction es generalizing e with
  | nil => simp
  | cons x es ih =>
    rw [List.foldl_cons, ih, paths_binary, List.flatMap_cons, List.append_assoc]

theorem watchers_ofString (s : String) : (ofString s).watchers = [] := by
  rw [watchers_eq, paths_ofString]
  rfl

theorem watchers_parens (e : Expr) : (parens e).watchers = e.watchers := by
  rw [watchers_eq, watchers_eq, paths_parens]

theorem paths_withoutParens (e : Expr) : e.withoutParens.paths = e.paths := by
  cases e with
  | parens inner => exact (paths_parens inner).symm
  | _ => rfl

/-- The paths of a sum are those of its parts, in order. -/
theorem paths_concatenate (parts : List Expr) : (concatenate parts).paths = parts.flatMap paths := by
  match parts with
  | [] => exact paths_ofString ""
  | [part] => rw [List.flatMap_singleton, concatenate, paths_withoutParens]
  | x :: y :: rest =>
    show ((y :: rest).foldl (binary .add) x).paths = _
    rw [paths_foldl, ← List.flatMap_cons]

/-- A sum depends on what its parts depend on. -/
theorem watchers_concatenate (parts : List Expr) :
    (concatenate parts).watchers = distinct (parts.flatMap watchers) := by
  rw [watchers_eq, paths_concatenate]
  exact (distinct_flatMap_distinct _ _).symm

end Expr

/-! ## Trees -/

namespace Config

variable (c : Config)

/-- The parts of a sum are resolved one after the other. -/
theorem resolve_foldl (op : BinaryOp) (scope : List String) (e : Expr) (es : List Expr) :
    c.resolve scope false (es.foldl (.binary op) e) = (do
      let r ← c.resolve scope false e
      let rs ← c.resolveList scope es
      return rs.foldl (.binary op) r) := by
  induction es generalizing e with
  | nil =>
    rw [List.foldl_nil, resolveList]
    simp
  | cons x es ih =>
    rw [List.foldl_cons, ih, resolve, resolveList]
    simp only [bind_assoc, pure_bind, List.foldl_cons]

theorem withReads_binary (op : BinaryOp) (left right : Expr) :
    c.withReads (.binary op left right) = .binary op (c.withReads left) (c.withReads right) := by
  rw [withReads, reading]
  rfl

theorem withReads_foldl (op : BinaryOp) (e : Expr) (es : List Expr) :
    c.withReads (es.foldl (.binary op) e) =
      (es.map c.withReads).foldl (.binary op) (c.withReads e) := by
  induction es generalizing e with
  | nil => rfl
  | cons x es ih => rw [List.foldl_cons, ih, withReads_binary, List.map_cons, List.foldl_cons]

theorem withReads_parens (e : Expr) : c.withReads (.parens e) = .parens (c.withReads e) := by
  rw [withReads, reading]
  rfl

theorem withReads_ofString (s : String) : c.withReads (.ofString s) = .ofString s := by
  rw [withReads, Expr.ofString, reading]
  rfl

/-- A sum of several parts is the sum of two. -/
theorem exists_foldl_eq (op : BinaryOp) (x y : Expr) (rest : List Expr) :
    ∃ left right, (y :: rest).foldl (.binary op) x = .binary op left right := by
  induction rest generalizing x y with
  | nil => exact ⟨x, y, rfl⟩
  | cons z rest ih => exact ih (.binary op x y) z

/-- The linked tree of a sum is the sum of the linked parts. -/
theorem linkTree_sum (x y : Expr) (rest : List Expr) :
    c.linkTree (Expr.concatenate (x :: y :: rest)) =
      (c.resolveList [] (x :: y :: rest)).map fun rs => Expr.concatenate (rs.map c.withReads) := by
  have hroot : c.resolved (Expr.concatenate (x :: y :: rest)) =
      c.resolve [] false ((y :: rest).foldl (.binary .add) x) := by
    show c.resolve [] false (c.wrapName ((y :: rest).foldl (.binary .add) x).withoutPipeline) = _
    obtain ⟨left, right, h⟩ := exists_foldl_eq .add x y rest
    rw [h]
    rfl
  rw [linkTree, hroot, resolve_foldl]
  simp only [resolveList]
  cases c.resolve [] false x with
  | error e => rfl
  | ok r =>
    cases c.resolve [] false y with
    | error e => rfl
    | ok s =>
      cases c.resolveList [] rest with
      | error e => rfl
      | ok rs =>
        show Except.ok (c.withReads ((s :: rs).foldl (.binary .add) r)) = _
        rw [withReads_foldl]
        rfl

end Config

end DataBinding
