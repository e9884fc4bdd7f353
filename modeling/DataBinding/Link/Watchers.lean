import DataBinding.Link.Basic

/-!
# The paths an expression depends on

Every call of the accessor depends on the path of its leading literal arguments, joined by points.

Results:

* `Expr.watchers_nodup`: no path is listed twice.
-/

namespace DataBinding

/-- The texts of the leading literal arguments that name a key. -/
def pathSegments : List Expr → List String
  | .literal l :: rest =>
    match l.pathSegment? with
    | some s => s :: pathSegments rest
    | none => []
  | _ => []

/-- The elements of a list, each where it stands first. -/
def distinct {α : Type} [DecidableEq α] : List α → List α
  | [] => []
  | x :: rest => x :: (distinct rest).filter fun y => decide (y ≠ x)

namespace Expr

/-- The segments of the path that a node depends on by itself. -/
def watchedSegments : Expr → List String
  | call (symbol s) args => if s.name = accessorName then pathSegments args else []
  | _ => []

/-- The path that a node depends on by itself. -/
def watched? (e : Expr) : Option String :=
  match e.watchedSegments with
  | [] => none
  | segments => some (".".intercalate segments)

/-- The paths that an expression depends on, parents before children. -/
def watchers (e : Expr) : List String := distinct (e.walk.filterMap watched?)

end Expr

theorem mem_distinct {α : Type} [DecidableEq α] {a : α} {xs : List α} :
    a ∈ distinct xs ↔ a ∈ xs := by
  induction xs with
  | nil => simp [distinct]
  | cons x rest ih =>
    by_cases h : a = x
    · simp [distinct, h]
    · simp [distinct, h, ih]

theorem distinct_nodup {α : Type} [DecidableEq α] (xs : List α) : (distinct xs).Nodup := by
  induction xs with
  | nil => simp [distinct]
  | cons x rest ih =>
    rw [distinct, List.nodup_cons]
    exact ⟨by simp, ih.sublist List.filter_sublist⟩

/-- No path is listed twice. -/
theorem Expr.watchers_nodup (e : Expr) : e.watchers.Nodup := distinct_nodup _

end DataBinding
