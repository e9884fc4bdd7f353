import DataBinding.Expr.Basic

/-!
# Pipelines as calls

`input | f | g(x)` means `g(f(input), x)`.

Results:

* `Expr.applyStages_append`: stages in two parts are applied one part after the other.
-/

namespace DataBinding.Expr

/-- The call that a stage makes of what comes into it. -/
def applyStage (input : Expr) (stage : Symbol × List Expr) : Expr :=
  call (symbol stage.1) (input :: stage.2)

/-- The nested calls that stages make of an input. -/
def applyStages (input : Expr) (stages : List (Symbol × List Expr)) : Expr :=
  stages.foldl applyStage input

/-- The expression with a pipeline at its root written as calls. -/
def withoutPipeline : Expr → Expr
  | pipeline input stages => applyStages input stages
  | e => e

/-- Stages in two parts are applied one part after the other. -/
theorem applyStages_append (input : Expr) (xs ys : List (Symbol × List Expr)) :
    applyStages input (xs ++ ys) = applyStages (applyStages input xs) ys :=
  List.foldl_append

end DataBinding.Expr
