import DataBinding.Eval.Run
import DataBinding.Program.Basic

/-!
# Running programs

A program is called with one value for each parameter after the accessor.

Results:

* `Program.env_bound_nil`: a program without parameters binds nothing.
-/

namespace DataBinding.Program

/-- The names of the values that a program is called with. -/
def directNames (p : Program) : List String := p.parameters.drop 1

/-- What surrounds a run of the program. -/
def env (p : Program) (host : Host) (direct : List Value) : Env :=
  ⟨host, Dict.ofList (p.directNames.zip direct)⟩

/-- A program without parameters binds nothing. -/
theorem env_bound_nil {p : Program} (h : p.directNames = []) (host : Host) (direct : List Value) :
    (p.env host direct).bound = [] := by
  simp [env, h, Dict.ofList]

/-- Runs the program. -/
def call (p : Program) (host : Host) (direct : List Value) : Eval Value :=
  if p.directNames.length ≠ direct.length then
    Eval.fail (.arity p.directNames.length direct.length)
  else (p.env host direct).eval p.tree

end DataBinding.Program
