import DataBinding.Link.Reads
import DataBinding.Link.Stages
import DataBinding.Link.Watchers

/-!
# The linked expression

Linking writes a pipeline as calls, reads every name from where it belongs, and makes the reads calls
of the accessor. A hook may answer instead, first or last.

Results:

* `Linker.link_ofConfig`: without hooks, linking is the composition of its steps.
-/

namespace DataBinding

/-- The expression with its pipeline as calls and its names read from where they belong. -/
def Config.resolved (c : Config) (e : Expr) : Except LinkError Expr :=
  c.resolve [] false (c.wrapName e.withoutPipeline)

/-- The tree of the linked expression. -/
def Config.linkTree (c : Config) (e : Expr) : Except LinkError Expr :=
  (c.resolved e).map c.withReads

namespace Linker

/-- The answer of a hook. -/
def ask (l : Linker) (hook : Option Hook) (e : Expr) : Option Linked :=
  hook.bind fun h => h l.config e

/-- The linked expression. -/
def link (l : Linker) (e : Expr) : Except LinkError Linked :=
  match l.ask l.before e with
  | some answer => .ok answer
  | none => do
    let tree ← l.config.linkTree e
    return (l.ask l.after tree).getD ⟨tree, tree.watchers⟩

/-- Without hooks, linking is the composition of its steps. -/
theorem link_ofConfig (c : Config) (e : Expr) :
    (ofConfig c).link e = (c.linkTree e).map fun tree => ⟨tree, tree.watchers⟩ := by
  simp only [link, ofConfig, ask, Option.bind_none]
  cases c.linkTree e <;> rfl

end Linker

end DataBinding
