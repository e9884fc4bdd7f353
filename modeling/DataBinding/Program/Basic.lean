import DataBinding.Expr.Parse
import DataBinding.Expr.Print
import DataBinding.Link.Linked
import DataBinding.Template.Basic

/-!
# Compiled programs

A program is a linked tree with its source text, the paths it depends on and the parameters it is
called with. It is compiled from an expression or from a template; the parts of a template are
compiled one by one and added up.

Results:

* `Expr.concatenate_cons_cons`: several parts are added from the left.
-/

namespace DataBinding

/-- Why a source does not compile. -/
inductive CompileError where
  | config (e : ConfigError)
  | parse (e : ParseError)
  | link (e : LinkError)
  | print (e : PrintError)
  | template (e : TemplateError)

/-- The report of the error. -/
def CompileError.message : CompileError → String
  | config e => e.message
  | parse e => e.message
  | link e => e.message
  | print e => e.message
  | template e => e.message

/-- A compiled expression. -/
structure Program where
  tree : Expr
  code : String
  watchers : List String
  parameters : List String

/-- The expression inside one pair of parentheses. -/
def Expr.withoutParens : Expr → Expr
  | .parens inner => inner
  | e => e

/-- The sum of the parts. One part stands for itself, without the parentheses around it; no part is the
    empty string. -/
def Expr.concatenate : List Expr → Expr
  | [] => .ofString ""
  | [part] => part.withoutParens
  | part :: next :: rest => (next :: rest).foldl (.binary .add) part

/-- Several parts are added from the left. -/
theorem Expr.concatenate_cons_cons (x y : Expr) (rest : List Expr) :
    Expr.concatenate (x :: y :: rest) = rest.foldl (.binary .add) (.binary .add x y) := rfl

namespace Linker

/-- The program of an expression, where the configuration has passed. -/
def compileChecked (l : Linker) (source : String) : Except CompileError Program := do
  let tree ← (Expr.parse source).mapError .parse
  let linked ← (l.link tree).mapError .link
  let code ← linked.tree.print.mapError .print
  return ⟨linked.tree, code, linked.watchers, l.config.parameters⟩

/-- The program of an expression. -/
def compile (l : Linker) (source : String) : Except CompileError Program := do
  l.config.validate.mapError .config
  l.compileChecked source

/-- The part of a template that a segment is, and the paths it depends on. -/
def compileSegment (l : Linker) : Segment → Except CompileError (Expr × List String)
  | .literal text => .ok (.ofString text, [])
  | .expression source => do
    let program ← l.compileChecked source
    return (.parens program.tree, program.watchers)

/-- The parts of a template, in order. -/
def compileSegments (l : Linker) : List Segment → Except CompileError (List (Expr × List String))
  | [] => .ok []
  | s :: rest => do
    let part ← l.compileSegment s
    let parts ← compileSegments l rest
    return part :: parts

/-- The program of a template. It depends on what its parts depend on. -/
def compileTemplate (l : Linker) (source : String) : Except CompileError Program := do
  l.config.validate.mapError .config
  let segments ← (Template.split source).mapError .template
  let parts ← l.compileSegments segments
  let tree := Expr.concatenate (parts.map Prod.fst)
  let code ← tree.print.mapError .print
  return ⟨tree, code, distinct (parts.flatMap Prod.snd), l.config.parameters⟩

end Linker

end DataBinding
