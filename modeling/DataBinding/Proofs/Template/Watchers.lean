import DataBinding.Proofs.Program.Dependencies
import DataBinding.Proofs.Template.Sum

/-!
# What a template depends on

The expressions of a template are compiled one by one, and each program has its paths once. The template
has the paths of all of them, once again. Its tree is a sum, nested to the left, and to walk it is to walk
the trees of these programs one after the other, so that both come to the same paths in the same order.

Results:

* `Linker.paths_of_compileSegments`: the paths of the parts are those of the expressions.
* `Program.watchers_of_template`: the watchers of a template by its tree and by its expressions.
-/

namespace DataBinding

/-- The source of the expression, if the part of a template is one. -/
def Segment.span? : Segment → Option String
  | .literal _ => none
  | .expression source => some source

namespace Linker

variable {l : Linker}

/-- The parts of a template have the paths of the programs of its expressions. -/
theorem paths_of_compileSegments (hv : l.config.validate = .ok ()) {segments : List Segment}
    {parts : List (Expr × List String)} (h : l.compileSegments segments = .ok parts) :
    ∃ programs, List.Forall₂ (fun span p => l.compile span = .ok p) (segments.filterMap Segment.span?)
        programs ∧
      (parts.map Prod.fst).flatMap Expr.paths = programs.flatMap fun p => p.tree.paths := by
  induction segments generalizing parts with
  | nil =>
    cases h
    exact ⟨[], .nil, rfl⟩
  | cons s rest ih =>
    obtain ⟨part, hpart, h⟩ := bind_eq_ok_iff.1 h
    obtain ⟨parts, hparts, h⟩ := bind_eq_ok_iff.1 h
    cases h
    obtain ⟨programs, hprograms, hpaths⟩ := ih hparts
    cases s with
    | literal text =>
      cases hpart
      refine ⟨programs, hprograms, ?_⟩
      rw [List.map_cons, List.flatMap_cons, Expr.paths_ofString, List.nil_append, hpaths]
    | expression span =>
      obtain ⟨p, hp, hpart⟩ := bind_eq_ok_iff.1 hpart
      cases hpart
      refine ⟨p :: programs, .cons (compile_eq_ok_iff.2 ⟨hv, hp⟩) hprograms, ?_⟩
      rw [List.map_cons, List.flatMap_cons, List.flatMap_cons, Expr.paths_parens, hpaths]

end Linker

/-- The watchers of a template are those of its tree. Each expression of the template has a program, and
    the watchers are the paths of their trees, one tree after the other, each path where it stands
    first. -/
theorem Program.watchers_of_template {c : Config} {source : String} {p : Program}
    (h : (Linker.ofConfig c).compileTemplate source = .ok p) :
    p.watchers = p.tree.watchers ∧ p.watchers.Nodup ∧
      ∃ segments programs, Template.split source = .ok segments ∧
        List.Forall₂ (fun span q => (Linker.ofConfig c).compile span = .ok q)
          (segments.filterMap Segment.span?) programs ∧
        p.tree.paths = programs.flatMap (fun q => q.tree.paths) ∧
        IsFirsts p.watchers (programs.flatMap fun q => q.tree.paths) := by
  have watchers := Linker.watchers_of_compiled (.inr h)
  obtain ⟨hv, segments, parts, code, hs, hp, -, rfl⟩ := Linker.compileTemplate_eq_ok_iff.1 h
  obtain ⟨programs, hprograms, hpaths⟩ := Linker.paths_of_compileSegments hv hp
  have paths : (Expr.concatenate (parts.map Prod.fst)).paths =
      programs.flatMap fun q => q.tree.paths := by
    rw [Expr.paths_concatenate, hpaths]
  refine ⟨watchers, ?_, segments, programs, hs, hprograms, paths, ?_⟩
  · rw [watchers]
    exact Expr.watchers_nodup _
  · rw [watchers, ← paths]
    exact isFirsts_distinct _

/-- The last expression has the path of the first one again. -/
theorem Program.watchers_of_template_shared : ∃ p,
    (Linker.ofConfig .standard).compileTemplate "$\x7bb\x7d$\x7ba\x7d-$\x7bb\x7d" = .ok p ∧
      p.watchers = ["scope.b", "scope.a"] ∧
      p.tree.paths = ["scope.b", "scope.a", "scope.b"] ∧
      p.watchers = p.tree.watchers ∧ IsFirsts p.watchers p.tree.paths := by
  have segments : Template.split "$\x7bb\x7d$\x7ba\x7d-$\x7bb\x7d" =
      .ok [.expression "b", .expression "a", .literal "-", .expression "b"] := by
    have text : "$\x7bb\x7d$\x7ba\x7d-$\x7bb\x7d".toList = ['$', '\x7b', 'b', '\x7d', '$', '\x7b', 'a',
      '\x7d', '-', '$', '\x7b', 'b', '\x7d'] := rfl
    rw [Template.split, text]
    exact Template.splitFrom_expression rfl (Template.splitFrom_expression rfl
      (Template.splitFrom_literal (by decide) rfl
        (Template.splitFrom_expression rfl (Template.splitFrom_nil _))))
  have treeA : Expr.parse "a" = .ok (.ofName "a") :=
    Expr.parse_of_scan (Cursor.scan_cons rfl rfl (Cursor.scan_last rfl rfl)) rfl (.symbol ⟨rfl, rfl⟩)
      trivial
  have treeB : Expr.parse "b" = .ok (.ofName "b") :=
    Expr.parse_of_scan (Cursor.scan_cons rfl rfl (Cursor.scan_last rfl rfl)) rfl (.symbol ⟨rfl, rfl⟩)
      trivial
  let readA : Expr := .call (.ofName accessorName) [.ofString "scope", .ofString "a"]
  let readB : Expr := .call (.ofName accessorName) [.ofString "scope", .ofString "b"]
  have partA := Linker.compileSegment_of_link treeA
    (rfl : (Linker.ofConfig .standard).link (.ofName "a") = .ok ⟨readA, readA.watchers⟩) rfl
  have partB := Linker.compileSegment_of_link treeB
    (rfl : (Linker.ofConfig .standard).link (.ofName "b") = .ok ⟨readB, readB.watchers⟩) rfl
  have parts := Linker.compileSegments_cons partB (Linker.compileSegments_cons partA
    (Linker.compileSegments_cons
      (rfl : (Linker.ofConfig .standard).compileSegment (.literal "-") = .ok _)
      (Linker.compileSegments_cons partB
        (rfl : (Linker.ofConfig .standard).compileSegments [] = .ok _))))
  have compiled := Linker.compileTemplate_eq_ok_iff.2 ⟨rfl, _, _, _, segments, parts, rfl, rfl⟩
  let tree := Expr.concatenate [readB.parens, readA.parens, .ofString "-", readB.parens]
  have treePaths : tree.paths = ["scope.b", "scope.a", "scope.b"] := by cbv
  have treeWatchers : tree.watchers = ["scope.b", "scope.a"] := by cbv
  obtain ⟨watchers, -, _, programs, -, -, paths, firsts⟩ := watchers_of_template compiled
  exact ⟨_, compiled, watchers.trans treeWatchers, treePaths, watchers, paths ▸ firsts⟩

end DataBinding
