import DataBinding.Proofs.Printing.Linked

/-!
# Compiling never fails at printing

Only pipelines have no text. A parsed tree has one at its root at most, linking writes that one as calls
and makes no other, and a template adds up linked trees. So what is compiled has a text, and no source
and no template is refused because its tree has none.

Results:

* `Linker.compileChecked_ne_print`, `Linker.withoutPipelines_of_compileSegment`: single expressions and
  the parts of a template.
* `Linker.compile_ne_print`: only trees with a pipeline have no text, and no program is one of them.
-/

namespace DataBinding

namespace Linker

variable {c : Config} {source : String}

/-! ## Expressions -/

/-- What is linked to a source has no pipeline. -/
theorem withoutPipelines_of_link (hv : c.validate = .ok ()) {e : Expr} {linked : Linked}
    (he : Expr.parse source = .ok e) (hl : (ofConfig c).link e = .ok linked) :
    linked.tree.WithoutPipelines := by
  rw [link_ofConfig] at hl
  obtain ⟨tree, ht, rfl⟩ := map_eq_ok_iff.1 hl
  exact (Config.legible_linkTree hv he ht).withoutPipelines

/-- A tree without pipelines is not refused. -/
theorem mapError_print_ne_print {e : Expr} (h : e.WithoutPipelines) (fault : CompileError) :
    e.print.mapError CompileError.print ≠ .error fault := by
  obtain ⟨code, hcode⟩ := e.exists_print h
  rw [hcode]
  exact fun h => by cases h

theorem compileChecked_ne_print (hv : c.validate = .ok ()) (fault : PrintError) :
    (ofConfig c).compileChecked source ≠ .error (.print fault) := by
  intro h
  rcases bind_eq_error_iff.1 h with h | ⟨e, he, h⟩
  · exact mapError_ne_error (fun _ h => by cases h) h
  rcases bind_eq_error_iff.1 h with h | ⟨linked, hl, h⟩
  · exact mapError_ne_error (fun _ h => by cases h) h
  have plain := withoutPipelines_of_link hv (mapError_eq_ok_iff.1 he) (mapError_eq_ok_iff.1 hl)
  rcases bind_eq_error_iff.1 h with h | ⟨code, _, h⟩
  · exact mapError_print_ne_print plain _ h
  · cases h

/-! ## Templates -/

/-- The part of a template that a segment is has no pipeline. -/
theorem withoutPipelines_of_compileSegment (hv : c.validate = .ok ()) {s : Segment}
    {part : Expr × List String} (h : (ofConfig c).compileSegment s = .ok part) :
    part.1.WithoutPipelines := by
  cases s with
  | literal text =>
    cases h
    exact Expr.withoutPipelines_of_children rfl (by simp [Expr.ofString, Expr.children])
  | expression span =>
    obtain ⟨program, hp, h⟩ := bind_eq_ok_iff.1 h
    obtain ⟨e, linked, code, he, hl, -, rfl⟩ := compileChecked_eq_ok_iff.1 hp
    cases h
    exact Expr.withoutPipelines_of_children rfl
      (by simpa [Expr.children] using withoutPipelines_of_link hv he hl)

theorem compileSegments_ne_print (hv : c.validate = .ok ()) (fault : PrintError)
    (segments : List Segment) : (ofConfig c).compileSegments segments ≠ .error (.print fault) := by
  induction segments with
  | nil => exact fun h => by cases h
  | cons s rest ih =>
    intro h
    rcases bind_eq_error_iff.1 h with h | ⟨part, _, h⟩
    · cases s with
      | literal text => cases h
      | expression span =>
        rcases bind_eq_error_iff.1 h with h | ⟨program, _, h⟩
        · exact compileChecked_ne_print hv fault h
        · cases h
    · rcases bind_eq_error_iff.1 h with h | ⟨parts, _, h⟩
      · exact ih h
      · cases h

/-- The sum of the parts of a template has no pipeline. -/
theorem withoutPipelines_concatenate (hv : c.validate = .ok ()) {segments : List Segment}
    {parts : List (Expr × List String)}
    (h : (ofConfig c).compileSegments segments = .ok parts) :
    (Expr.concatenate (parts.map Prod.fst)).WithoutPipelines := by
  have each := forall_compileSegments
    (fun _ _ _ hs => withoutPipelines_of_compileSegment hv hs) h
  refine Expr.concatenate_of ?_ (fun e he => ?_) (fun left right hl hr => ?_) fun e he => ?_
  · exact Expr.withoutPipelines_of_children rfl (by simp [Expr.ofString, Expr.children])
  · cases e with
    | parens inner => exact he.child List.mem_cons_self
    | _ => exact he
  · exact Expr.withoutPipelines_of_children rfl (by simpa [Expr.children] using ⟨hl, hr⟩)
  · obtain ⟨part, hm, rfl⟩ := List.mem_map.1 he
    exact each part hm

theorem compileTemplate_ne_print (fault : PrintError) :
    (ofConfig c).compileTemplate source ≠ .error (.print fault) := by
  intro h
  rcases bind_eq_error_iff.1 h with h | ⟨_, hv, h⟩
  · exact mapError_ne_error (fun _ h => by cases h) h
  have hv := mapError_eq_ok_iff.1 hv
  rcases bind_eq_error_iff.1 h with h | ⟨segments, _, h⟩
  · exact mapError_ne_error (fun _ h => by cases h) h
  rcases bind_eq_error_iff.1 h with h | ⟨parts, hp, h⟩
  · exact compileSegments_ne_print hv fault segments h
  rcases bind_eq_error_iff.1 h with h | ⟨code, _, h⟩
  · exact mapError_print_ne_print (withoutPipelines_concatenate hv hp) _ h
  · cases h

/-- A tree cannot be printed exactly if one of its nodes is a pipeline, and compiling a source or a
    template never fails because its tree cannot be printed. -/
theorem compile_ne_print :
    (∀ e : Expr, (∃ fault, e.print = .error fault) ↔ ∃ n ∈ e.walk, n.isPipeline = true) ∧
      ∀ (c : Config) (source : String) (fault : PrintError),
        (ofConfig c).compile source ≠ .error (.print fault) ∧
          (ofConfig c).compileTemplate source ≠ .error (.print fault) := by
  refine ⟨fun e => Expr.exists_print_error_iff, fun c source fault =>
    ⟨fun h => ?_, compileTemplate_ne_print fault⟩⟩
  rcases bind_eq_error_iff.1 h with h | ⟨_, hv, h⟩
  · exact mapError_ne_error (fun _ h => by cases h) h
  · exact compileChecked_ne_print (mapError_eq_ok_iff.1 hv) fault h

end Linker

end DataBinding
