import DataBinding.Proofs.Link.Parens
import DataBinding.Proofs.Link.Sums
import DataBinding.Proofs.Printing.Linked
import DataBinding.Proofs.Template.Render

/-!
# Two ways to compile a template

A template can be compiled segment by segment, or by way of the source that its segments make. Both
give the same program or the same fault, as long as no expression is a pipeline and none is just a name
that is read elsewhere when it stands in parentheses: by itself every name without a symbol is read from
its container, in parentheses a built-in name is not, and one after a dollar sign need not be.

Results:

* `Config.resolved_eq_resolve`: an expression by itself and in parentheses.
* `Linker.compileSegments_eq`: the parts that segments compile to.
* `Linker.compileTemplate_eq_compile`: both ways give the same.
-/

namespace DataBinding

namespace Config

variable {c : Config}

/-- By itself and in parentheses the name is read from the same place: it is not built in, and it is
    recognized if it starts with a dollar sign. -/
def ReadsAlike (c : Config) (s : Symbol) : Prop :=
  isBuiltin s.name = false ∧ (s.name.toList.head? = some '$' → c.isRecognized s.raw = true)

/-! ## Names by themselves -/

theorem ReadsAlike.keepsWhole {s : Symbol} (h : c.ReadsAlike s) : c.KeepsWhole s := by
  cases hr : c.isRecognized s.raw with
  | true => exact .inl hr
  | false =>
    have hdollar : s.name.toList.head? ≠ some '$' := by
      intro hd
      rw [h.2 hd] at hr
      cases hr
    exact .inr ⟨h.1, by simp [isUnknownDollar, hdollar]⟩

/-- An expression by itself is resolved as it is in parentheses. -/
theorem resolved_eq_resolve {e : Expr} (hv : c.validate = .ok ()) (hp : e.isPipeline = false)
    (h : ∀ s, e = .symbol s → c.ReadsAlike s) : c.resolved e = c.resolve [] false e := by
  cases e with
  | symbol s =>
    obtain ⟨r, hr, hr'⟩ := resolved_symbol hv (h s rfl).keepsWhole
    exact hr.trans hr'.symm
  | pipeline => cases hp
  | _ => rfl

end Config

/-! ## Segments -/

namespace Linker

variable {c : Config}

/-- A source that is parsed is compiled if it is linked. -/
theorem compileChecked_of_parse {source : String} {e : Expr} (he : Expr.parse source = .ok e) :
    (ofConfig c).compileChecked source = (do
      let tree ← (c.linkTree e).mapError .link
      let code ← tree.print.mapError .print
      return ⟨tree, code, tree.watchers, c.parameters⟩) := by
  rw [compileChecked, he]
  show (do
    let linked ← ((ofConfig c).link e).mapError CompileError.link
    let code ← linked.tree.print.mapError CompileError.print
    return (⟨linked.tree, code, linked.watchers, c.parameters⟩ : Program)) = _
  rw [link_ofConfig]
  cases c.linkTree e <;> rfl

/-- The part of a template that an expression is. -/
theorem compileSegment_expression {source : String} {e : Expr} (hv : c.validate = .ok ())
    (he : Expr.parse source = .ok e) : (ofConfig c).compileSegment (.expression source) =
      ((c.linkTree e).mapError .link).map fun tree => (.parens tree, tree.watchers) := by
  rw [compileSegment, compileChecked_of_parse he]
  cases htree : c.linkTree e with
  | error e => rfl
  | ok tree =>
    have legible := Config.legible_linkTree hv he htree
    obtain ⟨code, hcode⟩ := legible.exists_print
    exact bind_eq_ok_iff.2 ⟨_, bind_eq_ok_iff.2 ⟨tree, rfl,
      bind_eq_ok_iff.2 ⟨code, mapError_eq_ok_iff.2 hcode, rfl⟩⟩, rfl⟩

/-- The part of a template that a resolved operand becomes. -/
def linkedPart (c : Config) (r : Expr) : Expr × List String := (c.withReads r, (c.withReads r).watchers)

theorem linkedPart_ofString (text : String) : linkedPart c (.ofString text) = (.ofString text, []) := by
  rw [linkedPart, c.withReads_ofString, Expr.watchers_ofString]

theorem linkedPart_parens (r : Expr) :
    linkedPart c (.parens r) = (.parens (c.withReads r), (c.withReads r).watchers) := by
  rw [linkedPart, c.withReads_parens, Expr.watchers_parens]

/-- The parts that segments compile to: their operands, linked one after the other. -/
theorem compileSegments_eq (hv : c.validate = .ok ()) {segments : List Segment} {es : List Expr}
    (h : Template.Operands segments es)
    (hn : ∀ span, .expression span ∈ segments → ∀ s, Expr.parse span = .ok (.symbol s) →
      c.ReadsAlike s) :
    (ofConfig c).compileSegments segments =
      ((c.resolveList [] es).mapError .link).map (List.map (linkedPart c)) := by
  induction h with
  | nil => rfl
  | @literal text rest es _ ih =>
    have htext : c.resolve [] false (.ofString text) = .ok (.ofString text) := c.resolve_literal ..
    rw [compileSegments, ih fun span hm => hn span (List.mem_cons_of_mem _ hm), Config.resolveList,
      htext]
    cases c.resolveList [] es with
    | error e => rfl
    | ok rs =>
      show Except.ok _ = Except.ok (linkedPart c (.ofString text) :: _)
      rw [linkedPart_ofString]
  | @expression source e rest es he hp _ ih =>
    have hresolved : c.resolved e = c.resolve [] false e :=
      Config.resolved_eq_resolve hv hp fun s hs => hn source List.mem_cons_self s (hs ▸ he)
    rw [compileSegments, ih fun span hm => hn span (List.mem_cons_of_mem _ hm), Config.resolveList,
      compileSegment_expression hv he, Config.resolve_parens, Config.linkTree, hresolved]
    cases c.resolve [] false e with
    | error e => rfl
    | ok r =>
      cases c.resolveList [] es with
      | error e => rfl
      | ok rs =>
        show Except.ok _ = Except.ok (linkedPart c (.parens r) :: _)
        rw [linkedPart_parens]

/-! ## Templates -/

/-- Where the configuration passes, the parts of a template are added up. -/
theorem compileTemplate_of_split {source : String} {segments : List Segment}
    (hv : c.validate = .ok ()) (hs : Template.split source = .ok segments) :
    (ofConfig c).compileTemplate source = (do
      let parts ← (ofConfig c).compileSegments segments
      let code ← (Expr.concatenate (parts.map Prod.fst)).print.mapError .print
      return ⟨Expr.concatenate (parts.map Prod.fst), code, distinct (parts.flatMap Prod.snd),
        c.parameters⟩) := by
  have hvalid : (ofConfig c).config.validate = .ok () := hv
  rw [compileTemplate, hvalid, hs]
  rfl

/-- One expression is compiled as it is by itself. -/
theorem compileTemplate_singleton (hv : c.validate = .ok ()) {source span : String}
    (hs : Template.split source = .ok [.expression span]) :
    (ofConfig c).compileTemplate source = (ofConfig c).compile span := by
  rw [compileTemplate_of_split hv hs, compile_of_validate hv]
  cases hp : (ofConfig c).compileChecked span with
  | error e =>
    simp only [compileSegments, compileSegment, hp, bind, Except.bind]
  | ok p =>
    obtain ⟨e, linked, code, -, hlink, hcode, rfl⟩ := compileChecked_eq_ok_iff.1 hp
    rw [link_ofConfig] at hlink
    obtain ⟨tree, -, rfl⟩ := map_eq_ok_iff.1 hlink
    have hparts : (ofConfig c).compileSegments [.expression span] =
        .ok [(.parens tree, tree.watchers)] := by
      rw [compileSegments, compileSegment, hp]
      rfl
    refine bind_eq_ok_iff.2 ⟨_, hparts, bind_eq_ok_iff.2 ⟨code, mapError_eq_ok_iff.2 hcode, ?_⟩⟩
    rw [List.flatMap_cons, List.flatMap_nil, List.append_nil, distinct_eq_self tree.watchers_nodup]
    rfl

theorem compile_quote (hv : c.validate = .ok ()) (text : String) :
    (ofConfig c).compile (Json.quote text) =
      .ok ⟨.ofString text, Json.quote text, [], c.parameters⟩ := by
  have hparse : Expr.parse (Json.quote text) = .ok (.ofString text) :=
    (Template.isOperand_literal text).parse_eq
  have htree : c.linkTree (.ofString text) = .ok (.ofString text) :=
    congrArg Except.ok (c.withReads_ofString text)
  rw [compile_of_validate hv, compileChecked_of_parse hparse, htree, ← Expr.watchers_ofString text]
  rfl

/-- One plain text is compiled as the string. -/
theorem compileTemplate_text (hv : c.validate = .ok ()) {source text : String}
    (hs : Template.split source = .ok [.literal text]) :
    (ofConfig c).compileTemplate source = (ofConfig c).compile (Json.quote text) := by
  rw [compileTemplate_of_split hv hs, compile_quote hv]
  rfl

/-- Without segments there is the empty string. -/
theorem compileTemplate_empty (hv : c.validate = .ok ()) {source : String}
    (hs : Template.split source = .ok []) :
    (ofConfig c).compileTemplate source = (ofConfig c).compile (Json.quote "") := by
  rw [compileTemplate_of_split hv hs, compile_quote hv]
  rfl

/-- Several segments are compiled as the source that they make. -/
theorem compileTemplate_several (hv : c.validate = .ok ()) {source : String} {s t : Segment}
    {rest : List Segment} {es : List Expr} (hs : Template.split source = .ok (s :: t :: rest))
    (h : Template.Operands (s :: t :: rest) es)
    (hn : ∀ span, .expression span ∈ s :: t :: rest → ∀ s, Expr.parse span = .ok (.symbol s) →
      c.ReadsAlike s) :
    (ofConfig c).compileTemplate source = (ofConfig c).compile (Template.render (s :: t :: rest)) := by
  obtain ⟨x, _, rfl, h'⟩ := h.exists_cons
  obtain ⟨y, es, rfl, -⟩ := h'.exists_cons
  rw [compileTemplate_of_split hv hs, compileSegments_eq hv h hn, compile_of_validate hv,
    compileChecked_of_parse (Template.parse_render h), Config.linkTree_sum]
  cases hresolved : c.resolveList [] (x :: y :: es) with
  | error e => rfl
  | ok rs =>
    obtain ⟨r₁, -, hrest⟩ := bind_eq_ok_iff.1 hresolved
    obtain ⟨rs', hrs', he⟩ := bind_eq_ok_iff.1 hrest
    obtain ⟨r₂, -, hrest'⟩ := bind_eq_ok_iff.1 hrs'
    obtain ⟨rs, -, he'⟩ := bind_eq_ok_iff.1 hrest'
    cases he'
    cases he
    have htrees : ((r₁ :: r₂ :: rs).map (linkedPart c)).map Prod.fst =
        (r₁ :: r₂ :: rs).map c.withReads := by
      rw [List.map_map]
      rfl
    have hpaths : distinct (((r₁ :: r₂ :: rs).map (linkedPart c)).flatMap Prod.snd) =
        (Expr.concatenate ((r₁ :: r₂ :: rs).map c.withReads)).watchers := by
      rw [Expr.watchers_concatenate, List.flatMap_map, List.flatMap_map]
      rfl
    have hlinked : (Except.ok (r₁ :: r₂ :: rs)).mapError CompileError.link = .ok (r₁ :: r₂ :: rs) := rfl
    rw [hlinked]
    simp only [Except.map, bind, Except.bind]
    rw [htrees, hpaths]
    rfl

/-- Both ways to compile a template give the same program or the same fault, if every expression in it
    is parsed and no pipeline, and among several segments none is a name that is read elsewhere when it
    stands in parentheses. -/
theorem compileTemplate_eq_compile {source : String} {segments : List Segment}
    (hs : Template.split source = .ok segments)
    (hspan : ∀ span, .expression span ∈ segments →
      ∃ e, Expr.parse span = .ok e ∧ e.isPipeline = false)
    (hname : 2 ≤ segments.length → ∀ span, .expression span ∈ segments →
      ∀ s, Expr.parse span = .ok (.symbol s) → c.ReadsAlike s) :
    ∃ code, Template.extract source = .ok code ∧
      (ofConfig c).compileTemplate source = (ofConfig c).compile code := by
  refine ⟨Template.render segments, by rw [Template.extract, hs]; rfl, ?_⟩
  cases hv : c.validate with
  | error e =>
    have hvalid : (ofConfig c).config.validate = .error e := hv
    rw [compileTemplate, compile, hvalid]
    rfl
  | ok =>
    rcases segments with _ | ⟨s, _ | ⟨t, rest⟩⟩
    · exact compileTemplate_empty hv hs
    · cases s with
      | literal text => exact compileTemplate_text hv hs
      | expression span => exact compileTemplate_singleton hv hs
    · obtain ⟨es, hes⟩ := Template.exists_operands hspan
      exact compileTemplate_several hv hs hes (hname (by simp))

/-- A plain text, a name that is read from its container, and a symbol -/
theorem compileTemplate_eq_compile_names : ∃ code,
    Template.extract "x$\x7ba\x7d$\x7b$hooks\x7d" = .ok code ∧
      (ofConfig .standard).compileTemplate "x$\x7ba\x7d$\x7b$hooks\x7d" =
        (ofConfig .standard).compile code := by
  have segments : Template.split "x$\x7ba\x7d$\x7b$hooks\x7d" =
      .ok [.literal "x", .expression "a", .expression "$hooks"] := by
    have text : "x$\x7ba\x7d$\x7b$hooks\x7d".toList = ['x', '$', '\x7b', 'a', '\x7d', '$', '\x7b', '$',
      'h', 'o', 'o', 'k', 's', '\x7d'] := rfl
    rw [Template.split, text]
    exact Template.splitFrom_literal (by decide) rfl (Template.splitFrom_expression rfl
      (Template.splitFrom_expression rfl (Template.splitFrom_nil _)))
  have first : Expr.parse "a" = .ok (.ofName "a") :=
    Expr.parse_of_scan (Cursor.scan_cons rfl rfl (Cursor.scan_last rfl rfl)) rfl (.symbol ⟨rfl, rfl⟩)
      trivial
  have letters : "hooks".toList.all isIdentifierPart = true := rfl
  have second : Expr.parse "$hooks" = .ok (.ofName "$hooks") :=
    (isPhrase_name (isToken_dollar letters)).parse_eq
  have spans : ∀ span, Segment.expression span ∈
      [.literal "x", .expression "a", .expression "$hooks"] → span = "a" ∨ span = "$hooks" := by
    simp
  refine compileTemplate_eq_compile segments (fun span hm => ?_) fun _ span hm s hs => ?_
  · rcases spans span hm with rfl | rfl
    · exact ⟨_, first, rfl⟩
    · exact ⟨_, second, rfl⟩
  · rcases spans span hm with rfl | rfl
    · cases first.symm.trans hs
      exact ⟨by decide, fun h => absurd h (by decide)⟩
    · cases second.symm.trans hs
      exact ⟨by decide, fun _ => by decide⟩

end Linker

end DataBinding
