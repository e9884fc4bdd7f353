import DataBinding.Proofs.Grammar.Whole
import DataBinding.Proofs.Link.Reads
import DataBinding.Proofs.Link.Resolve

/-!
# Linking what is linked

Linking leaves a linked tree as it is. In a linked tree every name is recognized, built in or a
parameter, and no name is read through the accessor any more; at the root stands neither a pipeline
nor a name that is no symbol. A tree of that form passes each of the four steps unchanged.

Results:

* `Config.isSettled_linkTree`: in a linked tree every name is settled.
* `Config.isRoot_withReads`: what stands at the root of a linked tree.
* `Linker.link_idempotent`: the linked tree of a source is linked to itself.
-/

namespace DataBinding

/-- Nothing is asked of names. -/
def NameRule.free : NameRule := ⟨fun _ _ _ => True, fun _ => True, fun _ _ => True⟩

namespace Config

variable {c : Config} {scope : List String}

/-! ## The names of a linked tree -/

/-- The name is bound, and not to data behind the accessor. -/
def IsSettled (c : Config) (scope : List String) (s : Symbol) : Prop :=
  c.IsBound scope s ∧ c.isReadSymbol scope s = false

/-- Every name is bound. -/
def boundRule (c : Config) : NameRule :=
  ⟨fun scope _ s => c.IsBound scope s, fun _ => True, fun _ _ => True⟩

/-- Every name is settled. -/
def settledRule (c : Config) : NameRule :=
  ⟨fun scope _ s => c.IsSettled scope s, fun _ => True, fun _ _ => True⟩

theorem isSettled_accessorName (hn : "_get_by_any" ∉ c.names) (scope : List String) :
    c.IsSettled scope (.ofName accessorName) := by
  constructor
  · simp [IsBound, Symbol.ofName, isBuiltin_accessorName]
  · simp [isReadSymbol, Symbol.ofName, recognize?_accessorName hn]

/-- Resolving binds every name. -/
theorem resolves_boundRule (hv : c.validate = .ok ()) : c.Resolves .free c.boundRule where
  name _ hb := hb
  container hn := isBound_of_mem (mem_names_of_validate hv hn)
  param _ := trivial
  call := trivial

/-- Writing the reads as calls settles every bound name. -/
theorem reads_settledRule (hn : "_get_by_any" ∉ c.names) : c.Reads c.boundRule c.settledRule where
  name hb hr := ⟨hb, hr⟩
  accessor := isSettled_accessorName hn _
  param _ := trivial
  call _ := trivial
  read _ := trivial

/-- In a linked tree every name is settled. -/
theorem isSettled_linkTree {e r : Expr} {ts : List Token} (hv : c.validate = .ok ())
    (hn : "_get_by_any" ∉ c.names) (he : Expr.SpelledText e ts) (h : c.resolved e = .ok r) :
    (c.withReads r).Obeys c.settledRule [] false := by
  have free : Expr.Admits .free fun _ => True :=
    ⟨fun _ _ => trivial, fun _ _ => trivial, fun _ _ => trivial⟩
  have names : e.withoutPipeline.Obeys .free [] false := he.obeys free fun _ _ => trivial
  have bound : r.Obeys c.boundRule [] false :=
    (resolves_boundRule hv).obeys_resolved (fun _ => trivial) names h
  exact (reads_settledRule hn).obeys_withReads bound

/-! ## The root -/

/-- The tree can stand at the root of a linked tree: it is no pipeline, and no name but a symbol. -/
def IsRoot (c : Config) : Expr → Prop
  | .pipeline .. => False
  | .symbol s => c.isRecognized s.raw = true
  | _ => True

theorem isRoot_lift (name : String) : c.IsRoot (c.lift name) := by
  unfold lift
  split <;> trivial

/-- At the root neither the pipeline step nor the name step has anything to do. -/
theorem wrapName_withoutPipeline_of_isRoot {e : Expr} (h : c.IsRoot e) :
    c.wrapName e.withoutPipeline = e := by
  cases e with
  | pipeline => exact h.elim
  | symbol s => exact if_pos h
  | _ => rfl

theorem applyStages_eq_call (input : Expr) {stages : List (Symbol × List Expr)} (h : stages ≠ []) :
    ∃ f args, input.applyStages stages = .call f args := by
  obtain ⟨init, stage, rfl⟩ := (List.eq_nil_or_concat stages).resolve_left h
  rw [List.concat_eq_append, Expr.applyStages_append]
  exact ⟨_, _, rfl⟩

/-- The first two steps make a root of the tree of a text. -/
theorem isRoot_wrapName {e : Expr} (h : e.StratifiedText) :
    c.IsRoot (c.wrapName e.withoutPipeline) := by
  cases e with
  | pipeline input stages =>
    obtain ⟨f, args, he⟩ := applyStages_eq_call input h.2.1
    show c.IsRoot (c.wrapName (input.applyStages stages))
    rw [he]
    trivial
  | symbol s =>
    show c.IsRoot (if c.isRecognized s.raw then .symbol s else c.lift s.name)
    split
    · assumption
    · exact isRoot_lift _
  | _ => trivial

theorem isRoot_of_resolve {e r : Expr} (he : c.IsRoot e) (h : c.resolve [] false e = .ok r) :
    c.IsRoot r := by
  cases e with
  | pipeline => exact he.elim
  | symbol s =>
    have hs : c.resolveName [] false s = .ok (.symbol s) := if_pos (by simp [show _ = true from he])
    cases hs.symm.trans h
    exact he
  | literal =>
    cases h
    trivial
  | _ =>
    obtain ⟨_, -, h⟩ := bind_eq_ok_iff.1 h
    first
    | cases h; trivial
    | obtain ⟨_, -, h⟩ := bind_eq_ok_iff.1 h
      first
      | cases h; trivial
      | obtain ⟨_, -, h⟩ := bind_eq_ok_iff.1 h
        cases h
        trivial

theorem isRoot_memberOf (r : Reading) (key : Expr) {other : Expr → Expr}
    (ho : ∀ e, c.IsRoot (other e)) : c.IsRoot (r.memberOf key other).expr := by
  cases r with
  | read args => trivial
  | other e => exact ho e

theorem isRoot_withReads {e : Expr} (he : c.IsRoot e) : c.IsRoot (c.withReads e) := by
  cases e with
  | pipeline => exact he.elim
  | symbol s =>
    rw [withReads, reading]
    split
    · trivial
    · exact he
  | member target name => exact isRoot_memberOf _ _ fun _ => trivial
  | index target key => exact isRoot_memberOf _ _ fun _ => trivial
  | call f args =>
    rw [withReads, reading_call]
    trivial
  | _ => trivial

/-- The linked tree of a text is linked to itself. -/
theorem linkTree_linkTree {e tree : Expr} (hv : c.validate = .ok ()) (hn : "_get_by_any" ∉ c.names)
    {ts : List Token} (hs : Expr.SpelledText e ts) (he : e.StratifiedText)
    (h : c.linkTree e = .ok tree) : c.linkTree tree = .ok tree := by
  obtain ⟨r, hr, rfl⟩ := map_eq_ok_iff.1 h
  have names : (c.withReads r).Obeys c.settledRule [] false := isSettled_linkTree hv hn hs hr
  have root : c.IsRoot (c.withReads r) :=
    isRoot_withReads (isRoot_of_resolve (isRoot_wrapName he) hr)
  have bound : ∀ {scope callee s}, c.settledRule.name scope callee s → c.IsBound scope s :=
    fun hs => hs.1
  have unread : ∀ {scope callee s}, c.settledRule.name scope callee s →
      c.isReadSymbol scope s = false := fun hs => hs.2
  show (c.resolve [] false (c.wrapName (c.withReads r).withoutPipeline)).map c.withReads = _
  rw [wrapName_withoutPipeline_of_isRoot root, resolve_of_isBound bound _ names]
  show Except.ok (c.reading [] (c.withReads r)).expr = .ok (c.withReads r)
  rw [(reading_of_isUnread unread _ names).1]
  rfl

end Config

/-- Linking is idempotent: without hooks, under a configuration that passes and names no symbol like
    the accessor, the linked tree of a text is linked to itself and keeps its watchers. -/
theorem Linker.link_idempotent {c : Config} {source : String} {e : Expr} {linked : Linked}
    (hv : c.validate = .ok ()) (hn : "_get_by_any" ∉ c.names) (he : Expr.parse source = .ok e)
    (h : (ofConfig c).link e = .ok linked) : (ofConfig c).link linked.tree = .ok linked := by
  rw [link_ofConfig] at h ⊢
  obtain ⟨tree, ht, rfl⟩ := map_eq_ok_iff.1 h
  obtain ⟨ts, last, -, -, sp, st⟩ := Expr.parse_sound he
  rw [Config.linkTree_linkTree hv hn sp st ht]
  rfl

/-- A pipeline with an arrow function, a leveled symbol and a computed key. -/
theorem Linker.link_idempotent_pipeline : ∃ e linked,
    Expr.parse "a | f(x => $scope1[x])" = .ok e ∧ (ofConfig .standard).link e = .ok linked ∧
      (ofConfig .standard).link linked.tree = .ok linked := by
  have places : Tokens.ofSource "a | f(x => $scope1[x])" = .ok ⟨⟨.name "a", "a", 0⟩,
      [⟨.operator .pipe, "|", 2⟩, ⟨.name "f", "f", 4⟩, ⟨.punct .openParen, "(", 5⟩,
      ⟨.name "x", "x", 6⟩, ⟨.arrow, "=>", 8⟩, ⟨.name "$scope1", "$scope1", 11⟩,
      ⟨.punct .openBracket, "[", 18⟩, ⟨.name "x", "x", 19⟩, ⟨.punct .closeBracket, "]", 20⟩,
      ⟨.punct .closeParen, ")", 21⟩, ⟨.eof, "", 22⟩], none⟩ := by
    rw [Tokens.ofSource_eq_ok_iff]
    iterate 11 refine Cursor.scan_cons rfl rfl ?_
    exact Cursor.scan_last rfl rfl
  have parsed : Expr.parse "a | f(x => $scope1[x])" = .ok (.pipeline (.ofName "a")
      [(.ofName "f", [.arrow [.ofName "x"] (.index (.ofName "$scope1") (.ofName "x"))])]) := by
    rw [Expr.parse, places]
    cbv
  exact ⟨_, _, parsed, rfl, link_idempotent rfl (by decide) parsed rfl⟩

end DataBinding
