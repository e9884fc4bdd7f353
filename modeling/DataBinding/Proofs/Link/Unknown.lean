import DataBinding.Proofs.Link.Idempotent
import Mathlib.Data.List.Basic

/-!
# Names that nothing stands for

Linking fails only at a name after a dollar sign that stands for nothing, at the first one in the order
in which the nodes are visited. A text that is one name and nothing else does not fail, for that name is
read from a container before any name is resolved.

Results:

* `Expr.map_snd_walkIn`: the nodes with the parameters in sight are visited in the order of the watchers.
* `Config.error?_resolve`: resolving fails with the first fault among the nodes.
* `Linker.link_eq_error_iff`: when linking fails, and with what.
-/

namespace DataBinding

/-! ## The first in a list -/

section

variable {α β γ : Type}

theorem findSome?_cons_or (f : α → Option β) (a : α) (as : List α) :
    (a :: as).findSome? f = (f a).or (as.findSome? f) := by
  rw [List.findSome?_cons]
  cases f a <;> rfl

theorem findSome?_flatMap (f : β → Option γ) (g : α → List β) (xs : List α) :
    (xs.flatMap g).findSome? f = xs.findSome? fun x => (g x).findSome? f := by
  rw [← List.head?_filterMap, List.filterMap_flatMap, List.head?_flatMap]
  simp only [List.head?_filterMap]

end

namespace Expr

/-! ## Nodes with the parameters in sight -/

/-- The parameters in sight of the children of a node. -/
def scopeWithin (scope : List String) : Expr → List String
  | arrow params _ => Config.extendScope scope params
  | _ => scope

/-- The node and its descendants, each with the parameters in sight: each child before the next, parents
    before children. -/
def walkIn (scope : List String) (e : Expr) : List (List String × Expr) :=
  (scope, e) :: e.children.attach.flatMap fun ⟨child, _⟩ => walkIn (e.scopeWithin scope) child
termination_by sizeOf e
decreasing_by exact sizeOf_lt_of_mem_children ‹_›

theorem walkIn_eq (scope : List String) (e : Expr) :
    e.walkIn scope = (scope, e) :: e.children.flatMap (walkIn (e.scopeWithin scope)) := by
  rw [walkIn, List.flatMap_subtype (g := walkIn (e.scopeWithin scope)) fun _ _ => rfl,
    List.unattach_attach]

/-- The nodes are visited in the order in which watchers are collected. -/
theorem map_snd_walkIn (scope : List String) (e : Expr) : (e.walkIn scope).map Prod.snd = e.walk := by
  induction e using walk.induct generalizing scope with
  | case1 e ih =>
    rw [walkIn_eq, walk_eq, List.map_cons, List.map_flatMap]
    congr 1
    exact List.flatMap_congr fun child hc => ih child hc _

end Expr

namespace Config

variable {c : Config} {scope : List String}

/-! ## Faults -/

/-- The name starts with a dollar sign and is no symbol, not the accessor and no parameter in sight. -/
def IsUnknown (c : Config) (scope : List String) (s : Symbol) : Prop :=
  s.name.toList.head? = some '$' ∧ c.isRecognized s.raw = false ∧ s.name ≠ accessorName ∧
    s.name ∉ scope

instance (c : Config) (scope : List String) (s : Symbol) : Decidable (c.IsUnknown scope s) :=
  inferInstanceAs (Decidable (_ ∧ _))

/-- No container holds names after a dollar sign. -/
def RefusesDollar (c : Config) : Prop := c.dollarContainer = none ∧ c.allowUnknownDollar = false

instance (c : Config) : Decidable c.RefusesDollar := inferInstanceAs (Decidable (_ ∧ _))

/-- The fault of a node with the parameters in sight. -/
def fault? (c : Config) : List String × Expr → Option LinkError
  | (scope, .symbol s) =>
    if c.RefusesDollar ∧ c.IsUnknown scope s then some (.unknownDollar s.name) else none
  | _ => none

/-- The accessor is the only built-in name that starts with a dollar sign. -/
theorem eq_accessorName_of_isBuiltin {name : String} (hb : isBuiltin name = true)
    (hd : name.toList.head? = some '$') : name = accessorName := by
  have hall : ∀ name ∈ builtins, name.toList.head? = some '$' → name = accessorName := by decide
  exact hall name (List.contains_iff_mem.1 hb) hd

theorem isUnknownDollar_iff {name : String} : c.isUnknownDollar name = true ↔
    name.toList.head? = some '$' ∧ c.RefusesDollar := by
  simp only [isUnknownDollar, RefusesDollar, Bool.and_eq_true, beq_iff_eq, Bool.not_eq_true',
    Option.isNone_iff_eq_none]
  constructor
  · rintro ⟨⟨hname, hallow⟩, hcontainer⟩
    exact ⟨hname, hcontainer, hallow⟩
  · rintro ⟨hname, hcontainer, hallow⟩
    exact ⟨⟨hname, hallow⟩, hcontainer⟩

/-- A name fails to resolve just where it is unknown. -/
theorem error?_resolveName (callee : Bool) (s : Symbol) :
    error? (c.resolveName scope callee s) = c.fault? (scope, .symbol s) := by
  unfold resolveName fault?
  dsimp only
  split
  · rename_i hbound
    have hknown : ¬ (c.RefusesDollar ∧ c.IsUnknown scope s) := by
      rintro ⟨-, hdollar, hraw, hname, hscope⟩
      rw [hraw, Bool.false_or, Bool.or_eq_true] at hbound
      rcases hbound with hb | hm
      · exact hname (eq_accessorName_of_isBuiltin hb hdollar)
      · exact hscope (List.contains_iff_mem.1 hm)
    rw [if_neg hknown]
    rfl
  · rename_i hbound
    simp only [Bool.or_eq_true, not_or, Bool.not_eq_true] at hbound
    obtain ⟨⟨hraw, hb⟩, hm⟩ := hbound
    have hname : s.name ≠ accessorName := by
      intro he
      rw [he, isBuiltin_accessorName] at hb
      cases hb
    have hscope : s.name ∉ scope := fun h => by
      rw [List.contains_iff_mem.2 h] at hm
      cases hm
    by_cases hd : c.isUnknownDollar s.name = true
    · obtain ⟨hdollar, hc⟩ := isUnknownDollar_iff.1 hd
      rw [if_pos hd, if_pos ⟨hc, hdollar, hraw, hname, hscope⟩]
      rfl
    · have hknown : ¬ (c.RefusesDollar ∧ c.IsUnknown scope s) :=
        fun h => hd (isUnknownDollar_iff.2 ⟨h.2.1, h.1⟩)
      rw [if_neg hd, if_neg hknown]
      rfl

/-- The first fault among the nodes of an expression. -/
def firstFault? (c : Config) (scope : List String) (e : Expr) : Option LinkError :=
  (e.walkIn scope).findSome? c.fault?

theorem firstFault?_eq (scope : List String) (e : Expr) : c.firstFault? scope e =
    (c.fault? (scope, e)).or (e.children.findSome? (c.firstFault? (e.scopeWithin scope))) := by
  rw [firstFault?, Expr.walkIn_eq, List.findSome?_cons, findSome?_flatMap]
  cases c.fault? (scope, e) <;> rfl

/-- A node that is no name has no fault of its own. -/
theorem firstFault?_children {scope : List String} {e : Expr} (h : ∀ s, e ≠ .symbol s) :
    c.firstFault? scope e = e.children.findSome? (c.firstFault? (e.scopeWithin scope)) := by
  have hnode : c.fault? (scope, e) = none := by
    cases e with
    | symbol s => exact absurd rfl (h s)
    | _ => rfl
  rw [firstFault?_eq, hnode, Option.none_or]

mutual

/-- Resolving fails with the first fault among the nodes. -/
theorem error?_resolve (scope : List String) (callee : Bool) :
    (e : Expr) → error? (c.resolve scope callee e) = c.firstFault? scope e
  | .symbol s => by
    rw [resolve, error?_resolveName, firstFault?_eq]
    exact (Option.or_none ..).symm
  | .literal l => by
    rw [firstFault?_children (by simp)]
    rfl
  | .conditional condition yes alternative => by
    rw [resolve, firstFault?_children (by simp)]
    refine (error?_bind _ fun _ => error?_bind _ fun _ => error?_bind_pure _ _).trans ?_
    rw [error?_resolve scope false condition, error?_resolve scope false yes,
      error?_resolve scope false alternative]
    simp [Expr.children, Expr.scopeWithin, findSome?_cons_or]
  | .unary op operand => by
    rw [resolve, firstFault?_children (by simp), error?_bind_pure, error?_resolve scope false operand]
    simp [Expr.children, Expr.scopeWithin, findSome?_cons_or]
  | .binary op left right => by
    rw [resolve, firstFault?_children (by simp)]
    refine (error?_bind _ fun _ => error?_bind_pure _ _).trans ?_
    rw [error?_resolve scope false left, error?_resolve scope false right]
    simp [Expr.children, Expr.scopeWithin, findSome?_cons_or]
  | .member target name => by
    rw [resolve, firstFault?_children (by simp), error?_bind_pure, error?_resolve scope false target]
    simp [Expr.children, Expr.scopeWithin, findSome?_cons_or]
  | .index target key => by
    rw [resolve, firstFault?_children (by simp)]
    refine (error?_bind _ fun _ => error?_bind_pure _ _).trans ?_
    rw [error?_resolve scope false target, error?_resolve scope false key]
    simp [Expr.children, Expr.scopeWithin, findSome?_cons_or]
  | .call f args => by
    rw [resolve, firstFault?_children (by simp)]
    refine (error?_bind _ fun _ => error?_bind_pure _ _).trans ?_
    rw [error?_resolve scope true f, error?_resolveList scope args]
    exact (findSome?_cons_or ..).symm
  | .array elements => by
    rw [resolve, firstFault?_children (by simp), error?_bind_pure, error?_resolveList scope elements]
    rfl
  | .object entries => by
    rw [resolve, firstFault?_children (by simp), error?_bind_pure, error?_resolveEntries scope entries]
    rfl
  | .parens inner => by
    rw [resolve, firstFault?_children (by simp), error?_bind_pure, error?_resolve scope false inner]
    simp [Expr.children, Expr.scopeWithin, findSome?_cons_or]
  | .pipeline input stages => by
    rw [resolve, firstFault?_children (by simp)]
    refine (error?_bind _ fun _ => error?_bind_pure _ _).trans ?_
    rw [error?_resolve scope false input, error?_resolveStages scope stages]
    exact (findSome?_cons_or ..).symm
  | .arrow params body => by
    rw [resolve, firstFault?_children (by simp), error?_bind_pure, error?_resolve _ false body]
    simp [Expr.children, Expr.scopeWithin, findSome?_cons_or]
termination_by structural e => e

theorem error?_resolveList (scope : List String) : (es : List Expr) →
    error? (c.resolveList scope es) = es.findSome? (c.firstFault? scope)
  | [] => rfl
  | e :: rest => by
    rw [resolveList, findSome?_cons_or]
    refine (error?_bind _ fun _ => error?_bind_pure _ _).trans ?_
    rw [error?_resolve scope false e, error?_resolveList scope rest]
termination_by structural es => es

theorem error?_resolveEntries (scope : List String) : (entries : List (ObjectKey × Expr)) →
    error? (c.resolveEntries scope entries) =
      (entries.map Prod.snd).findSome? (c.firstFault? scope)
  | [] => rfl
  | (key, e) :: rest => by
    rw [resolveEntries, List.map_cons, findSome?_cons_or]
    refine (error?_bind _ fun _ => error?_bind_pure _ _).trans ?_
    rw [error?_resolve scope false e, error?_resolveEntries scope rest]
termination_by structural entries => entries

theorem error?_resolveStages (scope : List String) : (stages : List (Symbol × List Expr)) →
    error? (c.resolveStages scope stages) =
      (Expr.stageArgs stages).findSome? (c.firstFault? scope)
  | [] => rfl
  | (f, args) :: rest => by
    rw [resolveStages, Expr.stageArgs, List.flatMap_cons, List.findSome?_append]
    refine (error?_bind _ fun _ => error?_bind_pure _ _).trans ?_
    rw [error?_resolveList scope args, error?_resolveStages scope rest]
    rfl
termination_by structural stages => stages

end

/-! ## The root -/

/-- A text that is one name has a container to be read from. -/
theorem error?_resolved_symbol (hv : c.validate = .ok ()) (s : Symbol) :
    error? (c.resolved (.symbol s)) = none := by
  show error? (c.resolve [] false (if c.isRecognized s.raw then .symbol s else c.lift s.name)) = none
  split
  · rename_i hs
    have hbound : c.resolveName [] false s = .ok (.symbol s) := if_pos (by simp [hs])
    rw [resolve, hbound]
    rfl
  · rw [resolve_lift hv]
    rfl

/-- A pipeline is a call once it is written without stages. -/
theorem withoutPipeline_ne_symbol {e : Expr} (h : e.StratifiedText) (he : ∀ s, e ≠ .symbol s)
    (s : Symbol) : e.withoutPipeline ≠ .symbol s := by
  cases e with
  | pipeline input stages =>
    obtain ⟨f, args, hcall⟩ := applyStages_eq_call input h.2.1
    rw [Expr.withoutPipeline, hcall]
    exact Expr.noConfusion
  | _ => exact he s

theorem error?_resolved {e : Expr} (h : e.StratifiedText) (he : ∀ s, e ≠ .symbol s) :
    error? (c.resolved e) = c.firstFault? [] e.withoutPipeline := by
  have hroot : c.wrapName e.withoutPipeline = e.withoutPipeline := by
    unfold wrapName
    split
    · rename_i s hs
      exact absurd hs (withoutPipeline_ne_symbol h he s)
    · rfl
  rw [resolved, hroot, error?_resolve]

theorem fault?_eq_some_iff {x : List String × Expr} {err : LinkError} : c.fault? x = some err ↔
    c.RefusesDollar ∧ ∃ s, x.2 = .symbol s ∧ c.IsUnknown x.1 s ∧ err = .unknownDollar s.name := by
  obtain ⟨scope, e⟩ := x
  cases e with
  | symbol s =>
    rw [fault?, Option.ite_none_right_eq_some]
    constructor
    · rintro ⟨⟨hc, hs⟩, ⟨⟩⟩
      exact ⟨hc, s, rfl, hs, rfl⟩
    · rintro ⟨hc, s', ⟨⟩, hs, rfl⟩
      exact ⟨⟨hc, hs⟩, rfl⟩
  | _ => simp [fault?]

end Config

/-- Linking the tree of a text under a configuration that passes fails only where no container holds
    names after a dollar sign and the text is not one name. It fails at the first name of the tree, written
    without pipeline, that starts with a dollar sign and stands for nothing. -/
theorem Linker.link_eq_error_iff {c : Config} {source : String} {e : Expr}
    (hv : c.validate = .ok ()) (he : Expr.parse source = .ok e) (err : LinkError) :
    (ofConfig c).link e = .error err ↔
      (c.dollarContainer = none ∧ c.allowUnknownDollar = false) ∧ (∀ s, e ≠ .symbol s) ∧
      ∃ before scope s after,
        e.withoutPipeline.walkIn [] = before ++ (scope, .symbol s) :: after ∧ c.IsUnknown scope s ∧
        (∀ scope' s', (scope', .symbol s') ∈ before → ¬ c.IsUnknown scope' s') ∧
        err = .unknownDollar s.name := by
  obtain ⟨ts, last, -, -, -, hs⟩ := Expr.parse_sound he
  rw [← error?_eq_some_iff, link_ofConfig, error?_map, Config.linkTree, error?_map]
  by_cases hname : ∃ s, e = .symbol s
  · -- the name is read from its container before names are resolved
    obtain ⟨s, rfl⟩ := hname
    rw [Config.error?_resolved_symbol hv]
    constructor
    · intro h
      cases h
    · rintro ⟨-, h, -⟩
      exact absurd rfl (h s)
  have hname : ∀ s, e ≠ .symbol s := fun s h => hname ⟨s, h⟩
  rw [Config.error?_resolved hs hname, Config.firstFault?, List.findSome?_eq_some_iff]
  constructor
  · rintro ⟨before, ⟨scope, x⟩, after, hwalk, hfault, hbefore⟩
    obtain ⟨hc, s, rfl, hs, rfl⟩ := Config.fault?_eq_some_iff.1 hfault
    refine ⟨hc, hname, before, scope, s, after, hwalk, hs, fun scope' s' hmem hs' => ?_, rfl⟩
    have hnone := hbefore _ hmem
    rw [Config.fault?, if_pos ⟨hc, hs'⟩] at hnone
    cases hnone
  · rintro ⟨hc, -, before, scope, s, after, hwalk, hs, hbefore, rfl⟩
    refine ⟨before, (scope, .symbol s), after, hwalk, Config.fault?_eq_some_iff.2 ⟨hc, s, rfl, hs, rfl⟩,
      fun x hx => ?_⟩
    obtain ⟨scope', x⟩ := x
    cases x with
    | symbol s' => exact if_neg fun h => hbefore scope' s' hx h.2
    | _ => rfl

/-- The name of a stage is a callee, which comes before what goes into the pipeline. -/
theorem Linker.link_eq_error_pipeline : ∃ e, Expr.parse "$a | $f" = .ok e ∧
    (ofConfig .standard).link e = .error (.unknownDollar "$f") := by
  have places : Tokens.ofSource "$a | $f" = .ok ⟨⟨.name "$a", "$a", 0⟩,
      [⟨.operator .pipe, "|", 3⟩, ⟨.name "$f", "$f", 5⟩, ⟨.eof, "", 7⟩], none⟩ := by
    rw [Tokens.ofSource_eq_ok_iff]
    iterate 3 refine Cursor.scan_cons rfl rfl ?_
    exact Cursor.scan_last rfl rfl
  have parsed : Expr.parse "$a | $f" = .ok (.pipeline (.ofName "$a") [(.ofName "$f", [])]) := by
    rw [Expr.parse, places]
    cbv
  have nodes : (Expr.call (.ofName "$f") [.ofName "$a"]).walkIn [] =
      [([], .call (.ofName "$f") [.ofName "$a"])] ++ ([], .ofName "$f") :: [([], .ofName "$a")] := by
    simp [Expr.walkIn_eq, Expr.children, Expr.scopeWithin, Expr.ofName]
  refine ⟨_, parsed, (link_eq_error_iff rfl parsed _).2 ⟨⟨rfl, rfl⟩, by simp, _, _, _, _, nodes,
    by decide, ?_, rfl⟩⟩
  simp [Expr.ofName]

end DataBinding
