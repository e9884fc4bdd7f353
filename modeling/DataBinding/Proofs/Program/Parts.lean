import DataBinding.Program.Run
import DataBinding.Proofs.Link.Names
import DataBinding.Proofs.Likeness.Call
import DataBinding.Proofs.Outcome

/-!
# The parts of a program

A program comes from a source, or from a template whose parts are compiled one by one and added up.
What its runs have bound are the values that it is called with.

Results:

* `Linker.compile_eq_ok_iff`, `Linker.compileTemplate_eq_ok_iff`: compiling as its steps in a row.
* `Linker.forall_compileSegments`, `Expr.concatenate_of`: what holds of every part holds of the sum.
* `Program.mem_of_bound`, `Program.bound_isSome`: the values that are bound in a run.
-/

namespace DataBinding

/-! ## The sum of parts -/

/-- What holds of every part of a template holds of their sum. -/
theorem Expr.concatenate_of {P : Expr → Prop} (empty : P (ofString ""))
    (withoutParens : ∀ e, P e → P e.withoutParens)
    (add : ∀ left right, P left → P right → P (binary .add left right)) {parts : List Expr}
    (h : ∀ part ∈ parts, P part) : P (concatenate parts) := by
  have sum : ∀ (es : List Expr) (e : Expr), P e → (∀ x ∈ es, P x) → P (es.foldl (binary .add) e) := by
    intro es
    induction es with
    | nil => exact fun e he _ => he
    | cons x es ih =>
      intro e he hs
      exact ih _ (add _ _ he (hs x List.mem_cons_self)) fun y hy => hs y (List.mem_cons_of_mem _ hy)
  match parts with
  | [] => exact empty
  | [part] => exact withoutParens part (h part List.mem_cons_self)
  | part :: next :: rest =>
    exact sum _ _ (h part List.mem_cons_self) fun x hx => h x (List.mem_cons_of_mem _ hx)

/-! ## Compiling -/

namespace Linker

variable {l : Linker} {source : String} {p : Program}

/-- Compiling is parsing, linking and printing in a row. -/
theorem compileChecked_eq_ok_iff : l.compileChecked source = .ok p ↔
    ∃ e linked code, Expr.parse source = .ok e ∧ l.link e = .ok linked ∧
      linked.tree.print = .ok code ∧
      p = ⟨linked.tree, code, linked.watchers, l.config.parameters⟩ := by
  constructor
  · intro h
    obtain ⟨e, he, h⟩ := bind_eq_ok_iff.1 h
    obtain ⟨linked, hl, h⟩ := bind_eq_ok_iff.1 h
    obtain ⟨code, hc, h⟩ := bind_eq_ok_iff.1 h
    cases h
    exact ⟨e, linked, code, mapError_eq_ok_iff.1 he, mapError_eq_ok_iff.1 hl,
      mapError_eq_ok_iff.1 hc, rfl⟩
  · rintro ⟨e, linked, code, he, hl, hc, rfl⟩
    exact bind_eq_ok_iff.2 ⟨e, mapError_eq_ok_iff.2 he, bind_eq_ok_iff.2 ⟨linked,
      mapError_eq_ok_iff.2 hl, bind_eq_ok_iff.2 ⟨code, mapError_eq_ok_iff.2 hc, rfl⟩⟩⟩

theorem compile_eq_ok_iff : l.compile source = .ok p ↔
    l.config.validate = .ok () ∧ l.compileChecked source = .ok p := by
  constructor
  · intro h
    obtain ⟨_, hv, h⟩ := bind_eq_ok_iff.1 h
    exact ⟨mapError_eq_ok_iff.1 hv, h⟩
  · rintro ⟨hv, h⟩
    exact bind_eq_ok_iff.2 ⟨(), mapError_eq_ok_iff.2 hv, h⟩

theorem compile_of_validate (hv : l.config.validate = .ok ()) :
    l.compile source = l.compileChecked source := by
  rw [compile, hv]
  rfl

/-- A template is split, its parts are compiled, and their sum is printed. -/
theorem compileTemplate_eq_ok_iff : l.compileTemplate source = .ok p ↔
    l.config.validate = .ok () ∧ ∃ segments parts code, Template.split source = .ok segments ∧
      l.compileSegments segments = .ok parts ∧
      (Expr.concatenate (parts.map Prod.fst)).print = .ok code ∧
      p = ⟨Expr.concatenate (parts.map Prod.fst), code, distinct (parts.flatMap Prod.snd),
        l.config.parameters⟩ := by
  constructor
  · intro h
    obtain ⟨_, hv, h⟩ := bind_eq_ok_iff.1 h
    obtain ⟨segments, hs, h⟩ := bind_eq_ok_iff.1 h
    obtain ⟨parts, hp, h⟩ := bind_eq_ok_iff.1 h
    obtain ⟨code, hc, h⟩ := bind_eq_ok_iff.1 h
    cases h
    exact ⟨mapError_eq_ok_iff.1 hv, segments, parts, code, mapError_eq_ok_iff.1 hs, hp,
      mapError_eq_ok_iff.1 hc, rfl⟩
  · rintro ⟨hv, segments, parts, code, hs, hp, hc, rfl⟩
    exact bind_eq_ok_iff.2 ⟨(), mapError_eq_ok_iff.2 hv, bind_eq_ok_iff.2 ⟨segments,
      mapError_eq_ok_iff.2 hs, bind_eq_ok_iff.2 ⟨parts, hp, bind_eq_ok_iff.2 ⟨code,
        mapError_eq_ok_iff.2 hc, rfl⟩⟩⟩⟩

/-- What holds of the part that every segment compiles to holds of all parts. -/
theorem forall_compileSegments {P : Expr × List String → Prop} {segments : List Segment}
    {parts : List (Expr × List String)}
    (hs : ∀ s ∈ segments, ∀ part, l.compileSegment s = .ok part → P part)
    (h : l.compileSegments segments = .ok parts) : ∀ part ∈ parts, P part := by
  induction segments generalizing parts with
  | nil =>
    cases h
    simp
  | cons s rest ih =>
    obtain ⟨part, hp, h⟩ := bind_eq_ok_iff.1 h
    obtain ⟨parts', hps, h⟩ := bind_eq_ok_iff.1 h
    cases h
    rw [List.forall_mem_cons]
    exact ⟨hs s List.mem_cons_self part hp,
      ih (fun s' hm => hs s' (List.mem_cons_of_mem _ hm)) hps⟩

/-- The program is compiled from a source, or from a template, in which the accessor is not named. -/
inductive Compiles (l : Linker) (p : Program) : Prop where
  | source {source : String} (h : l.compile source = .ok p) (hn : ¬ NamesAccessor source)
  | template {source : String} {segments : List Segment} (h : l.compileTemplate source = .ok p)
      (hs : Template.split source = .ok segments)
      (hn : ∀ span, .expression span ∈ segments → ¬ NamesAccessor span)

end Linker

/-- The program of a callback that reads data -/
def Program.callback : Program where
  tree := .call (.member (.call (.ofName accessorName) [.ofString "scope", .ofString "a"]) "map")
    [.arrow [.ofName "x"]
      (.call (.ofName accessorName) [.ofString "scope", .ofString "b", .ofName "x"])]
  code :=
    "$_get_by_any(\"scope\", \"a\").map(function(x)\x7breturn $_get_by_any(\"scope\", \"b\", x)\x7d)"
  watchers := ["scope.a", "scope.b"]
  parameters := ["$_get_by_any", "$hooks"]

set_option maxRecDepth 1024 in
theorem Linker.compile_callback :
    (ofConfig .standard).compile "a.map(x => b[x])" = .ok Program.callback := by
  have printed : Program.callback.tree.print = .ok Program.callback.code := by
    unfold Program.callback
    cbv
  have watchers : Program.callback.tree.watchers = ["scope.a", "scope.b"] := by
    unfold Program.callback
    cbv
  have linked : (ofConfig .standard).link (.call (.member (.ofName "a") "map")
      [.arrow [.ofName "x"] (.index (.ofName "b") (.ofName "x"))]) =
        .ok ⟨Program.callback.tree, Program.callback.tree.watchers⟩ := rfl
  refine compile_eq_ok_iff.2 ⟨rfl, compileChecked_eq_ok_iff.2
    ⟨_, _, _, Expr.parse_callback, linked, printed, ?_⟩⟩
  rw [watchers]
  rfl

/-! ## Bound values -/

/-- A program that is called with as many values as it has names for evaluates its tree. -/
theorem Program.call_eq {p : Program} {host : Host} {direct : List Value}
    (h : p.directNames.length = direct.length) :
    p.call host direct = (p.env host direct).eval p.tree := by
  rw [call, if_neg (not_not_intro h)]

theorem Dict.mem_of_get?_ofList {α : Type} {entries : List (String × α)} {name : String} {a : α}
    (h : get? (ofList entries) name = some a) : (name, a) ∈ entries := by
  have fold : ∀ (entries : List (String × α)) (d : Dict α),
      get? (entries.foldl (fun d e => insert d e.1 e.2) d) name = some a →
        get? d name = some a ∨ (name, a) ∈ entries := by
    intro entries
    induction entries with
    | nil => exact fun _ h => .inl h
    | cons e rest ih =>
      intro d h
      obtain ⟨k, b⟩ := e
      rcases ih _ h with h | h
      · by_cases hk : name = k
        · subst hk
          rw [get?_insert_self] at h
          cases h
          exact .inr List.mem_cons_self
        · rw [get?_insert_of_ne _ _ hk] at h
          exact .inl h
      · exact .inr (List.mem_cons_of_mem _ h)
  exact (fold entries [] h).resolve_left (by simp)

/-- The values that a program is called with are those bound in its runs. -/
theorem Program.mem_of_bound {p : Program} {host : Host} {direct : List Value} {name : String}
    {v : Value} (h : Dict.get? (p.env host direct).bound name = some v) : v ∈ direct :=
  (List.of_mem_zip (Dict.mem_of_get?_ofList h)).2

theorem Dict.mem_keys_ofList {α : Type} {entries : List (String × α)} {name : String}
    (h : name ∈ entries.map Prod.fst) : name ∈ keys (ofList entries) := by
  have fold : ∀ (entries : List (String × α)) (d : Dict α),
      name ∈ keys d ∨ name ∈ entries.map Prod.fst →
        name ∈ keys (entries.foldl (fun d e => insert d e.1 e.2) d) := by
    intro entries
    induction entries with
    | nil => exact fun d h => h.resolve_right (by simp)
    | cons e rest ih =>
      intro d h
      refine ih _ ?_
      rw [mem_keys_insert_iff]
      rw [List.map_cons, List.mem_cons] at h
      rcases h with h | h | h
      · exact .inl (.inr h)
      · exact .inl (.inl h)
      · exact .inr h
  exact fold entries [] (.inr h)

/-- A program that is called with as many values as it has names for binds each of these names. -/
theorem Program.bound_isSome {p : Program} (host : Host) {direct : List Value} {name : String}
    (hl : p.directNames.length = direct.length) (hn : name ∈ p.directNames) :
    (Dict.get? (p.env host direct).bound name).isSome = true := by
  rw [Dict.get?_isSome_iff]
  apply Dict.mem_keys_ofList
  rw [List.map_fst_zip (Nat.le_of_eq hl)]
  exact hn

end DataBinding
