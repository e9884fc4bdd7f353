import DataBinding.Proofs.Link.Sums
import DataBinding.Proofs.Printing.Pieces
import DataBinding.Proofs.Program.Watchers
import Mathlib.Data.List.Basic

/-!
# Which reads share a watcher

A call of the accessor is watched under its leading segments, joined by points. A segment may have a
point in it: `a["b.c"]` and `a.b.c` are different reads and have one watcher, `scope.a.b.c`. So the
watchers keep apart what differs once every segment is cut at its points, and nothing finer.

Results:

* `intercalate_point_inj`: when lists of segments are joined to one path.
* `Linker.watchers_of_compiled`: the watchers of a program are those of its tree.
* `Program.watcher_eq_iff`: when two calls of the accessor share a watcher.
-/

namespace DataBinding

/-! ## Joining segments -/

/-- The texts between the points of segments. -/
def cutAtPoints (segments : List String) : List String :=
  segments.flatMap fun s => (s.toList.splitOn '.').map String.ofList

/-- A joined text is cut where its parts were joined and where they are cut themselves. -/
theorem splitOn_intercalate_eq_flatMap (x : Char) {ls : List (List Char)} (h : ls ≠ []) :
    (List.intercalate [x] ls).splitOn x = ls.flatMap (List.splitOn x) := by
  induction ls with
  | nil => exact absurd rfl h
  | cons l rest ih =>
    cases rest with
    | nil => simp
    | cons l' rest =>
      have hcut : ∀ r : List Char, (l ++ x :: r).splitOn x = l.splitOn x ++ r.splitOn x := fun r =>
        List.splitOnP_append_cons l r (beq_self_eq_true x)
      rw [List.intercalate_cons_cons, List.append_assoc, List.singleton_append, hcut,
        ih (List.cons_ne_nil _ _)]
      exact List.flatMap_cons.symm

theorem cutAtPoints_singleton_intercalate {segments : List String} (h : segments ≠ []) :
    cutAtPoints [".".intercalate segments] = cutAtPoints segments := by
  have hmap : segments.map String.toList ≠ [] := by simpa using h
  unfold cutAtPoints
  rw [List.flatMap_singleton, String.toList_intercalate]
  show ((List.intercalate ['.'] (segments.map String.toList)).splitOn '.').map String.ofList = _
  rw [splitOn_intercalate_eq_flatMap '.' hmap, List.flatMap_map, List.map_flatMap]

/-- Nothing but the place of the joints is lost when a text is cut. -/
theorem cutAtPoints_singleton_inj {s t : String} (h : cutAtPoints [s] = cutAtPoints [t]) : s = t := by
  unfold cutAtPoints at h
  rw [List.flatMap_singleton, List.flatMap_singleton] at h
  have hsplit : s.toList.splitOn '.' = t.toList.splitOn '.' :=
    (List.map_inj_right fun _ _ hab => String.ofList_injective hab).1 h
  have joined : ∀ u : String, List.intercalate ['.'] (u.toList.splitOn '.') = u.toList :=
    fun _ => List.intercalate_splitOn '.'
  apply String.toList_inj.1
  rw [← joined s, hsplit, joined]

/-- Two lists of segments are joined to one path exactly if they are one list once cut at the points. -/
theorem intercalate_point_inj {xs ys : List String} (hx : xs ≠ []) (hy : ys ≠ []) :
    ".".intercalate xs = ".".intercalate ys ↔ cutAtPoints xs = cutAtPoints ys := by
  rw [← cutAtPoints_singleton_intercalate hx, ← cutAtPoints_singleton_intercalate hy]
  exact ⟨fun h => by rw [h], cutAtPoints_singleton_inj⟩

/-- Segments without a point are not cut. -/
theorem cutAtPoints_eq_self {segments : List String} (h : ∀ s ∈ segments, '.' ∉ s.toList) :
    cutAtPoints segments = segments := by
  induction segments with
  | nil => rfl
  | cons s rest ih =>
    rw [List.forall_mem_cons] at h
    have hs : s.toList.splitOn '.' = [s.toList] := by
      refine List.splitOnP_eq_singleton fun x hx => ?_
      have hne : x ≠ '.' := fun he => h.1 (he ▸ hx)
      simpa using hne
    unfold cutAtPoints at ih ⊢
    rw [List.flatMap_cons, ih h.2, hs, List.map_singleton, String.ofList_toList,
      List.singleton_append]

/-! ## Watchers of programs -/

namespace Linker

variable {c : Config} {source : String} {p : Program}

theorem watchers_of_compileChecked (h : (ofConfig c).compileChecked source = .ok p) :
    p.watchers = p.tree.watchers := by
  obtain ⟨e, linked, code, -, hl, -, rfl⟩ := compileChecked_eq_ok_iff.1 h
  rw [link_ofConfig] at hl
  obtain ⟨tree, -, rfl⟩ := map_eq_ok_iff.1 hl
  rfl

theorem watchers_of_compileSegment {s : Segment} {part : Expr × List String}
    (h : (ofConfig c).compileSegment s = .ok part) : part.2 = part.1.watchers := by
  cases s with
  | literal text =>
    cases h
    exact (Expr.watchers_ofString text).symm
  | expression span =>
    obtain ⟨program, hp, h⟩ := bind_eq_ok_iff.1 h
    cases h
    rw [Expr.watchers_parens]
    exact watchers_of_compileChecked hp

end Linker

/-- The watchers of a program are those of its tree, also if it comes from a template. -/
theorem Linker.watchers_of_compiled {c : Config} {source : String} {p : Program}
    (h : (ofConfig c).compile source = .ok p ∨ (ofConfig c).compileTemplate source = .ok p) :
    p.watchers = p.tree.watchers := by
  rcases h with h | h
  · exact watchers_of_compileChecked (compile_eq_ok_iff.1 h).2
  · obtain ⟨-, segments, parts, code, -, hp, -, rfl⟩ := compileTemplate_eq_ok_iff.1 h
    have each : ∀ part ∈ parts, part.2 = part.1.watchers :=
      forall_compileSegments (fun _ _ _ hc => watchers_of_compileSegment hc) hp
    show distinct (parts.flatMap Prod.snd) = (Expr.concatenate (parts.map Prod.fst)).watchers
    rw [Expr.watchers_concatenate, List.flatMap_map, List.flatMap_congr each]

/-- The tree calls the accessor with the leading segments, of which there is at least one. -/
def Expr.DependsOn (e : Expr) (segments : List String) : Prop :=
  segments ≠ [] ∧ ∃ s args, call (symbol s) args ∈ e.walk ∧ s.name = accessorName ∧
    pathSegments args = segments

theorem Expr.mem_watchers_iff_dependsOn {e : Expr} {path : String} :
    path ∈ e.watchers ↔ ∃ segments, e.DependsOn segments ∧ ".".intercalate segments = path := by
  rw [mem_watchers_iff]
  constructor
  · rintro ⟨s, args, tag, keys, hw, hs, hp, rfl⟩
    exact ⟨tag :: keys, ⟨List.cons_ne_nil _ _, s, args, hw, hs, hp⟩, rfl⟩
  · rintro ⟨segments, ⟨hne, s, args, hw, hs, hp⟩, rfl⟩
    obtain ⟨tag, keys, rfl⟩ := List.exists_cons_of_ne_nil hne
    exact ⟨s, args, tag, keys, hw, hs, hp, rfl⟩

/-- The watchers of a compiled program are the joined segments of its calls of the accessor, each once.
    Two calls share a watcher exactly if their segments are the same once cut at the points; where no
    segment has a point, exactly if their segments are the same. -/
theorem Program.watcher_eq_iff {c : Config} {source : String} {p : Program}
    (h : (Linker.ofConfig c).compile source = .ok p ∨
      (Linker.ofConfig c).compileTemplate source = .ok p) :
    p.watchers.Nodup ∧
      (∀ path, path ∈ p.watchers ↔
        ∃ segments, p.tree.DependsOn segments ∧ ".".intercalate segments = path) ∧
      ∀ xs ys, p.tree.DependsOn xs → p.tree.DependsOn ys →
        (".".intercalate xs = ".".intercalate ys ↔ cutAtPoints xs = cutAtPoints ys) ∧
        ((∀ s ∈ xs ++ ys, '.' ∉ s.toList) →
          (".".intercalate xs = ".".intercalate ys ↔ xs = ys)) := by
  rw [Linker.watchers_of_compiled h]
  refine ⟨p.tree.watchers_nodup, fun path => Expr.mem_watchers_iff_dependsOn, ?_⟩
  intro xs ys hx hy
  have merged := intercalate_point_inj hx.1 hy.1
  refine ⟨merged, fun hpoint => ?_⟩
  rw [List.forall_mem_append] at hpoint
  rw [merged, cutAtPoints_eq_self hpoint.1, cutAtPoints_eq_self hpoint.2]

/-- Two reads with different first keys -/
theorem Program.watcher_eq_iff_callback : ∃ p,
    (Linker.ofConfig .standard).compile "a.map(x => b[x])" = .ok p ∧
      p.tree.DependsOn ["scope", "a"] ∧ p.tree.DependsOn ["scope", "b"] ∧
      (∀ s ∈ ["scope", "a", "scope", "b"], '.' ∉ s.toList) ∧
      ".".intercalate ["scope", "a"] ≠ ".".intercalate ["scope", "b"] := by
  have compiled := Linker.compile_callback
  have first : Program.callback.tree.DependsOn ["scope", "a"] := by
    refine ⟨by simp, .ofName accessorName, [.ofString "scope", .ofString "a"], ?_, rfl, rfl⟩
    exact Expr.mem_walk_iff.2 (.inr ⟨_, List.mem_cons_self,
      Expr.mem_walk_iff.2 (.inr ⟨_, List.mem_cons_self, Expr.mem_walk_self⟩)⟩)
  have second : Program.callback.tree.DependsOn ["scope", "b"] := by
    refine ⟨by simp, .ofName accessorName, [.ofString "scope", .ofString "b", .ofName "x"], ?_,
      rfl, rfl⟩
    exact Expr.mem_walk_iff.2 (.inr ⟨_, List.mem_cons_of_mem _ List.mem_cons_self,
      Expr.mem_walk_iff.2 (.inr ⟨_, List.mem_cons_self, Expr.mem_walk_self⟩)⟩)
  obtain ⟨-, -, shared⟩ := Program.watcher_eq_iff (.inl compiled)
  have points : ∀ s ∈ ["scope", "a", "scope", "b"], '.' ∉ s.toList := by decide
  exact ⟨_, compiled, first, second, points,
    fun he => absurd (((shared _ _ first second).2 points).1 he) (by decide)⟩

/-- The tokens of two reads, one of which has a key with a point in it -/
theorem Expr.tokenize_pointed : tokenize "a[\"b.c\"] + a.b.c" = .ok [⟨.name "a", "a", 0⟩,
    ⟨.punct .openBracket, "[", 1⟩, ⟨.string "b.c", "\"b.c\"", 2⟩, ⟨.punct .closeBracket, "]", 7⟩,
    ⟨.operator (.binary .add), "+", 9⟩, ⟨.name "a", "a", 11⟩, ⟨.punct .dot, ".", 12⟩,
    ⟨.name "b", "b", 13⟩, ⟨.punct .dot, ".", 14⟩, ⟨.name "c", "c", 15⟩, ⟨.eof, "", 16⟩] := by
  have quoted : ∀ r, Token.scanKind true false 2 ('\x22' :: ['b', '.', 'c', '\x22'] ++ r) =
      .ok (.string "b.c", r) := by
    intro r
    show (Token.readString '\x22' 2 3 (['b', '.', 'c'].flatMap Json.quoteChar ++ '\x22' :: r) >>=
      fun x => pure (TokenKind.string (String.ofList x.1), x.2)) = _
    rw [readString_quoteChars]
    rfl
  rw [tokenize_eq_ok_iff]
  iterate 2 refine Cursor.scan_cons rfl rfl ?_
  refine Cursor.scan_cons (Cursor.next_of_scanKind rfl (quoted _)) rfl ?_
  iterate 7 refine Cursor.scan_cons rfl rfl ?_
  exact Cursor.scan_last rfl rfl

/-- The tree of two such reads -/
theorem Expr.parse_pointed : parse "a[\"b.c\"] + a.b.c" = .ok (.binary .add
    (.index (.ofName "a") (.literal ⟨.string "b.c", "\"b.c\""⟩))
    (.member (.member (.ofName "a") "b") "c")) := by
  rw [parse, Tokens.ofSource_of_tokenize tokenize_pointed]
  cbv

/-- A key with a point in it is watched as two keys: two calls of the accessor with different segments
    share their watcher. -/
theorem Program.watcher_eq_pointed : ∃ p,
    (Linker.ofConfig .standard).compile "a[\"b.c\"] + a.b.c" = .ok p ∧
      p.tree.DependsOn ["scope", "a", "b.c"] ∧ p.tree.DependsOn ["scope", "a", "b", "c"] ∧
      p.watchers = ["scope.a.b.c"] := by
  let tree : Expr := .binary .add
    (.call (.ofName accessorName)
      [.ofString "scope", .ofString "a", .literal ⟨.string "b.c", "\"b.c\""⟩])
    (.call (.ofName accessorName) [.ofString "scope", .ofString "a", .ofString "b", .ofString "c"])
  have linked : (Linker.ofConfig .standard).link (.binary .add
      (.index (.ofName "a") (.literal ⟨.string "b.c", "\"b.c\""⟩))
      (.member (.member (.ofName "a") "b") "c")) = .ok ⟨tree, tree.watchers⟩ := rfl
  have printed : tree.print = .ok
      "$_get_by_any(\"scope\", \"a\", \"b.c\") + $_get_by_any(\"scope\", \"a\", \"b\", \"c\")" := by
    cbv
  have watchers : tree.watchers = ["scope.a.b.c"] := by cbv
  refine ⟨_, Linker.compile_eq_ok_iff.2 ⟨rfl, Linker.compileChecked_eq_ok_iff.2
    ⟨_, _, _, Expr.parse_pointed, linked, printed, rfl⟩⟩, ?_, ?_, watchers⟩
  · refine ⟨by simp, .ofName accessorName,
      [.ofString "scope", .ofString "a", .literal ⟨.string "b.c", "\"b.c\""⟩], ?_, rfl, rfl⟩
    exact Expr.mem_walk_iff.2 (.inr ⟨_, List.mem_cons_self, Expr.mem_walk_self⟩)
  · refine ⟨by simp, .ofName accessorName,
      [.ofString "scope", .ofString "a", .ofString "b", .ofString "c"], ?_, rfl, rfl⟩
    exact Expr.mem_walk_iff.2
      (.inr ⟨_, List.mem_cons_of_mem _ List.mem_cons_self, Expr.mem_walk_self⟩)

end DataBinding
