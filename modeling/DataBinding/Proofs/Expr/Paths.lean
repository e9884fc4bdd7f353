import DataBinding.Proofs.Expr.Children

/-!
# The nodes of a tree and their paths

A path of edges leads from the root of a tree to a node. The recursion along `mapChildrenM` visits the
nodes in the order of `walk`, each with its path, and no two nodes have one path.

Results:

* `visitM_eq`: a recursion along `mapChildrenM` visits the located nodes in a row.
* `map_snd_located`: the located nodes are those of `walk`, in that order.
* `mem_located_iff`, `nodup_paths`: a path leads to exactly one node.
* `traversals_agree`: how rebuilding a node, listing its children and walking its tree agree.
-/

namespace DataBinding.Expr

/-! ## Paths -/

/-- The child behind an edge. -/
def child? (e : Expr) (edge : Edge) : Option Expr := e.held.lookup edge

/-- The node that a path of edges leads to. -/
def at? : List Edge → Expr → Option Expr
  | [], e => some e
  | edge :: path, e => (e.child? edge).bind (at? path)

/-- The node and its descendants, each with the path to it: each child before the next, parents before
    children. -/
def located (e : Expr) : List (List Edge × Expr) :=
  ([], e) :: e.held.attach.flatMap fun ⟨(edge, child), _⟩ =>
    (located child).map fun (path, x) => (edge :: path, x)
termination_by sizeOf e
decreasing_by exact sizeOf_lt_of_mem_children (mem_children_of_mem_held ‹_›)

theorem located_eq (e : Expr) : e.located = ([], e) :: e.held.flatMap fun (edge, child) =>
    child.located.map fun (path, x) => (edge :: path, x) := by
  rw [located, List.flatMap_subtype (g := fun (edge, child) =>
    child.located.map fun (path, x) => (edge :: path, x)) fun _ _ => rfl, List.unattach_attach]

/-- The located nodes are those of the walk, in that order. -/
theorem map_snd_located (e : Expr) : e.located.map Prod.snd = e.walk := by
  induction e using walk.induct with
  | case1 e ih =>
    rw [located_eq, walk_eq, List.map_cons, List.map_flatMap, ← map_snd_held, List.flatMap_map]
    congr 1
    refine List.flatMap_congr fun ⟨edge, child⟩ h => ?_
    rw [← ih child (mem_children_of_mem_held h), List.map_map]
    rfl

theorem child?_eq_some_iff {e x : Expr} {edge : Edge} :
    e.child? edge = some x ↔ (edge, x) ∈ e.held := by
  rw [child?, List.lookup_eq_some_iff]
  constructor
  · rintro ⟨front, back, h, -⟩
    rw [h]
    simp
  · intro h
    obtain ⟨front, back, h⟩ := List.append_of_mem h
    have hnodup := e.nodup_edges
    rw [← map_fst_held, h, List.map_append, List.map_cons] at hnodup
    refine ⟨front, back, h, fun p hp => ?_⟩
    have hne := (List.nodup_append.1 hnodup).2.2 p.1 (List.mem_map_of_mem hp) edge List.mem_cons_self
    exact bne_iff_ne.2 hne.symm

/-- A path leads to the node that has it. -/
theorem mem_located_iff {e x : Expr} {path : List Edge} :
    (path, x) ∈ e.located ↔ e.at? path = some x := by
  induction e using walk.induct generalizing path with
  | case1 e ih =>
    rw [located_eq, List.mem_cons, List.mem_flatMap]
    cases path with
    | nil => simp [at?, eq_comm]
    | cons edge path =>
      rw [at?, Option.bind_eq_some_iff]
      constructor
      · rintro (h | ⟨⟨first, child⟩, hchild, h⟩)
        · cases h
        · obtain ⟨⟨rest, y⟩, hy, heq⟩ := List.mem_map.1 h
          cases heq
          exact ⟨child, child?_eq_some_iff.2 hchild, (ih child (mem_children_of_mem_held hchild)).1 hy⟩
      · rintro ⟨child, hchild, h⟩
        have hchild := child?_eq_some_iff.1 hchild
        exact .inr ⟨(edge, child), hchild, List.mem_map.2
          ⟨(path, x), (ih child (mem_children_of_mem_held hchild)).2 h, rfl⟩⟩

/-- No two nodes have one path. -/
theorem nodup_paths (e : Expr) : (e.located.map Prod.fst).Nodup := by
  induction e using walk.induct with
  | case1 e ih =>
    have below : (e.held.flatMap fun (edge, child) =>
        (child.located.map Prod.fst).map (edge :: ·)).Nodup := by
      refine List.nodup_flatMap.2 ⟨fun (edge, child) h => ?_, ?_⟩
      · exact (ih child (mem_children_of_mem_held h)).map (List.cons_injective)
      · have hedges : e.held.Pairwise fun a b => a.1 ≠ b.1 := by
          rw [← List.pairwise_map, map_fst_held]
          exact e.nodup_edges
        refine hedges.imp fun {a b} hne path ha hb => ?_
        -- the paths behind different edges differ in their first edge
        obtain ⟨rest, -, rfl⟩ := List.mem_map.1 ha
        obtain ⟨rest', -, heq⟩ := List.mem_map.1 hb
        exact hne (List.cons.inj heq).1.symm
    rw [located_eq, List.map_cons, List.map_flatMap]
    simp only [List.map_map] at below ⊢
    refine List.nodup_cons.2 ⟨?_, below⟩
    simp

/-! ## Recursion along `mapChildrenM` -/

section

variable {m : Type → Type} [Monad m]

/-- Rebuilds the tree below `path` from its children, after a visit to the node. -/
def visitM (visit : List Edge → Expr → m Unit) (path : List Edge) (e : Expr) : m Expr := do
  visit path e
  e.mapChildrenM fun child h edge =>
    have := sizeOf_lt_of_mem_children h
    visitM visit (path ++ [edge]) child
termination_by sizeOf e

variable [LawfulMonad m]

/-- Calls in a row that each visit a list and give their own node visit the lists in a row. -/
theorem mapM_eq_forM {α : Type} {visit : α → m Unit} {call : Edge × Expr → m Expr}
    {visited : Edge × Expr → List α} {calls : List (Edge × Expr)}
    (h : ∀ c ∈ calls, call c = do forM (visited c) visit; return c.2) :
    calls.mapM call = do forM (calls.flatMap visited) visit; return calls.map Prod.snd := by
  induction calls with
  | nil => simp
  | cons c rest ih =>
    obtain ⟨hc, hrest⟩ := List.forall_mem_cons.1 h
    rw [List.mapM_cons, hc, ih hrest]
    simp

/-- Where the recursion visits the located nodes of every child, it visits those below the node. -/
theorem mapChildrenM_eq_forM {visit : List Edge → Expr → m Unit} {path : List Edge} {e : Expr}
    (h : ∀ child ∈ e.children, ∀ path, child.visitM visit path = do
      forM child.located fun (rest, x) => visit (path ++ rest) x
      return child) :
    e.mapChildrenM (fun child _ edge => child.visitM visit (path ++ [edge])) = do
      forM e.located.tail fun (rest, x) => visit (path ++ rest) x
      return e := by
  have hcalls : ∀ c ∈ e.held, c.2.visitM visit (path ++ [c.1]) = do
      forM (c.2.located.map fun (rest, x) => (c.1 :: rest, x)) fun (rest, x) => visit (path ++ rest) x
      return c.2 := by
    intro c hc
    rw [h c.2 (mem_children_of_mem_held hc), List.forM_map]
    simp
  rw [mapChildrenM_eq fun child edge => child.visitM visit (path ++ [edge]), mapM_eq_forM hcalls,
    located_eq]
  simp [map_snd_held, withChildren_children]

/-- A recursion along `mapChildrenM` visits the located nodes in a row and gives the tree. -/
theorem visitM_eq (visit : List Edge → Expr → m Unit) (path : List Edge) (e : Expr) :
    e.visitM visit path = do
      forM e.located fun (rest, x) => visit (path ++ rest) x
      return e := by
  induction e using walk.induct generalizing path with
  | case1 e ih =>
    rw [visitM, mapChildrenM_eq_forM ih, located_eq]
    simp

end

/-! ## Notes -/

/-- Notes the path and the kind of a node. -/
def noteKind (path : List Edge) (e : Expr) : StateM (List (List Edge × String)) Unit :=
  modify (· ++ [(path, e.kindName)])

theorem visitM_noteKind (path : List Edge) (e : Expr) :
    e.visitM noteKind path = (do
      noteKind path e
      e.rebuildNoting path) := by
  induction e using walk.induct generalizing path with
  | case1 e ih =>
    rw [visitM, rebuildNoting]
    congr 1
    funext _
    congr 1
    funext child h edge
    exact ih child h (path ++ [edge])

theorem run_forM_modify {α β : Type} (note : α → β) (xs : List α) (notes : List β) :
    (forM xs fun x => modify (· ++ [note x]) : StateM (List β) Unit).run notes =
      ((), notes ++ xs.map note) := by
  induction xs generalizing notes with
  | nil =>
    rw [List.map_nil, List.append_nil]
    rfl
  | cons x rest ih => simp [ih]

/-- The nodes below the root are noted in the order of the walk, with their paths and kinds. -/
theorem run_rebuildNoting (e : Expr) : (e.rebuildNoting []).run [] =
    (e, e.located.tail.map fun (path, x) => (path, x.kindName)) := by
  have hvisits : e.rebuildNoting [] =
      e.mapChildrenM fun child _ edge => child.visitM noteKind ([] ++ [edge]) := by
    rw [rebuildNoting]
    congr 1
    funext child h edge
    exact (visitM_noteKind [edge] child).symm
  rw [hvisits, mapChildrenM_eq_forM fun child _ path => visitM_eq noteKind path child]
  show ((forM e.located.tail fun x => modify (· ++ [(fun (path, x) => (path, x.kindName)) x]) :
    StateM _ Unit) >>= fun _ => pure e).run [] = _
  rw [StateT.run_bind, run_forM_modify]
  rfl

/-! ## One order for all traversals -/

/-- What rebuilding a node, listing its children and walking its tree have to do with each other. -/
structure OneOrder (e : Expr) : Prop where
  /-- A node rebuilt from its own children is the node. -/
  identity : ∀ ε : Type, e.mapChildrenM (fun x _ _ => pure x) = (.ok e : Except ε Expr)
  /-- What the edges of a node hold are its children, in their order. -/
  children : e.held.map Prod.snd = e.children
  /-- No edge holds two children. -/
  edges : (e.held.map Prod.fst).Nodup
  /-- There is one call for each child, with its edge and in order, up to the first call that fails. With
      its error the node fails, and without one it is rebuilt from what the calls give. -/
  calls : ∀ (ε σ : Type) (f : Handler ε σ) (s : σ), ∃ answer s' made,
    f.Ends s e.held answer s' made ∧
      (e.mapChildrenM fun x _ edge => f.noted x edge).run.run (s, []) =
        (answer.map e.withChildren, s', made)
  /-- A node that is rebuilt has the children that the calls gave. -/
  rebuilt : ∀ (ε σ : Type) (f : Handler ε σ) (s s' : σ) (xs : List Expr),
    f.Succeeds s e.held xs s' → (e.withChildren xs).children = xs
  /-- The nodes that paths lead to are those of the walk, in that order. -/
  walk : e.located.map Prod.snd = e.walk
  /-- The recursion visits them in that order, each with its path, up to the first visit that fails. -/
  visits : ∀ (ε σ : Type) (visit : List Edge → Expr → ExceptT ε (StateM σ) Unit),
    e.visitM visit [] = do
      forM e.located fun (path, x) => visit path x
      return e
  /-- Notes of the recursion are in that order too. -/
  notes : (e.rebuildNoting []).run [] =
    (e, e.located.tail.map fun (path, x) => (path, x.kindName))
  /-- No path is met twice. -/
  paths : (e.located.map Prod.fst).Nodup
  /-- The node that is met with a path is the one the path leads to. -/
  node : ∀ path x, (path, x) ∈ e.located ↔ e.at? path = some x

/-- Rebuilding a node visits the children in the order in which they are listed, so a recursion along it
    visits the tree in the order of the walk, and every path of edges names one node. -/
theorem traversals_agree (e : Expr) : OneOrder e where
  identity _ := e.mapChildrenM_pure
  children := e.map_snd_held
  edges := by
    rw [map_fst_held]
    exact e.nodup_edges
  calls _ _ f s := run_mapChildrenM f e s
  rebuilt _ _ _ _ _ _ h := children_withChildren (by rw [h.length_eq, ← map_snd_held, List.length_map])
  walk := e.map_snd_located
  visits _ _ visit := e.visitM_eq visit []
  notes := e.run_rebuildNoting
  paths := e.nodup_paths
  node _ _ := mem_located_iff

end DataBinding.Expr
