import Mathlib.Data.List.Nodup
import DataBinding.Expr.Rebuild

/-!
# The children of a node and their edges

`children` lists the child nodes of a node, `edges` the fields that hold them, and `mapChildrenM`
replaces one child after the other. The three agree: in every monad `mapChildrenM` calls its function
once for each child in the order of `children`, with the edge of that child, and puts what the calls
give where the children were. So a call that fails is the last one.

Results:

* `length_edges`, `nodup_edges`: every child has an edge of its own.
* `mapChildrenM_eq`: a node is rebuilt from the calls for its children in a row.
* `mapChildrenM_pure`: a node rebuilt from its own children is the node.
* `run_mapChildrenM`: the calls that are made, up to the first one that fails.
-/

namespace DataBinding.Expr

/-! ## Edges -/

/-- The edges from a node of this many arguments, elements or values. -/
def numbered (edge : Nat → Edge) (n : Nat) : List Edge := (List.range n).map edge

/-- The edges to the arguments of the stages of a pipeline, of which number `s` is the first. -/
def stageEdges : Nat → List (Symbol × List Expr) → List Edge
  | _, [] => []
  | s, (_, args) :: rest => numbered (.stageArgument s) args.length ++ stageEdges (s + 1) rest

/-- The edges to the children, in the order of `children`. -/
def edges : Expr → List Edge
  | conditional .. => [.condition, .yes, .alternative]
  | unary .. => [.operand]
  | binary .. => [.left, .right]
  | member .. => [.object]
  | index .. => [.object, .key]
  | literal _ | symbol _ => []
  | call _ args => .callee :: numbered .argument args.length
  | array elements => numbered .element elements.length
  | object entries => numbered .value entries.length
  | parens _ => [.inner]
  | pipeline _ stages => .input :: stageEdges 0 stages
  | arrow .. => [.body]

/-- The children, each with the edge that holds it. -/
def held (e : Expr) : List (Edge × Expr) := e.edges.zip e.children

theorem length_numbered (edge : Nat → Edge) (n : Nat) : (numbered edge n).length = n := by
  rw [numbered, List.length_map, List.length_range]

theorem stageArgs_cons (stage : Symbol × List Expr) (rest : List (Symbol × List Expr)) :
    stageArgs (stage :: rest) = stage.2 ++ stageArgs rest := List.flatMap_cons

theorem length_stageEdges (s : Nat) (stages : List (Symbol × List Expr)) :
    (stageEdges s stages).length = (stageArgs stages).length := by
  induction stages generalizing s with
  | nil => rfl
  | cons stage rest ih =>
    rw [stageEdges, List.length_append, length_numbered, ih, stageArgs_cons, List.length_append]

/-- Every child has an edge. -/
theorem length_edges (e : Expr) : e.edges.length = e.children.length := by
  cases e with
  | call callee args => simp [edges, children, length_numbered]
  | array elements => simp [edges, children, length_numbered]
  | object entries => simp [edges, children, length_numbered]
  | pipeline input stages => simp [edges, children, length_stageEdges]
  | _ => rfl

theorem map_fst_held (e : Expr) : e.held.map Prod.fst = e.edges :=
  List.map_fst_zip (Nat.le_of_eq e.length_edges)

theorem map_snd_held (e : Expr) : e.held.map Prod.snd = e.children :=
  List.map_snd_zip (Nat.le_of_eq e.length_edges.symm)

theorem mem_children_of_mem_held {e child : Expr} {edge : Edge} (h : (edge, child) ∈ e.held) :
    child ∈ e.children := (List.of_mem_zip h).2

theorem nodup_numbered {edge : Nat → Edge} (h : edge.Injective) (n : Nat) :
    (numbered edge n).Nodup := List.nodup_range.map h

/-- The edges to the arguments of stages from number `s` on name no stage before it. -/
theorem exists_of_mem_stageEdges {s : Nat} {stages : List (Symbol × List Expr)} {edge : Edge}
    (h : edge ∈ stageEdges s stages) : ∃ t i, s ≤ t ∧ edge = .stageArgument t i := by
  induction stages generalizing s with
  | nil => cases h
  | cons stage rest ih =>
    rcases List.mem_append.1 h with h | h
    · obtain ⟨i, -, rfl⟩ := List.mem_map.1 h
      exact ⟨s, i, Nat.le_refl s, rfl⟩
    · obtain ⟨t, i, hle, rfl⟩ := ih h
      exact ⟨t, i, Nat.le_of_succ_le hle, rfl⟩

theorem nodup_stageEdges (s : Nat) (stages : List (Symbol × List Expr)) :
    (stageEdges s stages).Nodup := by
  induction stages generalizing s with
  | nil => exact List.nodup_nil
  | cons stage rest ih =>
    have hfirst : (numbered (.stageArgument s) stage.2.length).Nodup :=
      nodup_numbered (fun i j h => (Edge.stageArgument.inj h).2) _
    refine hfirst.append (ih (s + 1)) fun edge hleft hright => ?_
    obtain ⟨i, -, rfl⟩ := List.mem_map.1 hleft
    obtain ⟨t, j, hle, heq⟩ := exists_of_mem_stageEdges hright
    have hst := (Edge.stageArgument.inj heq).1
    omega

/-- No two children have one edge. -/
theorem nodup_edges (e : Expr) : e.edges.Nodup := by
  cases e with
  | call callee args =>
    have hargs : (numbered .argument args.length).Nodup :=
      nodup_numbered (fun i j h => Edge.argument.inj h) _
    refine List.nodup_cons.2 ⟨fun h => ?_, hargs⟩
    obtain ⟨i, -, hi⟩ := List.mem_map.1 h
    cases hi
  | array elements => exact nodup_numbered (fun i j h => Edge.element.inj h) _
  | object entries => exact nodup_numbered (fun i j h => Edge.value.inj h) _
  | pipeline input stages =>
    refine List.nodup_cons.2 ⟨fun h => ?_, nodup_stageEdges 0 stages⟩
    obtain ⟨t, i, -, hti⟩ := exists_of_mem_stageEdges h
    cases hti
  | _ => simp [edges]

example : (pipeline (ofName "x") [(.ofName "f", [ofName "a", ofName "b"]),
    (.ofName "g", [ofName "c"])]).edges =
      [.input, .stageArgument 0 0, .stageArgument 0 1, .stageArgument 1 0] := by decide

/-! ## Nodes with other children -/

/-- The stages with other arguments, which are taken from `args` in order. -/
def withStageArgs : List (Symbol × List Expr) → (args : List Expr) → List (Symbol × List Expr)
  | [], _ => []
  | (callee, old) :: rest, args =>
    (callee, args.take old.length) :: withStageArgs rest (args.drop old.length)

/-- The node with other children, as many as it has. -/
def withChildren : Expr → List Expr → Expr
  | conditional .., [c, y, a] => conditional c y a
  | unary op _, [x] => unary op x
  | binary op _ _, [l, r] => binary op l r
  | member _ name, [o] => member o name
  | index .., [o, k] => index o k
  | call .., callee :: args => call callee args
  | array _, elements => array elements
  | object entries, values => object (entries.zipWith (fun entry x => (entry.1, x)) values)
  | parens _, [x] => parens x
  | pipeline _ stages, input :: args => pipeline input (withStageArgs stages args)
  | arrow params _, [body] => arrow params body
  | e, _ => e

theorem withStageArgs_stageArgs (stages : List (Symbol × List Expr)) :
    withStageArgs stages (stageArgs stages) = stages := by
  induction stages with
  | nil => rfl
  | cons stage rest ih =>
    rw [stageArgs_cons, withStageArgs, List.take_left, List.drop_left, ih]

/-- A node with its own children is the node. -/
theorem withChildren_children (e : Expr) : e.withChildren e.children = e := by
  cases e with
  | object entries =>
    show object (entries.zipWith _ (entries.map Prod.snd)) = object entries
    rw [List.zipWith_map_right, List.zipWith_self]
    simp
  | pipeline input stages =>
    show pipeline input (withStageArgs stages (stageArgs stages)) = pipeline input stages
    rw [withStageArgs_stageArgs]
  | _ => rfl

theorem stageArgs_withStageArgs {stages : List (Symbol × List Expr)} {args : List Expr}
    (h : args.length = (stageArgs stages).length) : stageArgs (withStageArgs stages args) = args := by
  induction stages generalizing args with
  | nil => exact (List.length_eq_zero_iff.1 h).symm
  | cons stage rest ih =>
    have hlength : args.length = stage.2.length + (stageArgs rest).length := by
      rw [h, stageArgs_cons, List.length_append]
    have hrest : (args.drop stage.2.length).length = (stageArgs rest).length := by
      rw [List.length_drop]
      omega
    rw [withStageArgs, stageArgs_cons, ih hrest, List.take_append_drop]

/-- The children of a node with other children are those. -/
theorem children_withChildren {e : Expr} {xs : List Expr} (h : xs.length = e.children.length) :
    (e.withChildren xs).children = xs := by
  cases e with
  | conditional c y a =>
    obtain ⟨c', y', a', rfl⟩ := List.length_eq_three.1 h
    rfl
  | binary op l r =>
    obtain ⟨l', r', rfl⟩ := List.length_eq_two.1 h
    rfl
  | index o k =>
    obtain ⟨o', k', rfl⟩ := List.length_eq_two.1 h
    rfl
  | unary op x =>
    obtain ⟨x', rfl⟩ := List.length_eq_one_iff.1 h
    rfl
  | member o name =>
    obtain ⟨o', rfl⟩ := List.length_eq_one_iff.1 h
    rfl
  | parens x =>
    obtain ⟨x', rfl⟩ := List.length_eq_one_iff.1 h
    rfl
  | arrow params body =>
    obtain ⟨body', rfl⟩ := List.length_eq_one_iff.1 h
    rfl
  | literal l => exact (List.length_eq_zero_iff.1 h).symm
  | symbol s => exact (List.length_eq_zero_iff.1 h).symm
  | array elements => rfl
  | call callee args =>
    obtain ⟨callee', args', rfl⟩ := List.exists_cons_of_length_eq_add_one h
    rfl
  | object entries =>
    have hlength : entries.length = xs.length := by rw [h, children, List.length_map]
    show (entries.zipWith _ xs).map Prod.snd = xs
    rw [List.map_zipWith, ← List.map_uncurry_zip_eq_zipWith]
    exact List.map_snd_zip (Nat.le_of_eq hlength.symm)
  | pipeline input stages =>
    obtain ⟨input', args', rfl⟩ := List.exists_cons_of_length_eq_add_one h
    show input' :: stageArgs (withStageArgs stages args') = input' :: args'
    rw [stageArgs_withStageArgs (Nat.succ.inj h)]

/-! ## Rebuilding -/

section

variable {m : Type → Type} [Monad m] [LawfulMonad m] (f : Expr → Edge → m Expr)

/-- What follows a row of calls has to do only with as many results as there are calls. -/
theorem mapM_bind_congr {α β γ : Type} {g : α → m β} {xs : List α} {k k' : List β → m γ}
    (h : ∀ ys, ys.length = xs.length → k ys = k' ys) : xs.mapM g >>= k = xs.mapM g >>= k' := by
  induction xs generalizing k k' with
  | nil =>
    rw [List.mapM_nil, pure_bind, pure_bind]
    exact h [] rfl
  | cons x rest ih =>
    simp only [List.mapM_cons, bind_assoc, pure_bind]
    refine bind_congr fun y => ih fun ys hys => h (y :: ys) ?_
    rw [List.length_cons, hys, List.length_cons]

theorem mapListM_eq (edge : Nat → Edge) (i : Nat) (xs : List Expr) :
    mapListM edge i xs (fun x _ => f x) =
      (((List.range' i xs.length).map edge).zip xs).mapM fun (edge, x) => f x edge := by
  induction xs generalizing i with
  | nil => rfl
  | cons x rest ih =>
    rw [mapListM, ih]
    simp [List.range'_succ]

theorem mapEntriesM_eq (i : Nat) (entries : List (ObjectKey × Expr)) :
    mapEntriesM i entries (fun x _ => f x) =
      (fun ys => entries.zipWith (fun entry x => (entry.1, x)) ys) <$>
      (((List.range' i entries.length).map .value).zip (entries.map Prod.snd)).mapM
        fun (edge, x) => f x edge := by
  induction entries generalizing i with
  | nil => simp [mapEntriesM]
  | cons entry rest ih =>
    rw [mapEntriesM, ih]
    simp [List.range'_succ]

theorem mapStagesM_eq (s : Nat) (stages : List (Symbol × List Expr)) :
    mapStagesM s stages (fun x _ => f x) =
      withStageArgs stages <$> ((stageEdges s stages).zip (stageArgs stages)).mapM
        fun (edge, x) => f x edge := by
  induction stages generalizing s with
  | nil => simp [mapStagesM, stageEdges, withStageArgs]
  | cons stage rest ih =>
    rw [mapStagesM, mapListM_eq, ih, stageEdges, stageArgs_cons,
      List.zip_append (length_numbered _ _)]
    simp only [List.mapM_append, map_bind, numbered, List.range_eq_range', map_pure, bind_map_left]
    -- the arguments of the first stage are as many as before, so the others begin behind them
    refine mapM_bind_congr fun args hargs => bind_congr fun more => ?_
    have hlength : stage.2.length = args.length := by simp [hargs]
    rw [withStageArgs, hlength, List.take_left, List.drop_left]

/-- A node is rebuilt from the calls for its children, one after the other. -/
theorem mapChildrenM_eq (e : Expr) :
    e.mapChildrenM (fun x _ edge => f x edge) =
      e.withChildren <$> e.held.mapM fun (edge, x) => f x edge := by
  cases e with
  | call callee args =>
    rw [mapChildrenM, mapListM_eq]
    simp [held, edges, children, numbered, List.range_eq_range', withChildren]
  | array elements =>
    rw [mapChildrenM, mapListM_eq, bind_pure_comp, held, edges, numbered, List.range_eq_range']
    rfl
  | object entries =>
    rw [mapChildrenM, mapEntriesM_eq, bind_pure_comp, held, edges, numbered, List.range_eq_range',
      ← comp_map]
    rfl
  | pipeline input stages =>
    rw [mapChildrenM, mapStagesM_eq]
    simp [held, edges, children, withChildren]
  | _ => simp [mapChildrenM, held, edges, children, withChildren]

/-- A node rebuilt from its own children is the node. -/
theorem mapChildrenM_pure (e : Expr) : e.mapChildrenM (fun x _ _ => pure x) = (pure e : m Expr) := by
  rw [mapChildrenM_eq fun x _ => pure x, List.mapM_pure, map_pure, map_snd_held, withChildren_children]

end

/-! ## Calls that may fail -/

section

variable {ε σ : Type}

/-- A function of a child and its edge that keeps a state and may fail. -/
abbrev Handler (ε σ : Type) := Expr → Edge → ExceptT ε (StateM σ) Expr

/-- The handler with a note of every call. -/
def Handler.noted (f : Handler ε σ) : Handler ε (σ × List (Edge × Expr)) := fun x edge =>
  ExceptT.mk fun (s, calls) =>
    let (answer, s') := (f x edge).run.run s
    (answer, s', calls ++ [(edge, x)])

/-- Calls of the handler in a row that all succeed: the state before them, what they give and the state
    behind them. -/
inductive Handler.Succeeds (f : Handler ε σ) : σ → List (Edge × Expr) → List Expr → σ → Prop where
  | nil (s : σ) : Succeeds f s [] [] s
  | cons {s s' s'' : σ} {edge : Edge} {x y : Expr} {calls : List (Edge × Expr)} {ys : List Expr}
      (first : (f x edge).run.run s = (.ok y, s')) (rest : Succeeds f s' calls ys s'') :
      Succeeds f s ((edge, x) :: calls) (y :: ys) s''

/-- How a row of calls of the handler ends: what it gives, the state behind it and the calls made. These
    are all calls, or those up to the first that fails, with whose error the row ends. -/
inductive Handler.Ends (f : Handler ε σ) (s : σ) (calls : List (Edge × Expr)) :
    Except ε (List Expr) → σ → List (Edge × Expr) → Prop where
  | ok {ys : List Expr} {s' : σ} (h : f.Succeeds s calls ys s') : Ends f s calls (.ok ys) s' calls
  | error {before after : List (Edge × Expr)} {edge : Edge} {x : Expr} {ys : List Expr} {s' s'' : σ}
      {e : ε} (split : calls = before ++ (edge, x) :: after) (front : f.Succeeds s before ys s')
      (fails : (f x edge).run.run s' = (.error e, s'')) :
      Ends f s calls (.error e) s'' (before ++ [(edge, x)])

variable {f : Handler ε σ} {s s' s'' : σ} {edge : Edge} {x y : Expr} {calls made : List (Edge × Expr)}

theorem Handler.Succeeds.length_eq {ys : List Expr} (h : f.Succeeds s calls ys s') :
    ys.length = calls.length := by
  induction h with
  | nil s => rfl
  | cons first rest ih => rw [List.length_cons, ih, List.length_cons]

theorem Handler.Ends.cons {answer : Except ε (List Expr)} (first : (f x edge).run.run s = (.ok y, s'))
    (rest : f.Ends s' calls answer s'' made) :
    f.Ends s ((edge, x) :: calls) (answer.map (y :: ·)) s'' ((edge, x) :: made) := by
  cases rest with
  | ok h => exact .ok (.cons first h)
  | error split front fails =>
    exact .error (by rw [split, List.cons_append]) (.cons first front) fails

theorem run_bind_of_ok {α β : Type} {c : ExceptT ε (StateM σ) α} {a : α}
    (h : c.run.run s = (.ok a, s')) (g : α → ExceptT ε (StateM σ) β) :
    (c >>= g).run.run s = (g a).run.run s' := by
  show (ExceptT.bindCont g (c.run.run s).1).run (c.run.run s).2 = _
  rw [h]
  rfl

theorem run_bind_of_error {α β : Type} {c : ExceptT ε (StateM σ) α} {e : ε}
    (h : c.run.run s = (.error e, s')) (g : α → ExceptT ε (StateM σ) β) :
    (c >>= g).run.run s = (.error e, s') := by
  show (ExceptT.bindCont g (c.run.run s).1).run (c.run.run s).2 = _
  rw [h]
  rfl

theorem run_map {α β : Type} (g : α → β) (c : ExceptT ε (StateM σ) α) (s : σ) :
    (g <$> c).run.run s = ((c.run.run s).1.map g, (c.run.run s).2) := by
  rw [ExceptT.run_map, StateT.run_map]
  rfl

/-- A noted call gives what the call gives. -/
theorem Handler.run_noted {answer : Except ε Expr} (h : (f x edge).run.run s = (answer, s'))
    (log : List (Edge × Expr)) :
    (f.noted x edge).run.run (s, log) = (answer, s', log ++ [(edge, x)]) := by
  show (((f x edge).run.run s).1, ((f x edge).run.run s).2, log ++ [(edge, x)]) = _
  rw [h]

/-- A row of calls ends with the first that fails. -/
theorem Handler.run_mapM_noted (f : Handler ε σ) (s : σ) (log calls : List (Edge × Expr)) :
    ∃ answer s' made, f.Ends s calls answer s' made ∧
      (calls.mapM fun (edge, x) => f.noted x edge).run.run (s, log) = (answer, s', log ++ made) := by
  induction calls generalizing s log with
  | nil => exact ⟨.ok [], s, [], .ok (.nil s), by rw [List.append_nil]; rfl⟩
  | cons call rest ih =>
    obtain ⟨edge, x⟩ := call
    rw [List.mapM_cons]
    rcases hf : (f x edge).run.run s with ⟨e | y, s'⟩
    · have hnoted := run_noted hf log
      exact ⟨.error e, s', [(edge, x)], .error (List.nil_append _).symm (.nil s) hf,
        run_bind_of_error hnoted _⟩
    · obtain ⟨answer, s'', made, h, hrun⟩ := ih s' (log ++ [(edge, x)])
      refine ⟨answer.map (y :: ·), s'', (edge, x) :: made, h.cons hf, ?_⟩
      rw [run_bind_of_ok (run_noted hf log), bind_pure_comp, run_map, hrun]
      simp

/-- A node is rebuilt by one call for each child, with its edge and in order, up to the first call that
    fails. -/
theorem run_mapChildrenM (f : Handler ε σ) (e : Expr) (s : σ) :
    ∃ answer s' made, f.Ends s e.held answer s' made ∧
      (e.mapChildrenM fun x _ edge => f.noted x edge).run.run (s, []) =
        (answer.map e.withChildren, s', made) := by
  obtain ⟨answer, s', made, h, hrun⟩ := f.run_mapM_noted s [] e.held
  refine ⟨answer, s', made, h, ?_⟩
  rw [mapChildrenM_eq f.noted, run_map, hrun, List.nil_append]

end

end DataBinding.Expr
