import DataBinding.Expr.Print
import DataBinding.Proofs.Link.Names
import DataBinding.Proofs.Outcome

/-!
# Which trees have a text

A tree has a text exactly if there is no pipeline in it.

Results:

* `Expr.exists_print`: the text of a tree without pipelines.
* `Expr.exists_print_iff`, `Expr.exists_print_error_iff`: which trees have a text, and which have none.
-/

namespace DataBinding.Expr

/-- Is the tree a pipeline? -/
def isPipeline : Expr → Bool
  | pipeline .. => true
  | _ => false

/-- No node of the tree is a pipeline. -/
def WithoutPipelines (e : Expr) : Prop := ∀ n ∈ e.walk, n.isPipeline = false

theorem WithoutPipelines.child {e child : Expr} (h : e.WithoutPipelines) (hc : child ∈ e.children) :
    child.WithoutPipelines :=
  fun n hn => h n (mem_walk_iff.2 (.inr ⟨child, hc, hn⟩))

/-- What is no pipeline has none in it if its children have none. -/
theorem withoutPipelines_of_children {e : Expr} (he : e.isPipeline = false)
    (hc : ∀ child ∈ e.children, child.WithoutPipelines) : e.WithoutPipelines := by
  intro n hn
  rcases mem_walk_iff.1 hn with rfl | ⟨child, hm, hn⟩
  · exact he
  · exact hc child hm n hn

mutual

/-- A tree without pipelines has a text. -/
theorem exists_print : (e : Expr) → e.WithoutPipelines → ∃ code, e.print = .ok code
  | literal l, _ => ⟨l.raw, rfl⟩
  | symbol s, _ => ⟨s.raw, rfl⟩
  | conditional condition yes alternative, h => by
    obtain ⟨x, hx⟩ := exists_print condition (h.child (by simp [children]))
    obtain ⟨y, hy⟩ := exists_print yes (h.child (by simp [children]))
    obtain ⟨z, hz⟩ := exists_print alternative (h.child (by simp [children]))
    exact ⟨_, by rw [print, hx, hy, hz]; rfl⟩
  | unary op operand, h => by
    obtain ⟨x, hx⟩ := exists_print operand (h.child (by simp [children]))
    exact ⟨_, by rw [print, hx]; rfl⟩
  | binary op left right, h => by
    obtain ⟨x, hx⟩ := exists_print left (h.child (by simp [children]))
    obtain ⟨y, hy⟩ := exists_print right (h.child (by simp [children]))
    exact ⟨_, by rw [print, hx, hy]; rfl⟩
  | member target name, h => by
    obtain ⟨x, hx⟩ := exists_print target (h.child (by simp [children]))
    exact ⟨_, by rw [print, hx]; rfl⟩
  | index target key, h => by
    obtain ⟨x, hx⟩ := exists_print target (h.child (by simp [children]))
    obtain ⟨y, hy⟩ := exists_print key (h.child (by simp [children]))
    exact ⟨_, by rw [print, hx, hy]; rfl⟩
  | call callee args, h => by
    obtain ⟨x, hx⟩ := exists_print callee (h.child (by simp [children]))
    obtain ⟨xs, hxs⟩ := exists_printList args fun e he => h.child (by simp [children, he])
    exact ⟨_, by rw [print, hx, hxs]; rfl⟩
  | array elements, h => by
    obtain ⟨xs, hxs⟩ := exists_printList elements fun e he => h.child he
    exact ⟨_, by rw [print, hxs]; rfl⟩
  | object entries, h => by
    obtain ⟨xs, hxs⟩ := exists_printEntries entries fun e he => h.child he
    exact ⟨_, by rw [print, hxs]; rfl⟩
  | parens inner, h => by
    obtain ⟨x, hx⟩ := exists_print inner (h.child (by simp [children]))
    exact ⟨_, by rw [print, hx]; rfl⟩
  | pipeline input stages, h => nomatch h _ mem_walk_self
  | arrow params body, h => by
    obtain ⟨x, hx⟩ := exists_print body (h.child (by simp [children]))
    exact ⟨_, by rw [print, hx]; rfl⟩

theorem exists_printList : (es : List Expr) → (∀ e ∈ es, e.WithoutPipelines) →
    ∃ xs, printList es = .ok xs
  | [], _ => ⟨[], rfl⟩
  | e :: rest, h => by
    obtain ⟨x, hx⟩ := exists_print e (h e List.mem_cons_self)
    obtain ⟨xs, hxs⟩ := exists_printList rest fun e he => h e (List.mem_cons_of_mem _ he)
    exact ⟨_, by rw [printList, hx, hxs]; rfl⟩

theorem exists_printEntries : (entries : List (ObjectKey × Expr)) →
    (∀ e ∈ entries.map Prod.snd, e.WithoutPipelines) → ∃ xs, printEntries entries = .ok xs
  | [], _ => ⟨[], rfl⟩
  | (key, e) :: rest, h => by
    obtain ⟨x, hx⟩ := exists_print e (h e List.mem_cons_self)
    obtain ⟨xs, hxs⟩ := exists_printEntries rest fun e he => h e (List.mem_cons_of_mem _ he)
    exact ⟨_, by rw [printEntries, hx, hxs]; rfl⟩

end

/-! ## Trees without a text -/

theorem exists_print_of_printList {es : List Expr} {xs : List String} (h : printList es = .ok xs) :
    ∀ e ∈ es, ∃ x, e.print = .ok x := by
  induction es generalizing xs with
  | nil => simp
  | cons e es ih =>
    rw [printList] at h
    obtain ⟨x, hx, h⟩ := bind_eq_ok_iff.1 h
    obtain ⟨xs', hxs, -⟩ := bind_eq_ok_iff.1 h
    rw [List.forall_mem_cons]
    exact ⟨⟨x, hx⟩, ih hxs⟩

theorem exists_print_of_printEntries {entries : List (ObjectKey × Expr)} {xs : List String}
    (h : printEntries entries = .ok xs) : ∀ e ∈ entries.map Prod.snd, ∃ x, e.print = .ok x := by
  induction entries generalizing xs with
  | nil => simp
  | cons entry entries ih =>
    obtain ⟨key, e⟩ := entry
    rw [printEntries] at h
    obtain ⟨x, hx, h⟩ := bind_eq_ok_iff.1 h
    obtain ⟨xs', hxs, -⟩ := bind_eq_ok_iff.1 h
    rw [List.map_cons, List.forall_mem_cons]
    exact ⟨⟨x, hx⟩, ih hxs⟩

/-- The children of a tree with a text have one too. -/
theorem exists_print_of_mem_children {e child : Expr} {code : String} (h : e.print = .ok code)
    (hc : child ∈ e.children) : ∃ x, child.print = .ok x := by
  cases e with
  | literal | symbol => cases hc
  | pipeline => cases h
  | conditional condition yes alternative =>
    obtain ⟨x, hx, h⟩ := bind_eq_ok_iff.1 h
    obtain ⟨y, hy, h⟩ := bind_eq_ok_iff.1 h
    obtain ⟨z, hz, -⟩ := bind_eq_ok_iff.1 h
    simp only [children, List.mem_cons, List.not_mem_nil, or_false] at hc
    rcases hc with rfl | rfl | rfl
    · exact ⟨x, hx⟩
    · exact ⟨y, hy⟩
    · exact ⟨z, hz⟩
  | binary op left right | index left right =>
    obtain ⟨x, hx, h⟩ := bind_eq_ok_iff.1 h
    obtain ⟨y, hy, -⟩ := bind_eq_ok_iff.1 h
    simp only [children, List.mem_cons, List.not_mem_nil, or_false] at hc
    rcases hc with rfl | rfl
    · exact ⟨x, hx⟩
    · exact ⟨y, hy⟩
  | unary | member | parens | arrow =>
    obtain ⟨x, hx, -⟩ := bind_eq_ok_iff.1 h
    obtain rfl := List.mem_singleton.1 hc
    exact ⟨x, hx⟩
  | call callee args =>
    obtain ⟨x, hx, h⟩ := bind_eq_ok_iff.1 h
    obtain ⟨xs, hxs, -⟩ := bind_eq_ok_iff.1 h
    rcases List.mem_cons.1 hc with rfl | hc
    · exact ⟨x, hx⟩
    · exact exists_print_of_printList hxs child hc
  | array elements =>
    obtain ⟨xs, hxs, -⟩ := bind_eq_ok_iff.1 h
    exact exists_print_of_printList hxs child hc
  | object entries =>
    obtain ⟨xs, hxs, -⟩ := bind_eq_ok_iff.1 h
    exact exists_print_of_printEntries hxs child hc

/-- A tree has a text exactly if no node of it is a pipeline. -/
theorem exists_print_iff {e : Expr} : (∃ code, e.print = .ok code) ↔ e.WithoutPipelines := by
  refine ⟨fun h => ?_, exists_print e⟩
  induction e using walk.induct with
  | case1 e ih =>
    obtain ⟨code, hcode⟩ := h
    intro n hn
    rcases mem_walk_iff.1 hn with rfl | ⟨child, hc, hn⟩
    · cases n with
      | pipeline => cases hcode
      | _ => rfl
    · exact ih child hc (exists_print_of_mem_children hcode hc) n hn

/-- Printing a tree fails exactly if a node of it is a pipeline. -/
theorem exists_print_error_iff {e : Expr} :
    (∃ fault, e.print = .error fault) ↔ ∃ n ∈ e.walk, n.isPipeline = true := by
  have hno : (∃ fault, e.print = .error fault) ↔ ¬ ∃ code, e.print = .ok code := by
    cases e.print <;> simp
  rw [hno, exists_print_iff, WithoutPipelines]
  simp

end DataBinding.Expr
