import DataBinding.Proofs.Likeness.Guard
import DataBinding.Proofs.Likeness.Held
import DataBinding.Proofs.Link.Names

/-!
# Reads that are watched

Where every call of the accessor in an expression starts with literal arguments that are one of the
given paths, every read that a run makes goes along one of these paths. The invariant is that the
bodies of all arrow functions alive in a run are such expressions too; it needs a host that brings no
arrow functions of its own.

Results:

* `World.alike_leading`: literal arguments are read under the texts that name their path.
* `Expr.isCovered_of_eval`: the reads of a run of a watched expression are covered.
-/

namespace DataBinding

open Value

/-- The tag and some leading keys of the read are one of the paths. -/
def Read.IsCovered (r : Read) (paths : List String) : Prop :=
  ∃ k ≤ r.keys.length, ".".intercalate (r.tag :: (r.keys.take k).map Value.toText) ∈ paths

namespace Expr

/-- Every call of the accessor in the expression starts with literals, and these are one of the
    paths. -/
def IsWatched (paths : List String) (e : Expr) : Prop :=
  ∀ s args, call (symbol s) args ∈ e.walk → s.name = accessorName →
    ∃ tag keys, pathSegments args = tag :: keys ∧ ".".intercalate (tag :: keys) ∈ paths

variable {paths : List String} {e : Expr}

theorem IsWatched.child {child : Expr} (h : e.IsWatched paths) (hc : child ∈ e.children) :
    child.IsWatched paths :=
  fun s args hw hs => h s args (mem_walk_iff.2 (.inr ⟨child, hc, hw⟩)) hs

theorem IsWatched.mono {paths' : List String} (h : e.IsWatched paths)
    (hp : ∀ path ∈ paths, path ∈ paths') : e.IsWatched paths' := by
  intro s args hw hs
  obtain ⟨tag, keys, hk, hm⟩ := h s args hw hs
  exact ⟨tag, keys, hk, hp _ hm⟩

/-- What is no call of a name is watched if its children are. -/
theorem isWatched_of_children (hc : ∀ child ∈ e.children, child.IsWatched paths)
    (he : ∀ s args, e ≠ call (symbol s) args) : e.IsWatched paths := by
  intro s args hw hs
  rcases mem_walk_iff.1 hw with rfl | ⟨child, hm, hw⟩
  · exact absurd rfl (he s args)
  · exact hc child hm s args hw hs

theorem isWatched_ofString (text : String) : (ofString text).IsWatched paths :=
  isWatched_of_children (by simp [ofString, children]) (by simp [ofString])

theorem IsWatched.parens (h : e.IsWatched paths) : (parens e).IsWatched paths :=
  isWatched_of_children (by simpa [children] using h) (by simp)

theorem IsWatched.add {left right : Expr} (hl : left.IsWatched paths) (hr : right.IsWatched paths) :
    (binary .add left right).IsWatched paths :=
  isWatched_of_children (by simpa [children] using ⟨hl, hr⟩) (by simp)

end Expr

/-! ## Leading literals -/

namespace World

variable {w : World} {env : Env} {call call' : Caller} {locals locals' : Dict Value}

/-- A literal that names a segment evaluates to a value with that text. -/
theorem alike_segment {l : Literal} {segment : String} (h : l.pathSegment? = some segment) :
    w.Alike (fun v v' => Like w.code v v' ∧ v.toText = segment)
      ((Expr.literal l).evalIn env call locals) ((Expr.literal l).evalIn env call' locals') := by
  obtain ⟨value, raw⟩ := l
  rw [Expr.evalIn, Expr.evalIn]
  cases value with
  | string s =>
    cases h
    exact .pure ⟨.string _, toText_string _⟩
  | number x =>
    cases h
    exact .pure ⟨.number _, by rw [toText]⟩
  | _ => cases h

/-- The values of arguments start with the texts of the segments that the arguments start with. -/
theorem alike_leading : (args : List Expr) →
    (∀ arg ∈ args, w.AlikeValue (arg.evalIn env call locals) (arg.evalIn env call' locals')) →
      w.Alike (fun vs vs' => LikeItems w.code vs vs' ∧
          ∃ more, vs.map Value.toText = pathSegments args ++ more)
        (evalList env call locals args) (evalList env call' locals' args)
  | [], _ => .pure ⟨.nil, [], rfl⟩
  | arg :: rest, h => by
    have hrest := alike_leading rest fun x hx => h x (List.mem_cons_of_mem _ hx)
    have other : pathSegments (arg :: rest) = [] →
        w.Alike (fun vs vs' => LikeItems w.code vs vs' ∧
            ∃ more, vs.map Value.toText = pathSegments (arg :: rest) ++ more)
          (evalList env call locals (arg :: rest)) (evalList env call' locals' (arg :: rest)) := by
      intro hs
      rw [hs, evalList, evalList]
      exact (h arg List.mem_cons_self).bind fun v v' hv => hrest.bind fun vs vs' hvs =>
        .pure ⟨.cons hv hvs.1, _, rfl⟩
    cases arg with
    | literal l =>
      cases hl : l.pathSegment? with
      | none => exact other (by simp [pathSegments, hl])
      | some segment =>
        have hs : pathSegments (.literal l :: rest) = segment :: pathSegments rest := by
          simp [pathSegments, hl]
        rw [hs, evalList, evalList]
        refine (alike_segment hl).bind fun v v' hv => hrest.bind fun vs vs' hvs => .pure ?_
        obtain ⟨more, hm⟩ := hvs.2
        exact ⟨.cons hv.1 hvs.1, more, by simp [hv.2, hm]⟩
    | _ => exact other rfl

end World

/-! ## Runs -/

/-- The world of single runs in which every read is covered. -/
def watchedWorld (paths : List String) : World where
  code N k k' := N = (· = ·) ∧ k = k' ∧ k.names.Pairwise (· < ·) ∧ k.body.IsWatched paths
  traces t u := t.next = u.next ∧ ∀ r ∈ t.reads, r.IsCovered paths
  halts _ _ := True
  isStrict := true
  next_eq h := h.1
  traces_next h _ := ⟨rfl, h.2⟩
  fault _ := trivial

variable {paths : List String}

theorem isDiagonal_watchedWorld : (watchedWorld paths).code.IsDiagonal :=
  fun _ _ _ h => ⟨h.1, h.2.1, h.2.2.1⟩

/-- A covered read stays in the world. -/
theorem alike_note {r : Read} (h : r.IsCovered paths) :
    (watchedWorld paths).Alike (fun _ _ => True) (Eval.note r) (Eval.note r) := by
  intro t u ht
  refine .value trivial ⟨ht.1, fun x hx => ?_⟩
  rcases List.mem_append.1 hx with hx | hx
  · exact ht.2 x hx
  · obtain rfl := List.mem_singleton.1 hx
    exact h

theorem alike_callAccessor {host : Host} (hh : host.IsClosed) {args : List Value}
    (ha : LikeItems (watchedWorld paths).code args args) {tag : String} {keys : List String}
    (hs : ∃ more, args.map Value.toText = (tag :: keys) ++ more)
    (hp : ".".intercalate (tag :: keys) ∈ paths) :
    (watchedWorld paths).AlikeValue (callAccessor host args) (callAccessor host args) := by
  obtain ⟨more, hm⟩ := hs
  cases args with
  | nil => cases hm
  | cons v vs =>
    obtain ⟨hv, hvs⟩ : v.toText = tag ∧ vs.map Value.toText = keys ++ more := List.cons.inj hm
    have covered : Read.IsCovered ⟨v.toText, vs⟩ paths := by
      refine ⟨keys.length, ?_, ?_⟩
      · have := congrArg List.length hvs
        simp only [List.length_map, List.length_append] at this
        simp only
        omega
      · rw [List.map_take, hvs, hv, List.take_left]
        exact hp
    cases ha with
    | cons _ hvs =>
      exact World.alike_read isDiagonal_watchedWorld hh hvs (alike_note covered) fun _ _ _ => trivial

/-- Watched expressions are evaluated in the world of covered reads. -/
def watchedGuard (paths : List String) {env : Env} (hh : env.host.IsClosed)
    (hb : ∀ name v, Dict.get? env.bound name = some v → ∀ f, ¬ v.Holds f) :
    Guard (watchedWorld paths) env where
  holds _ e := e.IsWatched paths
  code_iff := Iff.rfl
  congr _ h := h
  child h hc := h.child (Expr.mem_children_of_evaluated hc)
  bound hv := like_of_holds_none (hb _ _ hv)
  calls := hh.alikeCalls isDiagonal_watchedWorld
  callError _ _ _ _ _ _ := trivial
  tooDeep := trivial
  invalidRegex _ := trivial
  pipeline _ := trivial
  name _ _ _ _ _ := trivial
  accessor := by
    intro s args call call' locals locals' h hs _ ha
    obtain ⟨tag, keys, hk, hp⟩ := h s args (Expr.mem_walk_self) hs
    refine (World.alike_leading args ha).bind fun vs vs' hvs => ?_
    obtain rfl := hvs.1.eq isDiagonal_watchedWorld
    exact alike_callAccessor hh hvs.1 (hk ▸ hvs.2) hp

/-- Every read that a run of a watched expression makes is covered, whether the run ends in a value or
    halts. -/
theorem Expr.isCovered_of_eval {env : Env} {e : Expr} (hh : env.host.IsClosed)
    (hb : ∀ name v, Dict.get? env.bound name = some v → ∀ f, ¬ v.Holds f) (he : e.IsWatched paths)
    (next : Nat) : ∀ r ∈ (Eval.start (env.eval e) next).2.reads, r.IsCovered paths := by
  have run := (watchedGuard paths hh hb).alike_eval he ⟨next, []⟩ ⟨next, []⟩ ⟨rfl, by simp⟩
  show ∀ r ∈ (((env.eval e).run).run ⟨next, []⟩).2.reads, r.IsCovered paths
  generalize ((env.eval e).run).run ⟨next, []⟩ = outcome at run
  cases run with
  | value _ ht => exact ht.2
  | halt _ ht => exact ht.2
  | lenient hw => cases hw

end DataBinding
