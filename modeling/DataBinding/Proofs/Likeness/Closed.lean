import DataBinding.Link.Basic
import DataBinding.Proofs.Likeness.Guard
import DataBinding.Proofs.Likeness.Held
import DataBinding.Proofs.Likeness.Watched
import DataBinding.Proofs.Link.Names

/-!
# Runs without unbound names

Where every name that an expression reads is a parameter in sight, bound from outside or a built-in
value, and where it has no pipeline, no run ends because a name stands for nothing. The invariant is
that the bodies of all arrow functions alive in a run are such expressions too, in the sight of what
they captured and of their parameters. The accessor has no value, but it may be called.

Results:

* `eq_accessorName_of_isBuiltin`: every built-in name but the accessor is known to evaluations.
* `closedGuard`: closed expressions are evaluated in the world of runs without unbound names.
* `Expr.raises_of_eval`: only the host reports an unbound name in a run of a closed expression.
-/

namespace DataBinding

open Value

/-- A name stands for nothing, or a pipeline was not written as calls. -/
def EvalError.IsUnbound (e : EvalError) : Prop := e = .pipeline ∨ ∃ name, e = .notDefined name

/-- The accessor or a function of the host reports the error. -/
def Host.Raises (host : Host) (e : EvalError) : Prop :=
  (∃ tag keys n, ((host.read tag keys).run.run n).1 = .error e) ∨
    ∃ name this args n, ((host.call name this args).run.run n).1 = .error e

/-! ## Built-in names -/

/-- A built-in name that evaluations do not know at all is the accessor. -/
theorem eq_accessorName_of_isBuiltin {name : String} (h : isBuiltin name = true)
    (hu : name ∉ unavailableNames) (hg : globalValue? name = none) : name = accessorName := by
  have known : ∀ name ∈ builtins, name ∈ unavailableNames ∨ (globalValue? name).isSome = true ∨
      name = accessorName := by
    decide
  rcases known name (List.contains_iff_mem.1 h) with h | h | h
  · exact absurd h hu
  · rw [hg] at h
    cases h
  · exact h

/-! ## Closed expressions -/

/-- A name that is read is a parameter in sight, one of `outside` or built in. Only in the place of a
    callee it may be the accessor. -/
def closedRule (outside : List String) : NameRule :=
  ⟨fun scope callee s => s.name ∈ scope ∨ s.name ∈ outside ∨
    isBuiltin s.name = true ∧ (s.name = accessorName → callee = true), fun _ => True, fun _ _ => True⟩

namespace Expr

variable {outside scope : List String} {e child : Expr}

/-- All names of the expression are known in the sight of some of the parameters. -/
def IsClosed (outside scope : List String) (e : Expr) : Prop :=
  ∃ inner, (∀ n ∈ inner, n ∈ scope) ∧ e.Obeys (closedRule outside) inner false

/-- What is no name obeys a rule as a callee if it does elsewhere. -/
theorem Obeys.of_callee {ρ : NameRule} (h : e.Obeys ρ scope true) (he : ∀ s, e ≠ symbol s) :
    e.Obeys ρ scope false := by
  cases e with
  | symbol s => exact absurd rfl (he s)
  | _ => exact h

/-- The parts of a call are closed: its callee too, unless it stands for the accessor. -/
theorem IsClosed.evaluated_call {f : Expr} {args : List Expr} (h : (call f args).IsClosed outside scope)
    (hc : child ∈ (call f args).evaluated scope) : child.IsClosed outside scope := by
  obtain ⟨inner, hi, -, hf, ha⟩ := h
  have arg : ∀ x ∈ args, x.IsClosed outside scope := fun x hx => ⟨inner, hi, obeysList_iff.1 ha x hx⟩
  by_cases hs : ∃ s, f = symbol s
  · obtain ⟨s, rfl⟩ := hs
    rw [evaluated] at hc
    split at hc
    · exact arg child hc
    · rename_i hn
      rcases List.mem_cons.1 hc with rfl | hc
      · by_cases hm : s.name ∈ scope
        · exact ⟨scope, fun _ h => h, .inl hm⟩
        · refine ⟨inner, hi, ?_⟩
          rcases hf with hf | hf | ⟨hb, -⟩
          · exact .inl hf
          · exact .inr (.inl hf)
          · exact .inr (.inr ⟨hb, fun he => absurd ⟨he, hm⟩ hn⟩)
      · exact arg child hc
  · rcases List.mem_cons.1 (mem_children_of_evaluated hc) with rfl | hc
    · exact ⟨inner, hi, hf.of_callee fun s he => hs ⟨s, he⟩⟩
    · exact arg child hc

/-- The parts of a closed expression that are evaluated are closed. -/
theorem IsClosed.evaluated (h : e.IsClosed outside scope) (hc : child ∈ e.evaluated scope) :
    child.IsClosed outside (e.innerScope scope) := by
  cases e with
  | call f args => exact h.evaluated_call hc
  | arrow params body =>
    obtain ⟨inner, hi, -, hb⟩ := h
    obtain rfl := List.mem_singleton.1 hc
    refine ⟨_, fun n hn => ?_, hb⟩
    show n ∈ scope ++ params.map Symbol.name
    rcases List.mem_append.1 hn with hn | hn
    · exact List.mem_append_left _ (hi n hn)
    · exact List.mem_append_right _ hn
  | literal | symbol => cases hc
  | pipeline =>
    obtain ⟨_, _, h⟩ := h
    exact h.elim
  | conditional condition yes alternative =>
    obtain ⟨inner, hi, hcond, hyes, halt⟩ := h
    change child ∈ [condition, yes, alternative] at hc
    simp only [List.mem_cons, List.not_mem_nil, or_false] at hc
    rcases hc with rfl | rfl | rfl
    · exact ⟨inner, hi, hcond⟩
    · exact ⟨inner, hi, hyes⟩
    · exact ⟨inner, hi, halt⟩
  | binary op left right =>
    obtain ⟨inner, hi, hl, hr⟩ := h
    change child ∈ [left, right] at hc
    simp only [List.mem_cons, List.not_mem_nil, or_false] at hc
    rcases hc with rfl | rfl
    · exact ⟨inner, hi, hl⟩
    · exact ⟨inner, hi, hr⟩
  | index target key =>
    obtain ⟨inner, hi, ht, hk⟩ := h
    change child ∈ [target, key] at hc
    simp only [List.mem_cons, List.not_mem_nil, or_false] at hc
    rcases hc with rfl | rfl
    · exact ⟨inner, hi, ht⟩
    · exact ⟨inner, hi, hk⟩
  | unary | member | parens =>
    obtain ⟨inner, hi, h⟩ := h
    obtain rfl := List.mem_singleton.1 hc
    exact ⟨inner, hi, h⟩
  | array elements =>
    obtain ⟨inner, hi, h⟩ := h
    exact ⟨inner, hi, obeysList_iff.1 h _ hc⟩
  | object entries =>
    obtain ⟨inner, hi, h⟩ := h
    exact ⟨inner, hi, obeysEntries_iff.1 h _ hc⟩

end Expr

/-! ## Runs -/

/-- Traces that get the same number go on with it. -/
theorem next_setNext {t u : Trace} (_ : t.next = u.next) (n : Nat) :
    ({ t with next := n } : Trace).next = ({ u with next := n } : Trace).next := rfl

/-- The world of single runs of closed code in which only the host reports an unbound name. -/
def closedWorld (outside : List String) (host : Host) : World where
  code N k k' := N = (· = ·) ∧ k = k' ∧ k.names.Pairwise (· < ·) ∧
    k.body.IsClosed outside (k.names ++ k.params)
  traces t u := t.next = u.next
  halts h _ := ∀ e, h = .error e → e.IsUnbound → host.Raises e
  isStrict := true
  next_eq h := h
  traces_next := @next_setNext
  fault f e h hu := by
    cases h
    rcases hu with hu | ⟨name, hu⟩ <;> cases hu

variable {outside : List String} {host : Host}

theorem isDiagonal_closedWorld : (closedWorld outside host).code.IsDiagonal :=
  fun _ _ _ h => ⟨h.1, h.2.1, h.2.2.1⟩

/-- An error that is no unbound name stays in the world. -/
theorem halts_closedWorld {e : EvalError} (h : ¬ e.IsUnbound) :
    (closedWorld outside host).halts (.error e) (.error e) := by
  intro e' he hu
  cases he
  exact absurd hu h

/-- What the host reports stays in the world. -/
theorem halts_closedWorld_of_raises {e : EvalError} (h : host.Raises e) :
    (closedWorld outside host).halts (.error e) (.error e) := by
  intro e' he _
  cases he
  exact h

/-- Noting a read stays in the world. -/
theorem alike_note_closedWorld (r : Read) :
    (closedWorld outside host).Alike (fun _ _ => True) (Eval.note r) (Eval.note r) :=
  fun _ _ ht => .value trivial ht

theorem alike_callAccessor_closedWorld (hh : host.IsClosed) {args : List Value}
    (ha : LikeItems (closedWorld outside host).code args args) :
    (closedWorld outside host).AlikeValue (callAccessor host args) (callAccessor host args) := by
  cases ha with
  | nil => exact World.alike_fault _
  | cons hv hs =>
    exact World.alike_read isDiagonal_closedWorld hh hs (alike_note_closedWorld _) fun n e he =>
      halts_closedWorld_of_raises (.inl ⟨_, _, n, he⟩)

/-- Closed expressions are evaluated in the world of runs without unbound names. -/
def closedGuard {env : Env} (hh : env.host.IsClosed)
    (hb : ∀ name v, Dict.get? env.bound name = some v → ∀ f, ¬ v.Holds f)
    (ho : ∀ name ∈ outside, (Dict.get? env.bound name).isSome = true) :
    Guard (closedWorld outside env.host) env where
  holds scope e := e.IsClosed outside scope
  code_iff := Iff.rfl
  congr hs h := by
    obtain ⟨inner, hi, h⟩ := h
    exact ⟨inner, fun n hn => (hs n).1 (hi n hn), h⟩
  child h hc := h.evaluated hc
  bound hv := like_of_holds_none (hb _ _ hv)
  calls := hh.alikeCalls isDiagonal_closedWorld
  callError name this args n e he := halts_closedWorld_of_raises (.inr ⟨name, this, args, n, he⟩)
  tooDeep e h := by cases h
  invalidRegex pattern := halts_closedWorld (by simp [EvalError.IsUnbound])
  pipeline h := by
    obtain ⟨_, _, h⟩ := h
    exact h.elim
  name := by
    intro scope s h hs hn e he
    rcases he with rfl | ⟨rfl, hu, hg⟩
    · exact halts_closedWorld (by simp [EvalError.IsUnbound])
    · exfalso
      obtain ⟨inner, hi, h⟩ := h
      rcases h with h | h | ⟨hb, hc⟩
      · exact hs (hi _ h)
      · have hm := ho _ h
        rw [hn] at hm
        cases hm
      · cases hc (eq_accessorName_of_isBuiltin hb hu hg)
  accessor := by
    intro s args call call' locals locals' _ _ _ ha
    refine (World.alike_leading args ha).bind fun vs vs' hvs => ?_
    obtain rfl := hvs.1.eq isDiagonal_closedWorld
    exact alike_callAccessor_closedWorld hh hvs.1

/-- Only the host reports an unbound name in a run of a closed expression. -/
theorem Expr.raises_of_eval {env : Env} {e : Expr} (hh : env.host.IsClosed)
    (hb : ∀ name v, Dict.get? env.bound name = some v → ∀ f, ¬ v.Holds f)
    (ho : ∀ name ∈ outside, (Dict.get? env.bound name).isSome = true)
    (he : e.Obeys (closedRule outside) [] false) {next : Nat} {x : EvalError} (hx : x.IsUnbound)
    (h : (Eval.start (env.eval e) next).1 = .error (.error x)) : env.host.Raises x := by
  have closed : e.IsClosed outside [] := ⟨[], fun _ h => h, he⟩
  have run := (closedGuard hh hb ho).alike_eval closed ⟨next, []⟩ ⟨next, []⟩ rfl
  change (((env.eval e).run).run ⟨next, []⟩).1 = .error (.error x) at h
  generalize ((env.eval e).run).run ⟨next, []⟩ = outcome at run h
  cases run with
  | value => cases h
  | halt hh' =>
    cases h
    exact hh' x rfl hx
  | lenient hw => cases hw

end DataBinding
