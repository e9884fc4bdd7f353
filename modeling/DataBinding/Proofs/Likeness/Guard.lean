import DataBinding.Proofs.Likeness.Call

/-!
# Invariants of runs

A `Guard` of a world is a property of expressions that goes down to the parts that are evaluated and
under which every step of an evaluation stays in the world. Then every run stays in it: of closures
alive in a run it is known that the guard holds of their bodies.

The accessor in the place of a callee is no part that is evaluated: it is called by its name.

Results:

* `Guard.alike_evalIn`: an evaluation under a guard stays in the world, by induction on the expression.
* `Guard.alike_eval`: so does every run of a guarded program.
-/

namespace DataBinding

open Value

namespace Expr

/-- The names of the parameters in sight in the children of an expression. -/
def innerScope (scope : List String) : Expr → List String
  | arrow params _ => scope ++ params.map Symbol.name
  | _ => scope

/-- The children that are evaluated where the names of parameters are in sight. -/
def evaluated (scope : List String) : Expr → List Expr
  | call (symbol s) args =>
    if s.name = accessorName ∧ s.name ∉ scope then args else symbol s :: args
  | e => e.children

variable {scope : List String} {e f child : Expr} {args : List Expr} {s : Symbol}

theorem mem_children_of_evaluated (h : child ∈ e.evaluated scope) : child ∈ e.children := by
  unfold evaluated at h
  split at h
  · split at h
    · exact List.mem_cons_of_mem _ h
    · exact h
  · exact h

theorem mem_evaluated_arg (h : child ∈ args) : child ∈ (call f args).evaluated scope := by
  unfold evaluated
  split
  · rename_i heq
    cases heq
    split
    · exact h
    · exact List.mem_cons_of_mem _ h
  · exact List.mem_cons_of_mem _ h

theorem mem_evaluated_callee (h : ∀ s, f ≠ symbol s) : f ∈ (call f args).evaluated scope := by
  unfold evaluated
  split
  · rename_i heq
    cases heq
    exact absurd rfl (h _)
  · exact List.mem_cons_self

/-- A name that is called is evaluated unless it stands for the accessor. -/
theorem mem_evaluated_symbol (h : ¬ (s.name = accessorName ∧ s.name ∉ scope)) :
    symbol s ∈ (call (symbol s) args).evaluated scope := by
  rw [evaluated, if_neg h]
  exact List.mem_cons_self

end Expr

/-- A property of expressions in the sight of parameters, under which evaluations stay in a world. -/
structure Guard (w : World) (env : Env) where
  holds : List String → Expr → Prop
  /-- Closures of the world are the same, what they capture is in order, and the property holds of
      their bodies. -/
  code_iff : ∀ {N k k'}, w.code N k k' ↔ N = (· = ·) ∧ k = k' ∧ k.names.Pairwise (· < ·) ∧
    holds (k.names ++ k.params) k.body
  /-- Only which names are in sight counts. -/
  congr : ∀ {scope scope' e}, (∀ n, n ∈ scope ↔ n ∈ scope') → holds scope e → holds scope' e
  child : ∀ {scope e child}, holds scope e → child ∈ e.evaluated scope →
    holds (e.innerScope scope) child
  bound : ∀ {name v}, Dict.get? env.bound name = some v → Like w.code v v
  calls : AlikeCalls w.code env.host.call env.host.call
  callError : ∀ name this args n e, ((env.host.call name this args).run.run n).1 = .error e →
    w.halts (.error e) (.error e)
  tooDeep : w.halts .tooDeep .tooDeep
  invalidRegex : ∀ pattern, w.halts (.error (.invalidRegex pattern)) (.error (.invalidRegex pattern))
  pipeline : ∀ {scope input stages}, holds scope (.pipeline input stages) →
    w.halts (.error .pipeline) (.error .pipeline)
  /-- A name that is no parameter and not bound from outside -/
  name : ∀ {scope s}, holds scope (.symbol s) → s.name ∉ scope → Dict.get? env.bound s.name = none →
    ∀ e, e = .unavailable s.name ∨ e = .notDefined s.name ∧ s.name ∉ unavailableNames ∧
      globalValue? s.name = none → w.halts (.error e) (.error e)
  /-- A call of the accessor -/
  accessor : ∀ {s args call call' locals locals'},
    holds (Dict.keys locals) (.call (.symbol s) args) → s.name = accessorName →
    SortedLocals w.code locals locals' →
    (∀ arg ∈ args, w.AlikeValue (arg.evalIn env call locals) (arg.evalIn env call' locals')) →
    w.AlikeValue (evalList env call locals args >>= callAccessor env.host)
      (evalList env call' locals' args >>= callAccessor env.host)

namespace Guard

variable {w : World} {env : Env} (g : Guard w env) {call call' : Caller} {locals locals' : Dict Value}

/-- The property goes down to a callee that is no name. -/
theorem callee {scope : List String} {f : Expr} {args : List Expr} (h : g.holds scope (.call f args))
    (hf : ∀ s, f ≠ .symbol s) : g.holds scope f := g.child h (Expr.mem_evaluated_callee hf)

theorem alike_name (hl : SortedLocals w.code locals locals') {s : Symbol}
    (h : g.holds (Dict.keys locals) (.symbol s)) :
    w.AlikeValue (lookup env locals s.name) (lookup env locals' s.name) := by
  refine World.alike_lookup (hl.get? s.name) (fun _ => ?_) fun hn hb e he => ?_
  · cases hb : Dict.get? env.bound s.name with
    | none => exact .none
    | some v => exact .some (g.bound hb)
  · exact World.alike_throw (g.name h (Dict.get?_eq_none_iff.1 hn) hb e he)

theorem alike_arrow (hl : SortedLocals w.code locals locals') {params : List Symbol} {body : Expr}
    (h : g.holds (Dict.keys locals) (.arrow params body)) :
    w.AlikeValue ((Expr.arrow params body).evalIn env call locals)
      ((Expr.arrow params body).evalIn env call' locals') := by
  have hb := g.child h (List.mem_singleton.2 rfl : body ∈ (Expr.arrow params body).children)
  exact .ofFresh (Fresh.alike_function
    (.closure (g.code_iff.2 ⟨rfl, by rw [hl.keys], hl.sorted, hb⟩) hl.like))

/-- Whatever is called, by the kind of the callee: the callee is evaluated alike, and so are the
    arguments. -/
def CalledAlike (w : World) (env : Env) (call call' : Caller) (locals locals' : Dict Value)
    (f : Expr) (args : List Expr) : Prop :=
  w.Alike (LikeItems w.code) (evalList env call locals args)
      (evalList env call' locals' args) →
    w.AlikeValue ((Expr.call f args).evalIn env call locals)
      ((Expr.call f args).evalIn env call' locals')

theorem calledAlike_symbol (hc : w.AlikeCaller call call') (hl : SortedLocals w.code locals locals')
    {s : Symbol} {args : List Expr} (h : g.holds (Dict.keys locals) (.call (.symbol s) args))
    (ha : ∀ arg ∈ args, w.AlikeValue (arg.evalIn env call locals) (arg.evalIn env call' locals')) :
    CalledAlike w env call call' locals locals' (.symbol s) args := by
  intro has
  have hn : Dict.get? locals accessorName = none ↔ Dict.get? locals' accessorName = none := by
    rw [Dict.get?_eq_none_iff, Dict.get?_eq_none_iff, hl.keys]
  rw [Expr.evalIn, Expr.evalIn]
  by_cases hs : s.name = accessorName ∧ Dict.get? locals accessorName = none
  · rw [if_pos hs, if_pos ⟨hs.1, hn.1 hs.2⟩]
    exact g.accessor h hs.1 hl ha
  · rw [if_neg hs, if_neg fun hs' => hs ⟨hs'.1, hn.2 hs'.2⟩]
    have hm : Expr.symbol s ∈ (Expr.call (.symbol s) args).evaluated (Dict.keys locals) :=
      Expr.mem_evaluated_symbol fun h' => hs ⟨h'.1, Dict.get?_eq_none_iff.2 (h'.1 ▸ h'.2)⟩
    refine (g.alike_name hl (g.child h hm)).bind fun f f' hf =>
      has.bind fun vs vs' hvs => ?_
    exact World.alike_callValue hc hf .undefined hvs fun _ => rfl

theorem calledAlike_member (hc : w.AlikeCaller call call') {target : Expr} {name : String}
    {args : List Expr}
    (ht : w.AlikeValue (target.evalIn env call locals) (target.evalIn env call' locals')) :
    CalledAlike w env call call' locals locals' (.member target name) args := by
  intro has
  rw [Expr.evalIn, Expr.evalIn]
  exact ht.bind fun v v' hv => has.bind fun vs vs' hvs =>
    World.alike_callMember hc hv (.string name) hvs

theorem calledAlike_index (hc : w.AlikeCaller call call') {target key : Expr} {args : List Expr}
    (ht : w.AlikeValue (target.evalIn env call locals) (target.evalIn env call' locals'))
    (hk : w.AlikeValue (key.evalIn env call locals) (key.evalIn env call' locals')) :
    CalledAlike w env call call' locals locals' (.index target key) args := by
  intro has
  rw [Expr.evalIn, Expr.evalIn]
  exact ht.bind fun v v' hv => hk.bind fun k k' hk => has.bind fun vs vs' hvs =>
    World.alike_callMember hc hv hk hvs

theorem calledAlike_other (hc : w.AlikeCaller call call') {f : Expr} {args : List Expr}
    (hf : w.AlikeValue (f.evalIn env call locals) (f.evalIn env call' locals'))
    (he : ∀ call locals, (Expr.call f args).evalIn env call locals = (do
      let v ← f.evalIn env call locals
      let vs ← evalList env call locals args
      callValue call v .undefined vs f.kindName)) :
    CalledAlike w env call call' locals locals' f args := by
  intro has
  rw [he, he]
  exact hf.bind fun v v' hv => has.bind fun vs vs' hvs =>
    World.alike_callValue hc hv .undefined hvs fun _ => rfl

mutual

/-- An evaluation under a guard stays in the world, and so does a call of what the expression stands
    for. The second part carries the calls of members through the induction: there the expression
    itself is not evaluated, but its parts are. -/
theorem alike_evalIn (hc : w.AlikeCaller call call') (hl : SortedLocals w.code locals locals') :
    (e : Expr) →
      (g.holds (Dict.keys locals) e →
        w.AlikeValue (e.evalIn env call locals) (e.evalIn env call' locals')) ∧
      ∀ args, g.holds (Dict.keys locals) (.call e args) →
        (∀ arg ∈ args, w.AlikeValue (arg.evalIn env call locals) (arg.evalIn env call' locals')) →
        CalledAlike w env call call' locals locals' e args
  | .symbol s => by
    refine ⟨fun h => ?_, fun args h ha => g.calledAlike_symbol hc hl h ha⟩
    rw [Expr.evalIn, Expr.evalIn]
    exact g.alike_name hl h
  | .member target name => by
    have ht : g.holds (Dict.keys locals) (.member target name) → w.AlikeValue
        (target.evalIn env call locals) (target.evalIn env call' locals') :=
      fun h => (alike_evalIn hc hl target).1 (g.child h List.mem_cons_self)
    refine ⟨fun h => ?_, fun args h _ => calledAlike_member hc (ht (g.callee h (by simp)))⟩
    rw [Expr.evalIn, Expr.evalIn]
    exact (ht h).bind fun v v' hv => .ofExcept (hv.member (.string name))
  | .index target key => by
    have ht : g.holds (Dict.keys locals) (.index target key) → w.AlikeValue
        (target.evalIn env call locals) (target.evalIn env call' locals') :=
      fun h => (alike_evalIn hc hl target).1 (g.child h List.mem_cons_self)
    have hk : g.holds (Dict.keys locals) (.index target key) → w.AlikeValue
        (key.evalIn env call locals) (key.evalIn env call' locals') :=
      fun h => (alike_evalIn hc hl key).1 (g.child h (List.mem_cons_of_mem _ List.mem_cons_self))
    refine ⟨fun h => ?_, fun args h _ =>
      calledAlike_index hc (ht (g.callee h (by simp))) (hk (g.callee h (by simp)))⟩
    rw [Expr.evalIn, Expr.evalIn]
    exact (ht h).bind fun v v' hv => (hk h).bind fun k k' hk => .ofExcept (hv.member hk)
  | .literal l => by
    have he : g.holds (Dict.keys locals) (.literal l) → w.AlikeValue
        ((Expr.literal l).evalIn env call locals) ((Expr.literal l).evalIn env call' locals') :=
      fun _ => World.alike_literal g.invalidRegex l
    exact ⟨he, fun args h _ => calledAlike_other hc (he (g.callee h (by simp))) fun _ _ => rfl⟩
  | .conditional condition yes alternative => by
    have he : g.holds (Dict.keys locals) (.conditional condition yes alternative) → w.AlikeValue
        ((Expr.conditional condition yes alternative).evalIn env call locals)
        ((Expr.conditional condition yes alternative).evalIn env call' locals') := by
      intro h
      rw [Expr.evalIn, Expr.evalIn]
      have hcond := (alike_evalIn hc hl condition).1 (g.child h (by simp [Expr.evaluated, Expr.children]))
      refine hcond.bind fun v v' hv => ?_
      rw [hv.isTruthy_eq]
      split
      · exact (alike_evalIn hc hl yes).1 (g.child h (by simp [Expr.evaluated, Expr.children]))
      · exact (alike_evalIn hc hl alternative).1
          (g.child h (by simp [Expr.evaluated, Expr.children]))
    exact ⟨he, fun args h _ => calledAlike_other hc (he (g.callee h (by simp))) fun _ _ => rfl⟩
  | .unary op operand => by
    have he : g.holds (Dict.keys locals) (.unary op operand) → w.AlikeValue
        ((Expr.unary op operand).evalIn env call locals)
        ((Expr.unary op operand).evalIn env call' locals') := by
      intro h
      rw [Expr.evalIn, Expr.evalIn]
      have ho := (alike_evalIn hc hl operand).1 (g.child h List.mem_cons_self)
      exact ho.bind fun v v' hv => .pure (hv.unary op)
    exact ⟨he, fun args h _ => calledAlike_other hc (he (g.callee h (by simp))) fun _ _ => rfl⟩
  | .binary op left right => by
    have he : g.holds (Dict.keys locals) (.binary op left right) → w.AlikeValue
        ((Expr.binary op left right).evalIn env call locals)
        ((Expr.binary op left right).evalIn env call' locals') := by
      intro h
      rw [Expr.evalIn, Expr.evalIn]
      have hleft := (alike_evalIn hc hl left).1 (g.child h List.mem_cons_self)
      refine hleft.bind fun a a' ha => ?_
      have hch := ha.chosen? op
      generalize Value.chosen? op a = x, Value.chosen? op a' = y at hch
      cases hch with
      | some hv => exact .pure hv
      | none =>
        have hright := (alike_evalIn hc hl right).1
          (g.child h (List.mem_cons_of_mem _ List.mem_cons_self))
        exact hright.bind fun b b' hb => .ofExcept (ha.binary hb op)
    exact ⟨he, fun args h _ => calledAlike_other hc (he (g.callee h (by simp))) fun _ _ => rfl⟩
  | .call f args => by
    have he : g.holds (Dict.keys locals) (.call f args) → w.AlikeValue
        ((Expr.call f args).evalIn env call locals)
        ((Expr.call f args).evalIn env call' locals') := by
      intro h
      have hargs := alike_evalList hc hl args fun arg ha => g.child h (Expr.mem_evaluated_arg ha)
      exact (alike_evalIn hc hl f).2 args h hargs.1 hargs.2
    exact ⟨he, fun args h _ => calledAlike_other hc (he (g.callee h (by simp))) fun _ _ => rfl⟩
  | .array elements => by
    have he : g.holds (Dict.keys locals) (.array elements) → w.AlikeValue
        ((Expr.array elements).evalIn env call locals)
        ((Expr.array elements).evalIn env call' locals') := by
      intro h
      have hs := (alike_evalList hc hl elements fun x hx => g.child h hx).2
      rw [Expr.evalIn, Expr.evalIn]
      exact hs.bind fun vs vs' hvs => .ofFresh (Fresh.alike_array hvs)
    exact ⟨he, fun args h _ => calledAlike_other hc (he (g.callee h (by simp))) fun _ _ => rfl⟩
  | .object entries => by
    have he : g.holds (Dict.keys locals) (.object entries) → w.AlikeValue
        ((Expr.object entries).evalIn env call locals)
        ((Expr.object entries).evalIn env call' locals') := by
      intro h
      have hs := alike_evalEntries hc hl entries fun x hx => g.child h (List.mem_map_of_mem hx)
      rw [Expr.evalIn, Expr.evalIn]
      exact hs.bind fun es es' hes => .ofFresh (Fresh.alike_object hes.ofList)
    exact ⟨he, fun args h _ => calledAlike_other hc (he (g.callee h (by simp))) fun _ _ => rfl⟩
  | .parens inner => by
    have he : g.holds (Dict.keys locals) (.parens inner) → w.AlikeValue
        ((Expr.parens inner).evalIn env call locals)
        ((Expr.parens inner).evalIn env call' locals') := by
      intro h
      rw [Expr.evalIn_parens, Expr.evalIn_parens]
      exact (alike_evalIn hc hl inner).1 (g.child h List.mem_cons_self)
    exact ⟨he, fun args h _ => calledAlike_other hc (he (g.callee h (by simp))) fun _ _ => rfl⟩
  | .pipeline input stages => by
    have he : g.holds (Dict.keys locals) (.pipeline input stages) → w.AlikeValue
        ((Expr.pipeline input stages).evalIn env call locals)
        ((Expr.pipeline input stages).evalIn env call' locals') := by
      intro h
      rw [Expr.evalIn, Expr.evalIn]
      exact World.alike_throw (g.pipeline h)
    exact ⟨he, fun args h _ => calledAlike_other hc (he (g.callee h (by simp))) fun _ _ => rfl⟩
  | .arrow params body => by
    have he : g.holds (Dict.keys locals) (.arrow params body) → w.AlikeValue
        ((Expr.arrow params body).evalIn env call locals)
        ((Expr.arrow params body).evalIn env call' locals') := g.alike_arrow hl
    exact ⟨he, fun args h _ => calledAlike_other hc (he (g.callee h (by simp))) fun _ _ => rfl⟩

theorem alike_evalList (hc : w.AlikeCaller call call') (hl : SortedLocals w.code locals locals') :
    (es : List Expr) → (∀ e ∈ es, g.holds (Dict.keys locals) e) →
      (∀ e ∈ es, w.AlikeValue (e.evalIn env call locals) (e.evalIn env call' locals')) ∧
        w.Alike (LikeItems w.code) (evalList env call locals es)
          (evalList env call' locals' es)
  | [], _ => ⟨by simp, .pure .nil⟩
  | e :: rest, h => by
    have he := (alike_evalIn hc hl e).1 (h e List.mem_cons_self)
    have hrest := alike_evalList hc hl rest fun x hx => h x (List.mem_cons_of_mem _ hx)
    refine ⟨fun x hx => ?_, ?_⟩
    · rcases List.mem_cons.1 hx with rfl | hx
      · exact he
      · exact hrest.1 x hx
    · rw [evalList, evalList]
      exact he.bind fun v v' hv => hrest.2.bind fun vs vs' hvs => .pure (.cons hv hvs)

theorem alike_evalEntries (hc : w.AlikeCaller call call') (hl : SortedLocals w.code locals locals') :
    (entries : List (ObjectKey × Expr)) → (∀ x ∈ entries, g.holds (Dict.keys locals) x.2) →
      w.Alike (LikeEntries w.code) (evalEntries env call locals entries)
        (evalEntries env call' locals' entries)
  | [], _ => .pure .nil
  | (key, e) :: rest, h => by
    have he := (alike_evalIn hc hl e).1 (h _ List.mem_cons_self)
    have hrest := alike_evalEntries hc hl rest fun x hx => h x (List.mem_cons_of_mem _ hx)
    rw [evalEntries, evalEntries]
    exact he.bind fun v v' hv => hrest.bind fun vs vs' hvs => .pure (.cons _ hv hvs)

end

include g in
/-- Calls of functions stay in the world. -/
theorem alike_call (depth : Nat) : w.AlikeCaller (env.call depth) (env.call depth) := by
  refine World.alike_envCall g.calls g.callError g.tooDeep (fun {call call' N ps qs e f cs ds args args'}
    hc hk hl ha => ?_) depth
  obtain ⟨rfl, hkk, sorted, hb⟩ := g.code_iff.1 hk
  obtain ⟨rfl, rfl, hkeys⟩ := Code.mk.inj hkk
  have hs : SortedLocals w.code (bindParams cs ps args) (bindParams ds ps args') :=
    SortedLocals.bindParams ⟨⟨hkeys, hl⟩, sorted⟩ ps ha
  refine (g.alike_evalIn hc hs e).1 (g.congr (fun n => ?_) hb)
  rw [List.mem_append, Dict.mem_keys_bindParams]

/-- Every run of an expression under a guard stays in the world. -/
theorem alike_eval {e : Expr} (h : g.holds [] e) : w.AlikeValue (env.eval e) (env.eval e) :=
  (g.alike_evalIn (g.alike_call _) .nil e).1 h

end Guard

end DataBinding
