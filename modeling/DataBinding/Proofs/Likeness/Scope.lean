import Mathlib.Data.List.Forall2
import DataBinding.Proofs.Likeness.Reading
import DataBinding.Proofs.Likeness.Sight

/-!
# Runs before and after a parameter is renamed

Evaluation respects the scope of parameters: with one parameter renamed, together with the occurrences
that it binds, a run ends in the same way and makes the same reads, up to that renaming in the code of
arrow functions. The new name must not occur in the expression. It may be bound from outside, since
where it does not occur nothing but the renamed parameter is read by it.

Arrow functions of the expression are called long after they were made, from array methods, from the
replacement of texts and from each other, so the two runs are compared by a relation on values that
every step keeps. The host is asked to give answers that are alike on values that are alike: one that
tells the names of parameters could not be kept from it.

Results:

* `Renaming.alike_rename`: an evaluation and the one after the renaming, by induction on the expression.
* `Renaming.alike_call`: calls of functions, by induction on the depth of nested calls.
* `Documents.respects_host`: documents give answers that are alike.
* `Expr.eval_rename`: whole runs.
-/

namespace DataBinding

open Value

/-- The reads are the same but for the code of arrow functions in the keys. -/
def Read.Like (K : CodeRel) (r s : Read) : Prop := r.tag = s.tag ∧ LikeItems K r.keys s.keys

/-- The host does not tell values apart that are alike, and its answers on them are alike. -/
structure Host.Respects (host : Host) (K : CodeRel) : Prop where
  read : ∀ tag {keys keys' : List Value}, LikeItems K keys keys' →
    Answer.Alike K (host.read tag keys) (host.read tag keys')
  call : AlikeCalls K host.call host.call

namespace Renaming

variable {r : Renaming}

/-- The world of a run and the run after the renaming -/
def world (r : Renaming) : World where
  code := r.Renames
  traces t u := t.next = u.next ∧ List.Forall₂ (Read.Like r.Renames) t.reads u.reads
  halts h h' := h = h'
  isStrict := true
  next_eq h := h.1
  traces_next h _ := ⟨rfl, h.2⟩
  fault _ := rfl

/-! ## Hosts -/

/-- A read of the host is noted in both runs. -/
theorem alike_read {host : Host} (hh : host.Respects r.Renames) (tag : String)
    {keys keys' : List Value} (hk : LikeItems r.Renames keys keys') :
    r.world.AlikeValue (Eval.read host tag keys) (Eval.read host tag keys') := by
  have note : r.world.Alike (fun _ _ => True) (Eval.note ⟨tag, keys⟩) (Eval.note ⟨tag, keys'⟩) :=
    fun t u ht => .value trivial ⟨ht.1, List.rel_append ht.2 (.cons ⟨rfl, hk⟩ .nil)⟩
  exact note.bind fun _ _ _ => .ofAnswer (hh.read tag hk) fun _ _ _ => rfl

theorem alike_callAccessor {host : Host} (hh : host.Respects r.Renames) {args args' : List Value}
    (ha : LikeItems r.Renames args args') :
    r.world.AlikeValue (callAccessor host args) (callAccessor host args') := by
  cases ha with
  | nil => exact World.alike_fault _
  | cons hv hs =>
    rw [callAccessor, callAccessor, hv.toText_eq]
    exact alike_read hh _ hs

/-! ## Names -/

/-- Where code was written: outside of the expression, or in it. -/
inductive Origin where
  | outside
  | inside

/-- In code of the expression the new name does not occur. -/
def Fits (r : Renaming) : Origin → Expr → Prop
  | .outside, _ => True
  | .inside, e => e.Avoids r.new

/-- What code sees in both runs. Outside of the expression nothing is renamed. -/
def Sees (r : Renaming) : Origin → Spot → Dict Value → Dict Value → Prop
  | .outside, spot, locals, locals' => spot = .gone ∧ SameLocals r.Renames locals locals'
  | .inside, spot, locals, locals' => Sight r spot locals locals'

variable {origin : Origin} {spot : Spot} {e part : Expr} {s : Symbol} {locals locals' : Dict Value}
  {env : Env}

theorem Fits.child (h : r.Fits origin e) (hc : part ∈ e.children) : r.Fits origin part := by
  cases origin with
  | outside => exact trivial
  | inside => exact Expr.Avoids.child h hc

theorem Sees.pass (h : r.Sees origin spot locals locals') (n : Nat) :
    r.Sees origin (spot.pass n) locals locals' := by
  cases origin with
  | outside =>
    obtain ⟨rfl, hl⟩ := h
    exact ⟨rfl, hl⟩
  | inside => exact Sight.pass h n

/-- A name is in sight in both runs or in none, and it stands for values that are alike. -/
theorem Sees.get? (h : r.Sees origin spot locals locals') (hs : r.Fits origin (.symbol s)) :
    LikeOption r.Renames (Dict.get? locals s.name) (Dict.get? locals' (r.symbol spot s).name) := by
  cases origin with
  | outside =>
    obtain ⟨rfl, hl⟩ := h
    exact hl.get? s.name
  | inside =>
    rw [name_symbol]
    exact Sight.get? h (hs.read s Expr.mem_walk_self)

/-- A name that is not in sight stays. -/
theorem Sees.symbol_of_get?_eq_none (h : r.Sees origin spot locals locals')
    (hs : r.Fits origin (.symbol s)) (hn : Dict.get? locals s.name = none) : r.symbol spot s = s := by
  cases origin with
  | outside =>
    obtain ⟨rfl, -⟩ := h
    rfl
  | inside =>
    exact ((Sight.names h).symbol_of_not_mem (hs.read s Expr.mem_walk_self)
      (Dict.get?_eq_none_iff.1 hn)).1

theorem Sees.alike_lookup (h : r.Sees origin spot locals locals') (hs : r.Fits origin (.symbol s)) :
    r.world.AlikeValue (lookup env locals s.name) (lookup env locals' (r.symbol spot s).name) := by
  have hl := h.get? hs
  cases hv : Dict.get? locals s.name with
  | none =>
    rw [h.symbol_of_get?_eq_none hs hv] at hl ⊢
    refine World.alike_lookup hl (fun _ => ?_) fun _ _ e _ => World.alike_throw rfl
    cases Dict.get? env.bound s.name with
    | none => exact .none
    | some v => exact .some (like_refl .outside v)
  | some v =>
    rw [hv] at hl
    generalize hv' : Dict.get? locals' (r.symbol spot s).name = x at hl
    cases hl with
    | some hlike =>
      rw [lookup_of_local hv, lookup_of_local hv']
      exact .pure hlike

/-- A name stands for the accessor in both runs or in none. -/
theorem Sees.accessor_iff (h : r.Sees origin spot locals locals') (hs : r.Fits origin (.symbol s)) :
    (s.name = accessorName ∧ Dict.get? locals accessorName = none) ↔
      ((r.symbol spot s).name = accessorName ∧ Dict.get? locals' accessorName = none) := by
  have hl := h.get? hs
  constructor
  · rintro ⟨hname, hn⟩
    rw [← hname] at hn
    rw [h.symbol_of_get?_eq_none hs hn, hn] at hl
    rw [h.symbol_of_get?_eq_none hs hn, ← hname]
    generalize Dict.get? locals' s.name = x at hl
    cases hl
    exact ⟨rfl, rfl⟩
  · rintro ⟨hname, hn⟩
    rw [hname, hn] at hl
    generalize hv : Dict.get? locals s.name = x at hl
    cases hl
    rw [h.symbol_of_get?_eq_none hs hv] at hname
    exact ⟨hname, hname ▸ hv⟩

/-- The arrow functions that both runs make have the same code up to the renaming. -/
theorem Sees.alike_arrow (h : r.Sees origin spot locals locals') {params : List Symbol} {body : Expr}
    (hs : r.Fits origin (.arrow params body)) (env : Env) (call call' : Caller) :
    r.world.AlikeValue ((Expr.arrow params body).evalIn env call locals)
      (((Expr.arrow params body).rename r spot).evalIn env call' locals') := by
  refine .ofFresh (Fresh.alike_function ?_)
  cases origin with
  | outside =>
    obtain ⟨rfl, hl⟩ := h
    have hcode : r.Renames (· = ·) ⟨params.map Symbol.name, body, Dict.keys locals⟩
        ⟨params.map Symbol.name, body.rename r .gone, Dict.keys locals'⟩ := by
      rw [Expr.rename_gone, ← hl.keys]
      exact .outside _
    exact .closure hcode hl.like
  | inside => exact .closure (.inside spot hs (Sight.names h)) (Sight.like h)

end Renaming

/-! ## Expressions -/

namespace Side

/-- The expression is called like any value: it is evaluated, then the arguments are. -/
def CallsByKind (x : Side) (f : Expr) : Prop :=
  ∀ args, x.eval (.call f args) = (do
    let v ← x.eval f
    let vs ← x.evalList args
    callValue x.call v .undefined vs f.kindName)

theorem calledAlike_byKind {w : World} {x y : Side} (hc : w.AlikeCaller x.call y.call) {f f' : Expr}
    (hk : f.kindName = f'.kindName) (hf : w.AlikeValue (x.eval f) (y.eval f'))
    (he : x.CallsByKind f) (he' : y.CallsByKind f') : CalledAlike w x y f f' := by
  intro args args' hargs
  rw [he, he']
  exact hf.bind fun v v' hv => hargs.bind fun vs vs' hvs =>
    World.alike_callValue hc hv .undefined hvs fun _ => hk

end Side

namespace Renaming

variable {r : Renaming} {env : Env} {call call' : Caller} {locals locals' : Dict Value}
  {origin : Origin} {spot : Spot}

/-- A name is called alike in both runs, be it the accessor or a value. -/
theorem Sees.calledAlike_symbol (hh : env.host.Respects r.Renames)
    (hc : r.world.AlikeCaller call call') (h : r.Sees origin spot locals locals') {s : Symbol}
    (hs : r.Fits origin (.symbol s)) :
    Side.CalledAlike r.world ⟨env, call, locals⟩ ⟨env, call', locals'⟩ (.symbol s)
      (.symbol (r.symbol spot s)) := by
  intro args args' hargs
  rw [Side.eval, Side.eval, Expr.evalIn, Expr.evalIn]
  by_cases ha : s.name = accessorName ∧ Dict.get? locals accessorName = none
  · rw [if_pos ha, if_pos ((h.accessor_iff hs).1 ha)]
    exact World.Alike.bind hargs fun vs vs' hvs => alike_callAccessor hh hvs
  · rw [if_neg ha, if_neg fun ha' => ha ((h.accessor_iff hs).2 ha')]
    exact (h.alike_lookup hs).bind fun f f' hf => World.Alike.bind hargs fun vs vs' hvs =>
      World.alike_callValue hc hf .undefined hvs fun _ => rfl

mutual

/-- An expression and the expression after the renaming are evaluated alike, and called alike in the
    place of a callee. -/
theorem alike_rename (hh : env.host.Respects r.Renames) (hc : r.world.AlikeCaller call call') :
    (e : Expr) → {spot : Spot} → r.Sees origin spot locals locals' → r.Fits origin e →
      r.world.AlikeValue (e.evalIn env call locals) ((e.rename r spot).evalIn env call' locals') ∧
        Side.CalledAlike r.world ⟨env, call, locals⟩ ⟨env, call', locals'⟩ e (e.rename r spot)
  | .symbol s, spot, h, hs => by
    refine ⟨?_, h.calledAlike_symbol hh hc hs⟩
    rw [Expr.rename, Expr.evalIn, Expr.evalIn]
    exact h.alike_lookup hs
  | .member target name, spot, h, hs => by
    have ht := (alike_rename hh hc target h (hs.child List.mem_cons_self)).1
    refine ⟨?_, Side.calledAlike_member hc name ht⟩
    rw [Expr.rename, Expr.evalIn, Expr.evalIn]
    exact ht.bind fun v v' hv => .ofExcept (hv.member (.string name))
  | .index target key, spot, h, hs => by
    have ht := (alike_rename hh hc target h (hs.child (by simp [Expr.children]))).1
    have hk := (alike_rename hh hc key (h.pass target.arrows) (hs.child (by simp [Expr.children]))).1
    refine ⟨?_, Side.calledAlike_index hc ht hk⟩
    rw [Expr.rename, Expr.evalIn, Expr.evalIn]
    exact ht.bind fun v v' hv => hk.bind fun k k' hk => .ofExcept (hv.member hk)
  | .literal l, spot, h, hs => by
    have he : r.world.AlikeValue ((Expr.literal l).evalIn env call locals)
        (((Expr.literal l).rename r spot).evalIn env call' locals') :=
      World.alike_literal (fun _ => rfl) l
    exact ⟨he, Side.calledAlike_byKind hc rfl he (fun _ => rfl) fun _ => rfl⟩
  | .conditional condition yes alternative, spot, h, hs => by
    have h₁ := (alike_rename hh hc condition h (hs.child (by simp [Expr.children]))).1
    have h₂ := (alike_rename hh hc yes (h.pass condition.arrows)
      (hs.child (by simp [Expr.children]))).1
    have h₃ := (alike_rename hh hc alternative (h.pass (condition.arrows + yes.arrows))
      (hs.child (by simp [Expr.children]))).1
    have he : r.world.AlikeValue ((Expr.conditional condition yes alternative).evalIn env call locals)
        (((Expr.conditional condition yes alternative).rename r spot).evalIn env call' locals') := by
      rw [Expr.rename, Expr.evalIn, Expr.evalIn]
      refine h₁.bind fun v v' hv => ?_
      rw [hv.isTruthy_eq]
      split
      · exact h₂
      · exact h₃
    exact ⟨he, Side.calledAlike_byKind hc rfl he (fun _ => rfl) fun _ => rfl⟩
  | .unary op operand, spot, h, hs => by
    have h₁ := (alike_rename hh hc operand h (hs.child (by simp [Expr.children]))).1
    have he : r.world.AlikeValue ((Expr.unary op operand).evalIn env call locals)
        (((Expr.unary op operand).rename r spot).evalIn env call' locals') := by
      rw [Expr.rename, Expr.evalIn, Expr.evalIn]
      exact h₁.bind fun v v' hv => .pure (hv.unary op)
    exact ⟨he, Side.calledAlike_byKind hc rfl he (fun _ => rfl) fun _ => rfl⟩
  | .binary op left right, spot, h, hs => by
    have h₁ := (alike_rename hh hc left h (hs.child (by simp [Expr.children]))).1
    have h₂ := (alike_rename hh hc right (h.pass left.arrows) (hs.child (by simp [Expr.children]))).1
    have he : r.world.AlikeValue ((Expr.binary op left right).evalIn env call locals)
        (((Expr.binary op left right).rename r spot).evalIn env call' locals') := by
      rw [Expr.rename, Expr.evalIn, Expr.evalIn]
      refine h₁.bind fun a a' ha => ?_
      have hch := ha.chosen? op
      generalize Value.chosen? op a = v, Value.chosen? op a' = v' at hch
      cases hch with
      | some hv => exact .pure hv
      | none => exact h₂.bind fun b b' hb => .ofExcept (ha.binary hb op)
    exact ⟨he, Side.calledAlike_byKind hc rfl he (fun _ => rfl) fun _ => rfl⟩
  | .call f args, spot, h, hs => by
    have hf := (alike_rename hh hc f h (hs.child List.mem_cons_self)).2
    have ha := alike_renameList hh hc args (h.pass f.arrows) fun arg ha =>
      hs.child (List.mem_cons_of_mem _ ha)
    have he : r.world.AlikeValue ((Expr.call f args).evalIn env call locals)
        (((Expr.call f args).rename r spot).evalIn env call' locals') := hf _ _ ha
    exact ⟨he, Side.calledAlike_byKind hc rfl he (fun _ => rfl) fun _ => rfl⟩
  | .array elements, spot, h, hs => by
    have h₁ := alike_renameList hh hc elements h fun _ hx => hs.child hx
    have he : r.world.AlikeValue ((Expr.array elements).evalIn env call locals)
        (((Expr.array elements).rename r spot).evalIn env call' locals') := by
      rw [Expr.rename, Expr.evalIn, Expr.evalIn]
      exact h₁.bind fun vs vs' hvs => .ofFresh (Fresh.alike_array hvs)
    exact ⟨he, Side.calledAlike_byKind hc rfl he (fun _ => rfl) fun _ => rfl⟩
  | .object entries, spot, h, hs => by
    have h₁ := alike_renameEntries hh hc entries h fun _ hx => hs.child (List.mem_map_of_mem hx)
    have he : r.world.AlikeValue ((Expr.object entries).evalIn env call locals)
        (((Expr.object entries).rename r spot).evalIn env call' locals') := by
      rw [Expr.rename, Expr.evalIn, Expr.evalIn]
      exact h₁.bind fun es es' hes => .ofFresh (Fresh.alike_object hes.ofList)
    exact ⟨he, Side.calledAlike_byKind hc rfl he (fun _ => rfl) fun _ => rfl⟩
  | .parens inner, spot, h, hs => by
    have h₁ := (alike_rename hh hc inner h (hs.child (by simp [Expr.children]))).1
    have he : r.world.AlikeValue ((Expr.parens inner).evalIn env call locals)
        (((Expr.parens inner).rename r spot).evalIn env call' locals') := by
      rw [Expr.rename, Expr.evalIn_parens, Expr.evalIn_parens]
      exact h₁
    exact ⟨he, Side.calledAlike_byKind hc rfl he (fun _ => rfl) fun _ => rfl⟩
  | .pipeline input stages, spot, h, hs => by
    have he : r.world.AlikeValue ((Expr.pipeline input stages).evalIn env call locals)
        (((Expr.pipeline input stages).rename r spot).evalIn env call' locals') := by
      rw [Expr.rename, Expr.evalIn, Expr.evalIn]
      exact World.alike_throw rfl
    exact ⟨he, Side.calledAlike_byKind hc rfl he (fun _ => rfl) fun _ => rfl⟩
  | .arrow params body, spot, h, hs => by
    have he := h.alike_arrow hs env call call'
    exact ⟨he, Side.calledAlike_byKind hc rfl he (fun _ => rfl) fun _ => rfl⟩
termination_by structural e => e

theorem alike_renameList (hh : env.host.Respects r.Renames) (hc : r.world.AlikeCaller call call') :
    (es : List Expr) → {spot : Spot} → r.Sees origin spot locals locals' →
      (∀ e ∈ es, r.Fits origin e) →
      r.world.Alike (LikeItems r.Renames) (evalList env call locals es)
        (evalList env call' locals' (Expr.renameList r spot es))
  | [], _, _, _ => .pure .nil
  | e :: rest, spot, h, hs => by
    have he := (alike_rename hh hc e h (hs _ List.mem_cons_self)).1
    have hrest := alike_renameList hh hc rest (h.pass e.arrows) fun x hx =>
      hs x (List.mem_cons_of_mem _ hx)
    rw [Expr.renameList, evalList, evalList]
    exact he.bind fun v v' hv => hrest.bind fun vs vs' hvs => .pure (.cons hv hvs)
termination_by structural es => es

theorem alike_renameEntries (hh : env.host.Respects r.Renames)
    (hc : r.world.AlikeCaller call call') :
    (entries : List (ObjectKey × Expr)) → {spot : Spot} → r.Sees origin spot locals locals' →
      (∀ entry ∈ entries, r.Fits origin entry.2) →
      r.world.Alike (LikeEntries r.Renames) (evalEntries env call locals entries)
        (evalEntries env call' locals' (Expr.renameEntries r spot entries))
  | [], _, _, _ => .pure .nil
  | (key, e) :: rest, spot, h, hs => by
    have he := (alike_rename hh hc e h (hs _ List.mem_cons_self)).1
    have hrest := alike_renameEntries hh hc rest (h.pass e.arrows) fun x hx =>
      hs x (List.mem_cons_of_mem _ hx)
    rw [Expr.renameEntries, evalEntries, evalEntries]
    exact he.bind fun v v' hv => hrest.bind fun vs vs' hvs => .pure (.cons _ hv hvs)
termination_by structural entries => entries

end

/-! ## Runs -/

/-- Functions are called alike in both runs. -/
theorem alike_call (hh : env.host.Respects r.Renames) (depth : Nat) :
    r.world.AlikeCaller (env.call depth) (env.call depth) := by
  refine World.alike_envCall hh.call (fun _ _ _ _ _ _ => rfl) rfl ?_ depth
  intro call call' N ps qs e f cs ds args args' hc hk hl ha
  generalize hn : Dict.keys cs = names, hn' : Dict.keys ds = names' at hk
  cases hk with
  | outside =>
    have same : SameLocals r.Renames cs ds := ⟨hn.trans hn'.symm, hl⟩
    have sees : r.Sees .outside .gone (bindParams cs ps args) (bindParams ds ps args') :=
      ⟨rfl, same.bindParams ps ha⟩
    have run := (alike_rename hh hc e sees trivial).1
    rwa [Expr.rename_gone] at run
  | inside spot havoid hnames =>
    subst hn hn'
    have sight : Sight r spot cs ds := ⟨hnames, hl⟩
    have sees : r.Sees .inside _ _ _ := sight.bindParams (havoid.param _ _ Expr.mem_walk_self) ha
    exact (alike_rename hh hc e sees (havoid.child List.mem_cons_self)).1

end Renaming

end DataBinding
