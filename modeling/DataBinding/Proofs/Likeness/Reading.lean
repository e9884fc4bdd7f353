import DataBinding.Proofs.Likeness.Documents
import DataBinding.Proofs.Link.Reads

/-!
# Evaluating reads as calls

An expression is evaluated where the symbols that stand for data are bound to documents, and beside it
the expression with its reads written as calls, where the host reads these documents. If the first
evaluation gives a value, the second gives one that is like it: a chain of members of a document is
found by one read along the keys of the chain.

The evaluation of an expression and of its reading are compared by the kind of reading: the arguments
of a read must find the value, and any other expression must give one that is like it.

Results:

* `Config.Rewrites`: code and the code with its reads written as calls.
* `Paired.alike_reading`: the comparison, by induction on the expression.
* `Config.Documented.alike_eval`: whole runs.
-/

namespace DataBinding

open Value

namespace Config

/-- Every name in the expression is spelled as it is called, is not the accessor, and is bound to its
    document if it stands for data. No parameter is the accessor, and there is no pipeline. -/
structure IsDocumented (c : Config) (docs : Documents) (bound : Dict Value) (e : Expr) : Prop where
  spelled : ∀ s, .symbol s ∈ e.walk → s.raw = s.name
  name : ∀ s, .symbol s ∈ e.walk → s.name ≠ accessorName
  document : ∀ s, .symbol s ∈ e.walk → ∀ r, c.recognize? s.raw = some r → r.direct = false →
    Dict.get? bound s.name = some (docs.read (tagOf s) [])
  param : ∀ params body, .arrow params body ∈ e.walk → ∀ s ∈ params, s.name ≠ accessorName
  pipeline : ∀ input stages, .pipeline input stages ∉ e.walk

theorem IsDocumented.child {c : Config} {docs : Documents} {bound : Dict Value} {e child : Expr}
    (h : c.IsDocumented docs bound e) (hc : child ∈ e.children) : c.IsDocumented docs bound child := by
  have up : ∀ {x}, x ∈ child.walk → x ∈ e.walk := fun hx =>
    Expr.mem_walk_iff.2 (.inr ⟨child, hc, hx⟩)
  exact ⟨fun s hs => h.spelled s (up hs), fun s hs => h.name s (up hs),
    fun s hs => h.document s (up hs), fun ps b hs => h.param ps b (up hs),
    fun i ss hs => h.pipeline i ss (up hs)⟩

/-- The second code is the first one with its reads written as calls. -/
structure Rewrites (c : Config) (docs : Documents) (bound : Dict Value) (N : String → String → Prop)
    (k k' : Code) : Prop where
  names : N = (· = ·)
  params : k.params = k'.params
  captured : k.names = k'.names
  accessor : accessorName ∉ k.names ++ k.params
  body : ∃ scope, (∀ n, n ∈ scope ↔ n ∈ k.names ++ k.params) ∧
    c.IsDocumented docs bound k.body ∧ k'.body = (c.reading scope k.body).expr

/-- The world of an evaluation and one with reads as calls. Nothing is asked where the first one
    halts. -/
def rewritesWorld (c : Config) (docs : Documents) (bound : Dict Value) : World where
  code := c.Rewrites docs bound
  traces t u := t.next = u.next
  halts _ _ := True
  isStrict := false
  next_eq h := h
  traces_next _ _ := rfl
  fault _ := trivial

/-- In the second environment the host reads the documents that the symbols stand for in the first. -/
structure Documented (c : Config) (docs : Documents) (env env' : Env) : Prop where
  documents : ∀ tag v, Dict.get? docs tag = some v → ∀ f, ¬ v.Holds f
  read : env'.host.read = docs.host.read
  calls : AlikeCalls (c.Rewrites docs env.bound) env.host.call env'.host.call
  /-- Other names are bound to the same values. -/
  bound : ∀ name, (∀ r, c.recognize? name = some r → r.direct = true) →
    Dict.get? env.bound name = Dict.get? env'.bound name
  direct : ∀ name v, Dict.get? env'.bound name = some v → ∀ f, ¬ v.Holds f

end Config

/-- Arguments are evaluated in order. -/
theorem evalList_append {env : Env} {call : Caller} {locals : Dict Value} (es : List Expr) (e : Expr) :
    evalList env call locals (es ++ [e]) = (do
      let vs ← evalList env call locals es
      let v ← e.evalIn env call locals
      return vs ++ [v]) := by
  induction es with
  | nil => simp [evalList]
  | cons x es ih => simp [evalList, ih]

/-! ## Two evaluations -/

/-- What an expression is evaluated with -/
structure Side where
  env : Env
  call : Caller
  locals : Dict Value

namespace Side

/-- The evaluation of an expression -/
def eval (x : Side) (e : Expr) : Eval Value := e.evalIn x.env x.call x.locals

/-- The evaluation of a list of expressions -/
def evalList (x : Side) (es : List Expr) : Eval (List Value) :=
  DataBinding.evalList x.env x.call x.locals es

/-- The world in which this is the first side -/
def world (x : Side) (c : Config) (docs : Documents) : World := c.rewritesWorld docs x.env.bound

/-- The calls of `f` and `f'` are alike if their arguments are. -/
def CalledAlike (w : World) (x y : Side) (f f' : Expr) : Prop :=
  ∀ args args', w.Alike (LikeItems w.code) (x.evalList args) (y.evalList args') →
    w.AlikeValue (x.eval (.call f args)) (y.eval (.call f' args'))

variable {w : World} {x y : Side}

/-- The callee is evaluated first, then the arguments. -/
def CallsValue (x : Side) (f : Expr) : Prop :=
  ∀ args, ∃ name, x.eval (.call f args) = (do
    let v ← x.eval f
    let vs ← x.evalList args
    callValue x.call v .undefined vs name)

theorem calledAlike_value (hc : w.AlikeCaller x.call y.call) (hw : w.isStrict = false) {f f' : Expr}
    (hf : w.AlikeValue (x.eval f) (y.eval f')) (he : x.CallsValue f) (he' : y.CallsValue f') :
    CalledAlike w x y f f' := by
  intro args args' hargs
  obtain ⟨name, he⟩ := he args
  obtain ⟨name', he'⟩ := he' args'
  rw [he, he']
  exact hf.bind fun v v' hv => hargs.bind fun vs vs' hvs =>
    World.alike_callValue hc hv .undefined hvs fun hs => by rw [hw] at hs; cases hs

theorem calledAlike_member (hc : w.AlikeCaller x.call y.call) {target target' : Expr} (name : String)
    (ht : w.AlikeValue (x.eval target) (y.eval target')) :
    CalledAlike w x y (.member target name) (.member target' name) := by
  intro args args' hargs
  rw [eval, eval, Expr.evalIn, Expr.evalIn]
  exact ht.bind fun v v' hv => hargs.bind fun vs vs' hvs =>
    World.alike_callMember hc hv (.string name) hvs

theorem calledAlike_index (hc : w.AlikeCaller x.call y.call) {target target' key key' : Expr}
    (ht : w.AlikeValue (x.eval target) (y.eval target'))
    (hk : w.AlikeValue (x.eval key) (y.eval key')) :
    CalledAlike w x y (.index target key) (.index target' key') := by
  intro args args' hargs
  rw [eval, eval, Expr.evalIn, Expr.evalIn]
  exact ht.bind fun v v' hv => hk.bind fun k k' hk => hargs.bind fun vs vs' hvs =>
    World.alike_callMember hc hv hk hvs

end Side

/-- The values are the tag and the keys under which the documents hold the value. -/
def Documents.Finds (docs : Documents) (v : Value) (vs : List Value) : Prop :=
  ∃ tag keys, vs = .string tag :: keys ∧ v = docs.read tag keys

/-- The reading of an expression gives what the expression gives. -/
def AlikeReading (w : World) (docs : Documents) (x y : Side) (e : Expr) : Reading → Prop
  | .read args => w.Alike docs.Finds (x.eval e) (y.evalList args)
  | .other e' => w.AlikeValue (x.eval e) (y.eval e')

/-- An evaluation and the one of the reading beside it: the locals are those in scope, and none of them
    hides the accessor. -/
structure Paired (c : Config) (docs : Documents) (scope : List String) (x y : Side) : Prop where
  documented : c.Documented docs x.env y.env
  calls : (x.world c docs).AlikeCaller x.call y.call
  same : SameLocals (x.world c docs).code x.locals y.locals
  scope : ∀ name, name ∈ scope ↔ name ∈ Dict.keys x.locals
  accessor : accessorName ∉ Dict.keys y.locals

/-! ## Reads -/

namespace Paired

variable {c : Config} {docs : Documents} {scope : List String} {x y : Side}
  (p : Paired c docs scope x y)

include p

theorem like_read (tag : String) (keys : List Value) :
    Like (x.world c docs).code (docs.read tag keys) (docs.read tag keys) :=
  Documents.like_read (fun tag v hv => like_of_holds_none (p.documented.documents tag v hv)) tag keys

/-- The accessor gives what is found. -/
theorem alike_callAccessor {v : Value} {vs : List Value} (h : docs.Finds v vs) :
    (x.world c docs).AlikeValue (pure v) (callAccessor y.env.host vs) := by
  obtain ⟨tag, keys, rfl, rfl⟩ := h
  intro t u ht
  have run : (callAccessor y.env.host (.string tag :: keys)).run.run u =
      (.ok (docs.read tag keys), { u with reads := u.reads ++ [⟨tag, keys⟩] }) := by
    simp only [callAccessor, Eval.read, p.documented.read, toText_string]
    rfl
  rw [run]
  exact .value (p.like_read tag keys) ht

/-- The expression of a reading gives what the expression gives. -/
theorem alike_expr {e : Expr} {r : Reading} (h : AlikeReading (x.world c docs) docs x y e r) :
    (x.world c docs).AlikeValue (x.eval e) (y.eval r.expr) := by
  cases r with
  | other e' => exact h
  | read args =>
    have hread : y.eval (Reading.read args).expr =
        y.evalList args >>= callAccessor y.env.host := by
      show (Expr.call (.symbol (.ofName accessorName)) args).evalIn y.env y.call y.locals = _
      rw [Expr.evalIn, if_pos ⟨rfl, Dict.get?_eq_none_iff.2 p.accessor⟩]
      rfl
    rw [hread, ← bind_pure (x.eval e)]
    exact World.Alike.bind h fun v vs hv => p.alike_callAccessor hv

omit p in
/-- One more key finds the member of what was found. -/
theorem alike_member {v k k' : Value} {vs : List Value} (h : docs.Finds v vs)
    (hk : Like (x.world c docs).code k k') :
    (x.world c docs).Alike docs.Finds (Eval.ofExcept (v.member k)) (pure (vs ++ [k'])) := by
  obtain ⟨tag, keys, rfl, rfl⟩ := h
  unfold Value.member
  split
  · exact World.alike_fail_of_lenient rfl _ _
  · rename_i hn
    refine .pure ⟨tag, keys ++ [k'], rfl, ?_⟩
    rw [Documents.read_append, if_neg hn, hk.toText_eq]

omit p in
theorem alikeReading_member {target : Expr} {r : Reading} (name : String)
    (h : AlikeReading (x.world c docs) docs x y target r) :
    AlikeReading (x.world c docs) docs x y (.member target name)
      (r.memberOf (.ofString name) fun t => .member t name) := by
  cases r with
  | read args =>
    show World.Alike _ _ _ (evalList y.env y.call y.locals (args ++ [.ofString name]))
    rw [Side.eval, Expr.evalIn, evalList_append]
    exact World.Alike.bind h fun v vs hv => alike_member hv (.string name)
  | other e' =>
    show World.AlikeValue _ _ (y.eval (.member e' name))
    rw [Side.eval, Side.eval, Expr.evalIn, Expr.evalIn]
    exact World.Alike.bind h fun v v' hv => .ofExcept (hv.member (.string name))

omit p in
theorem alikeReading_index {target key key' : Expr} {r : Reading}
    (h : AlikeReading (x.world c docs) docs x y target r)
    (hk : (x.world c docs).AlikeValue (x.eval key) (y.eval key')) :
    AlikeReading (x.world c docs) docs x y (.index target key)
      (r.memberOf key' fun t => .index t key') := by
  cases r with
  | read args =>
    show World.Alike _ _ _ (evalList y.env y.call y.locals (args ++ [key']))
    rw [Side.eval, Expr.evalIn, evalList_append]
    exact World.Alike.bind h fun v vs hv => hk.bind fun k k' hk => alike_member hv hk
  | other e' =>
    show World.AlikeValue _ _ (y.eval (.index e' key'))
    rw [Side.eval, Side.eval, Expr.evalIn, Expr.evalIn]
    exact World.Alike.bind h fun v v' hv => hk.bind fun k k' hk => .ofExcept (hv.member hk)

/-! ## Names -/

/-- A name that is not read stands for the same. -/
theorem alike_lookup {s : Symbol} (h : c.IsDocumented docs x.env.bound (.symbol s))
    (hu : c.isReadSymbol scope s = false) :
    (x.world c docs).AlikeValue (lookup x.env x.locals s.name) (lookup y.env y.locals s.name) := by
  refine World.alike_lookup (p.same.get? s.name) (fun hl => ?_) fun _ _ e _ =>
    World.alike_throw trivial
  have hs : s.name ∉ scope := fun hm => Dict.get?_eq_none_iff.1 hl ((p.scope _).1 hm)
  have direct : ∀ r, c.recognize? s.name = some r → r.direct = true := by
    intro r hr
    rw [← h.spelled s Expr.mem_walk_self] at hr
    cases hd : r.direct with
    | true => rfl
    | false =>
      have hread := Config.isReadSymbol_eq_true_iff.2 ⟨hs, r, hr, hd⟩
      rw [hu] at hread
      cases hread
  rw [p.documented.bound _ direct]
  cases hb : Dict.get? y.env.bound s.name with
  | none => exact .none
  | some v => exact .some (like_of_holds_none (p.documented.direct _ _ hb))

/-- A name that is read finds its document. -/
theorem alikeReading_symbol {s : Symbol} (h : c.IsDocumented docs x.env.bound (.symbol s)) :
    AlikeReading (x.world c docs) docs x y (.symbol s) (c.reading scope (.symbol s)) := by
  cases hu : c.isReadSymbol scope s with
  | false =>
    rw [Config.reading_symbol_of_eq_false hu]
    show World.AlikeValue _ _ _
    rw [Side.eval, Side.eval, Expr.evalIn, Expr.evalIn]
    exact p.alike_lookup h hu
  | true =>
    obtain ⟨hs, r, hr, hd⟩ := Config.isReadSymbol_eq_true_iff.1 hu
    have hl : Dict.get? x.locals s.name = none :=
      Dict.get?_eq_none_iff.2 fun hm => hs ((p.scope _).2 hm)
    have found : x.eval (.symbol s) = pure (docs.read (Config.tagOf s) []) := by
      rw [Side.eval, Expr.evalIn]
      simp only [lookup, hl, h.document s Expr.mem_walk_self r hr hd]
    rw [Config.reading_symbol_of_eq_true hu]
    show World.Alike _ _ _ _
    rw [found]
    exact .pure ⟨Config.tagOf s, [], rfl, rfl⟩

omit p in
/-- A name other than the accessor is called like any value. -/
theorem callsValue_symbol {x : Side} {s : Symbol} (h : s.name ≠ accessorName) :
    x.CallsValue (.symbol s) := by
  intro args
  refine ⟨(Expr.symbol s).kindName, ?_⟩
  rw [Side.eval, Expr.evalIn, if_neg fun hs => h hs.1, Side.eval, Expr.evalIn]
  rfl

theorem calledAlike_symbol {s : Symbol} (h : c.IsDocumented docs x.env.bound (.symbol s)) :
    Side.CalledAlike (x.world c docs) x y (.symbol s) (c.callee scope (.symbol s)) := by
  have he := p.alike_expr (p.alikeReading_symbol h)
  refine Side.calledAlike_value p.calls rfl he (callsValue_symbol (h.name s Expr.mem_walk_self)) ?_
  show y.CallsValue (c.reading scope (.symbol s)).expr
  cases hu : c.isReadSymbol scope s with
  | false =>
    rw [Config.reading_symbol_of_eq_false hu]
    exact callsValue_symbol (h.name s Expr.mem_walk_self)
  | true =>
    rw [Config.reading_symbol_of_eq_true hu]
    exact fun args => ⟨_, rfl⟩

/-! ## Expressions -/

/-- The arrow functions that both sides make have code of the world. -/
theorem alike_arrow {params : List Symbol} {body : Expr}
    (h : c.IsDocumented docs x.env.bound (.arrow params body)) :
    (x.world c docs).AlikeValue (x.eval (.arrow params body))
      (y.eval (.arrow params (c.reading (Config.extendScope scope params) body).expr)) := by
  refine .ofFresh (Fresh.alike_function (.closure ⟨rfl, rfl, p.same.keys, ?_, ?_⟩ p.same.like))
  · intro hm
    rcases List.mem_append.1 hm with hm | hm
    · exact p.accessor (p.same.keys ▸ hm)
    · obtain ⟨s, hs, he⟩ := List.mem_map.1 hm
      exact h.param params body Expr.mem_walk_self s hs he
  · refine ⟨Config.extendScope scope params, fun name => ?_,
      h.child List.mem_cons_self, rfl⟩
    rw [Config.extendScope, List.mem_append, List.mem_append, p.scope]

end Paired

namespace Paired

variable {c : Config} {docs : Documents} {scope : List String} {x y : Side}

mutual

/-- The reading of an expression gives what the expression gives, and is called like it in the place of
    a callee. -/
theorem alike_reading (p : Paired c docs scope x y) : (e : Expr) →
    c.IsDocumented docs x.env.bound e →
      AlikeReading (x.world c docs) docs x y e (c.reading scope e) ∧
        Side.CalledAlike (x.world c docs) x y e (c.callee scope e)
  | .symbol s, h => ⟨p.alikeReading_symbol h, p.calledAlike_symbol h⟩
  | .member target name, h => by
    have ht := (p.alike_reading target (h.child (by simp [Expr.children]))).1
    exact ⟨alikeReading_member name ht, Side.calledAlike_member p.calls name (p.alike_expr ht)⟩
  | .index target key, h => by
    have ht := (p.alike_reading target (h.child (by simp [Expr.children]))).1
    have hk := p.alike_expr (p.alike_reading key (h.child (by simp [Expr.children]))).1
    exact ⟨alikeReading_index ht hk, Side.calledAlike_index p.calls (p.alike_expr ht) hk⟩
  | .literal l, _ => by
    have he : (x.world c docs).AlikeValue (x.eval (.literal l)) (y.eval (.literal l)) :=
      World.alike_literal (fun _ => trivial) l
    exact ⟨he, Side.calledAlike_value p.calls rfl he (fun _ => ⟨_, rfl⟩) fun _ => ⟨_, rfl⟩⟩
  | .conditional condition yes alternative, h => by
    have h₁ := p.alike_expr (p.alike_reading condition (h.child (by simp [Expr.children]))).1
    have h₂ := p.alike_expr (p.alike_reading yes (h.child (by simp [Expr.children]))).1
    have h₃ := p.alike_expr (p.alike_reading alternative (h.child (by simp [Expr.children]))).1
    have he : (x.world c docs).AlikeValue (x.eval (.conditional condition yes alternative))
        (y.eval (c.reading scope (.conditional condition yes alternative)).expr) := by
      show World.AlikeValue _ _ (y.eval (.conditional _ _ _))
      rw [Side.eval, Side.eval, Expr.evalIn, Expr.evalIn]
      refine h₁.bind fun v v' hv => ?_
      rw [hv.isTruthy_eq]
      split
      · exact h₂
      · exact h₃
    exact ⟨he, Side.calledAlike_value p.calls rfl he (fun _ => ⟨_, rfl⟩) fun _ => ⟨_, rfl⟩⟩
  | .unary op operand, h => by
    have h₁ := p.alike_expr (p.alike_reading operand (h.child (by simp [Expr.children]))).1
    have he : (x.world c docs).AlikeValue (x.eval (.unary op operand))
        (y.eval (c.reading scope (.unary op operand)).expr) := by
      show World.AlikeValue _ _ (y.eval (.unary _ _))
      rw [Side.eval, Side.eval, Expr.evalIn, Expr.evalIn]
      exact h₁.bind fun v v' hv => .pure (hv.unary op)
    exact ⟨he, Side.calledAlike_value p.calls rfl he (fun _ => ⟨_, rfl⟩) fun _ => ⟨_, rfl⟩⟩
  | .binary op left right, h => by
    have h₁ := p.alike_expr (p.alike_reading left (h.child (by simp [Expr.children]))).1
    have h₂ := p.alike_expr (p.alike_reading right (h.child (by simp [Expr.children]))).1
    have he : (x.world c docs).AlikeValue (x.eval (.binary op left right))
        (y.eval (c.reading scope (.binary op left right)).expr) := by
      show World.AlikeValue _ _ (y.eval (.binary _ _ _))
      rw [Side.eval, Side.eval, Expr.evalIn, Expr.evalIn]
      refine h₁.bind fun a a' ha => ?_
      have hch := ha.chosen? op
      generalize Value.chosen? op a = v, Value.chosen? op a' = v' at hch
      cases hch with
      | some hv => exact .pure hv
      | none => exact h₂.bind fun b b' hb => .ofExcept (ha.binary hb op)
    exact ⟨he, Side.calledAlike_value p.calls rfl he (fun _ => ⟨_, rfl⟩) fun _ => ⟨_, rfl⟩⟩
  | .call f args, h => by
    have hf := (p.alike_reading f (h.child (by simp [Expr.children]))).2
    have he : (x.world c docs).AlikeValue (x.eval (.call f args))
        (y.eval (.call (c.callee scope f) (c.readingList scope args))) :=
      hf _ _ (p.alike_readingList args fun arg ha => h.child (List.mem_cons_of_mem _ ha))
    rw [Config.reading_call, Config.callee_call]
    exact ⟨he, Side.calledAlike_value p.calls rfl he (fun _ => ⟨_, rfl⟩) fun _ => ⟨_, rfl⟩⟩
  | .array elements, h => by
    have h₁ := p.alike_readingList elements fun _ hx => h.child hx
    have he : (x.world c docs).AlikeValue (x.eval (.array elements))
        (y.eval (c.reading scope (.array elements)).expr) := by
      show World.AlikeValue _ _ (y.eval (.array _))
      rw [Side.eval, Side.eval, Expr.evalIn, Expr.evalIn]
      exact h₁.bind fun vs vs' hvs => .ofFresh (Fresh.alike_array hvs)
    exact ⟨he, Side.calledAlike_value p.calls rfl he (fun _ => ⟨_, rfl⟩) fun _ => ⟨_, rfl⟩⟩
  | .object entries, h => by
    have h₁ := p.alike_readingEntries entries fun _ hx => h.child (List.mem_map_of_mem hx)
    have he : (x.world c docs).AlikeValue (x.eval (.object entries))
        (y.eval (c.reading scope (.object entries)).expr) := by
      show World.AlikeValue _ _ (y.eval (.object _))
      rw [Side.eval, Side.eval, Expr.evalIn, Expr.evalIn]
      exact h₁.bind fun es es' hes => .ofFresh (Fresh.alike_object hes.ofList)
    exact ⟨he, Side.calledAlike_value p.calls rfl he (fun _ => ⟨_, rfl⟩) fun _ => ⟨_, rfl⟩⟩
  | .parens inner, h => by
    have h₁ := p.alike_expr (p.alike_reading inner (h.child (by simp [Expr.children]))).1
    have he : (x.world c docs).AlikeValue (x.eval (.parens inner))
        (y.eval (c.reading scope (.parens inner)).expr) := by
      show World.AlikeValue _ _ (y.eval (.parens _))
      rw [Side.eval, Side.eval, Expr.evalIn_parens, Expr.evalIn_parens]
      exact h₁
    exact ⟨he, Side.calledAlike_value p.calls rfl he (fun _ => ⟨_, rfl⟩) fun _ => ⟨_, rfl⟩⟩
  | .pipeline input stages, h => absurd Expr.mem_walk_self (h.pipeline input stages)
  | .arrow params body, h => by
    have he := p.alike_arrow h
    exact ⟨he, Side.calledAlike_value p.calls rfl he (fun _ => ⟨_, rfl⟩) fun _ => ⟨_, rfl⟩⟩
termination_by structural e => e

theorem alike_readingList (p : Paired c docs scope x y) : (es : List Expr) →
    (∀ e ∈ es, c.IsDocumented docs x.env.bound e) →
      (x.world c docs).Alike (LikeItems (x.world c docs).code) (x.evalList es)
        (y.evalList (c.readingList scope es))
  | [], _ => .pure .nil
  | e :: rest, h => by
    have he := p.alike_expr (p.alike_reading e (h _ List.mem_cons_self)).1
    have hrest := p.alike_readingList rest fun x hx => h x (List.mem_cons_of_mem _ hx)
    rw [Config.readingList, Side.evalList, Side.evalList, evalList, evalList]
    exact he.bind fun v v' hv => hrest.bind fun vs vs' hvs => .pure (.cons hv hvs)
termination_by structural es => es

theorem alike_readingEntries (p : Paired c docs scope x y) :
    (entries : List (ObjectKey × Expr)) →
    (∀ entry ∈ entries, c.IsDocumented docs x.env.bound entry.2) →
      (x.world c docs).Alike (LikeEntries (x.world c docs).code)
        (evalEntries x.env x.call x.locals entries)
        (evalEntries y.env y.call y.locals (c.readingEntries scope entries))
  | [], _ => .pure .nil
  | (key, e) :: rest, h => by
    have he := p.alike_expr (p.alike_reading e (h _ List.mem_cons_self)).1
    have hrest := p.alike_readingEntries rest fun x hx => h x (List.mem_cons_of_mem _ hx)
    rw [Config.readingEntries, evalEntries, evalEntries]
    exact he.bind fun v v' hv => hrest.bind fun vs vs' hvs => .pure (.cons _ hv hvs)
termination_by structural entries => entries

end

end Paired

/-! ## Runs -/

namespace Config.Documented

variable {c : Config} {docs : Documents} {env env' : Env} (d : c.Documented docs env env')

include d

/-- Functions whose code is rewritten are called alike. -/
theorem alike_call (depth : Nat) :
    (c.rewritesWorld docs env.bound).AlikeCaller (env.call depth) (env'.call depth) := by
  refine World.alike_envCall d.calls (fun _ _ _ _ _ _ => trivial) trivial ?_ depth
  intro call call' N ps qs e f cs ds args args' hc hk hl ha
  obtain ⟨rfl, rfl, hkeys, hacc, scope, hscope, hb, rfl⟩ := hk
  have same : SameLocals (c.Rewrites docs env.bound) (bindParams cs ps args)
      (bindParams ds ps args') := SameLocals.bindParams ⟨hkeys, hl⟩ ps ha
  have p : Paired c docs scope ⟨env, call, bindParams cs ps args⟩
      ⟨env', call', bindParams ds ps args'⟩ := by
    refine ⟨d, hc, same, fun name => ?_, fun hm => hacc ?_⟩
    · rw [hscope, List.mem_append, Dict.mem_keys_bindParams]
    · have hm' : accessorName ∈ Dict.keys (bindParams cs ps args) := same.keys ▸ hm
      exact List.mem_append.2 (Dict.mem_keys_bindParams.1 hm')
  exact p.alike_expr (p.alike_reading e hb).1

/-- Whole runs of an expression and of its reading are alike. -/
theorem alike_eval {e : Expr} (h : c.IsDocumented docs env.bound e) :
    (c.rewritesWorld docs env.bound).AlikeValue (env.eval e) (env'.eval (c.withReads e)) := by
  have p : Paired c docs [] ⟨env, env.call maxCallDepth, []⟩ ⟨env', env'.call maxCallDepth, []⟩ :=
    ⟨d, d.alike_call _, .nil, fun _ => Iff.rfl, by simp [Dict.keys]⟩
  exact p.alike_expr (p.alike_reading e h).1

end Config.Documented

end DataBinding
