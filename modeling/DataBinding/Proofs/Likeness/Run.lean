import DataBinding.Eval.Basic
import DataBinding.Proofs.Likeness.Value

/-!
# Runs that differ in the code of arrow functions

A `World` says how two evaluations may differ: in the code of their values, in their traces and in how
they halt. `World.Alike` says that two evaluations from traces of the world end in outcomes of the
world. A world that is not strict asks nothing where the first evaluation halts.

A property of a single evaluation is the case of an evaluation and itself.

Results:

* `World.Alike.bind`, `World.Alike.ofFresh`, `World.Alike.ofExcept`: evaluations that are made of parts
  that are alike.
-/

namespace DataBinding

/-! ## Making of values -/

/-- From every identity on, what is made is related and the next identity is the same. -/
def Fresh.Alike {α β : Type} (R : α → β → Prop) (x : Fresh α) (y : Fresh β) : Prop :=
  ∀ n, R (x.run n).1 (y.run n).1 ∧ (x.run n).2 = (y.run n).2

namespace Fresh

variable {K : CodeRel} {α β γ δ : Type} {R : α → β → Prop} {S : γ → δ → Prop}

theorem Alike.pure {a : α} {b : β} (h : R a b) :
    Alike R (Pure.pure a : Fresh α) (Pure.pure b : Fresh β) := fun _ => ⟨h, rfl⟩

theorem Alike.bind {x : Fresh α} {y : Fresh β} {f : α → Fresh γ} {g : β → Fresh δ}
    (h : Alike R x y) (hf : ∀ a b, R a b → Alike S (f a) (g b)) : Alike S (x >>= f) (y >>= g) := by
  intro n
  obtain ⟨hr, hn⟩ := h n
  have hs := hf _ _ hr (x.run n).2
  show S ((f (x.run n).1).run (x.run n).2).1 ((g (y.run n).1).run (y.run n).2).1 ∧
    ((f (x.run n).1).run (x.run n).2).2 = ((g (y.run n).1).run (y.run n).2).2
  rw [← hn]
  exact hs

theorem alike_identity : Alike (· = ·) identity identity := fun _ => ⟨rfl, rfl⟩

theorem alike_array {xs ys : List Value} (h : Value.LikeItems K xs ys) :
    Alike (Value.Like K) (array xs) (array ys) := by
  refine alike_identity.bind fun id _ hid => ?_
  subst hid
  exact .pure (.array id h)

theorem alike_object {es fs : Dict Value} (h : Value.LikeEntries K es fs) :
    Alike (Value.Like K) (object es) (object fs) := by
  refine alike_identity.bind fun id _ hid => ?_
  subst hid
  exact .pure (.object id h)

theorem alike_regex (re : Regex) : Alike (Value.Like K) (regex re) (regex re) := by
  refine alike_identity.bind fun id _ hid => ?_
  subst hid
  exact .pure (.regex id re)

theorem alike_function {f g : Function} (h : Value.LikeFunction K f g) :
    Alike (Value.Like K) (function f) (function g) := by
  refine alike_identity.bind fun id _ hid => ?_
  subst hid
  exact .pure (.function id h)

/-- Entries made one after the other are alike if each is. -/
theorem alike_mapM_entries {ι : Type} {f : ι → Fresh (String × Value)}
    (hf : ∀ i, Alike (fun e e' => e.1 = e'.1 ∧ Value.Like K e.2 e'.2) (f i) (f i)) (is : List ι) :
    Alike (Value.LikeEntries K) (is.mapM f) (is.mapM f) := by
  induction is with
  | nil => exact .pure .nil
  | cons i is ih =>
    rw [List.mapM_cons]
    refine (hf i).bind fun e e' he => ih.bind fun es es' hes => .pure ?_
    obtain ⟨k, v⟩ := e
    obtain ⟨k', v'⟩ := e'
    obtain ⟨rfl, hv⟩ := he
    exact .cons k hv hes

theorem alike_library (functions : List Native) {others : List (String × Value)}
    (h : Value.LikeEntries K others others) :
    Alike (Value.Like K) (library functions others) (library functions others) := by
  refine (alike_mapM_entries (fun f => ?_) functions).bind fun made made' hm =>
    alike_object (h.append hm).ofList
  exact (alike_function (.native f)).bind fun v v' hv => .pure ⟨rfl, hv⟩

end Fresh

/-! ## Evaluations -/

/-- How two evaluations may differ. -/
structure World where
  code : CodeRel
  /-- Which traces correspond -/
  traces : Trace → Trace → Prop
  /-- Which halts correspond -/
  halts : Halt → Halt → Prop
  /-- The second evaluation must halt where the first does. -/
  isStrict : Bool
  next_eq : ∀ {t u}, traces t u → t.next = u.next
  traces_next : ∀ {t u}, traces t u → ∀ n, traces { t with next := n } { u with next := n }
  fault : ∀ f, halts (.error (.type f)) (.error (.type f))

namespace World

variable {w : World} {α β γ δ : Type} {R : α → β → Prop} {S : γ → δ → Prop}

/-- The outcomes correspond. -/
inductive Outcome (w : World) (R : α → β → Prop) :
    Except Halt α × Trace → Except Halt β × Trace → Prop where
  | value {a : α} {b : β} {t u : Trace} (h : R a b) (ht : w.traces t u) :
      Outcome w R (.ok a, t) (.ok b, u)
  | halt {h h' : Halt} {t u : Trace} (hh : w.halts h h') (ht : w.traces t u) :
      Outcome w R (.error h, t) (.error h', u)
  | lenient (hw : w.isStrict = false) {h : Halt} {t : Trace} (y : Except Halt β × Trace) :
      Outcome w R (.error h, t) y

/-- From traces that correspond the evaluations end in outcomes that correspond. -/
def Alike (w : World) (R : α → β → Prop) (x : Eval α) (y : Eval β) : Prop :=
  ∀ t u, w.traces t u → w.Outcome R (x.run.run t) (y.run.run u)

/-- The values of two evaluations are alike. -/
abbrev AlikeValue (w : World) : Eval Value → Eval Value → Prop := w.Alike (Value.Like w.code)

theorem Alike.mono {R' : α → β → Prop} {x : Eval α} {y : Eval β} (h : w.Alike R x y)
    (hR : ∀ a b, R a b → R' a b) : w.Alike R' x y := by
  intro t u ht
  have ho := h t u ht
  generalize x.run.run t = p, y.run.run u = q at ho ⊢
  cases ho with
  | value hr ht' => exact .value (hR _ _ hr) ht'
  | halt hh ht' => exact .halt hh ht'
  | lenient hw => exact .lenient hw _

theorem Alike.pure {a : α} {b : β} (h : R a b) : w.Alike R (Pure.pure a) (Pure.pure b) :=
  fun _ _ ht => .value h ht

theorem Alike.bind {x : Eval α} {y : Eval β} {f : α → Eval γ} {g : β → Eval δ} (h : w.Alike R x y)
    (hf : ∀ a b, R a b → w.Alike S (f a) (g b)) : w.Alike S (x >>= f) (y >>= g) := by
  intro t u ht
  have ho := h t u ht
  show w.Outcome S ((ExceptT.bindCont f (x.run.run t).1).run (x.run.run t).2)
    ((ExceptT.bindCont g (y.run.run u).1).run (y.run.run u).2)
  generalize x.run.run t = p, y.run.run u = q at ho
  cases ho with
  | value hr ht' => exact hf _ _ hr _ _ ht'
  | halt hh ht' => exact .halt hh ht'
  | lenient hw => exact .lenient hw _

theorem Alike.map {x : Eval α} {y : Eval β} {f : α → γ} {g : β → δ} (h : w.Alike R x y)
    (hf : ∀ a b, R a b → S (f a) (g b)) : w.Alike S (f <$> x) (g <$> y) := by
  rw [map_eq_pure_bind, map_eq_pure_bind]
  exact h.bind fun a b hr => .pure (hf a b hr)

theorem alike_throw {h h' : Halt} (hh : w.halts h h') :
    w.Alike R (throw h : Eval α) (throw h' : Eval β) := fun _ _ ht => .halt hh ht

theorem alike_fault (f : TypeFault) : w.Alike R (Eval.fault f : Eval α) (Eval.fault f : Eval β) :=
  alike_throw (w.fault f)

/-- In a world that is not strict nothing is asked beside a halt. -/
theorem alike_fail_of_lenient (hw : w.isStrict = false) (e : EvalError) (y : Eval β) :
    w.Alike R (Eval.fail e : Eval α) y := fun _ _ _ => .lenient hw _

theorem Alike.ofFresh {x : Fresh α} {y : Fresh β} (h : Fresh.Alike R x y) :
    w.Alike R (Eval.ofFresh x) (Eval.ofFresh y) := by
  intro t u ht
  obtain ⟨hr, hn⟩ := h t.next
  have hu : t.next = u.next := w.next_eq ht
  show w.Outcome R (.ok (x.run t.next).1, { t with next := (x.run t.next).2 })
    (.ok (y.run u.next).1, { u with next := (y.run u.next).2 })
  rw [← hu, ← hn]
  exact .value hr (w.traces_next ht _)

theorem Alike.ofExcept {x y : Except TypeFault Value} (h : Value.LikeExcept w.code x y) :
    w.AlikeValue (Eval.ofExcept x) (Eval.ofExcept y) := by
  cases h with
  | error f => exact alike_fault f
  | ok h => exact .pure h

end World

end DataBinding
