import DataBinding.Proofs.Likeness.Builtin

/-!
# Calls of functions that are alike

The call of an arrow function evaluates its body in the sight of what it captured and of its
parameters. So calls are alike if the bodies of code that may stand for each other are evaluated alike.

Results:

* `Dict.mem_keys_bindParams`: the names in sight in a body are those captured and the parameters.
* `World.alike_envCall`: calls nested up to a depth, by induction on the depth.
-/

namespace DataBinding

/-! ## Names of dictionaries -/

namespace Dict

variable {α β : Type}

theorem get?_isSome_iff {d : Dict α} {name : String} :
    (get? d name).isSome = true ↔ name ∈ keys d := by
  induction d with
  | nil => simp [keys]
  | cons e rest ih =>
    rw [get?_cons]
    by_cases h : name = e.1
    · simp [keys, h]
    · simp only [keys, List.map_cons, List.mem_cons, h, if_false, false_or] at ih ⊢
      exact ih

theorem get?_eq_none_iff {d : Dict α} {name : String} : get? d name = none ↔ name ∉ keys d := by
  rw [← get?_isSome_iff, Option.not_isSome_iff_eq_none]

theorem mem_keys_insert_iff {d : Dict α} {name other : String} {a : α} :
    other ∈ keys (insert d name a) ↔ other = name ∨ other ∈ keys d := by
  constructor
  · exact mem_keys_insert
  · rw [← get?_isSome_iff, ← get?_isSome_iff]
    by_cases h : other = name
    · subst h
      simp
    · rw [get?_insert_of_ne d a h]
      exact fun hm => hm.resolve_left h

/-- Where an entry is put depends on the names alone. -/
theorem keys_insert_congr {d : Dict α} {d' : Dict β} (h : keys d = keys d') (name : String) (a : α)
    (b : β) : keys (insert d name a) = keys (insert d' name b) := by
  induction d generalizing d' with
  | nil =>
    cases d' with
    | nil => rfl
    | cons e' rest' => simp [keys] at h
  | cons e rest ih =>
    cases d' with
    | nil => simp [keys] at h
    | cons e' rest' =>
      obtain ⟨k, x⟩ := e
      obtain ⟨k', y⟩ := e'
      simp only [keys, List.map_cons, List.cons.injEq] at h
      obtain ⟨rfl, hr⟩ := h
      simp only [insert]
      split
      · simp [keys, hr]
      · split
        · simp [keys, hr]
        · have := ih hr
          simp only [keys, List.map_cons] at this ⊢
          rw [this]

/-- The names in sight in the body of an arrow function are those captured and the parameters. -/
theorem mem_keys_bindParams {d : Dict Value} {params : List String} {args : List Value}
    {name : String} : name ∈ keys (bindParams d params args) ↔ name ∈ keys d ∨ name ∈ params := by
  induction params generalizing d args with
  | nil => simp [bindParams]
  | cons p ps ih =>
    have step : ∀ (v : Value) (vs : List Value),
        name ∈ keys (bindParams (insert d p v) ps vs) ↔ name ∈ keys d ∨ name ∈ p :: ps := by
      intro v vs
      rw [ih, mem_keys_insert_iff, List.mem_cons]
      constructor
      · rintro ((h | h) | h)
        · exact .inr (.inl h)
        · exact .inl h
        · exact .inr (.inr h)
      · rintro (h | h | h)
        · exact .inl (.inr h)
        · exact .inl (.inl h)
        · exact .inr h
    cases args with
    | nil => exact step _ _
    | cons v vs => exact step v vs

/-- Names in increasing order stay so. -/
theorem keys_bindParams_pairwise {d : Dict Value} (params : List String) (args : List Value)
    (h : (keys d).Pairwise (· < ·)) : (keys (bindParams d params args)).Pairwise (· < ·) := by
  induction params generalizing d args with
  | nil => exact h
  | cons p ps ih =>
    cases args with
    | nil => exact ih [] (keys_insert_pairwise p _ h)
    | cons v vs => exact ih vs (keys_insert_pairwise p v h)

end Dict

open Value

/-! ## Locals -/

/-- Locals under corresponding names are alike. -/
def LikeLocals (K : CodeRel) (N : String → String → Prop) (locals locals' : Dict Value) : Prop :=
  ∀ m n v v', N m n → Dict.get? locals m = some v → Dict.get? locals' n = some v' → Like K v v'

/-- The locals have the same names and are alike. -/
structure SameLocals (K : CodeRel) (locals locals' : Dict Value) : Prop where
  keys : Dict.keys locals = Dict.keys locals'
  like : LikeLocals K (· = ·) locals locals'

namespace SameLocals

variable {K : CodeRel} {locals locals' : Dict Value}

theorem nil : SameLocals K [] [] := ⟨rfl, fun _ _ _ _ _ h => by cases h⟩

theorem get? (h : SameLocals K locals locals') (name : String) :
    LikeOption K (Dict.get? locals name) (Dict.get? locals' name) := by
  have hs : (Dict.get? locals name).isSome = (Dict.get? locals' name).isSome := by
    rw [Bool.eq_iff_iff, Dict.get?_isSome_iff, Dict.get?_isSome_iff, h.keys]
  have hl := h.like name name
  generalize Dict.get? locals name = x, Dict.get? locals' name = y at hs hl
  cases x with
  | none =>
    cases y with
    | none => exact .none
    | some v' => cases hs
  | some v =>
    cases y with
    | none => cases hs
    | some v' => exact .some (hl v v' rfl rfl rfl)

theorem insert (h : SameLocals K locals locals') (name : String) {v v' : Value} (hv : Like K v v') :
    SameLocals K (Dict.insert locals name v) (Dict.insert locals' name v') := by
  refine ⟨Dict.keys_insert_congr h.keys name v v', ?_⟩
  rintro m n a a' rfl ha ha'
  by_cases hm : m = name
  · subst hm
    rw [Dict.get?_insert_self] at ha ha'
    cases ha
    cases ha'
    exact hv
  · rw [Dict.get?_insert_of_ne _ _ hm] at ha ha'
    exact h.like m m a a' rfl ha ha'

theorem bindParams (h : SameLocals K locals locals') (params : List String)
    {args args' : List Value} (ha : LikeItems K args args') :
    SameLocals K (bindParams locals params args) (bindParams locals' params args') := by
  induction params generalizing locals locals' args args' with
  | nil => exact h
  | cons p ps ih =>
    cases ha with
    | nil => exact ih (h.insert p .undefined) .nil
    | cons hv hs => exact ih (h.insert p hv) hs

end SameLocals

/-- The locals have the same names, in increasing order, and are alike. -/
structure SortedLocals (K : CodeRel) (locals locals' : Dict Value) : Prop
    extends SameLocals K locals locals' where
  sorted : (Dict.keys locals).Pairwise (· < ·)

namespace SortedLocals

variable {K : CodeRel} {locals locals' : Dict Value}

theorem nil : SortedLocals K [] [] := ⟨.nil, .nil⟩

theorem bindParams (h : SortedLocals K locals locals') (params : List String)
    {args args' : List Value} (ha : LikeItems K args args') :
    SortedLocals K (bindParams locals params args) (bindParams locals' params args') :=
  ⟨h.toSameLocals.bindParams params ha, Dict.keys_bindParams_pairwise params args h.sorted⟩

end SortedLocals

/-! ## Calls -/

namespace World

variable {w : World}

/-- Calls of functions are alike if the bodies of code that may stand for each other are evaluated
    alike, by induction on the depth of nested calls. -/
theorem alike_envCall {env env' : Env} (hcalls : AlikeCalls w.code env.host.call env'.host.call)
    (herr : ∀ name this args n e, ((env.host.call name this args).run.run n).1 = .error e →
      w.halts (.error e) (.error e))
    (hdeep : w.halts .tooDeep .tooDeep)
    (hbody : ∀ {call call' : Caller} {N : String → String → Prop} {ps qs : List String} {e f : Expr}
      {cs ds : Dict Value} {args args' : List Value}, w.AlikeCaller call call' →
      w.code N ⟨ps, e, Dict.keys cs⟩ ⟨qs, f, Dict.keys ds⟩ → LikeLocals w.code N cs ds →
      LikeItems w.code args args' →
      w.AlikeValue (e.evalIn env call (bindParams cs ps args))
        (f.evalIn env' call' (bindParams ds qs args')))
    (depth : Nat) : w.AlikeCaller (env.call depth) (env'.call depth) := by
  induction depth with
  | zero =>
    intro f f' this this' args args' hf ht ha
    cases hf with
    | native g => exact alike_native hcalls (fun name => herr name this args) g ht ha
    | closure hk hc => exact alike_throw hdeep
  | succ depth ih =>
    intro f f' this this' args args' hf ht ha
    cases hf with
    | native g => exact alike_native hcalls (fun name => herr name this args) g ht ha
    | closure hk hc =>
      rw [Env.call_closure, Env.call_closure]
      exact hbody ih hk hc ha

end World

end DataBinding
