import DataBinding.Proofs.Likeness.Call
import DataBinding.Proofs.Link.Names
import DataBinding.Proofs.Link.Renaming

/-!
# Values that differ in the name of a parameter

A run of an expression and a run of the expression with one parameter renamed give values that differ
in the code of arrow functions only: those that were made in the expression have the parameter renamed
in their code, and those that come from outside are the same.

In the sight of a renamed parameter its value is found under the old name in the first run and under
the new name in the second. All other names that the code reads stand for values that are alike. A
parameter that is hidden may be in sight under its new name still, but nothing reads it.

Results:

* `Renaming.Renames`: code and the code after the renaming.
* `Value.like_refl`: where code stands for itself, values are like themselves.
* `Sight.bindParams`: what is in sight in the body of an arrow function.
-/

namespace DataBinding

open Value

namespace Expr

/-- The name is neither read in the expression nor a parameter in it. -/
structure Avoids (e : Expr) (name : String) : Prop where
  read : ∀ s, .symbol s ∈ e.walk → s.name ≠ name
  param : ∀ params body, .arrow params body ∈ e.walk → ∀ s ∈ params, s.name ≠ name

theorem Avoids.child {e child : Expr} {name : String} (h : e.Avoids name) (hc : child ∈ e.children) :
    child.Avoids name := by
  have up : ∀ {x}, x ∈ child.walk → x ∈ e.walk := fun hx => mem_walk_iff.2 (.inr ⟨child, hc, hx⟩)
  exact ⟨fun s hs => h.read s (up hs), fun ps b hs => h.param ps b (up hs)⟩

/-! ## Where nothing is renamed -/

mutual

/-- Behind the arrow function whose parameter is renamed everything stays. -/
theorem rename_gone (r : Renaming) : (e : Expr) → e.rename r .gone = e
  | conditional condition yes alternative => by
    rw [rename, rename_gone r condition]
    exact congr (congrArg _ (rename_gone r yes)) (rename_gone r alternative)
  | unary op operand => by rw [rename, rename_gone r operand]
  | binary op left right => by
    rw [rename, rename_gone r left]
    exact congrArg _ (rename_gone r right)
  | member target name => by rw [rename, rename_gone r target]
  | index target key => by
    rw [rename, rename_gone r target]
    exact congrArg _ (rename_gone r key)
  | literal l => rfl
  | symbol s => rfl
  | call callee args => by
    rw [rename, rename_gone r callee]
    exact congrArg _ (renameList_gone r args)
  | array elements => by rw [rename, renameList_gone r elements]
  | object entries => by rw [rename, renameEntries_gone r entries]
  | parens inner => by rw [rename, rename_gone r inner]
  | pipeline input stages => by
    rw [rename, rename_gone r input]
    exact congrArg _ (renameStages_gone r stages)
  | arrow params body => congrArg (arrow params) (rename_gone r body)

theorem renameList_gone (r : Renaming) : (es : List Expr) → renameList r .gone es = es
  | [] => rfl
  | e :: rest => by
    rw [renameList, rename_gone r e]
    exact congrArg _ (renameList_gone r rest)

theorem renameEntries_gone (r : Renaming) : (entries : List (ObjectKey × Expr)) →
    renameEntries r .gone entries = entries
  | [] => rfl
  | (key, e) :: rest => by
    rw [renameEntries, rename_gone r e]
    exact congrArg _ (renameEntries_gone r rest)

theorem renameStages_gone (r : Renaming) : (stages : List (Symbol × List Expr)) →
    renameStages r .gone stages = stages
  | [] => rfl
  | (f, args) :: rest => by
    rw [renameStages, renameList_gone r args]
    exact congrArg _ (renameStages_gone r rest)

end

end Expr

/-! ## Code -/

namespace Renaming

variable {r : Renaming} {spot : Spot}

/-- The name that a name has after the renaming. -/
def image (r : Renaming) (spot : Spot) (name : String) : String := (r.symbol spot (.ofName name)).name

theorem name_symbol (r : Renaming) (spot : Spot) (s : Symbol) :
    (r.symbol spot s).name = r.image spot s.name := by
  cases spot with
  | around =>
    rw [image, symbol, symbol]
    show _ = (if s.name = r.old then _ else _ : Symbol).name
    split <;> rfl
  | _ => rfl

@[simp] theorem image_around_old (r : Renaming) : r.image .around r.old = r.new := by
  simp [image, symbol, Symbol.ofName]

theorem image_around_of_ne (r : Renaming) {name : String} (h : name ≠ r.old) :
    r.image .around name = name := by
  rw [image, r.symbol_of_ne _ h]
  rfl

/-- A name and what it is after the renaming, but for the new name, which is not read. -/
def Pairs (r : Renaming) (spot : Spot) (m n : String) : Prop := m ≠ r.new ∧ n = r.image spot m

/-- The second code is the first one after the renaming. Code from outside stays. -/
inductive Renames (r : Renaming) : CodeRel where
  | outside (k : Code) : Renames r (· = ·) k k
  /-- Code in the expression, where the names captured before and after the renaming correspond -/
  | inside (spot : Spot) {params : List Symbol} {body : Expr} {names names' : List String}
      (ha : (Expr.arrow params body).Avoids r.new) (hn : r.Corresponds names names' spot) :
      Renames r (r.Pairs spot) ⟨params.map Symbol.name, body, names⟩
        ⟨(r.params spot params).map Symbol.name, body.rename r (r.enter spot params), names'⟩

/-- Only which names are in sight counts. -/
theorem Corresponds.congr {S S' T T' : List String} (h : r.Corresponds S S' spot)
    (hS : ∀ n, n ∈ S ↔ n ∈ T) (hS' : ∀ n, n ∈ S' ↔ n ∈ T') : r.Corresponds T T' spot := by
  cases spot with
  | around =>
    exact ⟨(hS _).1 h.1, (hS' _).1 h.2.1, fun n ho hn => by rw [← hS, ← hS', h.2.2 n ho hn]⟩
  | _ => exact fun n hn => by rw [← hS, ← hS', h n hn]

/-- A name is in sight before the renaming if what it becomes is in sight after it. -/
theorem Corresponds.mem_image_iff {S S' : List String} (h : r.Corresponds S S' spot) {name : String}
    (hn : name ≠ r.new) : name ∈ S ↔ r.image spot name ∈ S' :=
  h.mem_symbol_iff (s := .ofName name) hn

end Renaming

/-! ## Values and themselves -/

namespace Value

variable {K : CodeRel}

mutual

/-- Where code stands for itself, values are like themselves. -/
theorem like_refl (hK : ∀ k, K (· = ·) k k) : (v : Value) → Like K v v
  | .undefined => .undefined
  | .null => .null
  | .boolean b => .boolean b
  | .number x => .number x
  | .string s => .string s
  | .regex id re => .regex id re
  | .array id items => .array id (likeItems_refl hK items)
  | .object id entries => .object id (likeEntries_refl hK entries)
  | .function id (.native f) => .function id (.native f)
  | .function id (.closure params body captured) =>
    .function id (.closure (hK _) fun m n v v' hmn hv hv' => by
      subst hmn
      cases hv.symm.trans hv'
      exact like_refl_of_get? hK captured hv)

theorem likeItems_refl (hK : ∀ k, K (· = ·) k k) : (xs : List Value) → LikeItems K xs xs
  | [] => .nil
  | v :: rest => .cons (like_refl hK v) (likeItems_refl hK rest)

theorem likeEntries_refl (hK : ∀ k, K (· = ·) k k) :
    (es : List (String × Value)) → LikeEntries K es es
  | [] => .nil
  | (name, v) :: rest => .cons name (like_refl hK v) (likeEntries_refl hK rest)

theorem like_refl_of_get? (hK : ∀ k, K (· = ·) k k) : (es : List (String × Value)) →
    {name : String} → {v : Value} → Dict.get? es name = some v → Like K v v
  | [], _, _, hv => by cases hv
  | (k, w) :: rest, name, v, hv => by
    rw [Dict.get?_cons] at hv
    split at hv
    · cases hv
      exact like_refl hK w
    · exact like_refl_of_get? hK rest hv

end

end Value

/-! ## Locals -/

section

variable {K : CodeRel} {N N' : String → String → Prop} {locals locals' : Dict Value}
  {v v' : Value}

theorem bindParams_cons (locals : Dict Value) (p : String) (ps : List String) (args : List Value) :
    bindParams locals (p :: ps) args =
      bindParams (Dict.insert locals p (args[0]?.getD .undefined)) ps (args.drop 1) := by
  cases args with
  | nil => rfl
  | cons v vs => rfl

/-- A local and the one that it corresponds to are put in, if nothing else corresponds to either. -/
theorem LikeLocals.insert (h : LikeLocals K N locals locals') {p q : String}
    (hN : ∀ m n, N' m n → m ≠ p → N m n ∧ n ≠ q) (hp : ∀ n, N' p n → n = q) (hv : Like K v v') :
    LikeLocals K N' (Dict.insert locals p v) (Dict.insert locals' q v') := by
  intro m n a a' hmn ha ha'
  by_cases hm : m = p
  · subst hm
    obtain rfl := hp n hmn
    rw [Dict.get?_insert_self] at ha ha'
    cases ha
    cases ha'
    exact hv
  · obtain ⟨hNmn, hn⟩ := hN m n hmn hm
    rw [Dict.get?_insert_of_ne _ _ hm] at ha
    rw [Dict.get?_insert_of_ne _ _ hn] at ha'
    exact h m n a a' hNmn ha ha'

end

namespace Renaming

variable {r : Renaming} {spot : Spot} {locals locals' : Dict Value} {v v' : Value}
  {args args' : List Value}

/-- The spot seen from behind parameters that stay. -/
def hide (r : Renaming) : Spot → List String → Spot
  | .around, ps => if r.old ∈ ps then .gone else .around
  | spot, _ => spot

theorem hide_cons (r : Renaming) (spot : Spot) (p : String) (ps : List String) :
    r.hide spot (p :: ps) = r.hide (r.hide spot [p]) ps := by
  cases spot with
  | around =>
    by_cases hp : r.old = p
    · simp [hide, hp]
    · simp [hide, hp]
  | _ => rfl

/-- A parameter that stays hides the renamed one if it is called like it. -/
theorem likeLocals_insert (h : LikeLocals r.Renames (r.Pairs spot) locals locals') {p : String}
    (hp : p ≠ r.new) (hv : Like r.Renames v v') :
    LikeLocals r.Renames (r.Pairs (r.hide spot [p])) (Dict.insert locals p v)
      (Dict.insert locals' p v') := by
  cases spot with
  | around =>
    rw [hide]
    split
    · rename_i hold
      obtain rfl := List.mem_singleton.1 hold
      refine h.insert ?_ (fun n hn => hn.2) hv
      rintro m n ⟨hm, rfl⟩ hne
      exact ⟨⟨hm, (r.image_around_of_ne hne).symm⟩, hne⟩
    · rename_i hold
      have hpo : p ≠ r.old := fun he => hold (List.mem_singleton.2 he.symm)
      refine h.insert ?_ (fun n hn => hn.2.trans (r.image_around_of_ne hpo)) hv
      rintro m n ⟨hm, rfl⟩ hne
      refine ⟨⟨hm, rfl⟩, ?_⟩
      by_cases hmo : m = r.old
      · rw [hmo, image_around_old]
        exact hp.symm
      · rwa [r.image_around_of_ne hmo]
  | ahead k =>
    refine h.insert ?_ (fun n hn => hn.2) hv
    rintro m n ⟨hm, rfl⟩ hne
    exact ⟨⟨hm, rfl⟩, hne⟩
  | gone =>
    refine h.insert ?_ (fun n hn => hn.2) hv
    rintro m n ⟨hm, rfl⟩ hne
    exact ⟨⟨hm, rfl⟩, hne⟩

/-- The renamed parameter comes in sight, under its old name and under its new one. -/
theorem likeLocals_insert_renamed (h : LikeLocals r.Renames (r.Pairs .gone) locals locals')
    (hv : Like r.Renames v v') :
    LikeLocals r.Renames (r.Pairs .around) (Dict.insert locals r.old v)
      (Dict.insert locals' r.new v') := by
  refine h.insert ?_ (fun n hn => hn.2.trans r.image_around_old) hv
  rintro m n ⟨hm, rfl⟩ hne
  rw [r.image_around_of_ne hne]
  exact ⟨⟨hm, rfl⟩, hm⟩

/-- Parameters that stay, one after the other. -/
theorem likeLocals_bindParams (h : LikeLocals r.Renames (r.Pairs spot) locals locals')
    {ps : List String} (hp : ∀ p ∈ ps, p ≠ r.new) (ha : LikeItems r.Renames args args') :
    LikeLocals r.Renames (r.Pairs (r.hide spot ps)) (bindParams locals ps args)
      (bindParams locals' ps args') := by
  induction ps generalizing spot locals locals' args args' with
  | nil =>
    have hnil : r.hide spot [] = spot := by cases spot <;> simp [hide]
    rw [hnil]
    exact h
  | cons p ps ih =>
    rw [List.forall_mem_cons] at hp
    rw [bindParams_cons, bindParams_cons, hide_cons]
    exact ih (likeLocals_insert h hp.1 (ha.getElem? 0).getD) hp.2 (ha.drop 1)

/-- Parameters one of which is renamed: it is in sight unless one behind it is called like it. -/
theorem likeLocals_bindParams_set (h : LikeLocals r.Renames (r.Pairs .gone) locals locals')
    {params : List Symbol} {i : Nat} (hi : params[i]?.map Symbol.name = some r.old)
    (hp : ∀ s ∈ params, s.name ≠ r.new) (ha : LikeItems r.Renames args args') :
    LikeLocals r.Renames (r.Pairs (r.hide .around ((params.drop (i + 1)).map Symbol.name)))
      (bindParams locals (params.map Symbol.name) args)
      (bindParams locals' ((params.set i (.ofName r.new)).map Symbol.name) args') := by
  induction params generalizing i locals locals' args args' with
  | nil => cases hi
  | cons s params ih =>
    rw [List.forall_mem_cons] at hp
    cases i with
    | zero =>
      have hs : s.name = r.old := Option.some.inj hi
      rw [List.set_cons_zero, List.map_cons, List.map_cons, bindParams_cons, bindParams_cons, hs]
      refine likeLocals_bindParams (likeLocals_insert_renamed h (ha.getElem? 0).getD) ?_ (ha.drop 1)
      simpa using hp.2
    | succ i =>
      rw [List.set_cons_succ, List.map_cons, List.map_cons, bindParams_cons, bindParams_cons]
      exact ih (likeLocals_insert h hp.1 (ha.getElem? 0).getD) hi hp.2 (ha.drop 1)

end Renaming

/-- Locals before and after the renaming: the names correspond, and the values under them are alike. -/
structure Sight (r : Renaming) (spot : Spot) (locals locals' : Dict Value) : Prop where
  names : r.Corresponds (Dict.keys locals) (Dict.keys locals') spot
  like : LikeLocals r.Renames (r.Pairs spot) locals locals'

namespace Sight

variable {r : Renaming} {spot : Spot} {locals locals' : Dict Value} {args args' : List Value}

theorem nil (spot : Spot) (h : spot ≠ .around) : Sight r spot [] [] where
  names := by
    cases spot with
    | around => exact absurd rfl h
    | _ => exact fun _ _ => Iff.rfl
  like := fun _ _ _ _ _ h => by cases h

theorem pass (h : Sight r spot locals locals') (n : Nat) : Sight r (spot.pass n) locals locals' where
  names := h.names.pass n
  like := by
    cases spot with
    | ahead k =>
      rw [Spot.pass]
      split <;> exact h.like
    | _ => exact h.like

theorem get? (h : Sight r spot locals locals') {name : String} (hn : name ≠ r.new) :
    LikeOption r.Renames (Dict.get? locals name) (Dict.get? locals' (r.image spot name)) := by
  have hs : (Dict.get? locals name).isSome = (Dict.get? locals' (r.image spot name)).isSome := by
    rw [Bool.eq_iff_iff, Dict.get?_isSome_iff, Dict.get?_isSome_iff, h.names.mem_image_iff hn]
  have hl := h.like name (r.image spot name)
  generalize Dict.get? locals name = x, Dict.get? locals' (r.image spot name) = y at hs hl
  cases x with
  | none =>
    cases y with
    | none => exact .none
    | some v' => cases hs
  | some v =>
    cases y with
    | none => cases hs
    | some v' => exact .some (hl v v' ⟨hn, rfl⟩ rfl rfl)

/-- The locals in the body of an arrow function. -/
theorem bindParams (h : Sight r spot locals locals') {params : List Symbol}
    (hp : ∀ s ∈ params, s.name ≠ r.new) (ha : LikeItems r.Renames args args') :
    Sight r (r.enter spot params) (bindParams locals (params.map Symbol.name) args)
      (bindParams locals' ((r.params spot params).map Symbol.name) args') where
  names := by
    refine (h.names.enter params).congr (fun n => ?_) fun n => ?_
    · rw [Config.extendScope, List.mem_append, Dict.mem_keys_bindParams]
    · rw [Config.extendScope, List.mem_append, Dict.mem_keys_bindParams]
  like := by
    have stay : LikeLocals r.Renames (r.Pairs (r.hide spot (params.map Symbol.name)))
        (DataBinding.bindParams locals (params.map Symbol.name) args)
        (DataBinding.bindParams locals' (params.map Symbol.name) args') :=
      Renaming.likeLocals_bindParams h.like (by simpa using hp) ha
    cases spot with
    | around => exact stay
    | gone => exact stay
    | ahead k =>
      cases k with
      | succ k => exact stay
      | zero =>
        rw [Renaming.params, Renaming.enter]
        by_cases hi : r.IsParam params
        · rw [if_pos hi]
          have renamed := Renaming.likeLocals_bindParams_set h.like hi hp ha
          by_cases hb : r.old ∈ (params.drop (r.index + 1)).map Symbol.name
          · rw [if_neg fun hbinds => hbinds.2 hb]
            rwa [Renaming.hide, if_pos hb] at renamed
          · rw [if_pos ⟨hi, hb⟩]
            rwa [Renaming.hide, if_neg hb] at renamed
        · rw [if_neg hi, if_neg fun hbinds => hi hbinds.1]
          exact stay

end Sight

end DataBinding
