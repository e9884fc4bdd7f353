import DataBinding.Proofs.Likeness.Call

/-!
# The arrow functions that a value holds

A value holds the arrow functions that occur in its parts and among what they capture. A value that
holds none is like itself in every world, and what a host makes only of the values that it is given
stays in the world of these values.

Results:

* `Value.like_self`, `Value.Holds.likeFunction`: a value is like itself exactly when every arrow
  function that it holds is.
* `Value.Like.eq`: where code stands only for itself, values that are alike are the same.
* `Host.IsClosed.alikeCalls`: a host that brings no arrow functions treats values that are alike alike.
* `World.alike_read`: so do its reads.
-/

namespace DataBinding

/-- Code stands for itself only, and the names that it captures are in order. -/
def CodeRel.IsDiagonal (K : CodeRel) : Prop :=
  ∀ ⦃N k k'⦄, K N k k' → N = (· = ·) ∧ k = k' ∧ k.names.Pairwise (· < ·)

/-- Names that are captured correspond to themselves. -/
def CodeRel.IsByName (K : CodeRel) : Prop := ∀ ⦃N k k'⦄, K N k k' → N = (· = ·)

theorem CodeRel.IsDiagonal.isByName {K : CodeRel} (h : K.IsDiagonal) : K.IsByName :=
  fun _ _ _ hk => (h hk).1

/-- Dictionaries of the same names in order are the same if their entries are. -/
theorem Dict.ext_of_keys {α : Type} {d d' : Dict α} (hk : keys d = keys d')
    (ho : (keys d).Pairwise (· < ·))
    (h : ∀ name a a', get? d name = some a → get? d' name = some a' → a = a') : d = d' := by
  induction d generalizing d' with
  | nil =>
    cases d' with
    | nil => rfl
    | cons e' rest' => simp [keys] at hk
  | cons e rest ih =>
    cases d' with
    | nil => simp [keys] at hk
    | cons e' rest' =>
      obtain ⟨k, a⟩ := e
      obtain ⟨k', a'⟩ := e'
      simp only [keys, List.map_cons, List.cons.injEq, List.pairwise_cons] at hk ho
      obtain ⟨rfl, hk⟩ := hk
      obtain ⟨hlt, ho⟩ := ho
      have ha : a = a' := h k a a' (by simp [get?_cons]) (by simp [get?_cons])
      have hrest : rest = rest' := by
        refine ih hk ho fun name b b' hb hb' => ?_
        have hne : name ≠ k := by
          rintro rfl
          have hm : name ∈ keys rest := get?_isSome_iff.1 (by simp [hb])
          exact String.lt_irrefl _ (hlt name hm)
        exact h name b b' (by simpa [get?_cons, hne] using hb) (by simpa [get?_cons, hne] using hb')
      rw [ha, hrest]

namespace Value

variable {K : CodeRel}

/-- The arrow function occurs in the value. -/
inductive Holds : Value → Function → Prop where
  | here (id : Nat) (params : List String) (body : Expr) (captured : List (String × Value)) :
      Holds (.function id (.closure params body captured)) (.closure params body captured)
  | captured (id : Nat) (params : List String) (body : Expr) {captured : List (String × Value)}
      {name : String} {v : Value} {f : Function} (hv : Dict.get? captured name = some v)
      (h : Holds v f) : Holds (.function id (.closure params body captured)) f
  | item (id : Nat) {items : List Value} {v : Value} {f : Function} (hv : v ∈ items)
      (h : Holds v f) : Holds (.array id items) f
  | entry (id : Nat) {entries : List (String × Value)} {name : String} {v : Value} {f : Function}
      (hv : (name, v) ∈ entries) (h : Holds v f) : Holds (.object id entries) f

/-! ## Values and themselves -/

theorem LikeItems.like_of_mem {xs : List Value} (h : LikeItems K xs xs) {v : Value} (hv : v ∈ xs) :
    Like K v v := by
  induction xs with
  | nil => cases hv
  | cons x xs ih =>
    cases h with
    | cons h hs =>
      rcases List.mem_cons.1 hv with rfl | hv
      · exact h
      · exact ih hs hv

theorem LikeEntries.like_of_mem {es : List (String × Value)} (h : LikeEntries K es es)
    {name : String} {v : Value} (hv : (name, v) ∈ es) : Like K v v := by
  induction es with
  | nil => cases hv
  | cons e es ih =>
    cases h with
    | cons k h hs =>
      rcases List.mem_cons.1 hv with hv | hv
      · cases hv
        exact h
      · exact ih hs hv

/-- The arrow functions that a value holds which is like itself are like themselves. -/
theorem Holds.likeFunction (hK : K.IsByName) {v : Value} {f : Function} (h : v.Holds f)
    (hv : Like K v v) : LikeFunction K f f := by
  induction h with
  | here id params body captured =>
    cases hv with
    | function _ hf => exact hf
  | captured id params body hget _ ih =>
    cases hv with
    | function _ hf =>
      cases hf with
      | closure hk hc =>
        obtain rfl := hK hk
        exact ih (hc _ _ _ _ rfl hget hget)
  | item id hm _ ih =>
    cases hv with
    | array _ hs => exact ih (hs.like_of_mem hm)
  | entry id hm _ ih =>
    cases hv with
    | object _ hs => exact ih (hs.like_of_mem hm)

mutual

theorem like_self : (v : Value) → (∀ f, v.Holds f → LikeFunction K f f) → Like K v v
  | .undefined, _ => .undefined
  | .null, _ => .null
  | .boolean b, _ => .boolean b
  | .number x, _ => .number x
  | .string s, _ => .string s
  | .regex id re, _ => .regex id re
  | .function id (.native f), _ => .function id (.native f)
  | .function id (.closure params body captured), h =>
    .function id (h _ (.here id params body captured))
  | .array id items, h => .array id (likeItems_self items fun _ hv f hf => h f (.item id hv hf))
  | .object id entries, h =>
    .object id (likeEntries_self entries fun _ _ hv f hf => h f (.entry id hv hf))

theorem likeItems_self : (xs : List Value) → (∀ v ∈ xs, ∀ f, v.Holds f → LikeFunction K f f) →
    LikeItems K xs xs
  | [], _ => .nil
  | v :: rest, h =>
    .cons (like_self v (h v List.mem_cons_self))
      (likeItems_self rest fun w hw => h w (List.mem_cons_of_mem _ hw))

theorem likeEntries_self : (es : List (String × Value)) →
    (∀ name v, (name, v) ∈ es → ∀ f, v.Holds f → LikeFunction K f f) → LikeEntries K es es
  | [], _ => .nil
  | (name, v) :: rest, h =>
    .cons name (like_self v (h name v List.mem_cons_self))
      (likeEntries_self rest fun name w hw => h name w (List.mem_cons_of_mem _ hw))

end

/-- A value without arrow functions is like itself. -/
theorem like_of_holds_none {v : Value} (h : ∀ f, ¬ v.Holds f) : Like K v v :=
  like_self v fun f hf => absurd hf (h f)

theorem Holds.exists_closure {v : Value} {f : Function} (h : v.Holds f) :
    ∃ params body captured, f = .closure params body captured := by
  induction h with
  | here id params body captured => exact ⟨params, body, captured, rfl⟩
  | captured _ _ _ _ _ ih | item _ _ _ ih | entry _ _ _ ih => exact ih

/-- Where no code stands for any, only values without arrow functions are like themselves. -/
theorem not_holds_of_like {v : Value} (h : Like (fun _ _ _ => False) v v) (f : Function) :
    ¬ v.Holds f := by
  intro hf
  obtain ⟨params, body, captured, rfl⟩ := hf.exists_closure
  cases hf.likeFunction (fun _ _ _ hk => hk.elim) h with
  | closure hk _ => exact hk

mutual

/-- Where code stands only for itself, values that are alike are the same. -/
theorem Like.eq (hK : K.IsDiagonal) : {v v' : Value} → Like K v v' → v = v'
  | .array _ xs, _, h => by
    cases h with
    | array _ h => rw [LikeItems.eq hK h]
  | .object _ es, _, h => by
    cases h with
    | object _ h => rw [LikeEntries.eq hK h]
  | .function _ f, _, h => by
    cases h with
    | function _ h => rw [LikeFunction.eq hK h]
  | .undefined, _, h | .null, _, h | .boolean _, _, h | .number _, _, h | .string _, _, h
  | .regex _ _, _, h => by
    cases h
    rfl

theorem LikeFunction.eq (hK : K.IsDiagonal) : {f f' : Function} → LikeFunction K f f' → f = f'
  | .native f, _, h => by
    cases h
    rfl
  | .closure params body captured, _, h => by
    cases h with
    | closure hk hc =>
      obtain ⟨rfl, hkk, ho⟩ := hK hk
      obtain ⟨rfl, rfl, hkeys⟩ := Code.mk.inj hkk
      rw [Dict.ext_of_keys hkeys ho fun name v v' hv hv' =>
        Like.eq_of_get? hK hv (hc name name v v' rfl hv hv')]

theorem LikeItems.eq (hK : K.IsDiagonal) : {xs ys : List Value} → LikeItems K xs ys → xs = ys
  | [], _, h => by
    cases h
    rfl
  | x :: xs, _, h => by
    cases h with
    | cons h hs => rw [Like.eq hK h, LikeItems.eq hK hs]

theorem LikeEntries.eq (hK : K.IsDiagonal) :
    {es fs : List (String × Value)} → LikeEntries K es fs → es = fs
  | [], _, h => by
    cases h
    rfl
  | (name, v) :: es, _, h => by
    cases h with
    | cons _ h hs => rw [Like.eq hK h, LikeEntries.eq hK hs]

theorem Like.eq_of_get? (hK : K.IsDiagonal) : {es : List (String × Value)} → {name : String} →
    {v v' : Value} → Dict.get? es name = some v → Like K v v' → v = v'
  | [], _, _, _, hget, _ => by cases hget
  | (k, w) :: rest, name, v, v', hget, h => by
    rw [Dict.get?_cons] at hget
    split at hget
    · cases hget
      exact Like.eq hK h
    · exact Like.eq_of_get? hK hget h

end

end Value

open Value

/-! ## Hosts -/

/-- The value holds only arrow functions that the given values hold. -/
def Value.IsMadeOf (v : Value) (given : List Value) : Prop :=
  ∀ f, v.Holds f → ∃ w ∈ given, w.Holds f

/-- The host brings no arrow functions: those in its answers are in what it is asked with. -/
structure Host.IsClosed (host : Host) : Prop where
  read : ∀ tag keys n v, ((host.read tag keys).run.run n).1 = .ok v → v.IsMadeOf keys
  call : ∀ name this args n v, ((host.call name this args).run.run n).1 = .ok v →
    v.IsMadeOf (this :: args)

/-- An answer that is made of values that are alike is like itself. -/
theorem Answer.alike_self {K : CodeRel} (hK : K.IsByName) {given : List Value}
    (hg : ∀ w ∈ given, Like K w w) {x : Answer Value}
    (hx : ∀ n v, (x.run.run n).1 = .ok v → v.IsMadeOf given) : Answer.Alike K x x := by
  intro n
  refine ⟨?_, rfl⟩
  cases hr : (x.run.run n).1 with
  | error e => exact .error e
  | ok v =>
    refine .ok (like_self v fun f hf => ?_)
    obtain ⟨w, hw, hwf⟩ := hx n v hr f hf
    exact hwf.likeFunction hK (hg w hw)

/-- A host that brings no arrow functions treats values that are alike alike, where code stands only
    for itself. -/
theorem Host.IsClosed.alikeCalls {K : CodeRel} (hK : K.IsDiagonal) {host : Host} (h : host.IsClosed) :
    AlikeCalls K host.call host.call := by
  intro name this this' args args' ht ha
  obtain rfl := ht.eq hK
  obtain rfl := ha.eq hK
  refine Answer.alike_self hK.isByName (fun w hw => ?_) (h.call name this args)
  rcases List.mem_cons.1 hw with rfl | hw
  · exact ht
  · exact ha.like_of_mem hw

/-- A read of a host that brings no arrow functions stays in a world where code stands only for itself,
    if noting it does. -/
theorem World.alike_read {w : World} (hK : w.code.IsDiagonal) {host : Host} (hh : host.IsClosed)
    {tag : String} {keys : List Value} (hk : LikeItems w.code keys keys)
    (hn : w.Alike (fun _ _ => True) (Eval.note ⟨tag, keys⟩) (Eval.note ⟨tag, keys⟩))
    (he : ∀ n e, ((host.read tag keys).run.run n).1 = .error e → w.halts (.error e) (.error e)) :
    w.AlikeValue (Eval.read host tag keys) (Eval.read host tag keys) := by
  refine hn.bind fun _ _ _ => .ofAnswer ?_ he
  exact Answer.alike_self hK.isByName (fun k hm => hk.like_of_mem hm) (hh.read tag keys)

end DataBinding
