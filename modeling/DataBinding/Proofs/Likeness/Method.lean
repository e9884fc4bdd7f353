import DataBinding.Eval.Run
import DataBinding.Proofs.Likeness.Run

/-!
# Methods of values that are alike

Methods give results that are alike on values that are alike, if the functions that they are given are
called so.

Results:

* `World.alike_textMethod`, `World.alike_arrayMethod`: calls of methods.
* `World.alike_callValue`, `World.alike_callMember`: calls of values and of members.
-/

namespace DataBinding

variable {K : CodeRel}

/-! ## Arguments -/

namespace Value

variable {v v' : Value} {args args' : List Value}

theorem LikeItems.argument (h : LikeItems K args args') (i : Nat) :
    Like K (argument args i) (argument args' i) := (h.getElem? i).getD

theorem LikeItems.argumentText_eq (h : LikeItems K args args') (i : Nat) :
    argumentText args i = argumentText args' i := (h.argument i).toText_eq

theorem LikeItems.argumentNumber_eq (h : LikeItems K args args') (i : Nat) :
    argumentNumber args i = argumentNumber args' i := (h.argument i).toNumber_eq

theorem Like.sliceBound_eq (h : Like K v v') (length default : Nat) :
    sliceBound length default v = sliceBound length default v' := by
  cases h with
  | undefined => rfl
  | array id h =>
    simp only [sliceBound]
    rw [(Like.array id h).toNumber_eq]
  | _ => rfl

theorem LikeItems.slice {xs ys : List Value} {a a' b b' : Value} (h : LikeItems K xs ys)
    (ha : Like K a a') (hb : Like K b b') :
    LikeItems K (DataBinding.slice xs a b) (DataBinding.slice ys a' b') := by
  unfold DataBinding.slice
  rw [h.length_eq, ha.sliceBound_eq, hb.sliceBound_eq]
  exact (h.drop _).take _

theorem Like.slice_eq {α : Type} {a a' b b' : Value} (xs : List α) (ha : Like K a a')
    (hb : Like K b b') : DataBinding.slice xs a b = DataBinding.slice xs a' b' := by
  unfold DataBinding.slice
  rw [ha.sliceBound_eq, hb.sliceBound_eq]

theorem Like.splitBy_eq (h : Like K v v') (text : List Char) : splitBy v text = splitBy v' text := by
  cases h with
  | array id h =>
    simp only [splitBy]
    rw [(Like.array id h).toText_eq]
  | _ => rfl

theorem Like.addedItems (h : Like K v v') : LikeItems K (addedItems v) (addedItems v') := by
  have one : ∀ {w w' : Value}, Like K w w' → LikeItems K [w] [w'] := fun hw => .cons hw .nil
  cases h with
  | array id h => exact h
  | undefined => exact one .undefined
  | null => exact one .null
  | boolean b => exact one (.boolean b)
  | number x => exact one (.number x)
  | string s => exact one (.string s)
  | object id h => exact one (.object id h)
  | regex id re => exact one (.regex id re)
  | function id h => exact one (.function id h)

theorem Like.separatorText_eq (h : Like K v v') : separatorText v = separatorText v' := by
  cases h with
  | undefined => rfl
  | array id h =>
    simp only [separatorText]
    rw [(Like.array id h).toText_eq]
  | _ => rfl

theorem likeItems_map_ofChars (texts : List (List Char)) :
    LikeItems K (texts.map ofChars) (texts.map ofChars) := by
  induction texts with
  | nil => exact .nil
  | cons cs rest ih => exact .cons (.string _) ih

theorem like_ofPosition? (i? : Option Nat) : Like K (ofPosition? i?) (ofPosition? i?) := by
  cases i? <;> exact .number _

end Value

open Value

namespace World

variable {w : World} {call call' : Caller}

/-- Functions that are alike are called alike. -/
def AlikeCaller (w : World) (call call' : Caller) : Prop :=
  ∀ {f f' this this' args args'}, LikeFunction w.code f f' → Like w.code this this' →
    LikeItems w.code args args' → w.AlikeValue (call f this args) (call' f' this' args')

/-- A value that is the same and has no identity. -/
theorem alike_pure_of_isPrimitive {v v' : Value} (h : v = v') (hp : v'.isPrimitive = true) :
    w.AlikeValue (pure v) (pure v') := by
  subst h
  exact .pure (like_of_isPrimitive hp)

/-! ## Methods of strings -/

theorem alike_replacementText (hc : w.AlikeCaller call call') {r r' : Value} (hr : Like w.code r r')
    (expand : List Char → List Char) (found : List Char) :
    w.Alike (· = ·) (replacementText call r expand found) (replacementText call' r' expand found) := by
  cases hr with
  | function id h =>
    refine (hc h .undefined (.cons (.string _) .nil)).bind fun v v' hv => .pure ?_
    rw [hv.toText_eq]
  | array id h =>
    refine .pure ?_
    rw [(Like.array id h).toText_eq]
  | _ => exact .pure rfl

theorem alike_replaceMatches (hc : w.AlikeCaller call call') {r r' : Value} (hr : Like w.code r r')
    (re : Regex) (text : List Char) (found : List Regex.Match) (last : Nat) :
    w.Alike (· = ·) (replaceMatches call r re text last found)
      (replaceMatches call' r' re text last found) := by
  induction found generalizing last with
  | nil => exact .pure rfl
  | cons m rest ih =>
    refine (alike_replacementText hc hr _ _).bind fun new _ hn => (ih _).bind fun tail _ ht => ?_
    subst hn ht
    exact .pure rfl

theorem alike_replaceFirst (hc : w.AlikeCaller call call') {r r' : Value} (hr : Like w.code r r')
    (pattern text : List Char) :
    w.Alike (· = ·) (replaceFirst call r pattern text) (replaceFirst call' r' pattern text) := by
  unfold replaceFirst
  cases Text.cutAt? pattern text with
  | none => exact .pure rfl
  | some parts =>
    refine (alike_replacementText hc hr _ _).bind fun new _ hn => ?_
    subst hn
    exact .pure rfl

theorem alike_replaceIn (hc : w.AlikeCaller call call') {p p' r r' : Value} (hp : Like w.code p p')
    (hr : Like w.code r r') (text : List Char) :
    w.Alike (· = ·) (replaceIn call p r text) (replaceIn call' p' r' text) := by
  cases hp with
  | regex id re => exact alike_replaceMatches hc hr re text _ _
  | array id h =>
    simp only [replaceIn]
    rw [(Like.array id h).toText_eq]
    exact alike_replaceFirst hc hr _ _
  | _ => exact alike_replaceFirst hc hr _ _

theorem alike_textMethod (hc : w.AlikeCaller call call') (m : TextMethod) (s : String)
    {args args' : List Value} (ha : LikeItems w.code args args') :
    w.AlikeValue (m.call call s args) (m.call call' s args') := by
  have hf : argumentText args 0 = argumentText args' 0 := ha.argumentText_eq 0
  cases m with
  | toUpper | toLower | trim => exact .pure (.string _)
  | includes | startsWith | endsWith => exact alike_pure_of_isPrimitive (by rw [hf]) rfl
  | indexOf =>
    refine .pure ?_
    rw [hf]
    exact like_ofPosition? _
  | slice =>
    refine alike_pure_of_isPrimitive ?_ rfl
    rw [(ha.argument 0).slice_eq _ (ha.argument 1)]
  | split =>
    refine .ofFresh (Fresh.alike_array ?_)
    rw [(ha.argument 0).splitBy_eq]
    exact likeItems_map_ofChars _
  | replace =>
    refine (alike_replaceIn hc (ha.argument 0) (ha.argument 1) _).bind fun cs _ h => ?_
    subst h
    exact .pure (.string _)
  | concat =>
    refine alike_pure_of_isPrimitive ?_ rfl
    rw [ha.map_eq fun _ _ h => h.toText_eq]

/-! ## Methods of arrays -/

section

variable {xs ys : List Value}

theorem alike_mapItems {f f' : Value → Nat → Eval Value}
    (hf : ∀ v v' i, Like w.code v v' → w.AlikeValue (f v i) (f' v' i))
    (h : LikeItems w.code xs ys) (i : Nat) :
    w.Alike (LikeItems w.code) (mapItems f i xs) (mapItems f' i ys) := by
  induction xs generalizing ys i with
  | nil =>
    cases h
    exact .pure .nil
  | cons x xs ih =>
    cases h with
    | cons h hs =>
      exact (hf _ _ i h).bind fun a a' ha => (ih hs (i + 1)).bind fun as as' has =>
        .pure (.cons ha has)

theorem alike_filterItems {test test' : Value → Nat → Eval Bool}
    (ht : ∀ v v' i, Like w.code v v' → w.Alike (· = ·) (test v i) (test' v' i))
    (h : LikeItems w.code xs ys) (i : Nat) :
    w.Alike (LikeItems w.code) (filterItems test i xs) (filterItems test' i ys) := by
  induction xs generalizing ys i with
  | nil =>
    cases h
    exact .pure .nil
  | cons x xs ih =>
    cases h with
    | cons h hs =>
      refine (ht _ _ i h).bind fun b _ hb => (ih hs (i + 1)).bind fun kept kept' hk => .pure ?_
      subst hb
      cases b with
      | false => exact hk
      | true => exact .cons h hk

/-- Nothing and nothing, or the same position and values that are alike. -/
inductive LikeFound (K : CodeRel) : Option (Nat × Value) → Option (Nat × Value) → Prop where
  | none : LikeFound K none none
  | some (i : Nat) {v v' : Value} (h : Like K v v') : LikeFound K (some (i, v)) (some (i, v'))

theorem alike_firstWhere {test test' : Value → Nat → Eval Bool}
    (ht : ∀ v v' i, Like w.code v v' → w.Alike (· = ·) (test v i) (test' v' i))
    (h : LikeItems w.code xs ys) (i : Nat) :
    w.Alike (LikeFound w.code) (firstWhere test i xs) (firstWhere test' i ys) := by
  induction xs generalizing ys i with
  | nil =>
    cases h
    exact .pure .none
  | cons x xs ih =>
    cases h with
    | cons h hs =>
      refine (ht _ _ i h).bind fun b _ hb => ?_
      subst hb
      cases b with
      | false => exact ih hs (i + 1)
      | true => exact .pure (.some i h)

theorem alike_foldItems {f f' : Value → Value → Nat → Eval Value}
    (hf : ∀ a a' v v' i, Like w.code a a' → Like w.code v v' →
      w.AlikeValue (f a v i) (f' a' v' i))
    (h : LikeItems w.code xs ys) {a a' : Value} (ha : Like w.code a a') (i : Nat) :
    w.AlikeValue (foldItems f a i xs) (foldItems f' a' i ys) := by
  induction xs generalizing ys a a' i with
  | nil =>
    cases h
    exact .pure ha
  | cons x xs ih =>
    cases h with
    | cons h hs => exact (hf _ _ _ _ i ha h).bind fun b b' hb => ih hs hb (i + 1)

theorem alike_givenFunction (m : ArrayMethod) {args args' : List Value}
    (ha : LikeItems w.code args args') :
    w.Alike (LikeFunction w.code) (givenFunction m args) (givenFunction m args') := by
  have h := ha.argument 0
  unfold givenFunction
  generalize argument args 0 = v, argument args' 0 = v' at h
  cases h with
  | function id h => exact .pure h
  | _ => exact alike_fault _

variable {this this' : Value}

theorem alike_askItem (hc : w.AlikeCaller call call') {f f' : Function}
    (hf : LikeFunction w.code f f') (ht : Like w.code this this') (v v' : Value) (i : Nat)
    (hv : Like w.code v v') :
    w.AlikeValue (askItem call f this v i) (askItem call' f' this' v' i) :=
  hc hf .undefined (.cons hv (.cons (.number _) (.cons ht .nil)))

theorem alike_testItem (hc : w.AlikeCaller call call') {f f' : Function}
    (hf : LikeFunction w.code f f') (ht : Like w.code this this') (v v' : Value) (i : Nat)
    (hv : Like w.code v v') :
    w.Alike (· = ·) (testItem call f this v i) (testItem call' f' this' v' i) :=
  (alike_askItem hc hf ht v v' i hv).bind fun _ _ h => .pure h.isTruthy_eq

theorem alike_reduceItems (hc : w.AlikeCaller call call') {f f' : Function}
    (hf : LikeFunction w.code f f') (ht : Like w.code this this') (h : LikeItems w.code xs ys)
    {first? first?' : Option Value} (hfirst : LikeOption w.code first? first?') :
    w.AlikeValue (reduceItems call f this xs first?) (reduceItems call' f' this' ys first?') := by
  have step : ∀ a a' v v' (i : Nat), Like w.code a a' → Like w.code v v' →
      w.AlikeValue (call f .undefined [a, v, .ofNat i, this])
        (call' f' .undefined [a', v', .ofNat i, this']) := fun _ _ _ _ _ ha hv =>
    hc hf .undefined (.cons ha (.cons hv (.cons (.number _) (.cons ht .nil))))
  cases hfirst with
  | some ha => exact alike_foldItems step h ha 0
  | none =>
    cases h with
    | nil => exact alike_fault _
    | cons h hs => exact alike_foldItems step hs h 1

theorem alike_arrayMethod (hc : w.AlikeCaller call call') (m : ArrayMethod)
    {args args' : List Value} (ht : Like w.code this this') (h : LikeItems w.code xs ys)
    (ha : LikeItems w.code args args') :
    w.AlikeValue (m.call call this xs args) (m.call call' this' ys args') := by
  have given := alike_givenFunction m ha
  cases m with
  | map =>
    exact given.bind fun f f' hf => (alike_mapItems (alike_askItem hc hf ht) h 0).bind
      fun as as' has => .ofFresh (Fresh.alike_array has)
  | filter =>
    exact given.bind fun f f' hf => (alike_filterItems (alike_testItem hc hf ht) h 0).bind
      fun as as' has => .ofFresh (Fresh.alike_array has)
  | some =>
    refine given.bind fun f f' hf => (alike_firstWhere (alike_testItem hc hf ht) h 0).bind
      fun _ _ hfound => ?_
    cases hfound <;> exact .pure (.boolean _)
  | every =>
    refine given.bind fun f f' hf => (alike_firstWhere (fun v v' i hv =>
      (alike_testItem hc hf ht v v' i hv).map fun _ _ hb => congrArg Bool.not hb) h 0).bind
      fun _ _ hfound => ?_
    cases hfound <;> exact .pure (.boolean _)
  | find =>
    refine given.bind fun f f' hf => (alike_firstWhere (alike_testItem hc hf ht) h 0).bind
      fun _ _ hfound => .pure ?_
    cases hfound with
    | none => exact .undefined
    | some i hv => exact hv
  | findIndex =>
    refine given.bind fun f f' hf => (alike_firstWhere (alike_testItem hc hf ht) h 0).bind
      fun _ _ hfound => ?_
    cases hfound <;> exact .pure (like_ofPosition? _)
  | reduce =>
    exact given.bind fun f f' hf => alike_reduceItems hc hf ht h (ha.getElem? 1)
  | includes =>
    refine alike_pure_of_isPrimitive ?_ rfl
    rw [h.any_eq fun _ _ hv => hv.sameValue_eq (ha.argument 0)]
  | indexOf =>
    refine .pure ?_
    rw [h.findIdx?_eq fun _ _ hv => hv.strictEq_eq (ha.argument 0)]
    exact like_ofPosition? _
  | join =>
    refine alike_pure_of_isPrimitive ?_ rfl
    rw [(ha.argument 0).separatorText_eq, joinItems, h.itemTexts_eq, ← joinItems]
  | slice => exact .ofFresh (Fresh.alike_array (h.slice (ha.argument 0) (ha.argument 1)))
  | concat =>
    exact .ofFresh (Fresh.alike_array (h.append (ha.flatMap fun _ _ hv => hv.addedItems)))
  | reverse => exact .ofFresh (Fresh.alike_array h.reverse)

end

/-! ## Calls of members -/

/-- Calls of values are alike. What they are described as counts only in a strict world. -/
theorem alike_callValue (hc : w.AlikeCaller call call') {f f' this this' : Value}
    {args args' : List Value} (hf : Like w.code f f') (ht : Like w.code this this')
    (ha : LikeItems w.code args args') {name name' : String}
    (hn : w.isStrict = true → name = name') :
    w.AlikeValue (callValue call f this args name) (callValue call' f' this' args' name') := by
  have fault : w.AlikeValue (Eval.fault (.notFunction name)) (Eval.fault (.notFunction name')) := by
    cases hs : w.isStrict with
    | true =>
      rw [hn hs]
      exact alike_fault _
    | false => exact alike_fail_of_lenient hs _ _
  cases hf with
  | function id h => exact hc h ht ha
  | _ => exact fault

theorem alike_callMember (hc : w.AlikeCaller call call') {this this' key key' : Value}
    {args args' : List Value} (ht : Like w.code this this') (hk : Like w.code key key')
    (ha : LikeItems w.code args args') :
    w.AlikeValue (callMember call this key args) (callMember call' this' key' args') := by
  have member : w.AlikeValue
      (Eval.ofExcept (this.member key) >>= fun f => callValue call f this args key.toText)
      (Eval.ofExcept (this'.member key') >>= fun f => callValue call' f this' args' key'.toText) := by
    rw [← hk.toText_eq]
    exact (Alike.ofExcept (ht.member hk)).bind fun f f' hf =>
      alike_callValue hc hf ht ha fun _ => rfl
  unfold callMember
  rw [← hk.toText_eq] at member ⊢
  cases ht with
  | string s =>
    simp only [Value.method?]
    cases TextMethod.ofName? key.toText with
    | none => exact member
    | some m => exact alike_textMethod hc m s ha
  | array id h =>
    simp only [Value.method?]
    cases ArrayMethod.ofName? key.toText with
    | none => exact member
    | some m => exact alike_arrayMethod hc m (.array id h) h ha
  | regex id re =>
    simp only [Value.method?]
    by_cases hn : key.toText = "test"
    · rw [if_pos hn]
      exact alike_pure_of_isPrimitive (by rw [ha.argumentText_eq]) rfl
    · rw [if_neg hn]
      exact member
  | _ => exact member

end World

end DataBinding
