import DataBinding.Proofs.Likeness.Method

/-!
# Built-in functions on values that are alike

Built-in functions give results that are alike on values that are alike, and so does a host that treats
such values alike.

Results:

* `World.alike_native`: calls of built-in functions and of functions of the host.
* `World.alike_lookup`: what names stand for.
-/

namespace DataBinding

open Value

variable {K : CodeRel}

/-! ## JSON and listings -/

namespace Fresh

mutual

theorem alike_ofJson : (j : Json) → Alike (Like K) (ofJson j) (ofJson j)
  | .null => .pure .null
  | .bool b => .pure (.boolean b)
  | .number x => .pure (.number x)
  | .string s => .pure (.string s)
  | .array items => (alike_ofItems items).bind fun _ _ h => alike_array h
  | .object members => (alike_ofMembers members).bind fun _ _ h => alike_object h

theorem alike_ofItems : (items : List Json) → Alike (LikeItems K) (ofItems items) (ofItems items)
  | [] => .pure .nil
  | j :: rest =>
    (alike_ofJson j).bind fun _ _ h => (alike_ofItems rest).bind fun _ _ hs => .pure (.cons h hs)

theorem alike_ofMembers : (members : List (String × Json)) →
    Alike (LikeEntries K) (ofMembers members) (ofMembers members)
  | [] => .pure .nil
  | (name, j) :: rest =>
    (alike_ofJson j).bind fun _ _ h =>
      (alike_ofMembers rest).bind fun _ _ hs => .pure (.cons name h hs)

end

theorem alike_listed (l : Listing) (name : String) {v v' : Value} (h : Like K v v') :
    Alike (Like K) (listed l (name, v)) (listed l (name, v')) := by
  cases l with
  | keys => exact .pure (.string name)
  | values => exact .pure h
  | entries => exact alike_array (.cons (.string name) (.cons h .nil))

theorem alike_list (l : Listing) {v v' : Value} (h : Like K v v') :
    Alike (Like K) (v.list l) (v'.list l) := by
  have items : Alike (LikeItems K) (v.entries.mapM (listed l)) (v'.entries.mapM (listed l)) := by
    have he := h.entries
    generalize v.entries = es, v'.entries = fs at he
    induction es generalizing fs with
    | nil =>
      cases he
      exact .pure .nil
    | cons e es ih =>
      cases he with
      | cons name h hs =>
        rw [List.mapM_cons, List.mapM_cons]
        exact (alike_listed l name h).bind fun _ _ ha => (ih _ hs).bind fun _ _ has =>
          .pure (.cons ha has)
  exact items.bind fun _ _ h => alike_array h

end Fresh

/-! ## Hosts -/

/-- The same error, or values that are alike. -/
inductive Value.LikeAnswer (K : CodeRel) : Except EvalError Value → Except EvalError Value → Prop where
  | error (e : EvalError) : LikeAnswer K (.error e) (.error e)
  | ok {v v' : Value} (h : Like K v v') : LikeAnswer K (.ok v) (.ok v')

/-- From every identity on, both answers are values that are alike or both are the same error, and the
    next identity is the same. -/
def Answer.Alike (K : CodeRel) (x y : Answer Value) : Prop := Fresh.Alike (LikeAnswer K) x.run y.run

/-- The functions of a host give answers that are alike on values that are alike. -/
def AlikeCalls (K : CodeRel) (ask ask' : String → Value → List Value → Answer Value) : Prop :=
  ∀ (name : String) {this this' : Value} {args args' : List Value}, Like K this this' →
    LikeItems K args args' → Answer.Alike K (ask name this args) (ask' name this' args')

namespace World

variable {w : World}

theorem Alike.ofAnswer {x y : Answer Value} (h : Answer.Alike w.code x y)
    (hh : ∀ n e, (x.run.run n).1 = .error e → w.halts (.error e) (.error e)) :
    w.AlikeValue (Eval.ofAnswer x) (Eval.ofAnswer y) := by
  have he : w.Alike (fun p q => LikeAnswer w.code p q ∧ ∀ e, p = .error e →
      w.halts (.error e) (.error e)) (Eval.ofFresh x.run) (Eval.ofFresh y.run) :=
    .ofFresh fun n => ⟨⟨(h n).1, hh n⟩, (h n).2⟩
  refine he.bind fun p q ⟨hpq, hp⟩ => ?_
  cases hpq with
  | error e => exact alike_throw (hp e rfl)
  | ok hv => exact .pure hv

/-! ## Calls -/

variable {host host' : Host} {this this' : Value} {args args' : List Value}

theorem alike_parsedJson (text : String) : w.AlikeValue (parsedJson text) (parsedJson text) := by
  unfold parsedJson
  cases Json.read? text with
  | none => exact alike_fault _
  | some j => exact .ofFresh (Fresh.alike_ofJson j)

theorem alike_listing (l : Listing) {v v' : Value} (h : Like w.code v v') :
    w.AlikeValue (listing l v) (listing l v') := by
  unfold listing
  rw [h.isNullish_eq, h.toText_eq]
  split
  · exact alike_fault _
  · exact .ofFresh (Fresh.alike_list l h)

theorem alike_stringified {v v' : Value} (h : Like w.code v v') :
    w.AlikeValue (pure (stringified v)) (pure (stringified v')) := by
  cases h with
  | undefined => exact .pure .undefined
  | function id h => exact .pure .undefined
  | array id h =>
    refine alike_pure_of_isPrimitive ?_ rfl
    simp only [stringified]
    rw [(Like.array id h).toJson_eq]
  | object id h =>
    refine alike_pure_of_isPrimitive ?_ rfl
    simp only [stringified]
    rw [(Like.object id h).toJson_eq]
  | _ => exact .pure (.string _)

theorem alike_native (hc : AlikeCalls w.code host.call host'.call)
    (hh : ∀ name n e, ((host.call name this args).run.run n).1 = .error e →
      w.halts (.error e) (.error e))
    (f : Native) (ht : Like w.code this this') (ha : LikeItems w.code args args') :
    w.AlikeValue (f.call host this args) (f.call host' this' args') := by
  have first := ha.argument 0
  have number : ∀ i, argumentNumber args i = argumentNumber args' i := ha.argumentNumber_eq
  have numbers : args.map Value.toNumber = args'.map Value.toNumber :=
    ha.map_eq fun _ _ h => h.toNumber_eq
  have isEmpty : args.isEmpty = args'.isEmpty := by cases ha <;> rfl
  have base : baseOfArgument args[1]? = baseOfArgument args'[1]? := by
    have h := ha.getElem? 1
    generalize args[1]? = x, args'[1]? = y at h
    cases h with
    | none => rfl
    | some h => rw [baseOfArgument, baseOfArgument, h.toNumber_eq]
  cases f with
  | isNaN | isFinite => exact alike_pure_of_isPrimitive (by rw [number]) rfl
  | parseInt => exact alike_pure_of_isPrimitive (by rw [first.toText_eq, base]) rfl
  | parseFloat | encodeComponent => exact alike_pure_of_isPrimitive (by rw [first.toText_eq]) rfl
  | decodeComponent =>
    simp only [Native.call]
    rw [first.toText_eq]
    cases Text.Percent.decode? (argument args' 0).toText with
    | none => exact alike_fault _
    | some s => exact .pure (.string s)
  | number => exact alike_pure_of_isPrimitive (by rw [isEmpty, first.toNumber_eq]) rfl
  | string => exact alike_pure_of_isPrimitive (by rw [isEmpty, first.toText_eq]) rfl
  | boolean => exact alike_pure_of_isPrimitive (by rw [first.isTruthy_eq]) rfl
  | isArray =>
    refine alike_pure_of_isPrimitive ?_ rfl
    generalize argument args 0 = v, argument args' 0 = v' at first
    cases first <;> rfl
  | stringify => exact alike_stringified first
  | parseJson =>
    simp only [Native.call]
    rw [first.toText_eq]
    exact alike_parsedJson _
  | keys | values | entries => exact alike_listing _ first
  | ofNumber g => exact alike_pure_of_isPrimitive (by rw [number]) rfl
  | max | min => exact alike_pure_of_isPrimitive (by rw [numbers]) rfl
  | pow => exact alike_pure_of_isPrimitive (by rw [number, number]) rfl
  | host name => exact .ofAnswer (hc name ht ha) (hh name)

/-! ## Literals and names -/

theorem alike_literal (hi : ∀ pattern,
    w.halts (.error (.invalidRegex pattern)) (.error (.invalidRegex pattern))) (l : Literal) :
    w.AlikeValue l.value.eval l.value.eval := by
  cases l.value with
  | string s => exact .pure (.string s)
  | number x => exact .pure (.number x)
  | boolean b => exact .pure (.boolean b)
  | null => exact .pure .null
  | regex pattern flags =>
    unfold LiteralValue.eval
    dsimp only
    cases Regex.ofSource? pattern flags with
    | none => exact alike_throw (hi pattern)
    | some re => exact .ofFresh (Fresh.alike_regex re)

theorem alike_globalValue? {name : String} {made : Fresh Value} (h : globalValue? name = some made) :
    Fresh.Alike (Like K) made made := by
  unfold globalValue? at h
  split at h
  · cases h
    exact .pure .undefined
  · cases h
    exact .pure (.number _)
  · cases h
    exact .pure (.number _)
  · cases h
    exact Fresh.alike_library _ (.cons _ (.number _) (.cons _ (.number _) .nil))
  · cases h
    exact Fresh.alike_library _ .nil
  · cases h
    exact Fresh.alike_library _ .nil
  · cases h
    exact Fresh.alike_library _ .nil
  · obtain ⟨f, -, rfl⟩ := Option.map_eq_some_iff.1 h
    exact Fresh.alike_function (.native f)

/-- A name stands for values that are alike if it does so among the locals and among the values from
    outside. -/
theorem alike_lookup {env env' : Env} {locals locals' : Dict Value} {name : String}
    (hl : LikeOption w.code (Dict.get? locals name) (Dict.get? locals' name))
    (hb : Dict.get? locals name = none →
      LikeOption w.code (Dict.get? env.bound name) (Dict.get? env'.bound name))
    (hf : Dict.get? locals name = none → Dict.get? env.bound name = none →
      ∀ e, e = .unavailable name ∨ e = .notDefined name ∧ name ∉ unavailableNames ∧
        globalValue? name = none → w.AlikeValue (Eval.fail e) (Eval.fail e)) :
    w.AlikeValue (lookup env locals name) (lookup env' locals' name) := by
  unfold lookup
  generalize Dict.get? locals name = x, Dict.get? locals' name = y at hl hb hf
  cases hl with
  | some h => exact .pure h
  | none =>
    have hb := hb rfl
    have hf := hf rfl
    generalize Dict.get? env.bound name = x, Dict.get? env'.bound name = y at hb hf
    cases hb with
    | some h => exact .pure h
    | none =>
      have hf := hf rfl
      dsimp only
      split
      · exact hf _ (.inl rfl)
      · rename_i hu
        cases hg : globalValue? name with
        | none => exact hf _ (.inr ⟨rfl, fun hm => hu (List.contains_iff_mem.2 hm), hg⟩)
        | some made => exact .ofFresh (alike_globalValue? hg)

end World

end DataBinding
