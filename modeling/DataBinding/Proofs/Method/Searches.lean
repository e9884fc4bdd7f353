import DataBinding.Eval.Documents
import DataBinding.Eval.Run
import DataBinding.Proofs.Decimal.Integers

/-!
# Searches in arrays

`some`, `every`, `find` and `findIndex` ask a function about one element after the other and stop at the
first answer that decides: a false one for `every`, a true one for the others. `filter` asks about all
elements. From one trace on both make the same calls as far as the search goes, so the truth of the
answers, up to the first call that halts, says what each of them gives.

Results:

* `outcome_filterItems`, `outcome_firstWhere`: the two loops by the truth of the answers.
* `searched_some`, `searched_every`, `searched_find`, `searched_findIndex`: each search is one loop with
  its own deciding answer.
* `head?_passing`, `length_passing_eq_iff`: the elements that pass, by the first true answer and by the
  false ones.
* `searches_agree`: how the methods agree, and when they halt.
-/

namespace DataBinding

/-! ## Outcomes -/

namespace Eval

variable {α β : Type} {x : Eval α} {t t' : Trace} {a : α} {e : Halt}

/-- The outcome of an evaluation from a trace on. -/
def outcome (x : Eval α) (t : Trace) : Except Halt α := ((x.run).run t).1

theorem outcome_bind_of_ok (h : (x.run).run t = (.ok a, t')) (f : α → Eval β) :
    (x >>= f).outcome t = (f a).outcome t' := by
  show ((ExceptT.bindCont f ((x.run).run t).1).run ((x.run).run t).2).1 = _
  rw [h]
  rfl

theorem outcome_bind_of_error (h : x.outcome t = .error e) (f : α → Eval β) :
    (x >>= f).outcome t = .error e := by
  show ((ExceptT.bindCont f (x.outcome t)).run ((x.run).run t).2).1 = _
  rw [h]
  rfl

theorem outcome_bind_pure (x : Eval α) (t : Trace) (g : α → β) :
    (x >>= fun a => pure (g a)).outcome t = (x.outcome t).map g := by
  rcases hx : (x.run).run t with ⟨e | a, t'⟩
  · have he : x.outcome t = .error e := congrArg Prod.fst hx
    rw [outcome_bind_of_error he, he]
    rfl
  · have ha : x.outcome t = .ok a := congrArg Prod.fst hx
    rw [outcome_bind_of_ok hx, ha]
    rfl

end Eval

/-! ## Answers -/

/-- The truth of the answers for the elements, one call after the other up to the first that halts, and
    that halt. -/
def truthsOf (ask : Value → Nat → Eval Value) : Nat → List Value → Trace → List Bool × Option Halt
  | _, [], _ => ([], none)
  | i, v :: rest, t =>
    match ((ask v i).run).run t with
    | (.error e, _) => ([], some e)
    | (.ok a, t') => (a.isTruthy :: (truthsOf ask (i + 1) rest t').1, (truthsOf ask (i + 1) rest t').2)

section Loops

variable {ask : Value → Nat → Eval Value} {i : Nat} {v a : Value} {rest items : List Value}
  {t t' : Trace} {e : Halt}

theorem truthsOf_cons_of_error (h : ((ask v i).run).run t = (.error e, t')) :
    truthsOf ask i (v :: rest) t = ([], some e) := by
  rw [truthsOf, h]

theorem truthsOf_cons_of_ok (h : ((ask v i).run).run t = (.ok a, t')) :
    truthsOf ask i (v :: rest) t =
      (a.isTruthy :: (truthsOf ask (i + 1) rest t').1, (truthsOf ask (i + 1) rest t').2) := by
  rw [truthsOf, h]

/-- No element is left without an answer, unless a call halts. -/
theorem length_truthsOf (h : (truthsOf ask i items t).2 = none) :
    (truthsOf ask i items t).1.length = items.length := by
  induction items generalizing i t with
  | nil => rfl
  | cons v rest ih =>
    rcases hc : ((ask v i).run).run t with ⟨e | a, t'⟩
    · rw [truthsOf_cons_of_error hc] at h
      cases h
    · rw [truthsOf_cons_of_ok hc] at h ⊢
      rw [List.length_cons, List.length_cons, ih h]

theorem length_truthsOf_le (ask : Value → Nat → Eval Value) (i : Nat) (items : List Value) (t : Trace) :
    (truthsOf ask i items t).1.length ≤ items.length := by
  induction items generalizing i t with
  | nil => exact Nat.le_refl 0
  | cons v rest ih =>
    rcases hc : ((ask v i).run).run t with ⟨e | a, t'⟩
    · rw [truthsOf_cons_of_error hc]
      exact Nat.zero_le _
    · rw [truthsOf_cons_of_ok hc]
      exact Nat.succ_le_succ (ih (i + 1) t')

/-! ## The loops -/

theorem outcome_of_error (h : ((ask v i).run).run t = (.error e, t')) :
    (ask v i).outcome t = .error e := congrArg Prod.fst h

/-- A call that halts ends the mapping of the elements. -/
theorem outcome_mapItems_of_halt (h : (truthsOf ask i items t).2 = some e) :
    (mapItems ask i items).outcome t = .error e := by
  induction items generalizing i t with
  | nil => cases h
  | cons v rest ih =>
    rw [mapItems]
    rcases hc : ((ask v i).run).run t with ⟨e' | a, t'⟩
    · rw [truthsOf_cons_of_error hc] at h
      cases h
      exact Eval.outcome_bind_of_error (outcome_of_error hc) _
    · rw [truthsOf_cons_of_ok hc] at h
      rw [Eval.outcome_bind_of_ok hc]
      exact Eval.outcome_bind_of_error (ih h) _

/-- Is the truth of the answer for an element the one that decides? -/
def testBy (deciding : Bool) (ask : Value → Nat → Eval Value) (v : Value) (i : Nat) : Eval Bool := do
  let answer ← ask v i
  return answer.isTruthy == deciding

/-- The elements with a true answer. -/
def passing (items : List Value) (truths : List Bool) : List Value :=
  ((items.zip truths).filter Prod.snd).map Prod.fst

theorem passing_cons (v : Value) (items : List Value) (b : Bool) (truths : List Bool) :
    passing (v :: items) (b :: truths) =
      if b then v :: passing items truths else passing items truths := by
  cases b <;> rfl

/-- The elements that pass are those with a true answer, and a call that halts ends the filter. -/
theorem outcome_filterItems (ask : Value → Nat → Eval Value) (i : Nat) (items : List Value) (t : Trace) :
    (filterItems (testBy true ask) i items).outcome t =
      match (truthsOf ask i items t).2 with
      | none => .ok (passing items (truthsOf ask i items t).1)
      | some e => .error e := by
  induction items generalizing i t with
  | nil => rfl
  | cons v rest ih =>
    rw [filterItems, testBy, bind_assoc]
    rcases hc : ((ask v i).run).run t with ⟨e' | a, t'⟩
    · rw [truthsOf_cons_of_error hc]
      exact Eval.outcome_bind_of_error (outcome_of_error hc) _
    · rw [truthsOf_cons_of_ok hc, Eval.outcome_bind_of_ok hc, pure_bind, Eval.outcome_bind_pure, ih,
        passing_cons]
      cases (truthsOf ask (i + 1) rest t').2 with
      | none => cases a.isTruthy <;> rfl
      | some e => rfl

/-- A search stops at the first element whose answer decides. -/
theorem outcome_firstWhere (deciding : Bool) (ask : Value → Nat → Eval Value) (i : Nat)
    (items : List Value) (t : Trace) :
    (firstWhere (testBy deciding ask) i items).outcome t =
      match (truthsOf ask i items t).1.idxOf? deciding with
      | some k => .ok (items[k]?.map fun v => (i + k, v))
      | none =>
        match (truthsOf ask i items t).2 with
        | none => .ok none
        | some e => .error e := by
  induction items generalizing i t with
  | nil => rfl
  | cons v rest ih =>
    rw [firstWhere, testBy, bind_assoc]
    rcases hc : ((ask v i).run).run t with ⟨e' | a, t'⟩
    · rw [truthsOf_cons_of_error hc]
      exact Eval.outcome_bind_of_error (outcome_of_error hc) _
    · rw [truthsOf_cons_of_ok hc, Eval.outcome_bind_of_ok hc, pure_bind, List.idxOf?_cons]
      cases a.isTruthy == deciding with
      | true => rfl
      | false =>
        rw [if_neg Bool.false_ne_true, if_neg Bool.false_ne_true, ih]
        cases (truthsOf ask (i + 1) rest t').1.idxOf? deciding with
        | none => rfl
        | some k =>
          have hk : i + 1 + k = i + (k + 1) := by omega
          simp [hk]

/-! ## Searches -/

/-- The element of the first deciding answer, with its position. -/
def foundAt (deciding : Bool) (items : List Value) (truths : List Bool) : Option (Nat × Value) :=
  (truths.idxOf? deciding).bind fun k => items[k]?.map fun v => (k, v)

/-- The outcome of a search: what is given for the element that decides it. Without one the search ends
    as the calls do. -/
def decided (deciding : Bool) (give : Option (Nat × Value) → Value) (items : List Value)
    (answers : List Bool × Option Halt) : Except Halt Value :=
  if deciding ∈ answers.1 then .ok (give (foundAt deciding items answers.1))
  else
    match answers.2 with
    | none => .ok (give none)
    | some e => .error e

section

variable {deciding : Bool} {give : Option (Nat × Value) → Value} {items : List Value}
  {truths : List Bool}

theorem decided_of_none : decided deciding give items (truths, none) =
    .ok (give (foundAt deciding items truths)) := by
  rw [decided]
  split
  · rfl
  · rename_i hm
    rw [foundAt, List.idxOf?_eq_none_iff.2 hm]
    rfl

theorem decided_of_halt {e : Halt} : decided deciding give items (truths, some e) =
    if deciding ∈ truths then .ok (give (foundAt deciding items truths)) else .error e := rfl

end

theorem outcome_search (deciding : Bool) (ask : Value → Nat → Eval Value)
    (give : Option (Nat × Value) → Value) (items : List Value) (t : Trace) :
    (firstWhere (testBy deciding ask) 0 items >>= fun found => pure (give found)).outcome t =
      decided deciding give items (truthsOf ask 0 items t) := by
  rw [Eval.outcome_bind_pure, outcome_firstWhere, decided, foundAt]
  rcases hk : (truthsOf ask 0 items t).1.idxOf? deciding with _ | k
  · rw [if_neg (List.idxOf?_eq_none_iff.1 hk)]
    cases (truthsOf ask 0 items t).2 <;> rfl
  · have hm : deciding ∈ (truthsOf ask 0 items t).1 := by
      rw [← List.isSome_idxOf?, hk]
      rfl
    rw [if_pos hm]
    simp [Except.map]

end Loops

/-! ## Calls -/

/-- The outcome of calling a method of an array with a function, from a trace on. -/
def searched (call : Caller) (m : ArrayMethod) (aid : Nat) (items : List Value) (fid : Nat)
    (f : Function) (t : Trace) : Except Halt Value :=
  (callMember call (.array aid items) (.string m.name) [.function fid f]).outcome t

/-- The truth of the answers that a function gives for the elements of an array. -/
def arrayTruths (call : Caller) (aid : Nat) (items : List Value) (f : Function) (t : Trace) :
    List Bool × Option Halt :=
  truthsOf (askItem call f (.array aid items)) 0 items t

section Calls

variable (call : Caller) (aid fid : Nat) (items : List Value) (f : Function) (t : Trace)

theorem method?_name (m : ArrayMethod) : (Value.array aid items).method? (Value.string m.name).toText =
    some (.array m (.array aid items) items) := by
  rw [Value.toText_string]
  cases m <;> rfl

theorem searched_eq (m : ArrayMethod) : searched call m aid items fid f t =
    (m.call call (.array aid items) items [.function fid f]).outcome t := by
  rw [searched, callMember, method?_name]
  rfl

theorem searched_map_of_halt {e : Halt} (h : (arrayTruths call aid items f t).2 = some e) :
    searched call .map aid items fid f t = .error e := by
  rw [searched_eq]
  exact Eval.outcome_bind_of_error (outcome_mapItems_of_halt h) _

theorem testItem_eq_testBy (this : Value) :
    testItem call f this = testBy true (askItem call f this) := by
  funext v i
  simp [testItem, testBy]

theorem not_testItem_eq_testBy (this : Value) :
    (fun v i => Bool.not <$> testItem call f this v i) = testBy false (askItem call f this) := by
  funext v i
  simp [testItem, testBy]

theorem outcome_filterItems_testItem :
    (filterItems (testItem call f (.array aid items)) 0 items).outcome t =
      match (arrayTruths call aid items f t).2 with
      | none => .ok (passing items (arrayTruths call aid items f t).1)
      | some e => .error e := by
  rw [testItem_eq_testBy]
  exact outcome_filterItems _ 0 items t

theorem searched_filter_of_halt {e : Halt} (h : (arrayTruths call aid items f t).2 = some e) :
    searched call .filter aid items fid f t = .error e := by
  have hf := outcome_filterItems_testItem call aid items f t
  rw [h] at hf
  rw [searched_eq]
  exact Eval.outcome_bind_of_error (x := filterItems _ 0 items) hf _

theorem searched_filter (h : (arrayTruths call aid items f t).2 = none) :
    ∃ kid, searched call .filter aid items fid f t =
      .ok (.array kid (passing items (arrayTruths call aid items f t).1)) := by
  have hf := outcome_filterItems_testItem call aid items f t
  rw [h] at hf
  rw [searched_eq]
  rcases hr : ((filterItems (testItem call f (.array aid items)) 0 items).run).run t with ⟨e | kept, t'⟩
  all_goals
    have he := (congrArg Prod.fst hr).symm.trans hf
    cases he
  exact ⟨t'.next, Eval.outcome_bind_of_ok hr _⟩

theorem outcome_search_testItem (give : Option (Nat × Value) → Value) :
    (firstWhere (testItem call f (.array aid items)) 0 items >>=
      fun found => pure (give found)).outcome t =
        decided true give items (arrayTruths call aid items f t) := by
  rw [testItem_eq_testBy]
  exact outcome_search true _ give items t

theorem searched_some : searched call .some aid items fid f t =
    decided true (fun found => .boolean found.isSome) items (arrayTruths call aid items f t) := by
  rw [searched_eq]
  exact outcome_search_testItem call aid items f t _

theorem searched_find : searched call .find aid items fid f t =
    decided true (fun found => (found.map Prod.snd).getD .undefined) items
      (arrayTruths call aid items f t) := by
  rw [searched_eq]
  exact outcome_search_testItem call aid items f t _

theorem searched_findIndex : searched call .findIndex aid items fid f t =
    decided true (fun found => ofPosition? (found.map Prod.fst)) items
      (arrayTruths call aid items f t) := by
  rw [searched_eq]
  exact outcome_search_testItem call aid items f t _

theorem searched_every : searched call .every aid items fid f t =
    decided false (fun found => .boolean found.isNone) items (arrayTruths call aid items f t) := by
  rw [searched_eq]
  show (firstWhere (fun v i => Bool.not <$> testItem call f (.array aid items) v i) 0 items >>=
    fun found => pure (Value.boolean found.isNone)).outcome t = _
  rw [not_testItem_eq_testBy]
  exact outcome_search false _ _ items t

end Calls

/-! ## The elements that pass -/

section Passing

variable {items : List Value} {truths : List Bool} {deciding : Bool}

/-- An answer is that for an element. -/
theorem exists_getElem?_of_idxOf? {k : Nat} (hlen : truths.length ≤ items.length)
    (h : truths.idxOf? deciding = some k) : ∃ v, items[k]? = some v := by
  obtain ⟨hk, -⟩ := List.findIdx?_eq_some_iff_getElem.1 h
  exact ⟨_, List.getElem?_eq_getElem (Nat.lt_of_lt_of_le hk hlen)⟩

theorem isSome_foundAt (h : truths.length ≤ items.length) :
    (foundAt deciding items truths).isSome = decide (deciding ∈ truths) := by
  rw [foundAt]
  rcases hk : truths.idxOf? deciding with _ | k
  · rw [decide_eq_false (List.idxOf?_eq_none_iff.1 hk)]
    rfl
  · obtain ⟨v, hv⟩ := exists_getElem?_of_idxOf? h hk
    have hm : deciding ∈ truths := by
      rw [← List.isSome_idxOf?, hk]
      rfl
    rw [decide_eq_true hm, Option.bind_some, hv]
    rfl

theorem map_fst_foundAt (h : truths.length ≤ items.length) :
    (foundAt deciding items truths).map Prod.fst = truths.idxOf? deciding := by
  rw [foundAt]
  rcases hk : truths.idxOf? deciding with _ | k
  · rfl
  · obtain ⟨v, hv⟩ := exists_getElem?_of_idxOf? h hk
    rw [Option.bind_some, hv]
    rfl

theorem map_snd_foundAt (items : List Value) (truths : List Bool) :
    (foundAt deciding items truths).map Prod.snd =
      (truths.idxOf? deciding).bind fun k => items[k]? := by
  rw [foundAt, Option.map_bind]
  simp [Function.comp_def]

/-- The first element that passes is the one that a search finds. -/
theorem head?_passing (items : List Value) (truths : List Bool) :
    (passing items truths).head? = (truths.idxOf? true).bind fun k => items[k]? := by
  induction items generalizing truths with
  | nil => simp [passing]
  | cons v rest ih =>
    cases truths with
    | nil => rfl
    | cons b bs =>
      rw [passing_cons, List.idxOf?_cons]
      cases b with
      | true => rfl
      | false =>
        rw [if_neg Bool.false_ne_true, if_neg (by decide), ih, Option.bind_map]
        rfl

theorem passing_ne_nil_iff (h : truths.length ≤ items.length) :
    passing items truths ≠ [] ↔ true ∈ truths := by
  rw [← List.isSome_head?, head?_passing, ← map_snd_foundAt, Option.isSome_map, isSome_foundAt h,
    decide_eq_true_eq]

theorem length_passing_le (items : List Value) (truths : List Bool) :
    (passing items truths).length ≤ truths.length := by
  rw [passing, List.length_map]
  refine Nat.le_trans (List.length_filter_le _ _) ?_
  rw [List.length_zip]
  exact Nat.min_le_right _ _

/-- All elements pass if no answer is false. -/
theorem length_passing_eq_iff (h : truths.length = items.length) :
    (passing items truths).length = items.length ↔ false ∉ truths := by
  induction items generalizing truths with
  | nil =>
    obtain rfl : truths = [] := List.length_eq_zero_iff.1 h
    simp [passing]
  | cons v rest ih =>
    cases truths with
    | nil => cases h
    | cons b bs =>
      have hlen : bs.length = rest.length := Nat.succ_inj.1 h
      rw [passing_cons]
      cases b with
      | true => simp [ih hlen]
      | false =>
        have hle := length_passing_le rest bs
        simp
        omega

/-- A position is told apart from what stands for none. -/
theorem ofPosition?_ne_iff (place : Option Nat) :
    ofPosition? place ≠ .number (-1.0) ↔ place ≠ none := by
  cases place with
  | none => simp [ofPosition?]
  | some i =>
    have hne := Decimal.ofNat_ne_neg_one i
    simp [ofPosition?, Value.ofNat, hne]

end Passing

/-! ## Agreement -/

/-- How the searches agree, where the answers of the function are equally true from all traces that the
    methods are called from; of a single trace this asks nothing. If no call halts, what passes the filter
    says what the others give. If the call behind the answers `truths` halts, mapping and filtering halt,
    and a search does unless one of the answers decides it. -/
theorem searches_agree {call : Caller} {aid fid : Nat} {items : List Value} {f : Function}
    {t : ArrayMethod → Trace} {truths : List Bool} {stop : Option Halt}
    (h : ∀ m, arrayTruths call aid items f (t m) = (truths, stop)) :
    (stop = none → ∃ kid, ∃ kept, ∃ place : Option Nat,
      kept = passing items truths ∧ place = truths.idxOf? true ∧
      searched call .filter aid items fid f (t .filter) = .ok (.array kid kept) ∧
      searched call .findIndex aid items fid f (t .findIndex) = .ok (ofPosition? place) ∧
      searched call .some aid items fid f (t .some) = .ok (.boolean (decide (kept ≠ []))) ∧
      (kept ≠ [] ↔ ofPosition? place ≠ .number (-1.0)) ∧
      searched call .every aid items fid f (t .every) =
        .ok (.boolean (decide (kept.length = items.length))) ∧
      searched call .find aid items fid f (t .find) = .ok (kept.head?.getD .undefined) ∧
      kept.head? = place.bind fun k => items[k]?) ∧
    ∀ e, stop = some e →
      searched call .map aid items fid f (t .map) = .error e ∧
      searched call .filter aid items fid f (t .filter) = .error e ∧
      searched call .some aid items fid f (t .some) =
        (if true ∈ truths then .ok (.boolean true) else .error e) ∧
      searched call .every aid items fid f (t .every) =
        (if false ∈ truths then .ok (.boolean false) else .error e) ∧
      searched call .find aid items fid f (t .find) =
        (if true ∈ truths then .ok ((passing items truths).head?.getD .undefined) else .error e) ∧
      searched call .findIndex aid items fid f (t .findIndex) =
        (if true ∈ truths then .ok (ofPosition? (truths.idxOf? true)) else .error e) := by
  have hlen : truths.length ≤ items.length := by
    have hle := length_truthsOf_le (askItem call f (.array aid items)) 0 items (t .some)
    rwa [← arrayTruths, h] at hle
  have hne := passing_ne_nil_iff hlen
  constructor
  · rintro rfl
    have hfull : truths.length = items.length := by
      have hl := length_truthsOf (congrArg Prod.snd (h .some))
      rwa [← arrayTruths, h] at hl
    obtain ⟨kid, hfilter⟩ := searched_filter call aid fid items f (t .filter)
      (congrArg Prod.snd (h .filter))
    rw [h] at hfilter
    refine ⟨kid, _, _, rfl, rfl, hfilter, ?_, ?_, ?_, ?_, ?_, head?_passing items truths⟩
    · rw [searched_findIndex, h, decided_of_none, map_fst_foundAt hlen]
    · rw [searched_some, h, decided_of_none, isSome_foundAt hlen, decide_eq_decide.2 hne]
    · rw [hne, ofPosition?_ne_iff, Ne, List.idxOf?_eq_none_iff, not_not]
    · rw [searched_every, h, decided_of_none, ← Option.not_isSome, isSome_foundAt hlen,
        ← decide_not, decide_eq_decide.2 (length_passing_eq_iff hfull)]
    · rw [searched_find, h, decided_of_none, map_snd_foundAt, head?_passing]
  · rintro e rfl
    refine ⟨searched_map_of_halt _ _ _ _ _ _ (congrArg Prod.snd (h .map)),
      searched_filter_of_halt _ _ _ _ _ _ (congrArg Prod.snd (h .filter)), ?_, ?_, ?_, ?_⟩
    · rw [searched_some, h, decided_of_halt, isSome_foundAt hlen]
      split
      · rw [decide_eq_true ‹_›]
      · rfl
    · rw [searched_every, h, decided_of_halt, ← Option.not_isSome, isSome_foundAt hlen]
      split
      · rw [decide_eq_true ‹_›]
        rfl
      · rfl
    · rw [searched_find, h, decided_of_halt, map_snd_foundAt, head?_passing]
    · rw [searched_findIndex, h, decided_of_halt, map_fst_foundAt hlen]

/-- A function that reads a member finds the second of two objects, also where it fails for the null
    behind them. -/
theorem searches_agree_member :
    let call := (⟨Documents.host [], []⟩ : Env).call 1
    let f : Function := .closure ["x"] (.member (.symbol (.ofName "x")) "y") []
    let no : Value := .object 0 [("y", .boolean false)]
    let yes : Value := .object 1 [("y", .boolean true)]
    let t : Trace := ⟨4, []⟩
    let e : Halt := .error (.type (.nullishMember "null" "y"))
    arrayTruths call 2 [no, yes] f t = ([false, true], none) ∧
    arrayTruths call 2 [no, yes, .null] f t = ([false, true], some e) ∧
    searched call .some 2 [no, yes] 3 f t = .ok (.boolean true) ∧
    searched call .every 2 [no, yes] 3 f t = .ok (.boolean false) ∧
    searched call .find 2 [no, yes] 3 f t = .ok yes ∧
    searched call .findIndex 2 [no, yes] 3 f t = .ok (.ofNat 1) ∧
    searched call .find 2 [no, yes, .null] 3 f t = .ok yes ∧
    searched call .filter 2 [no, yes, .null] 3 f t = .error e := by
  intro call f no yes t e
  have truths : arrayTruths call 2 [no, yes] f t = ([false, true], none) := rfl
  have truths' : arrayTruths call 2 [no, yes, .null] f t = ([false, true], some e) := rfl
  obtain ⟨_, _, _, rfl, rfl, -, hindex, hsome, -, hevery, hfind, -⟩ :=
    (@searches_agree call 2 3 [no, yes] f (fun _ => t) _ _ fun _ => truths).1 rfl
  obtain ⟨-, hfilter, -, -, hfind', -⟩ :=
    (@searches_agree call 2 3 [no, yes, .null] f (fun _ => t) _ _ fun _ => truths').2 e rfl
  exact ⟨truths, truths', hsome, hevery, hfind, hindex, hfind', hfilter⟩

end DataBinding
