import DataBinding.Proofs.Method.Texts

/-!
# Splitting and joining strings

A separator that is not empty is cut out at its first places, one behind the other; an empty one leaves
the characters. Either way the parts and the separators between them are the string.

Results:

* `intercalate_splitAt`: the parts of a text joined by their separator give the text.
* `join_split`: joining undoes splitting, and no part holds a separator that is not empty.
-/

namespace DataBinding

/-! ## Parts as values -/

theorem intercalate_nil_singletons (text : List Char) :
    ([] : List Char).intercalate (text.map fun c => [c]) = text := by
  induction text with
  | nil => rfl
  | cons c cs ih =>
    cases cs with
    | nil => rfl
    | cons d ds => exact congrArg (c :: ·) ih

/-- The parts of a text joined by their separator give the text. -/
theorem intercalate_splitAt (separator text : List Char) :
    separator.intercalate (splitAt separator text) = text := by
  rw [splitAt]
  split
  · rename_i h
    rw [h, intercalate_nil_singletons]
  · exact Text.intercalate_splitOn _ text

theorem not_infix_of_mem_splitAt {separator text : List Char} (hs : separator ≠ []) :
    ∀ part ∈ splitAt separator text, ¬ separator <:+: part := by
  rw [splitAt, dif_neg hs]
  exact Text.not_infix_of_mem_splitOn hs

theorem itemTexts_ofChars (parts : List (List Char)) :
    Value.itemTexts (parts.map .ofChars) = parts.map String.ofList := by
  induction parts with
  | nil => rfl
  | cons p ps ih =>
    rw [List.map_cons, List.map_cons, Value.itemTexts, ih]
    rfl

theorem joinItems_ofChars (separator : String) (parts : List (List Char)) :
    joinItems separator (parts.map .ofChars) = String.ofList (separator.toList.intercalate parts) := by
  rw [joinItems, itemTexts_ofChars, ← String.toList_inj, String.toList_intercalate,
    String.toList_ofList, List.map_map]
  have hid : String.toList ∘ String.ofList = id := funext fun _ => String.toList_ofList
  rw [hid, List.map_id]

/-! ## Calls -/

section Calls

variable (call : Caller) (s separator : String) (tr : Trace)

theorem run_split : ((callMember call (.string s) (.string "split") [.string separator]).run).run tr =
    (.ok (.array tr.next ((splitAt separator.toList s.toList).map .ofChars)),
      { tr with next := tr.next + 1 }) := by
  show ((callMember call (.string s) (.string TextMethod.split.name) _).run).run tr = _
  rw [callMember, textMethod?_name]
  show (Except.ok (Value.array tr.next ((splitAt (Value.string separator).toText.toList _).map _)), _) = _
  rw [Value.toText_string]
  rfl

theorem outcome_join (id : Nat) (parts : List (List Char)) :
    (callMember call (.array id (parts.map .ofChars)) (.string "join") [.string separator]).outcome tr =
      .ok (.ofChars (separator.toList.intercalate parts)) := by
  show (callMember call _ (.string ArrayMethod.join.name) _).outcome tr = _
  rw [callMember, method?_name]
  show Except.ok (Value.string (joinItems (Value.string separator).toText _)) = _
  rw [Value.toText_string, joinItems_ofChars]
  rfl

/-- Joining undoes splitting at the same separator, also at an empty one, and no part holds a separator
    that is not empty. -/
theorem join_split : ∃ id, ∃ parts : List String,
    textAnswer call .split s [.string separator] tr = .ok (.array id (parts.map .string)) ∧
    (separator ≠ "" → ∀ part ∈ parts, ¬ separator.toList <:+: part.toList) ∧
    (do
      let split ← callMember call (.string s) (.string "split") [.string separator]
      callMember call split (.string "join") [.string separator]).outcome tr = .ok (.string s) := by
  refine ⟨tr.next, (splitAt separator.toList s.toList).map String.ofList, ?_,
    fun hne part hpart => ?_, ?_⟩
  · rw [List.map_map]
    exact congrArg Prod.fst (run_split call s separator tr)
  · obtain ⟨cs, hcs, rfl⟩ := List.mem_map.1 hpart
    rw [String.toList_ofList]
    exact not_infix_of_mem_splitAt (String.toList_eq_nil_iff.not.2 hne) cs hcs
  · rw [Eval.outcome_bind_of_ok (run_split call s separator tr), outcome_join, intercalate_splitAt,
      Value.ofChars, String.ofList_toList]

end Calls

/-- A separator that overlaps itself is cut out from the left, and empty parts stay at both ends. -/
theorem join_split_overlapping :
    let call := (⟨Documents.host [], []⟩ : Env).call 1
    textAnswer call .split "abababa" [.string "aba"] ⟨7, []⟩ =
      .ok (.array 7 [.string "", .string "b", .string ""]) ∧
    (∀ part ∈ ["", "b", ""], ¬ "aba".toList <:+: part.toList) ∧
    (do
      let split ← callMember call (.string "abababa") (.string "split") [.string "aba"]
      callMember call split (.string "join") [.string "aba"]).outcome ⟨7, []⟩ =
        .ok (.string "abababa") := by
  intro call
  have hparts : splitAt "aba".toList "abababa".toList = [[], ['b'], []] := by decide +kernel
  have hsplit : textAnswer call .split "abababa" [.string "aba"] ⟨7, []⟩ =
      .ok (.array 7 [.string "", .string "b", .string ""]) := by
    have h := congrArg Prod.fst (run_split call "abababa" "aba" ⟨7, []⟩)
    rw [hparts] at h
    exact h
  obtain ⟨id, parts, hanswer, hfree, hjoin⟩ := join_split call "abababa" "aba" ⟨7, []⟩
  have heq : parts.map Value.string = [.string "", .string "b", .string ""] :=
    (Value.array.inj (Except.ok.inj (hanswer.symm.trans hsplit))).2
  obtain rfl : parts = ["", "b", ""] := List.map_injective_iff.2 (fun _ _ => Value.string.inj) heq
  exact ⟨hsplit, hfree (by decide), hjoin⟩

end DataBinding
