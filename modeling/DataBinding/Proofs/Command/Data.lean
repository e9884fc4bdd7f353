import DataBinding.Command.Run
import DataBinding.Proofs.Json.Reading
import DataBinding.Proofs.Printing.Linked
import DataBinding.Proofs.Program.Parameters
import Mathlib.Data.List.Forall2

/-!
# The parts of a data object

A data object is taken apart into the values of the direct symbols and documents. Symbols have different
names without a dollar sign, so no symbol takes the member of another one, and every member whose name
is none of theirs is a document.

Results:

* `Command.nodup_keys_of_readData`: the members of a data object have different names.
* `Data.takeAll_fst`, `Data.get?_takeAll`: what is taken and what is left.
* `Data.holds_ofMembers`: the data of a run.
-/

namespace DataBinding

/-! ## Dictionaries -/

namespace Dict

variable {α : Type}

theorem get?_erase_of_ne (d : Dict α) {name other : String} (h : other ≠ name) :
    get? (erase d name) other = get? d other := by
  induction d with
  | nil => rfl
  | cons e rest ih =>
    unfold erase at ih ⊢
    rw [get?_cons]
    by_cases he : e.1 = name
    · rw [List.filter_cons_of_neg (by simp [he]), ih, if_neg (he ▸ h)]
    · rw [List.filter_cons_of_pos (by simp [he]), get?_cons, ih]

theorem keys_erase_sublist (d : Dict α) (name : String) : (keys (erase d name)).Sublist (keys d) :=
  List.filter_sublist.map _

theorem nodup_keys_ofList (entries : List (String × α)) : (keys (ofList entries)).Nodup :=
  (keys_ofList_pairwise entries).imp fun h => String.ne_of_lt h

/-- Among entries of different names the last one of a name is the first one. -/
theorem get?_ofList_of_nodup {entries : List (String × α)} (h : (entries.map Prod.fst).Nodup)
    (name : String) : get? (ofList entries) name = get? entries name := by
  cases hn : get? entries name with
  | some a =>
    obtain ⟨front, back, hsplit, -⟩ := List.lookup_eq_some_iff.1 hn
    exact get?_ofList_of_mem h (hsplit ▸ List.mem_append_right _ List.mem_cons_self)
  | none =>
    refine get?_foldl_of_not_mem (fun hm => ?_) []
    rw [← Option.not_isSome_iff_eq_none, get?_isSome_iff] at hn
    exact hn hm

end Dict

/-- A data object with one document -/
theorem Command.readData_single : readData (some "\x7b\"scope\":\x7b\"a\":true\x7d\x7d") =
    .ok [("scope", .object [("a", .bool true)])] := by
  have atom : Json.Reads ['t', 'r', 'u', 'e', '\x7d', '\x7d'] (.bool true) ['\x7d', '\x7d'] := .true rfl
  have document : Json.Reads ['\x7b', '\x22', 'a', '\x22', ':', 't', 'r', 'u', 'e', '\x7d', '\x7d']
      (.object [(some "a", .bool true)]) ['\x7d'] :=
    .object rfl (.last ⟨_, _, _, _, rfl, rfl, rfl, rfl, atom⟩ rfl)
  have whole : Json.Reads "\x7b\"scope\":\x7b\"a\":true\x7d\x7d".toList
      (.object [(some "scope", .object [(some "a", .bool true)])]) [] :=
    .object rfl (.last ⟨_, _, _, _, rfl, rfl, rfl, rfl, document⟩ rfl)
  simp only [readData, Json.read?, Json.Form.read?_of_reads whole]
  rfl

/-! ## Data objects -/

/-- The value of an object that is read has members of different names. -/
theorem Json.nodup_keys_of_value? {depth : Nat} {form : Form} {members : List (String × Json)}
    (h : form.value? depth = some (.object members)) : (Dict.keys members).Nodup := by
  cases form with
  | object fields =>
    rw [Form.value?] at h
    split at h
    · cases h
    · obtain ⟨ms, -, he⟩ := Option.map_eq_some_iff.1 h
      cases he
      exact Dict.nodup_keys_ofList ms
  | array items =>
    rw [Form.value?] at h
    split at h
    · cases h
    · obtain ⟨js, -, he⟩ := Option.map_eq_some_iff.1 h
      cases he
  | null | bool => cases h
  | number x => cases x <;> cases h
  | string s => cases s <;> cases h

/-- The members of a data object have different names. -/
theorem Command.nodup_keys_of_readData {data : Option String} {members : Dict Json}
    (h : readData data = .ok members) : (Dict.keys members).Nodup := by
  cases data with
  | none =>
    cases h
    exact List.nodup_nil
  | some text =>
    unfold readData at h
    dsimp only at h
    split at h
    · cases h
    · rename_i ms hread
      cases h
      obtain ⟨form, -, hvalue⟩ := Option.bind_eq_some_iff.1 hread
      exact Json.nodup_keys_of_value? hvalue
    · cases h

namespace Data

variable {members : Dict Json} {names : List String} {name key : String}

/-- The member of a direct symbol, with its dollar sign or else without it. -/
def memberOf (members : Dict Json) (name : String) : Option Json :=
  (Dict.get? members ("$" ++ name)).or (Dict.get? members name)

theorem take_fst (members : Dict Json) (name : String) :
    (take members name).1 = memberOf members name := by
  unfold take memberOf
  cases Dict.get? members ("$" ++ name) <;> rfl

/-- A symbol leaves the members of other names. -/
theorem get?_take_of_ne (h : key ≠ "$" ++ name) (h' : key ≠ name) :
    Dict.get? (take members name).2 key = Dict.get? members key := by
  unfold take
  cases Dict.get? members ("$" ++ name) with
  | some j => exact Dict.get?_erase_of_ne members h
  | none => exact Dict.get?_erase_of_ne members h'

theorem keys_take_sublist (members : Dict Json) (name : String) :
    (Dict.keys (take members name).2).Sublist (Dict.keys members) := by
  unfold take
  cases Dict.get? members ("$" ++ name) with
  | some j => exact Dict.keys_erase_sublist members _
  | none => exact Dict.keys_erase_sublist members _

/-- The text starts with no dollar sign. -/
def IsPlainName (name : String) : Prop := name.toList.head? ≠ some '$'

theorem IsPlainName.ne_dollar (h : IsPlainName key) (name : String) : key ≠ "$" ++ name := by
  rintro rfl
  rw [IsPlainName, String.toList_append] at h
  exact h rfl

/-- Symbols of different names take their own members. -/
theorem takeAll_fst (hn : names.Nodup) (hp : ∀ name ∈ names, IsPlainName name) :
    (takeAll members names).1 = names.map (memberOf members) := by
  induction names generalizing members with
  | nil => rfl
  | cons name rest ih =>
    rw [List.nodup_cons] at hn
    rw [List.forall_mem_cons] at hp
    show (take members name).1 :: (takeAll (take members name).2 rest).1 = _
    rw [take_fst, ih hn.2 hp.2, List.map_cons, List.map_congr_left fun other ho => ?_]
    have hne : other ≠ name := fun he => hn.1 (he ▸ ho)
    unfold memberOf
    rw [get?_take_of_ne (fun he => hne (Config.dollar_injective he)) (hp.1.ne_dollar other).symm,
      get?_take_of_ne ((hp.2 other ho).ne_dollar name) hne]

/-- Members that are called like no symbol are left. -/
theorem get?_takeAll (h : ∀ name ∈ names, key ≠ "$" ++ name ∧ key ≠ name) :
    Dict.get? (takeAll members names).2 key = Dict.get? members key := by
  induction names generalizing members with
  | nil => rfl
  | cons name rest ih =>
    rw [List.forall_mem_cons] at h
    rw [takeAll, ih h.2, get?_take_of_ne h.1.1 h.1.2]

theorem keys_takeAll_sublist (members : Dict Json) (names : List String) :
    (Dict.keys (takeAll members names).2).Sublist (Dict.keys members) := by
  induction names generalizing members with
  | nil => exact List.Sublist.refl _
  | cons name rest ih => exact (ih _).trans (keys_take_sublist members name)

end Data

/-! ## Values -/

/-- Each of the values made in a row is made from some identity on. -/
theorem Fresh.forall₂_mapM {α β : Type} (f : α → Fresh β) (xs : List α) (n : Nat) :
    List.Forall₂ (fun x b => ∃ m, b = ((f x).run m).1) xs ((xs.mapM f).run n).1 := by
  induction xs generalizing n with
  | nil => exact .nil
  | cons x xs ih =>
    rw [List.mapM_cons]
    exact .cons ⟨n, rfl⟩ (ih _)

namespace Value

theorem map_fst_ofMembers (ms : List (String × Json)) (n : Nat) :
    ((ofMembers ms).run n).1.map Prod.fst = ms.map Prod.fst := by
  induction ms generalizing n with
  | nil => rfl
  | cons m ms ih => exact congrArg (m.1 :: ·) (ih _)

/-- The value under a name is made of the member of the name. -/
theorem get?_ofMembers (ms : List (String × Json)) (name : String) (n : Nat) :
    ∃ m, Dict.get? ((ofMembers ms).run n).1 name =
      (Dict.get? ms name).map fun j => ((ofJson j).run m).1 := by
  induction ms generalizing n with
  | nil => exact ⟨0, rfl⟩
  | cons e ms ih =>
    obtain ⟨k, j⟩ := e
    obtain ⟨m, hm⟩ := ih ((ofJson j).run n).2
    rw [Dict.get?_cons]
    by_cases hk : name = k
    · refine ⟨n, ?_⟩
      rw [if_pos hk]
      show Dict.get? ((k, ((ofJson j).run n).1) :: _) name = _
      rw [Dict.get?_cons, if_pos hk]
      rfl
    · refine ⟨m, ?_⟩
      rw [if_neg hk, ← hm]
      show Dict.get? ((k, ((ofJson j).run n).1) :: _) name = _
      rw [Dict.get?_cons, if_neg hk]
      rfl

end Value

/-- The data holds the members: for every direct symbol a value of its member, and under every name that
    is no symbol's the document of the member. -/
structure Data.Holds (c : Config) (members : Dict Json) (d : Data) : Prop where
  direct : List.Forall₂ (fun name v => ∃ m, v = ((valueOf (memberOf members name)).run m).1)
    c.directNames d.direct
  document : ∀ key, (∀ name ∈ c.directNames, key ≠ "$" ++ name ∧ key ≠ name) →
    ∃ m, Dict.get? d.documents key =
      (Dict.get? members key).map fun j => ((Value.ofJson j).run m).1

/-- The names of symbols start with no dollar sign. -/
theorem Config.isPlainName_of_mem {c : Config} (hv : c.validate = .ok ()) {name : String}
    (h : name ∈ c.names) : Data.IsPlainName name := by
  intro hhead
  have hpart : isNamePart '$' = true :=
    forall_isNamePart hv h '$' (List.mem_of_mem_head? hhead)
  exact absurd hpart (by decide)

/-- The data that is made of members of different names holds them. -/
theorem Data.holds_ofMembers {c : Config} (hv : c.validate = .ok ()) {members : Dict Json}
    (hm : (Dict.keys members).Nodup) (n : Nat) :
    Holds c members ((ofMembers c members).run n).1 := by
  have plain : ∀ name ∈ c.directNames, IsPlainName name := fun name hn =>
    c.isPlainName_of_mem hv (c.directNames_sublist.subset hn)
  have taken : (takeAll members c.directNames).1 = c.directNames.map (memberOf members) :=
    takeAll_fst (Config.directNames_nodup hv) plain
  constructor
  · show List.Forall₂ _ _ (((takeAll members c.directNames).1.mapM valueOf).run n).1
    rw [taken]
    exact List.forall₂_map_left_iff.1 (Fresh.forall₂_mapM valueOf _ n)
  · intro key hkey
    obtain ⟨n', hn'⟩ : ∃ n', ((ofMembers c members).run n).1.documents =
        Dict.ofList ((Value.ofMembers (takeAll members c.directNames).2).run n').1 := ⟨_, rfl⟩
    obtain ⟨m, hm'⟩ := Value.get?_ofMembers (takeAll members c.directNames).2 key n'
    refine ⟨m, ?_⟩
    have nodup : (((Value.ofMembers (takeAll members c.directNames).2).run n').1.map
        Prod.fst).Nodup := by
      rw [Value.map_fst_ofMembers]
      exact hm.sublist (keys_takeAll_sublist members c.directNames)
    rw [hn', Dict.get?_ofList_of_nodup nodup, hm', get?_takeAll hkey]

end DataBinding
