import Mathlib.Data.List.Forall2
import DataBinding.Eval.Documents
import DataBinding.Value.Operate
import DataBinding.Proofs.Decimal.Digits
import DataBinding.Proofs.Likeness.Call
import DataBinding.Proofs.Value.Identity

/-!
# Own keys

The entries of an object, an array or a string are reached in four ways: they are listed, read as members,
and in what is no string looked for with `in`. All four see one dictionary, in which the elements of an
array and the characters of a string stand under the plain spelling of their position. A key spells at
most one position, and a position has one spelling: `01`, `+1` and digits beyond the last position find
nothing. Beside the entries only the length of an array or a string is found; for a string not with `in`,
which is a fault there.

Results:

* `indexOfKey?_eq_some_iff`: the position that a key spells and the spelling of a position are inverse.
* `Value.get?_numbered`: what is found among values under the spelling of their position.
* `Value.memberNamed_eq_get?`, `Value.within_eq`: members and `in`, by the dictionary.
* `Value.list_keys`, `Value.list_values`, `Value.list_entries`: the listings, by the dictionary.
* `Value.own_keys_agree`: all of these.
-/

namespace DataBinding

/-! ## Spellings of positions -/

theorem indexOfKey?_toString (i : Nat) : indexOfKey? (toString i) = some i := by
  -- zero is the one number whose digits start with a zero
  rcases Nat.eq_zero_or_pos i with rfl | hpos
  · exact indexOfKey?_zero
  have hlist : (toString i).toList = Nat.toDigits 10 i := by
    rw [Nat.toString_eq_ofList_toDigits, String.toList_ofList]
  have hdigits : (Nat.toDigits 10 i).all Char.isDigit = true :=
    List.all_eq_true.2 fun c hc => Nat.isDigit_of_mem_toDigits (by decide) (by decide) hc
  unfold indexOfKey?
  rw [hlist]
  cases hd : Nat.toDigits 10 i with
  | nil => exact absurd hd Nat.toDigits_ne_nil
  | cons c rest =>
    have hc : (c != '0') = true := bne_iff_ne.2 (Decimal.ne_zero_of_toDigits_eq_cons hpos hd)
    dsimp only
    rw [← hd, hdigits, hc, Bool.or_true, Bool.and_true, if_pos rfl, Decimal.natOfDigits_toDigits]

theorem toString_of_indexOfKey? {key : String} {i : Nat} (h : indexOfKey? key = some i) :
    toString i = key := by
  unfold indexOfKey? at h
  split at h
  · cases h
  rename_i c rest hlist
  split at h
  · rename_i hc
    cases h
    rw [Bool.and_eq_true, Bool.or_eq_true, List.isEmpty_iff, bne_iff_ne] at hc
    rw [Nat.toString_eq_ofList_toDigits, Decimal.toDigits_natOfDigits hc.1 hc.2, ← hlist,
      String.ofList_toList]
  · cases h

/-- A key spells a position exactly if it is the plain spelling of it. -/
theorem indexOfKey?_eq_some_iff {key : String} {i : Nat} :
    indexOfKey? key = some i ↔ toString i = key :=
  ⟨toString_of_indexOfKey?, fun h => h ▸ indexOfKey?_toString i⟩

theorem toString_injective {i j : Nat} (h : toString i = toString j) : i = j :=
  Option.some.inj ((indexOfKey?_toString i).symm.trans (h ▸ indexOfKey?_toString j))

namespace Dict

variable {α : Type} {d : Dict α} {name : String} {a : α}

/-- Under different names the entries are found. -/
theorem get?_eq_some_iff (h : (keys d).Nodup) : get? d name = some a ↔ (name, a) ∈ d := by
  induction d with
  | nil => simp
  | cons e rest ih =>
    rw [keys, List.map_cons, List.nodup_cons] at h
    rw [get?_cons, List.mem_cons]
    split
    · rename_i he
      subst he
      have hout : (e.1, a) ∉ rest := fun hm => h.1 (List.mem_map.2 ⟨_, hm, rfl⟩)
      simp [hout, Prod.ext_iff, eq_comm]
    · rename_i he
      rw [ih h.2, or_iff_right fun hm => he (congrArg Prod.fst hm)]

end Dict

namespace Value

/-! ## Values under the spelling of their position -/

theorem getElem?_numbered (items : List Value) (i : Nat) :
    (numbered items)[i]? = items[i]?.map fun v => (toString i, v) := by
  rw [numbered, List.getElem?_map, List.getElem?_zipIdx, Option.map_map, Nat.zero_add]
  rfl

theorem mem_numbered_iff {items : List Value} {name : String} {v : Value} :
    (name, v) ∈ numbered items ↔ ∃ i : Nat, toString i = name ∧ items[i]? = some v := by
  rw [List.mem_iff_getElem?]
  simp only [getElem?_numbered, Option.map_eq_some_iff, Prod.mk.injEq]
  constructor
  · rintro ⟨i, w, hw, rfl, rfl⟩
    exact ⟨i, rfl, hw⟩
  · rintro ⟨i, rfl, hv⟩
    exact ⟨i, v, hv, rfl, rfl⟩

theorem keys_numbered (items : List Value) :
    Dict.keys (numbered items) = (List.range items.length).map toString := by
  rw [Dict.keys, numbered, List.map_map, List.range_eq_range', ← List.zipIdx_map_snd 0 items,
    List.map_map]
  rfl

theorem nodup_keys_numbered (items : List Value) : (Dict.keys (numbered items)).Nodup := by
  rw [keys_numbered]
  exact List.Pairwise.map toString (fun _ _ hne he => hne (toString_injective he)) List.nodup_range

/-- Among values under the spelling of their position a key finds the one in the position that it
    spells. -/
theorem get?_numbered (items : List Value) (name : String) :
    Dict.get? (numbered items) name = (indexOfKey? name).bind fun i => items[i]? := by
  apply Option.ext
  intro v
  rw [Dict.get?_eq_some_iff (nodup_keys_numbered items), mem_numbered_iff, Option.bind_eq_some_iff]
  simp only [indexOfKey?_eq_some_iff]

theorem contains_numbered (items : List Value) (name : String) : Dict.contains (numbered items) name =
    (indexOfKey? name).any fun i => decide (i < items.length) := by
  rw [Dict.contains, get?_numbered]
  cases indexOfKey? name with
  | none => rfl
  | some i =>
    rw [Option.bind_some, Option.any_some, Bool.eq_iff_iff]
    simp [Option.isSome_iff_ne_none]

theorem length_not_mem_keys_numbered (items : List Value) : "length" ∉ Dict.keys (numbered items) := by
  rw [← Dict.get?_eq_none_iff, get?_numbered]
  rfl

/-! ## Members -/

/-- Is the value an object, with different names, an array or a string? -/
def HasKeys : Value → Prop
  | object _ members => (Dict.keys members).Nodup
  | array .. | string _ => True
  | _ => False

section Members

variable {v : Value} {k : String}

theorem HasKeys.not_isNullish (h : v.HasKeys) : v.isNullish = false := by
  cases v <;> first | rfl | exact h.elim

theorem HasKeys.nodup (h : v.HasKeys) : (Dict.keys v.entries).Nodup := by
  cases v with
  | object _ members => exact h
  | array _ items => exact nodup_keys_numbered items
  | string s => exact nodup_keys_numbered _
  | _ => exact h.elim

/-- The members are the entries and the length of an array or a string. -/
theorem memberNamed_eq_get? (h : v.HasKeys)
    (hk : ¬ ((v.isArray = true ∨ v.isString = true) ∧ k = "length")) :
    v.memberNamed k = (Dict.get? v.entries k).getD undefined := by
  cases v with
  | object _ members => rfl
  | array _ items => rw [memberNamed, if_neg fun he => hk ⟨.inl rfl, he⟩, entries, get?_numbered]
  | string s =>
    rw [memberNamed, if_neg fun he => hk ⟨.inr rfl, he⟩, entries, get?_numbered]
    simp only [List.getElem?_map]
  | _ => exact h.elim

theorem member_eq_get? (h : v.HasKeys)
    (hk : ¬ ((v.isArray = true ∨ v.isString = true) ∧ k = "length")) :
    v.member (string k) = .ok ((Dict.get? v.entries k).getD undefined) := by
  rw [member_of_not_isNullish h.not_isNullish, toText_string, memberNamed_eq_get? h hk]

/-- The length of an array or a string is no entry. -/
theorem not_length_of_mem_keys (hk : k ∈ Dict.keys v.entries) :
    ¬ ((v.isArray = true ∨ v.isString = true) ∧ k = "length") := by
  rintro ⟨hv, rfl⟩
  cases v with
  | array _ items => exact length_not_mem_keys_numbered _ hk
  | string s => exact length_not_mem_keys_numbered _ hk
  | _ => rcases hv with hv | hv <;> cases hv

/-- With `in` the entries are found and the length of an array. -/
theorem within_eq (h : v.HasKeys) (k : String) : (string k).within v =
    if v.isString = true then .error (.noKeys k v.toText)
    else .ok (boolean (decide (k ∈ Dict.keys v.entries ∨ (v.isArray = true ∧ k = "length")))) := by
  have hmem : decide (k ∈ Dict.keys v.entries) = Dict.contains v.entries k := by
    rw [Bool.eq_iff_iff, decide_eq_true_iff, Dict.contains, Dict.get?_isSome_iff]
  rw [Bool.decide_or, hmem]
  cases v with
  | object _ members =>
    rw [decide_eq_false fun h => Bool.false_ne_true h.1, Bool.or_false]
    rfl
  | array _ items =>
    rw [entries, contains_numbered, Bool.or_comm]
    show Except.ok (boolean (decide ((string k).toText = "length") || _)) = _
    simp [isArray, isString, toText_string]
  | string s => rfl
  | _ => exact h.elim

end Members

/-! ## Listings -/

theorem list_keys (v : Value) (n : Nat) :
    ((list .keys v).run n).1 = array n (v.entries.map fun e => string e.1) := by
  have hpure : v.entries.mapM (listed .keys) = pure (v.entries.map fun e => string e.1) :=
    List.mapM_pure
  rw [list, hpure]
  rfl

theorem list_values (v : Value) (n : Nat) :
    ((list .values v).run n).1 = array n (v.entries.map Prod.snd) := by
  have hpure : v.entries.mapM (listed .values) = pure (v.entries.map Prod.snd) := List.mapM_pure
  rw [list, hpure]
  rfl

/-- A name and a value as a pair, which is an array of its own. -/
def IsPair (e : String × Value) (pair : Value) : Prop := ∃ id, pair = array id [string e.1, e.2]

theorem isPair_ofEntry (es : List (String × Value)) (n : Nat) :
    List.Forall₂ IsPair es ((es.mapM ofEntry).run n).1 := by
  induction es generalizing n with
  | nil => exact .nil
  | cons e es ih =>
    rw [List.mapM_cons]
    exact .cons ⟨n, rfl⟩ (ih (n + 1))

theorem list_entries (v : Value) (n : Nat) : ∃ id pairs, ((list .entries v).run n).1 = array id pairs ∧
    List.Forall₂ IsPair v.entries pairs :=
  ⟨_, _, rfl, isPair_ofEntry _ n⟩

/-- A listing is given for anything but undefined and null. -/
theorem run_listing {v : Value} (h : v.isNullish = false) (l : Listing) (t : Trace) :
    (((listing l v).run).run t).1 = .ok ((v.list l).run t.next).1 := by
  rw [listing, h, if_neg Bool.false_ne_true]
  rfl

/-! ## Agreement -/

/-- The names and the values that the listings of an object, an array or a string give, and how the
    members and `in` agree with them. -/
theorem own_keys_agree {v : Value} (h : v.HasKeys) :
    ∃ (names : List String) (values : List Value), names.length = values.length ∧
      (∀ host this args t, ∃ id, (((Native.keys.call host this (v :: args)).run).run t).1 =
        .ok (array id (names.map string))) ∧
      (∀ host this args t, ∃ id, (((Native.values.call host this (v :: args)).run).run t).1 =
        .ok (array id values)) ∧
      (∀ host this args t, ∃ id pairs, (((Native.entries.call host this (v :: args)).run).run t).1 =
        .ok (array id pairs) ∧ List.Forall₂ IsPair (names.zip values) pairs) ∧
      (∀ (i : Nat) k w, names[i]? = some k → values[i]? = some w → v.member (string k) = .ok w) ∧
      (∀ k, (string k).within v = if v.isString = true then .error (.noKeys k v.toText)
        else .ok (boolean (decide (k ∈ names ∨ (v.isArray = true ∧ k = "length"))))) ∧
      ∀ k, k ∉ names → ¬ ((v.isArray = true ∨ v.isString = true) ∧ k = "length") →
        v.member (string k) = .ok undefined := by
  have run := run_listing h.not_isNullish
  refine ⟨Dict.keys v.entries, v.entries.map Prod.snd, by simp [Dict.keys], ?keys, ?values, ?entries,
    ?members, within_eq h, ?others⟩
  case keys =>
    intro host this args t
    exact ⟨t.next, (run .keys t).trans (by rw [list_keys, Dict.keys, List.map_map]; rfl)⟩
  case values =>
    intro host this args t
    exact ⟨t.next, (run .values t).trans (by rw [list_values])⟩
  case entries =>
    intro host this args t
    obtain ⟨id, pairs, hlist, hpairs⟩ := list_entries v t.next
    refine ⟨id, pairs, (run .entries t).trans (by rw [hlist]), ?_⟩
    rwa [Dict.keys, List.zip_map', List.map_id']
  case members =>
    intro i k w hk hw
    rw [Dict.keys, List.getElem?_map, Option.map_eq_some_iff] at hk
    obtain ⟨e, hentry, rfl⟩ := hk
    rw [List.getElem?_map, hentry] at hw
    cases hw
    have hmem : e ∈ v.entries := List.mem_of_getElem? hentry
    have hkey : e.1 ∈ Dict.keys v.entries := List.mem_map.2 ⟨e, hmem, rfl⟩
    rw [member_eq_get? h (not_length_of_mem_keys hkey), (Dict.get?_eq_some_iff h.nodup).2 hmem]
    rfl
  case others =>
    intro k hk hlength
    rw [member_eq_get? h hlength, Dict.get?_eq_none_iff.2 hk]
    rfl

/-- The elements of an array are found under the plain spelling of their position only. -/
theorem own_keys_agree_array :
    let v := array 0 [null, boolean true]
    let find : String → Except TypeFault Value := fun k => (string k).within v
    v.HasKeys ∧ (((Native.keys.call (Documents.host []) undefined [v]).run).run ⟨1, []⟩).1 =
        .ok (array 1 [string "0", string "1"]) ∧
      find "1" = .ok (boolean true) ∧ find "length" = .ok (boolean true) ∧
      find "01" = .ok (boolean false) ∧ find "2" = .ok (boolean false) ∧
      v.member (string "1") = .ok (boolean true) ∧ v.member (string "+1") = .ok undefined := by
  intro v find
  obtain ⟨names, values, -, keys, listed, -, members, finds, others⟩ :=
    own_keys_agree (v := v) trivial
  obtain ⟨_, hkeys⟩ := keys (Documents.host []) undefined [] ⟨1, []⟩
  obtain ⟨_, hvalues⟩ := listed (Documents.host []) undefined [] ⟨1, []⟩
  have hnames : names.map string = ["0", "1"].map string :=
    (array.inj (Except.ok.inj hkeys)).2.symm
  obtain rfl : names = ["0", "1"] :=
    List.map_injective_iff.2 (fun _ _ h => string.inj h) hnames
  obtain rfl : values = [null, boolean true] := (array.inj (Except.ok.inj hvalues)).2.symm
  exact ⟨trivial, rfl, finds "1", finds "length", finds "01", finds "2", members 1 _ _ rfl rfl,
    others "+1" (by decide) (by decide)⟩

end Value

end DataBinding
