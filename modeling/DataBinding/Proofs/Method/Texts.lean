import DataBinding.Proofs.Decimal.Exact
import DataBinding.Proofs.Method.Searches
import DataBinding.Proofs.Text.Places

/-!
# Positions in strings

A search in a string answers a position, and a slice asks for two. Both count characters, and a string
shorter than two to the power of fifty-three has no position that is not an exact double, so that the
answer of the one is a bound for the other.

Results:

* `textAnswer_slice`: a slice, with a position before the bound from which it runs.
* `boundWithin_ofNat`, `boundWithin_lt`: an exact bound, and one below an exact position.
* `positions_agree`: what searches, prefixes, suffixes and slices of a string say of each other.
-/

namespace DataBinding

/-! ## Bounds -/

section Bounds

variable {α : Type} {xs ys : List α} {i n length default : Nat} {x : Float}

/-- A natural number is kept within the length and changed no further. -/
theorem boundWithin_ofNat (h : n < 2 ^ 53) (length : Nat) :
    boundWithin length (Float.ofNat n) = min n length := by
  rw [boundWithin, Decimal.toInt?_ofNat h]
  dsimp only
  rw [if_neg (by omega), Int.toNat_natCast]

/-- A number between zero and a position is a bound below it. -/
theorem boundWithin_lt (h : i < 2 ^ 53) (h0 : 0.0 ≤ x) (hx : x < Float.ofNat i) (length : Nat) :
    boundWithin length x < i := by
  obtain ⟨m, hm, hint⟩ := Decimal.toInt?_of_lt_ofNat h h0 hx
  rw [boundWithin, hint]
  dsimp only
  rw [if_neg (by omega), Int.toNat_natCast]
  omega

theorem slice_number (xs : List α) (x : Float) (stop : Value) :
    slice xs (.number x) stop = (xs.drop (boundWithin xs.length x)).take
      (sliceBound xs.length xs.length stop - boundWithin xs.length x) := rfl

/-- A slice is ahead where it starts. -/
theorem slice_isPrefix (xs : List α) (x : Float) (stop : Value) :
    slice xs (.number x) stop <+: xs.drop (boundWithin xs.length x) := List.take_prefix _ _

/-- A slice between two positions. -/
theorem slice_ofNat {k : Nat} (h : i + k ≤ xs.length) (hb : xs.length < 2 ^ 53) :
    slice xs (.number (Float.ofNat i)) (.number (Float.ofNat i + Float.ofNat k)) =
      (xs.drop i).take k := by
  have hstart := boundWithin_ofNat (n := i) (by omega) xs.length
  have hstop := boundWithin_ofNat (n := i + k) (by omega) xs.length
  show (xs.drop (boundWithin xs.length (Float.ofNat i))).take
    (boundWithin xs.length (Float.ofNat i + Float.ofNat k) - boundWithin xs.length (Float.ofNat i)) = _
  rw [Decimal.ofNat_add_ofNat (by omega), hstart, hstop, Nat.min_eq_left h,
    Nat.min_eq_left (by omega), Nat.add_sub_cancel_left]

/-- A slice from a bound to the end. -/
theorem slice_from (xs : List α) (x : Float) :
    slice xs (.number x) .undefined = xs.drop (boundWithin xs.length x) := by
  rw [slice_number, sliceBound, List.take_of_length_le]
  rw [List.length_drop]

/-- A slice from the start to a bound. -/
theorem slice_upTo (xs : List α) (x : Float) :
    slice xs (.number 0.0) (.number x) = xs.take (boundWithin xs.length x) := by
  have hzero : boundWithin xs.length 0.0 = 0 := by
    have h : (0.0 : Float) = Float.ofNat 0 := by decide +kernel
    rw [h, boundWithin_ofNat (by decide), Nat.zero_min]
  rw [slice_number, hzero]
  rfl

end Bounds

/-! ## Calls -/

/-- The outcome of calling a method of a string, from a trace on. -/
def textAnswer (call : Caller) (m : TextMethod) (s : String) (args : List Value) (tr : Trace) :
    Except Halt Value :=
  (callMember call (.string s) (.string m.name) args).outcome tr

/-- The length of a string, as its member. -/
def lengthOf (s : String) : Value := (Value.string s).memberNamed "length"

/-- Is it a boolean, and true just if `p` holds? -/
def Tells (answer : Except Halt Value) (p : Prop) : Prop :=
  ∃ b : Bool, answer = .ok (.boolean b) ∧ (b = true ↔ p)

theorem lengthOf_eq (s : String) : lengthOf s = .number (Float.ofNat s.toList.length) := by
  rw [String.length_toList]
  rfl

theorem ofChars_eq_string_iff {cs : List Char} {t : String} :
    Value.ofChars cs = .string t ↔ cs = t.toList := by
  rw [Value.ofChars, Value.string.injEq]
  constructor
  · rintro rfl
    rw [String.toList_ofList]
  · rintro rfl
    rw [String.ofList_toList]

section Calls

variable (call : Caller) (s t : String) (args : List Value) (tr : Trace)

theorem textMethod?_name (m : TextMethod) :
    (Value.string s).method? (Value.string m.name).toText = some (.text m s) := by
  rw [Value.toText_string]
  cases m <;> rfl

theorem textAnswer_eq (m : TextMethod) :
    textAnswer call m s args tr = (m.call call s args).outcome tr := by
  rw [textAnswer, callMember, textMethod?_name]
  rfl

theorem textAnswer_slice : textAnswer call .slice s args tr =
    .ok (.ofChars (slice s.toList (argument args 0) (argument args 1))) := by
  rw [textAnswer_eq]
  rfl

theorem argumentText_string : argumentText [.string t] 0 = t := Value.toText_string t

theorem textAnswer_indexOf : textAnswer call .indexOf s [.string t] tr =
    .ok (ofPosition? (Text.indexOf? t.toList s.toList)) := by
  rw [textAnswer_eq, TextMethod.call, argumentText_string]
  rfl

theorem textAnswer_includes : textAnswer call .includes s [.string t] tr =
    .ok (.boolean (Text.indexOf? t.toList s.toList).isSome) := by
  rw [textAnswer_eq, TextMethod.call, argumentText_string]
  rfl

theorem textAnswer_startsWith : textAnswer call .startsWith s [.string t] tr =
    .ok (.boolean (Text.startsWith t.toList s.toList)) := by
  rw [textAnswer_eq, TextMethod.call, argumentText_string]
  rfl

theorem textAnswer_endsWith : textAnswer call .endsWith s [.string t] tr =
    .ok (.boolean (Text.endsWith t.toList s.toList)) := by
  rw [textAnswer_eq, TextMethod.call, argumentText_string]
  rfl

end Calls

/-! ## Agreement -/

section Agreement

variable (call : Caller) {s : String} (t : String) (tr : Trace)

theorem textAnswer_slice_eq_iff {args : List Value} :
    textAnswer call .slice s args tr = .ok (.string t) ↔
      slice s.toList (argument args 0) (argument args 1) = t.toList := by
  rw [textAnswer_slice, Except.ok.injEq, ofChars_eq_string_iff]

/-- A string ends with another one if the slice of its length at the end is that one. -/
theorem tells_endsWith (hs : s.length < 2 ^ 53) :
    Tells (textAnswer call .endsWith s [.string t] tr) (t.length ≤ s.length ∧
      textAnswer call .slice s [.number ((lengthOf s).toNumber - (lengthOf t).toNumber)] tr =
        .ok (.string t)) := by
  rw [← String.length_toList] at hs
  rw [← String.length_toList, ← String.length_toList, textAnswer_slice_eq_iff]
  refine ⟨_, textAnswer_endsWith call s t tr, ?_⟩
  rw [Text.endsWith_iff, lengthOf_eq, lengthOf_eq]
  show _ ↔ _ ∧ slice s.toList (.number (Float.ofNat s.toList.length - Float.ofNat t.toList.length))
    .undefined = t.toList
  constructor
  · intro h
    have hle := h.length_le
    refine ⟨hle, ?_⟩
    rw [Decimal.ofNat_sub_ofNat hle hs, slice_from, boundWithin_ofNat (by omega),
      Nat.min_eq_left (Nat.sub_le _ _), ← List.suffix_iff_eq_drop.1 h]
  · rintro ⟨-, h⟩
    rw [← h, slice_from]
    exact List.drop_suffix _ _

/-- Two slices that meet at a bound make up the string, at whatever number they meet. -/
theorem slices_append (s : String) (n : Float) : ∃ a b : String,
    textAnswer call .slice s [.number 0.0, .number n] tr = .ok (.string a) ∧
    textAnswer call .slice s [.number n] tr = .ok (.string b) ∧ a ++ b = s := by
  refine ⟨_, _, textAnswer_slice call s _ tr, textAnswer_slice call s _ tr, ?_⟩
  show String.ofList (slice s.toList (.number 0.0) (.number n)) ++
    String.ofList (slice s.toList (.number n) .undefined) = s
  rw [slice_upTo, slice_from, ← String.ofList_append, List.take_append_drop, String.ofList_toList]

/-- What a search, a test for a prefix or a suffix, and the slices of a string say of each other, from
    one trace on and with any function to call. A position is the number that `indexOf` answers, and no
    number between zero and it, whole or not, is one for the slices. -/
theorem positions_agree (hs : s.length < 2 ^ 53) : ∃ i : Float,
    textAnswer call .indexOf s [.string t] tr = .ok (.number i) ∧
    Tells (textAnswer call .includes s [.string t] tr) (i ≠ -1.0) ∧
    (i ≠ -1.0 →
      textAnswer call .slice s [.number i, .add (.number i) (lengthOf t)] tr = .ok (.string t) ∧
      ∀ j : Float, 0.0 ≤ j → j < i →
        textAnswer call .slice s [.number j, .add (.number j) (lengthOf t)] tr ≠ .ok (.string t)) ∧
    Tells (textAnswer call .startsWith s [.string t] tr) (i = 0.0) ∧
    Tells (textAnswer call .endsWith s [.string t] tr) (t.length ≤ s.length ∧
      textAnswer call .slice s [.number ((lengthOf s).toNumber - (lengthOf t).toNumber)] tr =
        .ok (.string t)) ∧
    ∀ n : Float, ∃ a b : String,
      textAnswer call .slice s [.number 0.0, .number n] tr = .ok (.string a) ∧
      textAnswer call .slice s [.number n] tr = .ok (.string b) ∧ a ++ b = s := by
  have hends := tells_endsWith call t tr hs
  have hslices := slices_append call tr s
  have hindex := textAnswer_indexOf call s t tr
  have hincludes := textAnswer_includes call s t tr
  have hstarts := textAnswer_startsWith call s t tr
  rw [← String.length_toList] at hs
  cases h : Text.indexOf? t.toList s.toList with
  | none =>
    rw [h] at hindex hincludes
    refine ⟨-1.0, hindex, ⟨_, hincludes, by simp⟩, fun hne => absurd rfl hne,
      ⟨_, hstarts, ?_⟩, hends, hslices⟩
    rw [← Text.indexOf?_eq_zero_iff, h]
    exact iff_of_false (by simp) (by decide +kernel)
  | some k =>
    obtain ⟨hk, hprefix, hfirst⟩ := Text.indexOf?_eq_some_iff.1 h
    have hfit : k + t.toList.length ≤ s.toList.length := by
      have hle := hprefix.length_le
      rw [List.length_drop] at hle
      omega
    rw [h] at hindex hincludes
    refine ⟨Float.ofNat k, hindex, ⟨_, hincludes, ?_⟩, fun _ => ⟨?_, fun j h0 hj heq => ?_⟩,
      ⟨_, hstarts, ?_⟩, hends, hslices⟩
    · exact iff_of_true rfl (Decimal.ofNat_ne_neg_one k)
    · rw [textAnswer_slice_eq_iff, lengthOf_eq]
      exact (slice_ofNat hfit hs).trans (List.prefix_iff_eq_take.1 hprefix).symm
    · rw [textAnswer_slice_eq_iff] at heq
      have hlt := boundWithin_lt (Nat.lt_of_le_of_lt hk hs) h0 hj s.toList.length
      refine hfirst _ hlt ?_
      rw [← heq]
      exact slice_isPrefix s.toList j _
    · have hzero : (0.0 : Float) = Float.ofNat 0 := by decide +kernel
      rw [hzero, Decimal.ofNat_inj (Nat.lt_of_le_of_lt hk hs) (by decide), ← Text.indexOf?_eq_zero_iff,
        h, Option.some.injEq]

end Agreement

/-- The sixth position, which is not the sixth byte, is found in front of the end and nowhere before. -/
theorem positions_agree_accents :
    let call := (⟨Documents.host [], []⟩ : Env).call 1
    let answer (m : TextMethod) (args : List Value) := textAnswer call m "ñandú ñu" args ⟨0, []⟩
    answer .indexOf [.string "ñu"] = .ok (.number (Float.ofNat 6)) ∧
    answer .includes [.string "ñu"] = .ok (.boolean true) ∧
    answer .startsWith [.string "ñu"] = .ok (.boolean false) ∧
    answer .slice [.number (Float.ofNat 6), .add (.number (Float.ofNat 6)) (lengthOf "ñu")] =
      .ok (.string "ñu") ∧
    ∀ j : Float, 0.0 ≤ j → j < Float.ofNat 6 →
      answer .slice [.number j, .add (.number j) (lengthOf "ñu")] ≠ .ok (.string "ñu") := by
  intro call answer
  have hindex : answer .indexOf [.string "ñu"] = .ok (.number (Float.ofNat 6)) := rfl
  have hne := Decimal.ofNat_ne_neg_one 6
  obtain ⟨i, hi, ⟨found, hincludes, hfound⟩, hslice, ⟨ahead, hstarts, hahead⟩, -⟩ :=
    positions_agree call "ñu" ⟨0, []⟩ (s := "ñandú ñu") (by decide)
  obtain rfl : Float.ofNat 6 = i := Value.number.inj (Except.ok.inj (hindex.symm.trans hi))
  obtain rfl : found = true := hfound.2 hne
  obtain rfl : ahead = false := by
    rw [← Bool.not_eq_true, hahead]
    decide +kernel
  exact ⟨hindex, hincludes, hstarts, (hslice hne).1, (hslice hne).2⟩

end DataBinding
