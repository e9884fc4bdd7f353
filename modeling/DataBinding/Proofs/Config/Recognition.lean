import DataBinding.Config.Symbols
import Mathlib.Data.List.Nodup
import Mathlib.Data.List.TakeDrop

/-!
# Which symbol a spelling stands for

A text after a dollar sign can be cut into a name and digits in several ways, since names may end in
digits themselves. The whole text counts as a name first; otherwise the cut with the longest leveled name
counts, and it leaves at least one digit.

Results:

* `Config.find?_eq_some_iff`: looking a symbol up by its name.
* `Config.forall_isDigit_drop_iff`: the cuts that leave digits only.
* `Config.recognizeLevel?_eq_some_iff`: the leveled symbol with the longest name.
* `Config.recognize?_eq_some_iff`: the symbol that a spelling stands for.
-/

namespace DataBinding

/-- The first result along a range is the one with the least number. -/
theorem findSome?_range_eq_some_iff {α : Type} {f : Nat → Option α} {n : Nat} {a : α} :
    (List.range n).findSome? f = some a ↔ ∃ k < n, f k = some a ∧ ∀ j < k, f j = none := by
  induction n with
  | zero => simp
  | succ n ih =>
    rw [List.range_succ, List.findSome?_append, List.findSome?_singleton, Option.or_eq_some_iff, ih,
      List.findSome?_eq_none_iff]
    simp only [List.mem_range]
    constructor
    · rintro (⟨k, hk, h⟩ | ⟨hnone, h⟩)
      · exact ⟨k, Nat.lt_succ_of_lt hk, h⟩
      · exact ⟨n, Nat.lt_succ_self n, h, hnone⟩
    · rintro ⟨k, hk, h, hnone⟩
      rcases Nat.lt_succ_iff_lt_or_eq.1 hk with hk | rfl
      · exact .inl ⟨k, hk, h, hnone⟩
      · exact .inr ⟨hnone, h⟩

namespace Config

variable {c : Config}

/-! ## Looking up -/

theorem find?_eq_some {name : String} {s : SymbolSpec} (h : c.find? name = some s) :
    s ∈ c.symbols ∧ s.name = name := by
  refine ⟨List.mem_reverse.1 (List.mem_of_find?_eq_some h), ?_⟩
  have := List.find?_some h
  exact beq_iff_eq.1 this

theorem find?_isSome_of_mem {name : String} (h : name ∈ c.names) : (c.find? name).isSome = true := by
  obtain ⟨s, hs, rfl⟩ := List.mem_map.1 h
  rw [find?, List.find?_isSome]
  exact ⟨s, List.mem_reverse.2 hs, by simp⟩

theorem find?_eq_none_iff {name : String} : c.find? name = none ↔ name ∉ c.names := by
  constructor
  · intro h hm
    have hsome := find?_isSome_of_mem hm
    rw [h] at hsome
    cases hsome
  · intro h
    rw [find?, List.find?_eq_none]
    intro s hs he
    exact h (beq_iff_eq.1 he ▸ List.mem_map_of_mem (List.mem_reverse.1 hs))

/-- Among symbols of different names the one with a name is found. -/
theorem find?_eq_some_iff (hn : c.names.Nodup) {name : String} {s : SymbolSpec} :
    c.find? name = some s ↔ s ∈ c.symbols ∧ s.name = name := by
  refine ⟨find?_eq_some, ?_⟩
  rintro ⟨hs, rfl⟩
  obtain ⟨s', hs'⟩ := Option.isSome_iff_exists.1 (find?_isSome_of_mem (List.mem_map_of_mem hs))
  obtain ⟨hm, hname⟩ := find?_eq_some hs'
  rw [hs', List.inj_on_of_nodup_map hn hm hs hname]

/-! ## Digits at the end -/

/-- The text is made of digits. -/
def IsDigits (text : String) : Prop := ∀ ch ∈ text.toList, ch.isDigit = true

/-- The text can be a level: digits, and at least one. -/
def IsLevel (text : String) : Prop := text ≠ "" ∧ IsDigits text

theorem trailingDigits_le (cs : List Char) : trailingDigits cs ≤ cs.length := by
  rw [← List.length_reverse]
  exact (List.takeWhile_prefix _).length_le

/-- The last characters are digits exactly if there are no more of them than counted. -/
theorem forall_isDigit_drop_iff {cs : List Char} {m : Nat} (hm : m ≤ cs.length) :
    (∀ ch ∈ cs.drop (cs.length - m), ch.isDigit = true) ↔ m ≤ trailingDigits cs := by
  have hmem : ∀ ch, ch ∈ cs.drop (cs.length - m) ↔ ch ∈ cs.reverse.take m := by
    intro ch
    rw [List.take_reverse, List.mem_reverse]
  simp only [hmem]
  constructor
  · intro h
    have hcount : trailingDigits cs = m + ((cs.reverse.drop m).takeWhile Char.isDigit).length := by
      rw [trailingDigits, ← List.take_append_drop m cs.reverse, List.takeWhile_append_of_pos h,
        List.length_append, List.length_take, List.length_reverse, Nat.min_eq_left hm,
        List.take_append_drop]
    omega
  · intro h ch hch
    have htake : cs.reverse.take m = (cs.reverse.takeWhile Char.isDigit).take m := by
      conv_lhs => rw [← List.takeWhile_append_dropWhile (p := Char.isDigit) (l := cs.reverse)]
      exact List.take_append_of_le_length h
    rw [htake] at hch
    exact List.all_eq_true.1 List.all_takeWhile ch (List.mem_of_mem_take hch)

/-! ## Levels -/

/-- The text is the name of a leveled symbol and a level. -/
structure IsCut (c : Config) (cs : List Char) (s : SymbolSpec) (level : String) : Prop where
  mem : s ∈ c.symbols
  leveled : s.leveled = true
  isLevel : IsLevel level
  append : cs = s.name.toList ++ level.toList

/-- A level has some of the digits at the end. -/
theorem IsCut.exists_length {cs : List Char} {s : SymbolSpec} {level : String}
    (h : c.IsCut cs s level) : ∃ k < trailingDigits cs, level.length = k + 1 := by
  obtain ⟨-, -, ⟨hne, hdigits⟩, rfl⟩ := h
  have hpos : level.length ≠ 0 := fun hz => hne (String.length_eq_zero_iff.1 hz)
  have hle : level.toList.length ≤ trailingDigits (s.name.toList ++ level.toList) := by
    rw [← forall_isDigit_drop_iff (by simp), List.length_append, Nat.add_sub_cancel, List.drop_left]
    exact hdigits
  rw [String.length_toList] at hle
  exact ⟨level.length - 1, by omega, by omega⟩

/-- The longer the name, the shorter the level. -/
theorem IsCut.length_add {cs : List Char} {s : SymbolSpec} {level : String} (h : c.IsCut cs s level) :
    s.name.length + level.length = cs.length := by
  rw [h.append, List.length_append, String.length_toList, String.length_toList]

/-- The cut of a text where the level has `k + 1` of the digits at the end. -/
theorem recognizeLevelAt?_eq_some_iff (hn : c.names.Nodup) {cs : List Char} {k : Nat}
    (hk : k < trailingDigits cs) {r : Recognized} :
    c.recognizeLevelAt? cs (cs.length - 1 - k) = some r ↔ ∃ s level, c.IsCut cs s level ∧
      level.length = k + 1 ∧ r = ⟨s.name, some level, s.direct⟩ := by
  have hlen := trailingDigits_le cs
  have hplace : cs.length - 1 - k = cs.length - (k + 1) := by omega
  rw [hplace, recognizeLevelAt?]
  constructor
  · intro h
    split at h
    · rename_i s hs
      obtain ⟨hm, hname⟩ := find?_eq_some hs
      split at h
      · rename_i hl
        cases h
        have hdrop : (cs.drop (cs.length - (k + 1))).length = k + 1 := by
          rw [List.length_drop]
          omega
        refine ⟨s, _, ⟨hm, hl, ⟨?_, ?_⟩, ?_⟩, ?_, rfl⟩
        · intro he
          rw [← String.length_eq_zero_iff, String.length_ofList, hdrop] at he
          cases he
        · rw [IsDigits, String.toList_ofList]
          exact (forall_isDigit_drop_iff (by omega)).2 hk
        · rw [hname, String.toList_ofList, String.toList_ofList, List.take_append_drop]
        · rw [String.length_ofList, hdrop]
      · cases h
    · cases h
  · rintro ⟨s, level, hcut, hlevel, rfl⟩
    have hsum := hcut.length_add
    have hlast : cs.length - (k + 1) = s.name.toList.length := by
      rw [String.length_toList]
      omega
    rw [hlast, hcut.append, List.take_left, List.drop_left, String.ofList_toList, String.ofList_toList,
      (find?_eq_some_iff hn).2 ⟨hcut.mem, rfl⟩]
    simp only [hcut.leveled, if_true]

/-- The leveled symbol with the longest name that leaves a level. -/
theorem recognizeLevel?_eq_some_iff (hn : c.names.Nodup) {cs : List Char} {r : Recognized} :
    c.recognizeLevel? cs = some r ↔ ∃ s level, c.IsCut cs s level ∧
      r = ⟨s.name, some level, s.direct⟩ ∧
      ∀ t rest, c.IsCut cs t rest → t.name.length ≤ s.name.length := by
  rw [recognizeLevel?, findSome?_range_eq_some_iff]
  constructor
  · rintro ⟨k, hk, h, hnone⟩
    obtain ⟨s, level, hcut, hlevel, rfl⟩ := (recognizeLevelAt?_eq_some_iff hn hk).1 h
    refine ⟨s, level, hcut, rfl, fun t rest ht => ?_⟩
    obtain ⟨j, hj, hrest⟩ := ht.exists_length
    -- a longer name would have been found before
    have hjk : ¬ j < k := by
      intro hlt
      have hfound := (recognizeLevelAt?_eq_some_iff hn hj).2 ⟨t, rest, ht, hrest, rfl⟩
      rw [hnone j hlt] at hfound
      cases hfound
    have h₁ := hcut.length_add
    have h₂ := ht.length_add
    omega
  · rintro ⟨s, level, hcut, rfl, hlongest⟩
    obtain ⟨k, hk, hlevel⟩ := hcut.exists_length
    refine ⟨k, hk, (recognizeLevelAt?_eq_some_iff hn hk).2 ⟨s, level, hcut, hlevel, rfl⟩, ?_⟩
    intro j hj
    rw [Option.eq_none_iff_forall_ne_some]
    intro r' hr'
    obtain ⟨t, rest, ht, hrest, -⟩ := (recognizeLevelAt?_eq_some_iff hn (Nat.lt_trans hj hk)).1 hr'
    have hle := hlongest t rest ht
    have h₁ := hcut.length_add
    have h₂ := ht.length_add
    omega

/-! ## Spellings -/

theorem toList_dollar (text : String) : ("$" ++ text).toList = '$' :: text.toList := by
  rw [String.toList_append]
  rfl

/-- What stands behind the dollar sign is the name of a symbol, or it has a level. -/
theorem recognize?_dollar (text : String) : c.recognize? ("$" ++ text) =
    match c.find? text with
    | some s => some ⟨s.name, none, s.direct⟩
    | none => c.recognizeLevel? text.toList := by
  rw [recognize?, toList_dollar]
  show (match c.find? (String.ofList text.toList) with
    | some s => (some ⟨s.name, none, s.direct⟩ : Option Recognized)
    | none => c.recognizeLevel? text.toList) = _
  rw [String.ofList_toList]

theorem exists_dollar_of_recognize? {raw : String} {r : Recognized} (h : c.recognize? raw = some r) :
    ∃ text, raw = "$" ++ text := by
  unfold recognize? at h
  split at h
  · rename_i cs hcs
    exact ⟨String.ofList cs, String.toList_inj.1 (by rw [hcs, toList_dollar, String.toList_ofList])⟩
  · cases h

/-- A text cut at a level is the name and the level. -/
theorem isCut_toList_iff {text level : String} {s : SymbolSpec} : c.IsCut text.toList s level ↔
    s ∈ c.symbols ∧ s.leveled = true ∧ IsLevel level ∧ text = s.name ++ level := by
  have happ : text.toList = s.name.toList ++ level.toList ↔ text = s.name ++ level := by
    rw [← String.toList_append, String.toList_inj]
  constructor
  · rintro ⟨hm, hl, hlevel, he⟩
    exact ⟨hm, hl, hlevel, happ.1 he⟩
  · rintro ⟨hm, hl, hlevel, he⟩
    exact ⟨hm, hl, hlevel, happ.2 he⟩

/-- Behind the dollar sign there is the name of a symbol, or else the longest name that leaves a level. -/
theorem recognize?_dollar_eq_some_iff (hn : c.names.Nodup) {text : String} {r : Recognized} :
    c.recognize? ("$" ++ text) = some r ↔
      (∃ s ∈ c.symbols, s.name = text ∧ r = ⟨s.name, none, s.direct⟩) ∨
      (text ∉ c.names ∧ ∃ s level, c.IsCut text.toList s level ∧
        r = ⟨s.name, some level, s.direct⟩ ∧
        ∀ t rest, c.IsCut text.toList t rest → t.name.length ≤ s.name.length) := by
  rw [recognize?_dollar]
  cases hfind : c.find? text with
  | some s =>
    obtain ⟨hm, hname⟩ := find?_eq_some hfind
    constructor
    · intro h
      cases h
      exact .inl ⟨s, hm, hname, rfl⟩
    · rintro (⟨s', hm', hname', rfl⟩ | ⟨hno, -⟩)
      · have hfind' := (find?_eq_some_iff hn).2 ⟨hm', hname'⟩
        cases hfind.symm.trans hfind'
        rfl
      · exact absurd (hname ▸ List.mem_map_of_mem hm) hno
  | none =>
    have hno := find?_eq_none_iff.1 hfind
    refine (recognizeLevel?_eq_some_iff hn).trans ⟨fun h => .inr ⟨hno, h⟩, ?_⟩
    rintro (⟨s, hm, rfl, -⟩ | ⟨-, h⟩)
    · exact absurd (List.mem_map_of_mem hm) hno
    · exact h

/-- If the whole text is no name, digits that a leveled name leaves are a level. -/
theorem forall_isCut_iff {text : String} (hno : text ∉ c.names) {n : Nat} :
    (∀ t rest, c.IsCut text.toList t rest → t.name.length ≤ n) ↔
      ∀ t ∈ c.symbols, t.leveled = true → ∀ rest, IsDigits rest → t.name ++ rest = text →
        t.name.length ≤ n := by
  constructor
  · intro h t ht hl rest hdigits he
    have hrest : rest ≠ "" := by
      rintro rfl
      rw [String.append_empty] at he
      exact hno (he ▸ List.mem_map_of_mem ht)
    exact h t rest (isCut_toList_iff.2 ⟨ht, hl, ⟨hrest, hdigits⟩, he.symm⟩)
  · intro h t rest hcut
    obtain ⟨ht, hl, hlevel, he⟩ := isCut_toList_iff.1 hcut
    exact h t ht hl rest hlevel.2 he.symm

/-- A spelling stands for a symbol exactly if it is a dollar sign, the name of that symbol and, for a
    leveled symbol, a level. With a level, the text after the dollar sign must not be the name of a symbol,
    and no leveled symbol with a longer name may leave digits only. -/
theorem recognize?_eq_some_iff (hn : c.names.Nodup) {raw : String} {r : Recognized} :
    c.recognize? raw = some r ↔ raw = "$" ++ (r.name ++ r.level.getD "") ∧
      ∃ s ∈ c.symbols, s.name = r.name ∧ s.direct = r.direct ∧
        (r.level = none ∨ ∃ level, r.level = some level ∧ IsLevel level ∧ s.leveled = true ∧
          r.name ++ level ∉ c.names ∧
          ∀ t ∈ c.symbols, t.leveled = true → ∀ rest, IsDigits rest →
            t.name ++ rest = r.name ++ level → t.name.length ≤ r.name.length) := by
  constructor
  · intro h
    obtain ⟨text, rfl⟩ := exists_dollar_of_recognize? h
    rcases (recognize?_dollar_eq_some_iff hn).1 h with
      ⟨s, hm, rfl, rfl⟩ | ⟨hno, s, level, hcut, rfl, hlongest⟩
    · exact ⟨by rw [Option.getD_none, String.append_empty], s, hm, rfl, rfl, .inl rfl⟩
    · obtain ⟨hm, hl, hlevel, rfl⟩ := isCut_toList_iff.1 hcut
      exact ⟨rfl, s, hm, rfl, rfl,
        .inr ⟨level, rfl, hlevel, hl, hno, (forall_isCut_iff hno).1 hlongest⟩⟩
  · rintro ⟨hraw, s, hm, hname, hdirect, hlevel⟩
    obtain ⟨name, level?, direct⟩ := r
    obtain rfl : s.name = name := hname
    obtain rfl : s.direct = direct := hdirect
    rw [hraw, recognize?_dollar_eq_some_iff hn]
    rcases hlevel with hlevel | ⟨level, hlevel, hislevel, hl, hno, hlongest⟩
    · obtain rfl : level? = none := hlevel
      exact .inl ⟨s, hm, String.append_empty.symm, rfl⟩
    · obtain rfl : level? = some level := hlevel
      exact .inr ⟨hno, s, level, isCut_toList_iff.2 ⟨hm, hl, hislevel, rfl⟩, rfl,
        (forall_isCut_iff hno).2 hlongest⟩

/-- Of three names that leave digits the longest leveled one counts. The longest of all is not leveled. -/
theorem recognize?_eq_some_competing :
    let c := ((standard.addLeveled "v").addLeveled "v1").addPlain "v12"
    c.names.Nodup ∧ c.recognize? "$v123" = some ⟨"v1", some "23", false⟩ ∧
      "v123" ∉ c.names ∧ ∀ t ∈ c.symbols, t.leveled = true → ∀ rest, IsDigits rest →
        t.name ++ rest = "v123" → t.name.length ≤ 2 := by
  intro c
  have hn : c.names.Nodup := by decide
  have hr : c.recognize? "$v123" = some ⟨"v1", some "23", false⟩ := by decide
  refine ⟨hn, hr, ?_⟩
  obtain ⟨-, s, -, -, -, hlevel⟩ := (recognize?_eq_some_iff hn).1 hr
  obtain ⟨level, hlevel, -, -, hname, hlongest⟩ := hlevel.resolve_left (by simp)
  cases hlevel
  exact ⟨hname, hlongest⟩

end Config

end DataBinding
