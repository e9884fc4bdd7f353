import DataBinding.Proofs.Program.Closed
import Mathlib.Data.List.Nodup

/-!
# Parameters and direct symbols

A compiled program has a parameter for each direct symbol, spelled as a source spells the symbol. So
the spellings that are recognized as direct symbols are the parameters after the accessor, and a call
binds each of them to the value in its place.

Two configurations pass for which this fails: one with a direct symbol that is also leveled, whose
levels are recognized and have no parameter, and one with a direct symbol that is called like the
accessor, which is then a parameter twice.

Results:

* `Config.exists_direct_iff`: the spellings that are recognized as direct symbols without a level.
* `Config.parameters_nodup`: the parameters are different.
* `Dict.get?_ofList_eq_some_iff`: what is found among entries of different names.
* `Config.parameters_eq_direct`: recognition, parameters and bound values agree.
-/

namespace DataBinding

namespace Config

variable {c : Config}

theorem directNames_sublist (c : Config) : c.directNames.Sublist c.names :=
  (List.filter_sublist).map _

/-- A dollar sign keeps names apart. -/
theorem dollar_injective : Function.Injective fun name : String => "$" ++ name := by
  intro a b h
  have hl := congrArg String.toList h
  rw [String.toList_append, String.toList_append] at hl
  exact String.toList_inj.1 (List.append_cancel_left hl)

theorem directNames_nodup (hv : c.validate = .ok ()) : c.directNames.Nodup :=
  (names_nodup hv).sublist c.directNames_sublist

theorem outside_nodup (hv : c.validate = .ok ()) : c.outside.Nodup :=
  (directNames_nodup hv).map dollar_injective

/-- The parameters of a configuration that passes are different, unless a direct symbol is called like
    the accessor. -/
theorem parameters_nodup (hv : c.validate = .ok ()) (ha : "_get_by_any" ∉ c.directNames) :
    c.parameters.Nodup := by
  refine List.nodup_cons.2 ⟨fun hm => ?_, outside_nodup hv⟩
  obtain ⟨name, hn, he⟩ := List.mem_map.1 hm
  have hname : name = "_get_by_any" := dollar_injective he
  exact ha (hname ▸ hn)

/-- The name of a direct symbol after a dollar sign is recognized as that symbol. -/
theorem exists_direct_of_mem_outside (hv : c.validate = .ok ()) {raw : String}
    (h : raw ∈ c.outside) : ∃ r, c.recognize? raw = some r ∧ r.direct = true := by
  obtain ⟨name, hn, rfl⟩ := List.mem_map.1 h
  obtain ⟨s, hs, rfl⟩ := List.mem_map.1 hn
  obtain ⟨hm, hd⟩ := List.mem_filter.1 hs
  refine ⟨⟨s.name, none, s.direct⟩, ?_, hd⟩
  rw [recognize?_dollar, (find?_eq_some_iff (names_nodup hv)).2 ⟨hm, rfl⟩]

/-- The spellings that are recognized as direct symbols are the names of the direct symbols after a
    dollar sign, if no direct symbol is leveled. -/
theorem exists_direct_iff (hv : c.validate = .ok ()) (hl : c.DirectUnleveled) {raw : String} :
    (∃ r, c.recognize? raw = some r ∧ r.direct = true) ↔ raw ∈ c.outside := by
  constructor
  · rintro ⟨r, hr, hd⟩
    exact mem_outside_of_recognize? hl hr hd
  · exact exists_direct_of_mem_outside hv

end Config

/-! ## Bound values -/

namespace Dict

variable {α : Type}

/-- Entries of other names do not change what is found. -/
theorem get?_foldl_of_not_mem {entries : List (String × α)} {name : String}
    (h : name ∉ entries.map Prod.fst) (d : Dict α) :
    get? (entries.foldl (fun d e => insert d e.1 e.2) d) name = get? d name := by
  induction entries generalizing d with
  | nil => rfl
  | cons e rest ih =>
    rw [List.map_cons, List.mem_cons, not_or] at h
    rw [List.foldl_cons, ih h.2, get?_insert_of_ne d e.2 h.1]

/-- Among entries of different names each is found by its name. -/
theorem get?_ofList_of_mem {entries : List (String × α)} (hn : (entries.map Prod.fst).Nodup)
    {name : String} {a : α} (h : (name, a) ∈ entries) : get? (ofList entries) name = some a := by
  have fold : ∀ d : Dict α,
      get? (entries.foldl (fun d e => insert d e.1 e.2) d) name = some a := by
    induction entries with
    | nil => cases h
    | cons e rest ih =>
      intro d
      rw [List.map_cons, List.nodup_cons] at hn
      rw [List.foldl_cons]
      rcases List.mem_cons.1 h with rfl | hm
      · rw [get?_foldl_of_not_mem hn.1, get?_insert_self]
      · exact ih hn.2 hm _
  exact fold []

/-- Among entries of different names what is found are the entries. -/
theorem get?_ofList_eq_some_iff {entries : List (String × α)} (hn : (entries.map Prod.fst).Nodup)
    {name : String} {a : α} : get? (ofList entries) name = some a ↔ (name, a) ∈ entries :=
  ⟨mem_of_get?_ofList, get?_ofList_of_mem hn⟩

theorem keys_ofList_pairwise (entries : List (String × α)) :
    (keys (ofList entries)).Pairwise (· < ·) := by
  have fold : ∀ (entries : List (String × α)) (d : Dict α), (keys d).Pairwise (· < ·) →
      (keys (entries.foldl (fun d e => insert d e.1 e.2) d)).Pairwise (· < ·) := by
    intro entries
    induction entries with
    | nil => exact fun _ h => h
    | cons e rest ih => exact fun d h => ih _ (keys_insert_pairwise e.1 e.2 h)
  exact fold entries [] .nil

end Dict

/-- A call binds every name of different ones to the value in its place. -/
theorem Program.bound_getElem? {p : Program} (host : Host) {direct : List Value}
    (hlen : p.directNames.length = direct.length) (hn : p.directNames.Nodup) {i : Nat} {name : String}
    {v : Value} (hname : p.directNames[i]? = some name) (hv : direct[i]? = some v) :
    Dict.get? (p.env host direct).bound name = some v := by
  refine Dict.get?_ofList_of_mem ?_ ?_
  · rw [List.map_fst_zip (Nat.le_of_eq hlen)]
    exact hn
  · refine List.mem_iff_getElem?.2 ⟨i, ?_⟩
    rw [List.getElem?_zip_eq_some]
    exact ⟨hname, hv⟩

/-- The parameters of compiled programs have the configured names. -/
theorem Linker.parameters_of_compiled {c : Config} {source : String} {p : Program}
    (h : (ofConfig c).compile source = .ok p ∨ (ofConfig c).compileTemplate source = .ok p) :
    p.parameters = c.parameters := by
  rcases h with h | h
  · obtain ⟨-, h⟩ := compile_eq_ok_iff.1 h
    obtain ⟨e, linked, code, -, -, -, rfl⟩ := compileChecked_eq_ok_iff.1 h
    rfl
  · obtain ⟨-, segments, parts, code, -, -, -, rfl⟩ := compileTemplate_eq_ok_iff.1 h
    rfl

/-- Compiled programs are called with the direct symbols. -/
theorem Linker.directNames_of_compiled {c : Config} {source : String} {p : Program}
    (h : (ofConfig c).compile source = .ok p ∨ (ofConfig c).compileTemplate source = .ok p) :
    p.directNames = c.outside := by
  rw [Program.directNames, parameters_of_compiled h]
  rfl

/-- For a configuration that passes, in which no direct symbol is leveled or called like the accessor:
    the parameters are different, the spellings recognized as direct symbols are the parameters after
    the accessor, and the call of a compiled program with a value for each of them binds every such
    spelling to the value in its place. -/
theorem Config.parameters_eq_direct {c : Config} (hv : c.validate = .ok ())
    (hl : c.DirectUnleveled) (ha : "_get_by_any" ∉ c.directNames) :
    c.parameters.Nodup ∧
      (∀ raw, (∃ r, c.recognize? raw = some r ∧ r.direct = true) ↔ raw ∈ c.parameters.tail) ∧
      ∀ source p, (Linker.ofConfig c).compile source = .ok p ∨
          (Linker.ofConfig c).compileTemplate source = .ok p →
        ∀ (host : Host) (direct : List Value), p.directNames.length = direct.length →
          ∀ raw r, c.recognize? raw = some r → r.direct = true →
            ∃ (i : Nat) (v : Value), p.directNames[i]? = some raw ∧ direct[i]? = some v ∧
              Dict.get? (p.env host direct).bound raw = some v := by
  have nodup := parameters_nodup hv ha
  refine ⟨nodup, fun raw => exists_direct_iff hv hl, ?_⟩
  intro source p hp host direct hlen raw r hr hd
  have names : p.directNames = c.outside := Linker.directNames_of_compiled hp
  have hraw : raw ∈ p.directNames := names ▸ mem_outside_of_recognize? hl hr hd
  obtain ⟨i, hi⟩ := List.mem_iff_getElem?.1 hraw
  have hlt : i < direct.length := hlen ▸ (List.getElem?_eq_some_iff.1 hi).1
  have different : p.directNames.Nodup := names ▸ outside_nodup hv
  exact ⟨i, direct[i], hi, List.getElem?_eq_getElem hlt,
    Program.bound_getElem? host hlen different hi (List.getElem?_eq_getElem hlt)⟩

/-- Two direct symbols, one of which has a digit in its name -/
theorem Config.parameters_eq_direct_pair :
    let c := ((standard.addDirect "hooks2").addDirect "d")
    c.validate = .ok () ∧ c.DirectUnleveled ∧ "_get_by_any" ∉ c.directNames ∧
      c.parameters = ["$_get_by_any", "$hooks", "$hooks2", "$d"] ∧ c.parameters.Nodup ∧
      ∀ raw, (∃ r, c.recognize? raw = some r ∧ r.direct = true) ↔
        raw ∈ ["$hooks", "$hooks2", "$d"] := by
  intro c
  have hv : c.validate = .ok () := rfl
  have hl : c.DirectUnleveled := by decide
  have ha : "_get_by_any" ∉ c.directNames := by decide
  obtain ⟨nodup, iff, -⟩ := Config.parameters_eq_direct hv hl ha
  exact ⟨hv, hl, ha, rfl, nodup, iff⟩

/-- A direct symbol that is leveled has levels that are recognized as direct and are no parameters, and
    one that is called like the accessor is a parameter twice. -/
theorem Config.parameters_ne_direct :
    (∃ c : Config, c.validate = .ok () ∧
      c.recognize? "$d2" = some ⟨"d", some "2", true⟩ ∧ "$d2" ∉ c.parameters) ∧
    ∃ c : Config, c.validate = .ok () ∧ ¬ c.parameters.Nodup := by
  refine ⟨⟨standard.add ⟨"d", true, true⟩, rfl, by decide, by decide⟩,
    standard.addDirect "_get_by_any", rfl, by decide⟩

end DataBinding
