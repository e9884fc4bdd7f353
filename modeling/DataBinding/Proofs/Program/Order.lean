import DataBinding.Proofs.Link.Order
import DataBinding.Proofs.Program.Parameters
import Mathlib.Data.List.Perm.Basic

/-!
# Programs for symbols in another order

The order of the symbols is that of the parameters, and nothing else: the program of a source has the same
tree, code and watchers. Its call binds values to names, so it does the same with the values in the order
of the new parameters.

Results:

* `Dict.ofList_perm`: the order of entries of different names does not matter.
* `exists_reorderedValues`: values can be put in the order of the new parameters.
* `Linker.compile_reordered`: programs and calls for symbols in another order.
-/

namespace DataBinding

/-! ## Bound values -/

namespace Dict

variable {α : Type}

/-- Dictionaries in order of their names are the same if the same is found in them. -/
theorem ext_of_get? {d d' : Dict α} (ho : (keys d).Pairwise (· < ·)) (ho' : (keys d').Pairwise (· < ·))
    (h : ∀ name, get? d name = get? d' name) : d = d' := by
  have nodup : ∀ {xs : List String}, xs.Pairwise (· < ·) → xs.Nodup := fun hx =>
    hx.imp fun hlt => String.ne_of_lt hlt
  have hkeys : (keys d).Perm (keys d') := by
    rw [List.perm_ext_iff_of_nodup (nodup ho) (nodup ho')]
    intro name
    rw [← get?_isSome_iff, ← get?_isSome_iff, h]
  have asymm : ∀ x y, x ∈ keys d → y ∈ keys d' → x < y → y < x → x = y := fun _ _ _ _ hlt hgt =>
    absurd hlt (String.lt_asymm hgt)
  refine ext_of_keys (hkeys.eq_of_pairwise asymm ho ho') ho fun name a a' ha ha' => ?_
  rw [h name] at ha
  exact Option.some.inj (ha.symm.trans ha')

/-- The order of entries of different names does not matter. -/
theorem ofList_perm {entries entries' : List (String × α)} (hp : entries.Perm entries')
    (hn : (entries.map Prod.fst).Nodup) : ofList entries = ofList entries' := by
  refine ext_of_get? (keys_ofList_pairwise _) (keys_ofList_pairwise _) fun name => ?_
  apply Option.ext
  intro a
  rw [get?_ofList_eq_some_iff hn, get?_ofList_eq_some_iff ((hp.map _).nodup_iff.1 hn), hp.mem_iff]

end Dict

/-! ## Values in order -/

/-- A list whose images can be put in an order can be put in that order. -/
theorem exists_perm_map_eq {α β : Type} {f : α → β} {xs : List α} {ys : List β}
    (h : ys.Perm (xs.map f)) : ∃ xs' : List α, xs'.map f = ys ∧ xs'.Perm xs := by
  have himage : List.Forall₂ (fun y x => y = f x) (xs.map f) xs :=
    List.forall₂_map_left_iff.2 (List.forall₂_same.2 fun _ _ => rfl)
  obtain ⟨xs', hxs', hp⟩ := List.perm_comp_forall₂ h himage
  have he : List.Forall₂ Eq ys (xs'.map f) := List.forall₂_map_right_iff.2 hxs'
  rw [List.forall₂_eq_eq_eq] at he
  exact ⟨xs', he.symm, hp⟩

/-- The second values belong to the names `names'` as the first ones belong to `names`. -/
structure ReorderedValues (names names' : List String) (values values' : List Value) : Prop where
  length_eq : values'.length = values.length
  zip_perm : (names.zip values).Perm (names'.zip values')

/-- Values can be put in the order of their names. -/
theorem exists_reorderedValues {names names' : List String} (hp : names'.Perm names)
    {values : List Value} (hl : names.length = values.length) :
    ∃ values', ReorderedValues names names' values values' := by
  rw [← List.map_fst_zip (Nat.le_of_eq hl)] at hp
  obtain ⟨entries, hnames, hentries⟩ := exists_perm_map_eq hp
  refine ⟨entries.map Prod.snd, ?_, ?_⟩
  · rw [List.length_map, hentries.length_eq, List.length_zip, hl, Nat.min_self]
  · rw [← List.zip_of_prod hnames rfl]
    exact hentries.symm

/-- Programs of one tree do the same if they are called with the same values for the same names. -/
theorem Program.call_reordered {p q : Program} (ht : q.tree = p.tree) (hn : p.directNames.Nodup)
    (hp : q.directNames.Perm p.directNames) (host : Host) {direct direct' : List Value}
    (h : ReorderedValues p.directNames q.directNames direct direct') :
    q.call host direct' = p.call host direct := by
  by_cases hlen : p.directNames.length = direct.length
  · have hfirst : ((p.directNames.zip direct).map Prod.fst).Nodup := by
      rw [List.map_fst_zip (Nat.le_of_eq hlen)]
      exact hn
    have henv : q.env host direct' = p.env host direct := by
      rw [env, env, Dict.ofList_perm h.zip_perm hfirst]
    have hlen' : q.directNames.length = direct'.length := by
      rw [hp.length_eq, h.length_eq, hlen]
    rw [call_eq hlen, call_eq hlen', henv, ht]
  · have hlen' : ¬ q.directNames.length = direct'.length := by
      rw [hp.length_eq, h.length_eq]
      exact hlen
    rw [call, call, if_pos hlen, if_pos hlen', hp.length_eq, h.length_eq]

/-! ## Compiling -/

namespace Linker

variable {c c' : Config}

theorem link_reordered (h : c.Reordered c') (hn : c.names.Nodup) (e : Expr) :
    (ofConfig c').link e = (ofConfig c).link e := by
  rw [link_ofConfig, link_ofConfig, h.linkTree_eq hn]

theorem compileChecked_reordered (h : c.Reordered c') (hn : c.names.Nodup) (source : String) :
    (ofConfig c').compileChecked source =
      ((ofConfig c).compileChecked source).map fun p => { p with parameters := c'.parameters } := by
  rw [compileChecked, compileChecked]
  cases (Expr.parse source).mapError CompileError.parse with
  | error e => rfl
  | ok e =>
    show ((ofConfig c').link e).mapError _ >>= _ = (((ofConfig c).link e).mapError _ >>= _).map _
    rw [link_reordered h hn]
    cases ((ofConfig c).link e).mapError CompileError.link with
    | error e => rfl
    | ok linked =>
      show linked.tree.print.mapError _ >>= _ = (linked.tree.print.mapError _ >>= _).map _
      cases linked.tree.print.mapError CompileError.print with
      | error e => rfl
      | ok code => rfl

theorem compileSegment_reordered (h : c.Reordered c') (hn : c.names.Nodup) (s : Segment) :
    (ofConfig c').compileSegment s = (ofConfig c).compileSegment s := by
  cases s with
  | literal text => rfl
  | expression source =>
    rw [compileSegment, compileSegment, compileChecked_reordered h hn]
    cases (ofConfig c).compileChecked source with
    | error e => rfl
    | ok p => rfl

theorem compileSegments_reordered (h : c.Reordered c') (hn : c.names.Nodup) (segments : List Segment) :
    (ofConfig c').compileSegments segments = (ofConfig c).compileSegments segments := by
  induction segments with
  | nil => rfl
  | cons s rest ih =>
    rw [compileSegments, compileSegments, compileSegment_reordered h hn, ih]

theorem compileTemplate_reordered (h : c.Reordered c') (hv : c.validate = .ok ()) (source : String) :
    (ofConfig c').compileTemplate source =
      ((ofConfig c).compileTemplate source).map fun p => { p with parameters := c'.parameters } := by
  have hpass : (ofConfig c).config.validate = .ok () := hv
  have hpass' : (ofConfig c').config.validate = .ok () := h.validate hv
  rw [compileTemplate, compileTemplate, hpass, hpass']
  show (Template.split source).mapError _ >>= _ = ((Template.split source).mapError _ >>= _).map _
  cases (Template.split source).mapError CompileError.template with
  | error e => rfl
  | ok segments =>
    show (ofConfig c').compileSegments segments >>= _ =
      ((ofConfig c).compileSegments segments >>= _).map _
    rw [compileSegments_reordered h (Config.names_nodup hv)]
    cases (ofConfig c).compileSegments segments with
    | error e => rfl
    | ok parts =>
      show (Expr.concatenate (parts.map Prod.fst)).print.mapError _ >>= _ =
        ((Expr.concatenate (parts.map Prod.fst)).print.mapError _ >>= _).map _
      cases (Expr.concatenate (parts.map Prod.fst)).print.mapError CompileError.print with
      | error e => rfl
      | ok code => rfl

theorem compile_source_reordered (h : c.Reordered c') (hv : c.validate = .ok ()) (source : String) :
    (ofConfig c').compile source =
      ((ofConfig c).compile source).map fun p => { p with parameters := c'.parameters } := by
  have hpass : (ofConfig c).config.validate = .ok () := hv
  have hpass' : (ofConfig c').config.validate = .ok () := h.validate hv
  rw [compile_of_validate hpass, compile_of_validate hpass',
    compileChecked_reordered h (Config.names_nodup hv)]

/-- With the symbols of a configuration that passes in another order, a source or a template fails as
    before, or its program has the same tree, code and watchers. The parameters are the accessor and the
    direct symbols in the new order. Values can be put in this order, and a call with them is the call with
    the values as they were: the same reads in a row, and the same result. -/
theorem compile_reordered (hv : c.validate = .ok ()) (h : c.Reordered c') :
    c'.validate = .ok () ∧
      (∀ source, (ofConfig c').compile source =
        ((ofConfig c).compile source).map fun p => { p with parameters := c'.parameters }) ∧
      (∀ source, (ofConfig c').compileTemplate source =
        ((ofConfig c).compileTemplate source).map fun p => { p with parameters := c'.parameters }) ∧
      c'.parameters = accessorName :: (c'.symbols.filter SymbolSpec.direct).map (fun s => "$" ++ s.name) ∧
      (c'.symbols.filter SymbolSpec.direct).Perm (c.symbols.filter SymbolSpec.direct) ∧
      ∀ source p, (ofConfig c).compile source = .ok p ∨ (ofConfig c).compileTemplate source = .ok p →
        (∀ direct, p.directNames.length = direct.length →
          ∃ direct', ReorderedValues p.directNames c'.outside direct direct') ∧
        ∀ host direct direct', ReorderedValues p.directNames c'.outside direct direct' →
          Program.call { p with parameters := c'.parameters } host direct' = p.call host direct := by
  have parameters : c'.parameters =
      accessorName :: (c'.symbols.filter SymbolSpec.direct).map (fun s => "$" ++ s.name) := by
    rw [Config.parameters, Config.directNames, List.map_map]
    rfl
  refine ⟨h.validate hv, compile_source_reordered h hv, compileTemplate_reordered h hv, parameters,
    h.symbols.filter _, fun source p hp => ?_⟩
  have names : p.directNames = c.outside := directNames_of_compiled hp
  have order : c'.outside.Perm p.directNames := names ▸ h.directNames_perm.map _
  have nodup : p.directNames.Nodup := names ▸ Config.outside_nodup hv
  refine ⟨fun direct hlen => exists_reorderedValues order hlen, fun host direct direct' hvalues => ?_⟩
  exact Program.call_reordered (p := p) (q := { p with parameters := c'.parameters }) rfl nodup order
    host hvalues

/-- The order of two direct symbols turned around, and that of two leveled ones that both leave digits -/
theorem compile_reordered_reverse :
    let c := (Config.standard.addLeveled "scope1").addDirect "d"
    let c' : Config := { c with symbols := c.symbols.reverse }
    c.validate = .ok () ∧ c.Reordered c' ∧ c'.parameters = ["$_get_by_any", "$d", "$hooks"] ∧
      ∃ p, (ofConfig c).compile "$scope12[$d]" = .ok p ∧ p.watchers = ["scope12"] ∧
        (ofConfig c').compile "$scope12[$d]" = .ok { p with parameters := c'.parameters } ∧
        ∀ host v w, Program.call { p with parameters := c'.parameters } host [w, v] = p.call host [v, w] := by
  intro c c'
  have hv : c.validate = .ok () := rfl
  have h : c.Reordered c' := ⟨List.reverse_perm _, rfl, rfl, rfl, rfl⟩
  have tokens : tokenize "$scope12[$d]" = .ok [⟨.name "$scope12", "$scope12", 0⟩,
      ⟨.punct .openBracket, "[", 8⟩, ⟨.name "$d", "$d", 9⟩, ⟨.punct .closeBracket, "]", 11⟩,
      ⟨.eof, "", 12⟩] := by
    rw [tokenize_eq_ok_iff]
    iterate 4 refine Cursor.scan_cons rfl rfl ?_
    exact Cursor.scan_last rfl rfl
  have tree : Expr.parse "$scope12[$d]" = .ok (.index (.ofName "$scope12") (.ofName "$d")) := by
    rw [Expr.parse, Tokens.ofSource_of_tokenize tokens]
    cbv
  let linkedTree : Expr :=
    .call (.ofName accessorName) [.ofString "scope12", .ofName "$d"]
  have linked : (ofConfig c).link (.index (.ofName "$scope12") (.ofName "$d")) =
      .ok ⟨linkedTree, linkedTree.watchers⟩ := rfl
  have watchers : linkedTree.watchers = ["scope12"] := by cbv
  have compiled := compile_eq_ok_iff.2 ⟨hv, compileChecked_eq_ok_iff.2 ⟨_, _, _, tree, linked, rfl, rfl⟩⟩
  obtain ⟨-, sources, -, parameters, -, calls⟩ := compile_reordered hv h
  refine ⟨hv, h, parameters, _, compiled, watchers, ?_, fun host v w => ?_⟩
  · rw [sources, compiled]
    rfl
  · exact (calls _ _ (.inl compiled)).2 host [v, w] [w, v] ⟨rfl, List.Perm.swap _ _ _⟩

end Linker

end DataBinding
