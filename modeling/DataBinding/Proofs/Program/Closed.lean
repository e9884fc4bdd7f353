import DataBinding.Proofs.Likeness.Closed
import DataBinding.Proofs.Likeness.Documents
import DataBinding.Proofs.Link.Reads
import DataBinding.Proofs.Link.Resolve
import DataBinding.Proofs.Program.Parts

/-!
# Compiled programs are closed

Linking leaves three kinds of names: parameters of arrow functions where these are in sight, direct
symbols, which the program is called with, and built-in values. So a run of a compiled program meets no
name without a value and no pipeline.

A symbol that is both direct and leveled is left out: its levels are names that nothing binds.

Results:

* `Config.mem_outside_of_recognize?`: a direct name is the name of a direct symbol.
* `Config.reads_closedRule`: linking leaves a closed tree.
* `Program.raises_of_call`: only the host reports an unbound name in a run of a compiled program.
-/

namespace DataBinding

namespace Config

variable {c : Config}

/-! ## Direct symbols -/

/-- No symbol is both direct and leveled. -/
def DirectUnleveled (c : Config) : Prop :=
  ∀ s ∈ c.symbols, ¬ (s.direct = true ∧ s.leveled = true)

instance (c : Config) : Decidable c.DirectUnleveled :=
  inferInstanceAs (Decidable (∀ s ∈ c.symbols, ¬ (s.direct = true ∧ s.leveled = true)))

/-- The names of direct symbols in compiled code. -/
def outside (c : Config) : List String := c.directNames.map ("$" ++ ·)

theorem recognizeLevelAt?_eq_some {cs : List Char} {i : Nat} {r : Recognized}
    (h : c.recognizeLevelAt? cs i = some r) :
    ∃ s ∈ c.symbols, s.leveled = true ∧ r.direct = s.direct := by
  unfold recognizeLevelAt? at h
  split at h
  · rename_i s hs
    split at h
    · rename_i hl
      cases h
      exact ⟨s, (find?_eq_some hs).1, hl, rfl⟩
    · cases h
  · cases h

/-- A name that stands for a direct symbol is its name after a dollar sign. -/
theorem mem_outside_of_recognize? (hl : c.DirectUnleveled) {raw : String} {r : Recognized}
    (h : c.recognize? raw = some r) (hd : r.direct = true) : raw ∈ c.outside := by
  obtain ⟨text, rfl⟩ := exists_dollar_of_recognize? h
  rw [recognize?_dollar] at h
  split at h
  · rename_i s hs
    cases h
    obtain ⟨hm, rfl⟩ := find?_eq_some hs
    exact List.mem_map_of_mem (List.mem_map_of_mem (List.mem_filter.2 ⟨hm, hd⟩))
  · obtain ⟨k, -, hk⟩ := List.exists_of_findSome?_eq_some h
    obtain ⟨s, hm, hlev, hdir⟩ := recognizeLevelAt?_eq_some hk
    exact absurd ⟨hdir ▸ hd, hlev⟩ (hl s hm)

/-! ## Names after linking -/

/-- Names are spelled as they are called, and the accessor is a symbol if it is one of them. -/
def sourceRule (c : Config) : NameRule :=
  ⟨fun _ _ s => s.raw = s.name ∧ (s.name = accessorName → c.isRecognized s.raw = true),
    fun _ => True, fun _ _ => True⟩

/-- Names are parameters in sight, symbols or built in. -/
def knownRule (c : Config) : NameRule :=
  ⟨fun scope _ s => s.raw = s.name ∧ (s.name ∈ scope ∨ c.isRecognized s.raw = true ∨
    isBuiltin s.name = true ∧ s.name ≠ accessorName), fun _ => True, fun _ _ => True⟩

theorem sourceRule_container (hv : c.validate = .ok ()) {scope : List String} {name : String}
    (h : c.IsContainer name) : c.sourceRule.name scope false (.ofName ("$" ++ name)) :=
  ⟨rfl, fun _ => isRecognized_of_mem (mem_names_of_validate hv h)⟩

/-- Resolving leaves known names only. -/
theorem resolves_knownRule (hv : c.validate = .ok ()) : c.Resolves c.sourceRule c.knownRule where
  name {scope callee s} hs hb := by
    refine ⟨hs.1, ?_⟩
    simp only [IsBound, Bool.or_eq_true, List.contains_iff_mem] at hb
    rcases hb with (hr | hb) | hm
    · exact .inr (.inl hr)
    · by_cases ha : s.name = accessorName
      · exact .inr (.inl (hs.2 ha))
      · exact .inr (.inr ⟨hb, ha⟩)
    · exact .inl hm
  container h := ⟨rfl, .inr (.inl (isRecognized_of_mem (mem_names_of_validate hv h)))⟩
  param _ := trivial
  call := trivial

/-- Of known names, writing reads as calls leaves those that a run has values for. -/
theorem reads_closedRule (hl : c.DirectUnleveled) : c.Reads c.knownRule (closedRule c.outside) where
  name {scope callee s} hs hr := by
    obtain ⟨hraw, hm | hk | ⟨hb, ha⟩⟩ := hs
    · exact .inl hm
    · by_cases hm : s.name ∈ scope
      · exact .inl hm
      · obtain ⟨r, hk⟩ := Option.isSome_iff_exists.1 hk
        cases hd : r.direct with
        | true => exact .inr (.inl (hraw ▸ mem_outside_of_recognize? hl hk hd))
        | false => simp [isReadSymbol_eq_true_iff.2 ⟨hm, r, hk, hd⟩] at hr
    · exact .inr (.inr ⟨hb, fun he => absurd he ha⟩)
  accessor := .inr (.inr ⟨isBuiltin_accessorName, fun _ => rfl⟩)
  param _ := trivial
  call _ := trivial
  read _ := trivial

end Config

/-! ## Compiled programs -/

namespace Linker

variable {c : Config} {source : String} {p : Program}

/-- The tree of a text in which the accessor is not named is closed. -/
theorem obeys_closedRule_of_linkTree {e tree : Expr} (hv : c.validate = .ok ())
    (hl : c.DirectUnleveled) (hn : ¬ NamesAccessor source) (he : Expr.parse source = .ok e)
    (h : c.linkTree e = .ok tree) : tree.Obeys (closedRule c.outside) [] false := by
  obtain ⟨r, hr, rfl⟩ := map_eq_ok_iff.1 h
  obtain ⟨ts, last, ht, -, hs, -⟩ := Expr.parse_sound he
  have admits : Expr.Admits c.sourceRule fun t => t ∈ ts ++ [last] := by
    refine ⟨fun hm hk => ?_, fun _ _ => trivial, fun _ _ => trivial⟩
    have hplain : Config.plainRule.name [] false _ := (Config.admits_plainRule ht hn).name hm hk
    obtain ⟨hraw, hne⟩ := hplain
    exact ⟨hraw, fun he => absurd he hne⟩
  have names : e.withoutPipeline.Obeys c.sourceRule [] false :=
    hs.obeys admits fun t hm => List.mem_append_left _ hm
  have resolved : r.Obeys c.knownRule [] false :=
    (Config.resolves_knownRule hv).obeys_resolved (Config.sourceRule_container hv) names hr
  exact (Config.reads_closedRule hl).obeys_withReads resolved

theorem compileChecked_closed (hv : c.validate = .ok ()) (hl : c.DirectUnleveled)
    (hn : ¬ NamesAccessor source) (h : (ofConfig c).compileChecked source = .ok p) :
    p.tree.Obeys (closedRule c.outside) [] false ∧ p.directNames = c.outside := by
  obtain ⟨e, linked, code, he, hlink, -, rfl⟩ := compileChecked_eq_ok_iff.1 h
  rw [link_ofConfig] at hlink
  obtain ⟨tree, ht, rfl⟩ := map_eq_ok_iff.1 hlink
  exact ⟨obeys_closedRule_of_linkTree hv hl hn he ht, rfl⟩

theorem compileSegment_closed (hv : c.validate = .ok ()) (hl : c.DirectUnleveled) {s : Segment}
    {part : Expr × List String} (hn : ∀ span, s = .expression span → ¬ NamesAccessor span)
    (h : (ofConfig c).compileSegment s = .ok part) :
    part.1.Obeys (closedRule c.outside) [] false := by
  cases s with
  | literal text =>
    cases h
    trivial
  | expression span =>
    obtain ⟨program, hp, h⟩ := bind_eq_ok_iff.1 h
    cases h
    exact (compileChecked_closed hv hl (hn span rfl) hp).1

theorem compileTemplate_closed (hl : c.DirectUnleveled) {segments : List Segment}
    (hs : Template.split source = .ok segments)
    (hn : ∀ span, .expression span ∈ segments → ¬ NamesAccessor span)
    (h : (ofConfig c).compileTemplate source = .ok p) :
    p.tree.Obeys (closedRule c.outside) [] false ∧ p.directNames = c.outside := by
  obtain ⟨hv, segments', parts, code, hs', hp, -, rfl⟩ := compileTemplate_eq_ok_iff.1 h
  cases hs.symm.trans hs'
  have closed : ∀ part ∈ parts, part.1.Obeys (closedRule c.outside) [] false :=
    forall_compileSegments (fun s hm part hc => compileSegment_closed hv hl
      (fun span he => hn span (he ▸ hm)) hc) hp
  refine ⟨?_, rfl⟩
  refine Expr.concatenate_of (P := fun e => e.Obeys (closedRule c.outside) [] false) trivial ?_
    (fun _ _ hleft hright => ⟨hleft, hright⟩) fun e he => ?_
  · intro e he
    cases e with
    | _ => exact he
  · obtain ⟨part, hm, rfl⟩ := List.mem_map.1 he
    exact closed part hm

/-- The tree of a compiled program is closed, and it is called with the direct symbols. -/
theorem Compiles.closed (h : (ofConfig c).Compiles p) (hl : c.DirectUnleveled) :
    p.tree.Obeys (closedRule c.outside) [] false ∧ p.directNames = c.outside := by
  cases h with
  | source h hn =>
    obtain ⟨hv, h⟩ := compile_eq_ok_iff.1 h
    exact compileChecked_closed hv hl hn h
  | template h hs hn => exact compileTemplate_closed hl hs hn h

end Linker

/-- A call of a compiled program ends because a name has no value, or because a pipeline was not
    written as calls, only if the host reports just this, where neither the host nor the values that the
    program is called with bring arrow functions of their own. -/
theorem Program.raises_of_call {c : Config} {p : Program} {host : Host} {direct : List Value}
    (hp : (Linker.ofConfig c).Compiles p) (hl : c.DirectUnleveled) (hh : host.IsClosed)
    (hd : ∀ v ∈ direct, ∀ f, ¬ v.Holds f) {next : Nat} {e : EvalError} (he : e.IsUnbound)
    (h : (Eval.start (p.call host direct) next).1 = .error (.error e)) : host.Raises e := by
  obtain ⟨closed, names⟩ := hp.closed hl
  unfold call at h
  split at h
  · cases h
    rcases he with he | ⟨name, he⟩ <;> cases he
  · rename_i hlen
    have bound : ∀ name ∈ c.outside,
        (Dict.get? (p.env host direct).bound name).isSome = true := fun name hm =>
      bound_isSome host (Decidable.not_not.1 hlen) (names ▸ hm)
    exact Expr.raises_of_eval hh (fun _ _ hb => hd _ (mem_of_bound hb)) bound closed he h

/-- A host that has no data in a callback of an array. -/
theorem Program.raises_of_call_callback : ∃ (p : Program) (host : Host),
    (Linker.ofConfig .standard).compile "a.map(x => b[x])" = .ok p ∧
      (Eval.start (p.call host [.undefined]) 1).1 = .error (.error (.notDefined "b")) ∧
      host.Raises (.notDefined "b") := by
  let host : Host := {
    read := fun _ keys =>
      if keys.length = 1 then return .array 0 [.string "k"] else throw (.notDefined "b")
    call := fun name _ _ => throw (.type (.notFunction name)) }
  have silent : ¬ NamesAccessor "a.map(x => b[x])" :=
    not_namesAccessor Expr.tokenize_callback (by simp [accessorName])
  have plain : ∀ f, ¬ (Value.array 0 [.string "k"]).Holds f :=
    Value.not_holds_of_like (.array _ (.cons (.string _) .nil))
  have closed : host.IsClosed := by
    refine ⟨fun tag keys n v hv => ?_, fun name this args n v hv => by cases hv⟩
    change (((if keys.length = 1 then return .array 0 [.string "k"] else throw (.notDefined "b") :
      Answer Value).run).run n).1 = .ok v at hv
    split at hv
    · cases hv
      exact fun f hf => absurd hf (plain f)
    · cases hv
  have given : ∀ v ∈ [Value.undefined], ∀ f, ¬ v.Holds f := by
    intro v hv
    obtain rfl := List.mem_singleton.1 hv
    exact Value.not_holds_of_like .undefined
  have outcome : (Eval.start (callback.call host [.undefined]) 1).1 =
      .error (.error (.notDefined "b")) := rfl
  exact ⟨callback, host, Linker.compile_callback, outcome,
    raises_of_call (.source Linker.compile_callback silent) (by decide) closed given
      (.inr ⟨"b", rfl⟩) outcome⟩

end DataBinding
