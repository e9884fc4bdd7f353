import DataBinding.Proofs.Link.Reads
import DataBinding.Proofs.Link.Renaming
import DataBinding.Proofs.Link.Resolve
import DataBinding.Proofs.Printing.Source
import DataBinding.Proofs.Printing.Text
import DataBinding.Proofs.Printing.Total
import DataBinding.Proofs.Program.Parts

/-!
# Compiled code is read back

Linking keeps a tree legible: what it puts in the place of a name binds as tightly as the name, and the
names and strings that it inserts are tokens. So the code of a program is parsed as its tree, but for the
member names that come from a name like `$1`, which are printed as computed string keys.

Results:

* `Config.standsFor_resolve`, `Config.standsFor_reading`: what linking puts in the place of a tree.
* `Config.legible_linkTree`: the linked tree of a source is legible.
* `Linker.exists_compile_eq`: what is parsed and linked has a text, so it is compiled.
* `Program.parse_code`: the code of a program is parsed as its tree with the keys read.
* `Program.parse_code_numeral`: a member name that is no identifier is read back as a computed key.
-/

namespace DataBinding

/-- The second tree is legible and binds as tightly as the first. -/
structure Expr.StandsFor (e r : Expr) : Prop where
  legible : r.Legible
  tightness : r.tightness = e.tightness

namespace Config

variable {c : Config}

/-! ## Inserted names -/

theorem isToken_accessorName : IsToken accessorName (.name accessorName) := by
  have htoken : IsToken ("$" ++ "_get_by_any") (.name ("$" ++ "_get_by_any")) :=
    isToken_dollar rfl
  exact htoken

theorem isIdentifierPart_of_isNamePart {ch : Char} (h : isNamePart ch = true) :
    isIdentifierPart ch = true := by
  unfold isNamePart Char.isAlphanum at h
  unfold isIdentifierPart Unicode.isAlphanumeric
  rw [Bool.or_eq_true, Bool.or_eq_true] at h
  rcases h with (h | h) | h
  · simp [Unicode.isAlphabetic_of_isAlpha h]
  · simp [Unicode.isNumeric_of_isDigit h]
  · simp [h]

/-- The names of a configuration that passes go on with letters, digits and underscores only. -/
theorem forall_isNamePart (hv : c.validate = .ok ()) {name : String} (hn : name ∈ c.names) :
    ∀ ch ∈ name.toList, isNamePart ch = true := by
  obtain ⟨spec, hspec, rfl⟩ := List.mem_map.1 hn
  have hname := (validate_eq_ok_iff.1 hv).1 spec hspec
  unfold isSymbolName at hname
  split at hname
  · cases hname
  · rename_i ch rest hl
    rw [Bool.and_eq_true, List.all_eq_true] at hname
    have hstart : isNamePart ch = true := by
      have hs := hname.1
      unfold isNameStart at hs
      unfold isNamePart Char.isAlphanum
      rw [Bool.or_eq_true] at hs ⊢
      exact hs.imp_left fun ha => by rw [ha, Bool.true_or]
    rw [hl, List.forall_mem_cons]
    exact ⟨hstart, hname.2⟩

/-- The containers of a configuration that passes are names. -/
theorem isToken_container (hv : c.validate = .ok ()) {name : String} (hn : c.IsContainer name) :
    IsToken ("$" ++ name) (.name ("$" ++ name)) :=
  isToken_dollar <| List.all_eq_true.2 fun ch hch =>
    isIdentifierPart_of_isNamePart (forall_isNamePart hv (mem_names_of_validate hv hn) ch hch)

/-! ## Resolving -/

/-- The containers of the configuration are names. -/
def NamesContainers (c : Config) : Prop :=
  ∀ name, c.IsContainer name → IsToken ("$" ++ name) (.name ("$" ++ name))

theorem legible_containerMember (k : c.NamesContainers) {container : String}
    (hc : c.IsContainer container) (key : String) : (containerMember container key).Legible :=
  ⟨k container hc, Nat.le_refl _⟩

theorem standsFor_lift (k : c.NamesContainers) (s : Symbol) (name : String) :
    (Expr.symbol s).StandsFor (c.lift name) := by
  unfold lift
  split
  · rename_i hd
    exact ⟨legible_containerMember k (.inr (.inr hd)) _, rfl⟩
  · exact ⟨legible_containerMember k (.inl rfl) _, rfl⟩

theorem standsFor_resolveName (k : c.NamesContainers) {scope : List String} {callee : Bool} {s : Symbol}
    {r : Expr} (h : (Expr.symbol s).Legible) (hr : c.resolveName scope callee s = .ok r) :
    (Expr.symbol s).StandsFor r := by
  unfold resolveName at hr
  split at hr
  · cases hr
    exact ⟨h, rfl⟩
  split at hr
  · cases hr
  · cases hr
    split
    · exact ⟨legible_containerMember k (.inr (.inl rfl)) _, rfl⟩
    · exact standsFor_lift k s _

mutual

/-- Resolving keeps a tree legible. -/
theorem standsFor_resolve (k : c.NamesContainers) {scope : List String} {callee : Bool} {r : Expr} :
    (e : Expr) → e.Legible → c.resolve scope callee e = .ok r → e.StandsFor r
  | .symbol s, h, hr => standsFor_resolveName k h hr
  | .literal l, h, hr => by
    cases hr
    exact ⟨h, rfl⟩
  | .conditional condition yes alternative, h, hr => by
    obtain ⟨_, h₁, hr⟩ := bind_eq_ok_iff.1 hr
    obtain ⟨_, h₂, hr⟩ := bind_eq_ok_iff.1 hr
    obtain ⟨_, h₃, hr⟩ := bind_eq_ok_iff.1 hr
    cases hr
    have k₁ := standsFor_resolve k condition h.1 h₁
    exact ⟨⟨k₁.legible, (standsFor_resolve k yes h.2.1 h₂).legible,
      (standsFor_resolve k alternative h.2.2.1 h₃).legible, k₁.tightness ▸ h.2.2.2⟩, rfl⟩
  | .unary op operand, h, hr => by
    obtain ⟨_, h₁, hr⟩ := bind_eq_ok_iff.1 hr
    cases hr
    have k₁ := standsFor_resolve k operand h.1 h₁
    exact ⟨⟨k₁.legible, k₁.tightness ▸ h.2⟩, rfl⟩
  | .binary op left right, h, hr => by
    obtain ⟨_, h₁, hr⟩ := bind_eq_ok_iff.1 hr
    obtain ⟨_, h₂, hr⟩ := bind_eq_ok_iff.1 hr
    cases hr
    have k₁ := standsFor_resolve k left h.1 h₁
    have k₂ := standsFor_resolve k right h.2.1 h₂
    exact ⟨⟨k₁.legible, k₂.legible, k₁.tightness ▸ h.2.2.1, k₂.tightness ▸ h.2.2.2⟩, rfl⟩
  | .member target name, h, hr => by
    obtain ⟨_, h₁, hr⟩ := bind_eq_ok_iff.1 hr
    cases hr
    have k₁ := standsFor_resolve k target h.1 h₁
    exact ⟨⟨k₁.legible, k₁.tightness ▸ h.2⟩, rfl⟩
  | .index target key, h, hr => by
    obtain ⟨_, h₁, hr⟩ := bind_eq_ok_iff.1 hr
    obtain ⟨_, h₂, hr⟩ := bind_eq_ok_iff.1 hr
    cases hr
    have k₁ := standsFor_resolve k target h.1 h₁
    exact ⟨⟨k₁.legible, (standsFor_resolve k key h.2.1 h₂).legible, k₁.tightness ▸ h.2.2⟩, rfl⟩
  | .call f args, h, hr => by
    obtain ⟨_, h₁, hr⟩ := bind_eq_ok_iff.1 hr
    obtain ⟨_, h₂, hr⟩ := bind_eq_ok_iff.1 hr
    cases hr
    have k₁ := standsFor_resolve k f h.1 h₁
    exact ⟨⟨k₁.legible, legibleList_resolve k args h.2.1 h₂, k₁.tightness ▸ h.2.2⟩, rfl⟩
  | .array elements, h, hr => by
    obtain ⟨_, h₁, hr⟩ := bind_eq_ok_iff.1 hr
    cases hr
    exact ⟨legibleList_resolve k elements h h₁, rfl⟩
  | .object entries, h, hr => by
    obtain ⟨_, h₁, hr⟩ := bind_eq_ok_iff.1 hr
    cases hr
    exact ⟨legibleEntries_resolve k entries h h₁, rfl⟩
  | .parens inner, h, hr => by
    obtain ⟨_, h₁, hr⟩ := bind_eq_ok_iff.1 hr
    cases hr
    exact ⟨(standsFor_resolve k inner h h₁).legible, rfl⟩
  | .pipeline input stages, h, _ => h.elim
  | .arrow params body, h, hr => by
    obtain ⟨_, h₁, hr⟩ := bind_eq_ok_iff.1 hr
    cases hr
    exact ⟨⟨h.1, (standsFor_resolve k body h.2 h₁).legible⟩, rfl⟩
termination_by structural e => e

theorem legibleList_resolve (k : c.NamesContainers) {scope : List String} {rs : List Expr} :
    (es : List Expr) → Expr.LegibleList es → c.resolveList scope es = .ok rs → Expr.LegibleList rs
  | [], _, hr => by
    cases hr
    trivial
  | e :: rest, h, hr => by
    obtain ⟨_, h₁, hr⟩ := bind_eq_ok_iff.1 hr
    obtain ⟨_, h₂, hr⟩ := bind_eq_ok_iff.1 hr
    cases hr
    exact ⟨(standsFor_resolve k e h.1 h₁).legible, legibleList_resolve k rest h.2 h₂⟩
termination_by structural es => es

theorem legibleEntries_resolve (k : c.NamesContainers) {scope : List String}
    {rs : List (ObjectKey × Expr)} : (entries : List (ObjectKey × Expr)) → Expr.LegibleEntries entries →
      c.resolveEntries scope entries = .ok rs → Expr.LegibleEntries rs
  | [], _, hr => by
    cases hr
    trivial
  | (key, e) :: rest, h, hr => by
    obtain ⟨_, h₁, hr⟩ := bind_eq_ok_iff.1 hr
    obtain ⟨_, h₂, hr⟩ := bind_eq_ok_iff.1 hr
    cases hr
    exact ⟨h.1, (standsFor_resolve k e h.2.1 h₁).legible, legibleEntries_resolve k rest h.2.2 h₂⟩
termination_by structural entries => entries

end

theorem legible_wrapName (k : c.NamesContainers) {e : Expr} (h : e.Legible) :
    (c.wrapName e).Legible := by
  cases e with
  | symbol s =>
    show (if c.isRecognized s.raw then Expr.symbol s else c.lift s.name).Legible
    split
    · exact h
    · exact (standsFor_lift k s s.name).legible
  | _ => exact h

/-! ## Reads -/

theorem legible_accessorCall {args : List Expr} (h : Expr.LegibleList args) :
    (Reading.read args).expr.Legible := ⟨isToken_accessorName, h, Nat.le_refl _⟩

/-- The member of a read is a read, and that of any other tree is the given one. -/
theorem standsFor_memberOf {x : Reading} {e key : Expr} {other : Expr → Expr}
    (ht : e.tightness = Expr.postfixLevel) (hx : x.expr.Legible) (hkey : key.Legible)
    (ho : e.StandsFor (other x.expr)) : e.StandsFor (x.memberOf key other).expr := by
  cases x with
  | read args =>
    have hargs : Expr.LegibleList (args ++ [key]) := by
      rw [Expr.legibleList_iff]
      intro arg harg
      rcases List.mem_append.1 harg with harg | harg
      · exact Expr.legibleList_iff.1 hx.2.1 arg harg
      · obtain rfl := List.mem_singleton.1 harg
        exact hkey
    exact ⟨legible_accessorCall hargs, ht.symm⟩
  | other t => exact ho

mutual

/-- Writing reads as calls keeps a tree legible, also in the place of a callee. -/
theorem standsFor_reading (scope : List String) : (e : Expr) → e.Legible →
    e.StandsFor (c.reading scope e).expr ∧ e.StandsFor (c.callee scope e)
  | .symbol s, h => by
    have hs : (Expr.symbol s).StandsFor (c.reading scope (.symbol s)).expr := by
      rw [reading]
      split
      · exact ⟨legible_accessorCall ⟨Expr.legible_ofString _, trivial⟩, rfl⟩
      · exact ⟨h, rfl⟩
    exact ⟨hs, hs⟩
  | .literal l, h => ⟨⟨h, rfl⟩, h, rfl⟩
  | .conditional condition yes alternative, h => by
    have k₁ := (standsFor_reading scope condition h.1).1
    have k₂ := (standsFor_reading scope yes h.2.1).1
    have k₃ := (standsFor_reading scope alternative h.2.2.1).1
    have hl : (Expr.conditional (c.reading scope condition).expr (c.reading scope yes).expr
        (c.reading scope alternative).expr).Legible :=
      ⟨k₁.legible, k₂.legible, k₃.legible, k₁.tightness ▸ h.2.2.2⟩
    exact ⟨⟨hl, rfl⟩, hl, rfl⟩
  | .unary op operand, h => by
    have k₁ := (standsFor_reading scope operand h.1).1
    have hl : (Expr.unary op (c.reading scope operand).expr).Legible :=
      ⟨k₁.legible, k₁.tightness ▸ h.2⟩
    exact ⟨⟨hl, rfl⟩, hl, rfl⟩
  | .binary op left right, h => by
    have k₁ := (standsFor_reading scope left h.1).1
    have k₂ := (standsFor_reading scope right h.2.1).1
    have hl : (Expr.binary op (c.reading scope left).expr (c.reading scope right).expr).Legible :=
      ⟨k₁.legible, k₂.legible, k₁.tightness ▸ h.2.2.1, k₂.tightness ▸ h.2.2.2⟩
    exact ⟨⟨hl, rfl⟩, hl, rfl⟩
  | .member target name, h => by
    have k₁ := (standsFor_reading scope target h.1).1
    have hl : (Expr.member (c.reading scope target).expr name).Legible :=
      ⟨k₁.legible, k₁.tightness ▸ h.2⟩
    exact ⟨standsFor_memberOf rfl k₁.legible (Expr.legible_ofString name) ⟨hl, rfl⟩, hl, rfl⟩
  | .index target key, h => by
    have k₁ := (standsFor_reading scope target h.1).1
    have k₂ := (standsFor_reading scope key h.2.1).1
    have hl : (Expr.index (c.reading scope target).expr (c.reading scope key).expr).Legible :=
      ⟨k₁.legible, k₂.legible, k₁.tightness ▸ h.2.2⟩
    exact ⟨standsFor_memberOf rfl k₁.legible k₂.legible ⟨hl, rfl⟩, hl, rfl⟩
  | .call f args, h => by
    have k₁ := (standsFor_reading scope f h.1).2
    have hl : (Expr.call (c.callee scope f) (c.readingList scope args)).Legible :=
      ⟨k₁.legible, legibleList_reading scope args h.2.1, k₁.tightness ▸ h.2.2⟩
    rw [callee_call, reading_call]
    exact ⟨⟨hl, rfl⟩, hl, rfl⟩
  | .array elements, h => by
    have hl : (Expr.array (c.readingList scope elements)).Legible :=
      legibleList_reading scope elements h
    exact ⟨⟨hl, rfl⟩, hl, rfl⟩
  | .object entries, h => by
    have hl : (Expr.object (c.readingEntries scope entries)).Legible :=
      legibleEntries_reading scope entries h
    exact ⟨⟨hl, rfl⟩, hl, rfl⟩
  | .parens inner, h => by
    have hl : (Expr.parens (c.reading scope inner).expr).Legible :=
      (standsFor_reading scope inner h).1.legible
    exact ⟨⟨hl, rfl⟩, hl, rfl⟩
  | .pipeline input stages, h => h.elim
  | .arrow params body, h => by
    have hl : (Expr.arrow params (c.reading (extendScope scope params) body).expr).Legible :=
      ⟨h.1, (standsFor_reading (extendScope scope params) body h.2).1.legible⟩
    exact ⟨⟨hl, rfl⟩, hl, rfl⟩
termination_by structural e => e

theorem legibleList_reading (scope : List String) : (es : List Expr) → Expr.LegibleList es →
    Expr.LegibleList (c.readingList scope es)
  | [], _ => trivial
  | e :: rest, h => ⟨(standsFor_reading scope e h.1).1.legible, legibleList_reading scope rest h.2⟩
termination_by structural es => es

theorem legibleEntries_reading (scope : List String) : (entries : List (ObjectKey × Expr)) →
    Expr.LegibleEntries entries → Expr.LegibleEntries (c.readingEntries scope entries)
  | [], _ => trivial
  | (_, e) :: rest, h =>
    ⟨h.1, (standsFor_reading scope e h.2.1).1.legible, legibleEntries_reading scope rest h.2.2⟩
termination_by structural entries => entries

end

/-- The linked tree of a source is legible. -/
theorem legible_linkTree {source : String} {e tree : Expr} (hv : c.validate = .ok ())
    (he : Expr.parse source = .ok e) (h : c.linkTree e = .ok tree) : tree.Legible := by
  have k : c.NamesContainers := fun name hn => isToken_container hv hn
  obtain ⟨r, hr, rfl⟩ := map_eq_ok_iff.1 h
  have hwrapped := legible_wrapName k (Expr.legible_withoutPipeline he)
  have hresolved := (standsFor_resolve k _ hwrapped hr).legible
  exact (standsFor_reading [] r hresolved).1.legible

end Config

theorem Expr.Legible.withoutPipelines {e : Expr} (h : e.Legible) : e.WithoutPipelines := by
  intro n hn
  cases n with
  | pipeline => exact (h.of_mem_walk hn).elim
  | _ => rfl

/-- A legible tree has a text. -/
theorem Expr.Legible.exists_print {e : Expr} (h : e.Legible) : ∃ code, e.print = .ok code :=
  e.exists_print h.withoutPipelines

/-- A source that is parsed and linked is compiled. -/
theorem Linker.exists_compile_eq {c : Config} {source : String} {e tree : Expr}
    (hv : c.validate = .ok ()) (he : Expr.parse source = .ok e) (ht : c.linkTree e = .ok tree) :
    ∃ code, (ofConfig c).compile source = .ok ⟨tree, code, tree.watchers, c.parameters⟩ := by
  obtain ⟨code, hcode⟩ := (Config.legible_linkTree hv he ht).exists_print
  have hlink : (ofConfig c).link e = .ok ⟨tree, tree.watchers⟩ := by
    rw [link_ofConfig, ht]
    rfl
  exact ⟨code, compile_eq_ok_iff.2
    ⟨hv, compileChecked_eq_ok_iff.2 ⟨e, _, code, he, hlink, hcode, rfl⟩⟩⟩

/-- The code of a program without arrow functions is parsed as its tree, where a member name that is no
    identifier is read as a computed string key. So it is just the tree if there is no such name. No
    number that goes on at a point may stand before one. -/
theorem Program.parse_code {c : Config} {source : String} {p : Program}
    (h : (Linker.ofConfig c).compile source = .ok p) (ha : ∀ params body, .arrow params body ∉ p.tree.walk)
    (hn : ∀ target name, .member target name ∈ p.tree.walk → target.AllowsPoint) :
    Expr.parse p.code = .ok p.tree.keysRead ∧
      (p.tree.NamesIdentifiers → Expr.parse p.code = .ok p.tree) := by
  obtain ⟨hv, hchecked⟩ := Linker.compile_eq_ok_iff.1 h
  obtain ⟨e, linked, code, he, hlink, hcode, rfl⟩ := Linker.compileChecked_eq_ok_iff.1 hchecked
  rw [Linker.link_ofConfig] at hlink
  obtain ⟨tree, htree, rfl⟩ := map_eq_ok_iff.1 hlink
  have hlegible := Config.legible_linkTree hv he htree
  have hprints := hlegible.printsAll ha hn
  obtain ⟨code', hcode', hparse⟩ := Expr.parse_printed hprints
  cases hcode.symm.trans hcode'
  rw [Expr.Legible.printed_eq tree hlegible hprints] at hparse
  refine ⟨hparse, fun hnames => ?_⟩
  rw [Expr.keysRead_eq_self tree hnames] at hparse
  exact hparse

/-- The tokens of a sum -/
theorem Expr.tokenize_sum : tokenize "user.name + f(a.b)" = .ok [⟨.name "user", "user", 0⟩,
    ⟨.punct .dot, ".", 4⟩, ⟨.name "name", "name", 5⟩, ⟨.operator (.binary .add), "+", 10⟩,
    ⟨.name "f", "f", 12⟩, ⟨.punct .openParen, "(", 13⟩, ⟨.name "a", "a", 14⟩, ⟨.punct .dot, ".", 15⟩,
    ⟨.name "b", "b", 16⟩, ⟨.punct .closeParen, ")", 17⟩, ⟨.eof, "", 18⟩] := by
  rw [tokenize_eq_ok_iff]
  iterate 10 refine Cursor.scan_cons rfl rfl ?_
  exact Cursor.scan_last rfl rfl

/-- The program of a sum -/
def Program.sum : Program where
  tree := .binary .add
    (.call (.ofName accessorName) [.ofString "scope", .ofString "user", .ofString "name"])
    (.call (.member (.ofName "$hooks") "f")
      [.call (.ofName accessorName) [.ofString "scope", .ofString "a", .ofString "b"]])
  code := "$_get_by_any(\"scope\", \"user\", \"name\") + $hooks.f($_get_by_any(\"scope\", \"a\", \"b\"))"
  watchers := ["scope.user.name", "scope.a.b"]
  parameters := ["$_get_by_any", "$hooks"]

set_option maxRecDepth 1024 in
theorem Linker.compile_sum : (ofConfig .standard).compile "user.name + f(a.b)" = .ok Program.sum := by
  have parsed : Expr.parse "user.name + f(a.b)" = .ok (.binary .add (.member (.ofName "user") "name")
      (.call (.ofName "f") [.member (.ofName "a") "b"])) := by
    have places : Tokens.ofSource "user.name + f(a.b)" = .ok ⟨_, _, none⟩ :=
      Tokens.ofSource_eq_ok_iff.2 (tokenize_eq_ok_iff.1 Expr.tokenize_sum)
    rw [Expr.parse, places]
    cbv
  have printed : Program.sum.tree.print = .ok Program.sum.code := by
    unfold Program.sum
    cbv
  have watchers : Program.sum.tree.watchers = ["scope.user.name", "scope.a.b"] := by
    unfold Program.sum
    cbv
  have linked : (ofConfig .standard).link (.binary .add (.member (.ofName "user") "name")
      (.call (.ofName "f") [.member (.ofName "a") "b"])) =
        .ok ⟨Program.sum.tree, Program.sum.tree.watchers⟩ := rfl
  refine compile_eq_ok_iff.2 ⟨rfl, compileChecked_eq_ok_iff.2 ⟨_, _, _, parsed, linked, printed, ?_⟩⟩
  rw [watchers]
  rfl

/-- The code of a sum is read as its tree, whose only member is the name of a callee. -/
theorem Program.parse_code_sum :
    ∃ p, (Linker.ofConfig .standard).compile "user.name + f(a.b)" = .ok p ∧
      (∀ params body, .arrow params body ∉ p.tree.walk) ∧
      (∀ target name, .member target name ∈ p.tree.walk → target = .ofName "$hooks" ∧ name = "f") ∧
      Expr.parse p.code = .ok p.tree := by
  have arrows : ∀ params body, .arrow params body ∉ Program.sum.tree.walk := by
    intro params body
    simp [Program.sum, Expr.walk_eq, Expr.children, Expr.ofName, Expr.ofString]
  have members : ∀ target name, .member target name ∈ Program.sum.tree.walk →
      target = .ofName "$hooks" ∧ name = "f" := by
    intro target name hm
    simpa [Program.sum, Expr.walk_eq, Expr.children, Expr.ofName, Expr.ofString] using hm
  have points : ∀ target name, .member target name ∈ Program.sum.tree.walk → target.AllowsPoint := by
    intro target name hm x raw he
    cases (members target name hm).1.symm.trans he
  have names : Program.sum.tree.NamesIdentifiers := by
    intro target name hm
    rw [(members target name hm).2]
    rfl
  exact ⟨Program.sum, Linker.compile_sum, arrows, members,
    (parse_code Linker.compile_sum arrows points).2 names⟩

/-- A configuration that reads names after a dollar sign from a direct symbol -/
def Config.dollars : Config :=
  { ((ofContainers "scope" "hooks").addPlain "scope" |>.addDirect "hooks" |>.addDirect "d") with
    dollarContainer := some "d" }

/-- The tokens of a dollar sign with a digit -/
theorem Expr.tokenize_numeral :
    tokenize "$1" = .ok [⟨.name "$1", "$1", 0⟩, ⟨.eof, "", 2⟩] := by
  rw [tokenize_eq_ok_iff]
  exact Cursor.scan_cons rfl rfl (Cursor.scan_last rfl rfl)

/-- A member name that is no identifier comes from a name like `$1`. It is printed as a computed string
    key, and that is what the parser finds. -/
theorem Program.parse_code_numeral :
    ∃ p, (Linker.ofConfig .dollars).compile "$1" = .ok p ∧
      (∀ params body, .arrow params body ∉ p.tree.walk) ∧
      p.tree = .member (.ofName "$d") "1" ∧
      Expr.parse p.code = .ok (.index (.ofName "$d") (.ofString "1")) ∧
      Expr.parse p.code ≠ .ok p.tree := by
  have parsed : Expr.parse "$1" = .ok (.ofName "$1") := by
    have places : Tokens.ofSource "$1" = .ok ⟨_, _, none⟩ :=
      Tokens.ofSource_eq_ok_iff.2 (tokenize_eq_ok_iff.1 Expr.tokenize_numeral)
    rw [Expr.parse, places]
    cbv
  have linked : (Linker.ofConfig .dollars).link (.ofName "$1") =
      .ok ⟨.member (.ofName "$d") "1", (Expr.member (.ofName "$d") "1").watchers⟩ := rfl
  have hname : (Expr.ofName "$d").PrintsAll := by
    have htoken : IsToken ("$" ++ "d") (.name ("$" ++ "d")) := isToken_dollar rfl
    refine Expr.printsAll_of_children htoken fun child hc => ?_
    cases hc
  have hmember : (Expr.member (.ofName "$d") "1").PrintsAll := by
    refine Expr.printsAll_of_children ?_ (List.forall_mem_singleton.2 hname)
    intro _ x raw he
    cases he
  obtain ⟨code, hcode, hparse⟩ := Expr.parse_printed hmember
  refine ⟨⟨.member (.ofName "$d") "1", code, _, _⟩, Linker.compile_eq_ok_iff.2 ⟨rfl,
    Linker.compileChecked_eq_ok_iff.2 ⟨_, _, _, parsed, linked, hcode, rfl⟩⟩, ?_, rfl, hparse, ?_⟩
  · intro params body
    simp [Expr.walk_eq, Expr.children, Expr.ofName]
  · intro hsame
    cases hparse.symm.trans hsame

end DataBinding
