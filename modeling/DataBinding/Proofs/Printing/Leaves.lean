import DataBinding.Proofs.Printing.Linked

/-!
# The leaves of compiled trees

A literal and a name keep their text beside what they stand for: a run takes the one, the printer the
other. In a compiled tree the two agree. The text of a literal is one token with the value of the
literal, and the text of a name is the name and one token, wherever the leaf comes from: the source, a
key after a point, the tag of a symbol, a container or the text of a template.

Results:

* `Expr.literals`, `Expr.symbols`: the leaves of a tree, keys, parameters and names of stages among them.
* `Expr.Legible.leavesStand`: the leaves of a legible tree are tokens.
* `Linker.leavesStand_of_compiled`: so are those of a compiled tree.
* `Program.leaf_eq_token`: the text of a leaf is read as that leaf.
-/

namespace DataBinding

namespace Expr

/-! ## Leaves -/

/-- The literals that a node holds itself: the literal that it is, or keys of its entries. -/
def ownLiterals : Expr → List Literal
  | literal l => [l]
  | object entries => entries.filterMap fun entry =>
    match entry.1 with
    | .literal l => some l
    | .symbol _ => none
  | _ => []

/-- The symbols that a node holds itself: the symbol that it is, keys of its entries, its parameters or
    the names of its stages. -/
def ownSymbols : Expr → List Symbol
  | symbol s => [s]
  | object entries => entries.filterMap fun entry =>
    match entry.1 with
    | .literal _ => none
    | .symbol s => some s
  | arrow params _ => params
  | pipeline _ stages => stages.map Prod.fst
  | _ => []

/-- The literals of a tree. -/
def literals (e : Expr) : List Literal := e.walk.flatMap ownLiterals

/-- The symbols of a tree. -/
def symbols (e : Expr) : List Symbol := e.walk.flatMap ownSymbols

/-- The text of every literal is one token of its value, and that of every symbol one token of its
    name. -/
structure LeavesStand (e : Expr) : Prop where
  literal : ∀ l ∈ e.literals, IsToken l.raw l.value.kind
  symbol : ∀ s ∈ e.symbols, IsToken s.raw (.name s.name)

/-! ## Legible trees -/

/-- The leaves that a legible tree holds at its root are tokens. -/
theorem Legible.isToken_own {e : Expr} (h : e.Legible) :
    (∀ l ∈ e.ownLiterals, IsToken l.raw l.value.kind) ∧
      ∀ s ∈ e.ownSymbols, IsToken s.raw (.name s.name) := by
  cases e with
  | literal l => exact ⟨List.forall_mem_singleton.2 h, by simp [ownSymbols]⟩
  | symbol s => exact ⟨by simp [ownLiterals], List.forall_mem_singleton.2 h⟩
  | object entries =>
    have keys := (legibleEntries_iff.1 h).1
    constructor
    · intro l hl
      obtain ⟨⟨key, value⟩, hm, hkey⟩ := List.mem_filterMap.1 hl
      cases key with
      | literal l' =>
        cases hkey
        exact (keys _ hm).2
      | symbol s => cases hkey
    · intro s hs
      obtain ⟨⟨key, value⟩, hm, hkey⟩ := List.mem_filterMap.1 hs
      cases key with
      | literal l => cases hkey
      | symbol s' =>
        cases hkey
        exact (keys _ hm).2
  | arrow params body => exact ⟨by simp [ownLiterals], h.1⟩
  | pipeline input stages => exact h.elim
  | _ => exact ⟨by simp [ownLiterals], by simp [ownSymbols]⟩

theorem Legible.leavesStand {e : Expr} (h : e.Legible) : e.LeavesStand := by
  constructor
  · intro l hl
    obtain ⟨x, hx, hl⟩ := List.mem_flatMap.1 hl
    exact (h.of_mem_walk hx).isToken_own.1 l hl
  · intro s hs
    obtain ⟨x, hx, hs⟩ := List.mem_flatMap.1 hs
    exact (h.of_mem_walk hx).isToken_own.2 s hs

/-! ## Sums -/

theorem literals_binary (op : BinaryOp) (left right : Expr) :
    (binary op left right).literals = left.literals ++ right.literals := by
  rw [literals, walk_eq]
  simp [children, ownLiterals, literals, List.flatMap_append]

theorem symbols_binary (op : BinaryOp) (left right : Expr) :
    (binary op left right).symbols = left.symbols ++ right.symbols := by
  rw [symbols, walk_eq]
  simp [children, ownSymbols, symbols, List.flatMap_append]

theorem LeavesStand.binary (op : BinaryOp) {left right : Expr} (hl : left.LeavesStand)
    (hr : right.LeavesStand) : (binary op left right).LeavesStand := by
  constructor
  · rw [literals_binary]
    exact List.forall_mem_append.2 ⟨hl.literal, hr.literal⟩
  · rw [symbols_binary]
    exact List.forall_mem_append.2 ⟨hl.symbol, hr.symbol⟩

/-- Parentheses hold no leaves themselves. -/
theorem leavesStand_parens_iff {e : Expr} : (parens e).LeavesStand ↔ e.LeavesStand := by
  have hl : (parens e).literals = e.literals := by
    rw [literals, walk_eq]
    simp [children, ownLiterals, literals]
  have hs : (parens e).symbols = e.symbols := by
    rw [symbols, walk_eq]
    simp [children, ownSymbols, symbols]
  constructor
  · rintro ⟨h₁, h₂⟩
    exact ⟨hl ▸ h₁, hs ▸ h₂⟩
  · rintro ⟨h₁, h₂⟩
    exact ⟨hl ▸ h₁, hs ▸ h₂⟩

theorem LeavesStand.withoutParens {e : Expr} (h : e.LeavesStand) : e.withoutParens.LeavesStand := by
  cases e with
  | parens inner => exact leavesStand_parens_iff.1 h
  | _ => exact h

end Expr

/-! ## Compiled trees -/

namespace Linker

variable {c : Config} {source : String} {p : Program}

theorem leavesStand_of_compileChecked (hv : c.validate = .ok ())
    (h : (ofConfig c).compileChecked source = .ok p) : p.tree.LeavesStand := by
  obtain ⟨e, linked, code, he, hl, -, rfl⟩ := compileChecked_eq_ok_iff.1 h
  rw [link_ofConfig] at hl
  obtain ⟨tree, ht, rfl⟩ := map_eq_ok_iff.1 hl
  exact (Config.legible_linkTree hv he ht).leavesStand

theorem leavesStand_of_compileSegment (hv : c.validate = .ok ()) {s : Segment}
    {part : Expr × List String} (h : (ofConfig c).compileSegment s = .ok part) :
    part.1.LeavesStand := by
  cases s with
  | literal text =>
    cases h
    exact (Expr.legible_ofString text).leavesStand
  | expression span =>
    obtain ⟨program, hp, h⟩ := bind_eq_ok_iff.1 h
    cases h
    exact Expr.leavesStand_parens_iff.2 (leavesStand_of_compileChecked hv hp)

/-- The leaves of a compiled tree are tokens. -/
theorem leavesStand_of_compiled
    (h : (ofConfig c).compile source = .ok p ∨ (ofConfig c).compileTemplate source = .ok p) :
    p.tree.LeavesStand := by
  rcases h with h | h
  · obtain ⟨hv, h⟩ := compile_eq_ok_iff.1 h
    exact leavesStand_of_compileChecked hv h
  · obtain ⟨hv, segments, parts, code, -, hp, -, rfl⟩ := compileTemplate_eq_ok_iff.1 h
    have each : ∀ part ∈ parts, part.1.LeavesStand :=
      forall_compileSegments (fun _ _ _ hc => leavesStand_of_compileSegment hv hc) hp
    refine Expr.concatenate_of (Expr.legible_ofString "").leavesStand
      (fun _ he => he.withoutParens) (fun _ _ hl hr => hl.binary .add hr) fun e he => ?_
    obtain ⟨part, hm, rfl⟩ := List.mem_map.1 he
    exact each part hm

end Linker

/-- Nothing but the end of the input lies behind the only token of a text. -/
theorem IsToken.exists_last {raw : String} {kind : TokenKind} (h : IsToken raw kind) :
    ∃ t last, tokenize raw = .ok [t, last] ∧ last.kind = .eof ∧ t.Is kind raw := by
  obtain ⟨t, last, htokens, ht⟩ := h
  have hscan := tokenize_eq_ok_iff.1 htokens
  obtain ⟨ts, last', hts, hlast, -⟩ := Cursor.scan_of_none (Cursor.start raw) (by rw [hscan])
  rw [hscan] at hts
  obtain ⟨-, he⟩ := List.append_inj' (show [t] ++ [last] = ts ++ [last'] from hts) rfl
  obtain rfl := List.singleton_inj.1 he
  exact ⟨t, last, htokens, hlast, ht⟩

/-- The text of every literal of a compiled tree is one token that stands for just this literal. The
    text of every symbol is its name and is one token that stands for just this symbol. -/
theorem Program.leaf_eq_token {c : Config} {source : String} {p : Program}
    (h : (Linker.ofConfig c).compile source = .ok p ∨
      (Linker.ofConfig c).compileTemplate source = .ok p) :
    (∀ l ∈ p.tree.literals, ∃ t last, tokenize l.raw = .ok [t, last] ∧ last.kind = .eof ∧
      t.literal? = some l) ∧
    ∀ s ∈ p.tree.symbols, s.raw = s.name ∧ ∃ t last, tokenize s.raw = .ok [t, last] ∧
      last.kind = .eof ∧ t.symbol? = some s := by
  have leaves := Linker.leavesStand_of_compiled h
  constructor
  · intro l hl
    obtain ⟨t, last, htokens, hlast, ht⟩ := (leaves.literal l hl).exists_last
    exact ⟨t, last, htokens, hlast, Token.literal?_eq_some_iff.2 ht⟩
  · intro s hs
    obtain ⟨t, last, htokens, hlast, ht⟩ := (leaves.symbol s hs).exists_last
    have hname : t.raw = s.name := raw_of_tokenize htokens List.mem_cons_self ht.1
    exact ⟨ht.2 ▸ hname, t, last, htokens, hlast, Token.symbol?_eq_some_iff.2 ht⟩

/-- The leaves of a callback: tags, keys and a parameter -/
theorem Program.leaf_eq_token_callback : ∃ p,
    (Linker.ofConfig .standard).compile "a.map(x => b[x])" = .ok p ∧
      p.tree.literals.map Literal.raw = ["\"scope\"", "\"a\"", "\"scope\"", "\"b\""] ∧
      p.tree.symbols = [.ofName accessorName, .ofName "x", .ofName accessorName, .ofName "x"] ∧
      (∀ l ∈ p.tree.literals, ∃ t last, tokenize l.raw = .ok [t, last] ∧ last.kind = .eof ∧
        t.literal? = some l) ∧
      ∀ s ∈ p.tree.symbols, s.raw = s.name ∧ ∃ t last, tokenize s.raw = .ok [t, last] ∧
        last.kind = .eof ∧ t.symbol? = some s := by
  refine ⟨_, Linker.compile_callback, ?_, ?_,
    (Program.leaf_eq_token (.inl Linker.compile_callback)).1,
    (Program.leaf_eq_token (.inl Linker.compile_callback)).2⟩
  · unfold Program.callback
    cbv
  · unfold Program.callback
    cbv

end DataBinding
