import DataBinding.Proofs.Link.Callees
import DataBinding.Proofs.Printing.Linked

/-!
# What a name in parentheses means

Where a name is read from depends on where it stands: a callee is looked up among the callees, an
expression that is just a name in the container of its spelling, and a name in parentheses is neither of
the two. So parentheses around a callee or around a whole expression do not always leave its meaning as
it is; here is when they do.

Results:

* `Config.KeepsCallee`, `Config.KeepsWhole`: the names that parentheses leave as they are.
* `Config.agree_linkTree_parens`: a callee in parentheses.
* `Config.linkTree_parens`: a whole expression in parentheses.
* `Linker.link_parens`: a source with one of its names in parentheses.
-/

namespace DataBinding

namespace Config

variable {c : Config} {scope : List String} {s : Symbol}

/-- As a callee the name means the same in parentheses: it needs no container, or the container of its
    spelling is that of callees and is no data behind the accessor. -/
def KeepsCallee (c : Config) (scope : List String) (s : Symbol) : Prop :=
  c.IsBound scope s ∨ c.lift s.name = containerMember c.callContainer s.name ∧
    c.isReadSymbol scope (.ofName ("$" ++ c.callContainer)) = false

/-- As a whole expression the name means the same in parentheses: it is recognized, or it is not built in
    and has a container. -/
def KeepsWhole (c : Config) (s : Symbol) : Prop :=
  c.isRecognized s.raw = true ∨ isBuiltin s.name = false ∧ c.isUnknownDollar s.name = false

/-! ## Callees -/

theorem resolveName_of_isBound (h : c.IsBound scope s) (callee : Bool) :
    c.resolveName scope callee s = .ok (.symbol s) := if_pos h

theorem resolveName_of_not_isBound (h : ¬ c.IsBound scope s) (callee : Bool) :
    c.resolveName scope callee s =
      if c.isUnknownDollar s.name then .error (.unknownDollar s.name)
      else .ok (if callee then containerMember c.callContainer s.name else c.lift s.name) := if_neg h

theorem agree_resolve_of_isBound (h : c.IsBound scope s) :
    Agree (fun r r' => r = .symbol s ∧ r' = .parens (.symbol s)) (c.resolve scope true (.symbol s))
      (c.resolve scope true (.parens (.symbol s))) := by
  rw [resolve_parens, resolve, resolve, resolveName_of_isBound h, resolveName_of_isBound h]
  exact .ok ⟨rfl, rfl⟩

/-- The container of callees is for callees only. -/
theorem agree_resolve_of_not_isBound (h : ¬ c.IsBound scope s) :
    Agree (fun r r' => r = containerMember c.callContainer s.name ∧ r' = .parens (c.lift s.name))
      (c.resolve scope true (.symbol s)) (c.resolve scope true (.parens (.symbol s))) := by
  rw [resolve_parens, resolve, resolve, resolveName_of_not_isBound h, resolveName_of_not_isBound h]
  split
  · exact .error _
  · exact .ok ⟨rfl, rfl⟩

theorem exists_lift_eq (c : Config) (name : String) :
    ∃ container key, c.lift name = containerMember container key := by
  unfold lift
  split
  · exact ⟨_, _, rfl⟩
  · exact ⟨_, _, rfl⟩

/-- A name that needs no container depends on nothing as a callee, unless it is the accessor. -/
theorem watchedAlike_of_ne (h : s.name ≠ accessorName) :
    (c.callee scope (.symbol s)).WatchedAlike (c.callee scope (.parens (.symbol s))) := by
  have hcallee : c.callee scope (.parens (.symbol s)) = .parens (c.callee scope (.symbol s)) := rfl
  rw [hcallee]
  refine ⟨fun args => ?_, (Expr.paths_parens _).symm⟩
  show (Expr.call (c.reading scope (.symbol s)).expr args).watched? = none
  cases hr : c.isReadSymbol scope s with
  | true =>
    rw [reading_symbol_of_eq_true hr]
    rfl
  | false =>
    rw [reading_symbol_of_eq_false hr]
    simp only [Reading.expr, Expr.watched?, Expr.watchedSegments, if_neg h]

/-- The member of the container of callees and the name elsewhere are the same exactly if the containers
    are and are no data behind the accessor. -/
theorem bare_callee_eq_iff (name : String) :
    (c.callee scope (containerMember c.callContainer name)).bare =
        (c.callee scope (.parens (c.lift name))).bare ↔
      c.lift name = containerMember c.callContainer name ∧
        c.isReadSymbol scope (.ofName ("$" ++ c.callContainer)) = false := by
  obtain ⟨container, key, hlift⟩ := c.exists_lift_eq name
  show (Expr.member (c.reading scope (.ofName ("$" ++ c.callContainer))).expr name).bare =
    (c.reading scope (c.lift name)).expr.bare ↔ _
  rw [hlift]
  show _ = ((c.reading scope (.ofName ("$" ++ container))).memberOf (.ofString key)
    fun t => .member t key).expr.bare ↔ _
  have hsame : containerMember container key = containerMember c.callContainer name ↔
      Symbol.ofName ("$" ++ container) = .ofName ("$" ++ c.callContainer) ∧ key = name := by
    simp [containerMember, Expr.ofName]
  rw [hsame]
  cases hread : c.isReadSymbol scope (.ofName ("$" ++ container)) with
  | true =>
    rw [Expr.ofName, Expr.ofName, reading_symbol_of_eq_true hread]
    refine iff_of_false (by simp [Reading.expr, Reading.memberOf, Expr.bare]) ?_
    rintro ⟨⟨he, -⟩, hcall⟩
    rw [he, hcall] at hread
    cases hread
  | false =>
    rw [Expr.ofName, Expr.ofName, reading_symbol_of_eq_false hread]
    cases hcall : c.isReadSymbol scope (.ofName ("$" ++ c.callContainer)) with
    | true =>
      rw [reading_symbol_of_eq_true hcall]
      simp [Reading.expr, Reading.memberOf, Expr.bare, Expr.ofName]
    | false =>
      rw [reading_symbol_of_eq_false hcall]
      simp [Reading.expr, Reading.memberOf, Expr.bare, eq_comm]

/-- The member of a container that is no data behind the accessor depends on nothing. -/
theorem watchedAlike_of_lift {name : String}
    (h : c.lift name = containerMember c.callContainer name)
    (hr : c.isReadSymbol scope (.ofName ("$" ++ c.callContainer)) = false) :
    (c.callee scope (containerMember c.callContainer name)).WatchedAlike
      (c.callee scope (.parens (c.lift name))) := by
  have hcallee : c.callee scope (.parens (c.lift name)) =
      .parens (c.callee scope (containerMember c.callContainer name)) := by
    rw [h]
    show Expr.parens ((c.reading scope (.ofName _)).memberOf _ _).expr =
      .parens (.member (c.reading scope (.ofName _)).expr name)
    rw [Expr.ofName, reading_symbol_of_eq_false hr]
    rfl
  rw [hcallee]
  exact ⟨fun args => rfl, (Expr.paths_parens _).symm⟩

/-- What an expression and the expression with a callee in parentheses are linked to. -/
structure LinksCallee (c : Config) (scope : List String) (s : Symbol) (p p' : Linked) : Prop where
  /-- The trees are the same, but for parentheses, exactly if the callee means the same. -/
  bare : p.tree.bare = p'.tree.bare ↔ c.KeepsCallee scope s
  /-- If it does they depend on the same data. Only calls of the accessor by its name are watched. -/
  watchers : c.KeepsCallee scope s → s.name ≠ accessorName → p.watchers = p'.watchers
  /-- A built-in callee stays as it is. -/
  builtin : isBuiltin s.name = true → c.isRecognized s.raw = false →
    (Expr.symbol s).SwapsCallee (.parens (.symbol s)) scope [] p.tree p'.tree

/-- A tree and the tree with a callee in parentheses are both linked, or neither is. -/
theorem agree_linkTree_parens {e e' : Expr}
    (h : (Expr.symbol s).SwapsCallee (.parens (.symbol s)) scope [] e e')
    (hl : ∀ t, c.linkTree e = .ok t → t.Legible) :
    Agree (fun t t' => c.LinksCallee scope s ⟨t, t.watchers⟩ ⟨t', t'.watchers⟩) (c.linkTree e)
      (c.linkTree e') := by
  by_cases hb : c.IsBound scope s
  · have hkeeps : c.KeepsCallee scope s := .inl hb
    refine (agree_linkTree h (agree_resolve_of_isBound hb)).imp_ok fun t t' ht hswaps => ?_
    refine ⟨iff_of_true ((hswaps.bare_eq_iff (hl t ht)).2 rfl) hkeeps,
      fun _ hne => hswaps.watchers_eq (watchedAlike_of_ne hne), fun _ hr => ?_⟩
    have hread : c.isReadSymbol scope s = false := by
      have hnone : c.recognize? s.raw = none := by simpa [isRecognized] using hr
      simp [isReadSymbol, hnone]
    have hcallee : c.callee scope (.symbol s) = .symbol s := by
      show (c.reading scope (.symbol s)).expr = _
      rw [reading_symbol_of_eq_false hread]
      rfl
    have hparens : c.callee scope (.parens (.symbol s)) = .parens (.symbol s) := by
      show Expr.parens (c.callee scope (.symbol s)) = _
      rw [hcallee]
    rwa [hcallee, hparens] at hswaps
  · have hkeeps : c.KeepsCallee scope s ↔ _ := or_iff_right hb
    refine (agree_linkTree h (agree_resolve_of_not_isBound hb)).imp_ok fun t t' ht hswaps => ?_
    refine ⟨?_, fun hk _ => ?_, fun hbuiltin _ => absurd ?_ hb⟩
    · rw [hswaps.bare_eq_iff (hl t ht), bare_callee_eq_iff, hkeeps]
    · obtain ⟨hlift, hread⟩ := hkeeps.1 hk
      exact hswaps.watchers_eq (watchedAlike_of_lift hlift hread)
    · simp [IsBound, hbuiltin]

/-! ## Whole expressions -/

/-- A whole expression that is just a name is read as it is in parentheses. -/
theorem resolved_symbol (hv : c.validate = .ok ()) (h : c.KeepsWhole s) :
    ∃ r, c.resolved (.symbol s) = .ok r ∧ c.resolve [] false (.symbol s) = .ok r := by
  cases hr : c.isRecognized s.raw with
  | true =>
    have hb : c.IsBound [] s := by simp [IsBound, hr]
    have hname : c.resolve [] false (.symbol s) = .ok (.symbol s) := resolveName_of_isBound hb false
    have hwrap : c.wrapName (.symbol s) = .symbol s := if_pos hr
    exact ⟨.symbol s, (congrArg (c.resolve [] false) hwrap).trans hname, hname⟩
  | false =>
    obtain ⟨hbuiltin, hdollar⟩ := h.resolve_left (by simp [hr])
    have hwrap : c.wrapName (.symbol s) = c.lift s.name := if_neg (by simp [hr])
    refine ⟨c.lift s.name, (congrArg (c.resolve [] false) hwrap).trans (resolve_lift hv _), ?_⟩
    rw [resolve, resolveName, if_neg (by simp [hr, hbuiltin]), if_neg (by simp [hdollar])]
    rfl

/-- A name and the name in parentheses are linked alike. -/
theorem linkTree_parens (hv : c.validate = .ok ()) (h : c.KeepsWhole s) :
    ∃ t, c.linkTree (.symbol s) = .ok t ∧ c.linkTree (.parens (.symbol s)) = .ok (.parens t) := by
  obtain ⟨r, hr, hr'⟩ := resolved_symbol hv h
  have hparens : c.resolved (.parens (.symbol s)) = .ok (.parens r) := by
    show c.resolve [] false (.parens (.symbol s)) = _
    rw [resolve_parens, hr']
    rfl
  refine ⟨c.withReads r, by rw [linkTree, hr]; rfl, ?_⟩
  rw [linkTree, hparens, ← withReads_parens]
  rfl

end Config

/-! ## Sources -/

namespace Linker

variable {c : Config}

/-- Parentheses around a name of a source, where it is the whole expression or the callee of a call:
    there is a tree with them, and a name that keeps its meaning there depends on the same data and gives
    the same tree. A callee that does not is linked if it is without them, but read elsewhere. -/
theorem link_parens (hv : c.validate = .ok ()) {source : String} {e : Expr}
    (he : Expr.parse source = .ok e) :
    (∀ s, e = .symbol s → ∃ front back, source = front ++ s.raw ++ back ∧
      Expr.parse (front ++ "(" ++ s.raw ++ ")" ++ back) = .ok (.parens e) ∧
      (c.KeepsWhole s → ∃ p p', (ofConfig c).link e = .ok p ∧ (ofConfig c).link (.parens e) = .ok p' ∧
        p.tree.bare = p'.tree.bare ∧ p.watchers = p'.watchers)) ∧
    (∀ s scope e', (Expr.symbol s).SwapsCallee (.parens (.symbol s)) scope [] e e' →
      ∃ front back, source = front ++ s.raw ++ back ∧
        Expr.parse (front ++ "(" ++ s.raw ++ ")" ++ back) = .ok e' ∧
        Agree (c.LinksCallee scope s) ((ofConfig c).link e) ((ofConfig c).link e')) := by
  constructor
  · rintro s rfl
    obtain ⟨front, back, hsource, hparse⟩ := Expr.exists_parse_symbol he
    refine ⟨front, back, hsource, hparse, fun hkeeps => ?_⟩
    obtain ⟨t, ht, ht'⟩ := Config.linkTree_parens hv hkeeps
    refine ⟨⟨t, t.watchers⟩, ⟨.parens t, (Expr.parens t).watchers⟩, ?_, ?_, rfl,
      t.watchers_parens.symm⟩
    · rw [link_ofConfig, ht]
      rfl
    · rw [link_ofConfig, ht']
      rfl
  · intro s scope e' h
    obtain ⟨front, back, hsource, hparse⟩ := Expr.exists_parse_callee he h
    refine ⟨front, back, hsource, hparse, ?_⟩
    rw [link_ofConfig, link_ofConfig]
    exact (Config.agree_linkTree_parens h fun t => Config.legible_linkTree hv he).map fun _ _ => id

/-- The tree of a call -/
theorem parse_call : Expr.parse "f(x)" = .ok (.call (.ofName "f") [.ofName "x"]) := by
  have tokens : tokenize "f(x)" = .ok [⟨.name "f", "f", 0⟩, ⟨.punct .openParen, "(", 1⟩,
      ⟨.name "x", "x", 2⟩, ⟨.punct .closeParen, ")", 3⟩, ⟨.eof, "", 4⟩] := by
    rw [tokenize_eq_ok_iff]
    iterate 4 refine Cursor.scan_cons rfl rfl ?_
    exact Cursor.scan_last rfl rfl
  rw [Expr.parse, Tokens.ofSource_of_tokenize tokens]
  cbv

/-- The tree of a call with its callee in parentheses -/
theorem parse_call_parens :
    Expr.parse "(f)(x)" = .ok (.call (.parens (.ofName "f")) [.ofName "x"]) := by
  have tokens : tokenize "(f)(x)" = .ok [⟨.punct .openParen, "(", 0⟩, ⟨.name "f", "f", 1⟩,
      ⟨.punct .closeParen, ")", 2⟩, ⟨.punct .openParen, "(", 3⟩, ⟨.name "x", "x", 4⟩,
      ⟨.punct .closeParen, ")", 5⟩, ⟨.eof, "", 6⟩] := by
    rw [tokenize_eq_ok_iff]
    iterate 6 refine Cursor.scan_cons rfl rfl ?_
    exact Cursor.scan_last rfl rfl
  rw [Expr.parse, Tokens.ofSource_of_tokenize tokens]
  cbv

/-- The tree of a call of a built-in function -/
theorem parse_call_builtin : Expr.parse "isNaN(x)" = .ok (.call (.ofName "isNaN") [.ofName "x"]) := by
  have tokens : tokenize "isNaN(x)" = .ok [⟨.name "isNaN", "isNaN", 0⟩, ⟨.punct .openParen, "(", 5⟩,
      ⟨.name "x", "x", 6⟩, ⟨.punct .closeParen, ")", 7⟩, ⟨.eof, "", 8⟩] := by
    rw [tokenize_eq_ok_iff]
    iterate 4 refine Cursor.scan_cons rfl rfl ?_
    exact Cursor.scan_last rfl rfl
  rw [Expr.parse, Tokens.ofSource_of_tokenize tokens]
  cbv

/-- The callee of a call of a built-in function, and a name that is all there is -/
theorem link_parens_builtin :
    (∃ front back e' p', "isNaN(x)" = front ++ "isNaN" ++ back ∧
      Expr.parse (front ++ "(" ++ "isNaN" ++ ")" ++ back) = .ok e' ∧
      (ofConfig .standard).link e' = .ok p' ∧ p'.watchers = ["scope.x"] ∧
      p'.tree.bare = .call (.ofName "isNaN")
        [.call (.ofName accessorName) [.ofString "scope", .ofString "x"]]) ∧
    (∃ front back p', "x" = front ++ "x" ++ back ∧
      Expr.parse (front ++ "(" ++ "x" ++ ")" ++ back) = .ok (.parens (.ofName "x")) ∧
      (ofConfig .standard).link (.parens (.ofName "x")) = .ok p' ∧ p'.watchers = ["scope.x"]) := by
  constructor
  · obtain ⟨front, back, hsource, hparse, hagree⟩ :=
      (link_parens (c := .standard) rfl parse_call_builtin).2 _ _ _ .here
    let tree : Expr := .call (.ofName "isNaN")
      [.call (.ofName accessorName) [.ofString "scope", .ofString "x"]]
    have linked : (ofConfig .standard).link (.call (.ofName "isNaN") [.ofName "x"]) =
        .ok ⟨tree, tree.watchers⟩ := rfl
    have watchers : tree.watchers = ["scope.x"] := by cbv
    rw [linked, watchers] at hagree
    generalize hlink : (ofConfig .standard).link _ = outcome at hagree
    cases hagree with
    | @ok _ p' h =>
      have keeps : Config.standard.KeepsCallee [] (.ofName "isNaN") := .inl rfl
      exact ⟨front, back, _, p', hsource, hparse, hlink, (h.watchers keeps (by decide)).symm,
        (h.bare.2 keeps).symm⟩
  · have name : Expr.parse "x" = .ok (.ofName "x") :=
      Expr.parse_of_scan (Cursor.scan_cons rfl rfl (Cursor.scan_last rfl rfl)) rfl (.symbol ⟨rfl, rfl⟩)
        trivial
    obtain ⟨front, back, hsource, hparse, hlink⟩ :=
      (link_parens (c := .standard) rfl name).1 _ rfl
    obtain ⟨p, p', hp, hp', -, hwatchers⟩ := hlink (.inr (by decide))
    let tree : Expr := .call (.ofName accessorName) [.ofString "scope", .ofString "x"]
    have linked : (ofConfig .standard).link (.ofName "x") = .ok ⟨tree, tree.watchers⟩ := rfl
    have watchers : tree.watchers = ["scope.x"] := by cbv
    cases linked.symm.trans hp
    exact ⟨front, back, p', hsource, hparse, hp', hwatchers.symm.trans watchers⟩

/-- A function of the container of callees is another name in parentheses. -/
theorem link_parens_function : Config.standard.validate = .ok () ∧
    (Expr.symbol (.ofName "f")).SwapsCallee (.parens (.ofName "f")) [] []
      (.call (.ofName "f") [.ofName "x"]) (.call (.parens (.ofName "f")) [.ofName "x"]) ∧
    Expr.parse "f(x)" = .ok (.call (.ofName "f") [.ofName "x"]) ∧
    Expr.parse "(f)(x)" = .ok (.call (.parens (.ofName "f")) [.ofName "x"]) ∧
    ∃ p p', (ofConfig .standard).link (.call (.ofName "f") [.ofName "x"]) = .ok p ∧
      (ofConfig .standard).link (.call (.parens (.ofName "f")) [.ofName "x"]) = .ok p' ∧
      p.watchers = ["scope.x"] ∧ p'.watchers = ["scope.f", "scope.x"] ∧
      p.tree.bare ≠ p'.tree.bare := by
  let argument : Expr := .call (.ofName accessorName) [.ofString "scope", .ofString "x"]
  let plain : Expr := .call (.member (.ofName "$hooks") "f") [argument]
  let grouped : Expr :=
    .call (.parens (.call (.ofName accessorName) [.ofString "scope", .ofString "f"])) [argument]
  have linked : (ofConfig .standard).link (.call (.ofName "f") [.ofName "x"]) =
      .ok ⟨plain, plain.watchers⟩ := rfl
  have linked' : (ofConfig .standard).link (.call (.parens (.ofName "f")) [.ofName "x"]) =
      .ok ⟨grouped, grouped.watchers⟩ := rfl
  have watchers : plain.watchers = ["scope.x"] := by cbv
  have watchers' : grouped.watchers = ["scope.f", "scope.x"] := by cbv
  refine ⟨rfl, .here, parse_call, parse_call_parens, _, _, linked, linked', watchers, watchers', ?_⟩
  simp [plain, grouped, Expr.bare]

end Linker

end DataBinding
