import DataBinding.Proofs.Template.Span
import Mathlib.Data.List.Chain

/-!
# Expressions inside templates

The reader of tokens tells a division from a regular expression by the token before the slash, and the
scanner of templates by the last character before it. They differ behind a closing brace, which the
scanner takes for the end of a statement, and behind a division or an operator spelled by letters, which
it takes for a value. Where no slash stands there, an expression is one segment of a template, whatever
braces, strings and regular expressions are in it.

Results:

* `passes_scan`: the scanner goes over the tokens of a text.
* `split_embed`: the text of a tree between the marks of a template.
-/

namespace DataBinding.Template

/-! ## Slashes -/

/-- Does the scanner take a slash behind the token as the reader of tokens does? No slash stands behind a
    point, so it does not matter what it is taken for there. -/
def isClear : TokenKind → Bool
  | .punct .closeBrace => false
  | .operator (.binary .divide) | .operator (.binary .within) | .operator .typeof
  | .operator .void => false
  | _ => true

/-- No slash stands behind a token where the scanner mistakes it. -/
def SlashesClear (ts : List Token) : Prop :=
  ts.IsChain fun t u => startsWithSlash u.kind = true → isClear t.kind = true

instance (ts : List Token) : Decidable (SlashesClear ts) :=
  inferInstanceAs (Decidable (ts.IsChain fun t u =>
    startsWithSlash u.kind = true → isClear t.kind = true))

theorem opensRegexAfter_eq {kind : TokenKind} (h : isClear kind = true)
    (hd : kind ≠ .punct .dot) : opensRegexAfter kind = kind.expectsValue := by
  cases kind with
  | punct p => cases p <;> first | exact absurd rfl hd | rfl | cases h
  | operator op =>
    cases op with
    | binary op => cases op <;> first | rfl | cases h
    | _ => first | rfl | cases h
  | _ => rfl

/-- Behind a token the scanner takes a slash as the reader of tokens does, for a point is followed by a
    name. -/
theorem opensRegexAfter_of_slashesClear {t : Token} {ts : List Token} (hc : SlashesClear (t :: ts))
    (hp : PointsNamed (t.kind.isPunct .dot) ts) :
    ∀ u ∈ ts.head?, startsWithSlash u.kind = true → opensRegexAfter t.kind = t.kind.expectsValue := by
  intro u hu hs
  cases ts with
  | nil => cases hu
  | cons u' ts =>
    cases hu
    refine opensRegexAfter_eq ((List.isChain_cons_cons.1 hc).1 hs) fun hdot => ?_
    obtain ⟨name, hname⟩ := hp.1 (by rw [hdot]; rfl)
    rw [hname] at hs
    cases hs

/-! ## Whole texts -/

/-- The scanner goes over the tokens ahead. -/
theorem passes_scan {c : Cursor} {ts : List Token} {eof : Token} (h : c.scan = (ts ++ [eof], none))
    (he : eof.kind = .eof) (hts : ∀ t ∈ ts, t.kind ≠ .eof) {b : Bool} (hp : PointsNamed b ts)
    (hc : SlashesClear ts) {depth depth' : Nat} (hd : Nested.depthAfter? depth ts = some depth')
    {last : Option Char}
    (hl : ∀ t ∈ ts.head?, startsWithSlash t.kind = true → opensRegex last = c.valueExpected) :
    ∃ last', Passes ⟨.code, depth, last⟩ c.rest ⟨.code, depth', last'⟩ := by
  induction ts generalizing c b depth last with
  | nil =>
    cases hd
    obtain ⟨c', hnext, -⟩ := Cursor.next_of_scan h
    exact ⟨last, passes_blanks (Cursor.forall_isWhitespace_of_next hnext he) _ last⟩
  | cons t ts ih =>
    rw [List.forall_mem_cons] at hts
    have ht : t.kind.isEof = false := TokenKind.isEof_eq_false hts.1
    obtain ⟨depth₁, hd₁, hd₂⟩ := Option.bind_eq_some_iff.1 hd
    obtain ⟨c', hnext, hscan⟩ := Cursor.next_of_scan h
    obtain ⟨bs, d, cs, _, rest, hrest, hb, -, hscans, -, -, rfl⟩ :=
      Cursor.exists_scans_of_next hnext ht
    obtain ⟨raw, last₁, hraw, hopens, htoken⟩ := passes_scans hscans hd₁ (hl t rfl)
    obtain ⟨last', hrun⟩ := ih (hscan ht) hts.2 hp.2 hc.tail hd₂ fun u hu hs =>
      hopens.trans (opensRegexAfter_of_slashesClear hc hp.2 u hu hs)
    refine ⟨last', ?_⟩
    rw [hrest, hraw]
    exact (passes_blanks hb depth last).trans (htoken.trans hrun)

/-- The scanner finds the brace behind the text of a tree. -/
theorem scanSpan?_of_parse {source : String} {e : Expr} (h : Expr.parse source = .ok e)
    {ts : List Token} (ht : tokenize source = .ok ts) (hc : SlashesClear ts) (more : List Char) :
    scanSpan? .code 0 none (source.toList ++ '\x7d' :: more) = some (source.toList, more) := by
  obtain ⟨us, eof, hscan, he, hus, hs, -⟩ := Expr.scan_of_parse h
  rw [tokenize_eq_ok_iff.1 ht] at hscan
  obtain ⟨rfl, -⟩ := Prod.mk.inj hscan
  have hfirst : ∀ t ∈ us.head?, startsWithSlash t.kind = true →
      opensRegex none = (Cursor.start source).valueExpected := fun _ _ _ => rfl
  obtain ⟨last', hpasses⟩ := passes_scan (tokenize_eq_ok_iff.1 ht) he hus hs.nested.pointsNamed
    hc.left_of_append (hs.nested.depthAfter?_eq 0) hfirst
  have hbrace : scanSpan? .code 0 last' ('\x7d' :: more) = some ([], more) := by
    cases more <;> rfl
  have hspan := hpasses ('\x7d' :: more)
  dsimp only [Cursor.start] at hspan
  rw [hspan, hbrace, Option.map_some, List.append_nil]

/-- Where no slash stands behind a token at which it is mistaken, the text of a tree between the marks of
    a template is one segment. -/
theorem split_embed {source : String} {e : Expr} (h : Expr.parse source = .ok e) {ts : List Token}
    (ht : tokenize source = .ok ts) (hc : SlashesClear ts) :
    split ("$\x7b" ++ source ++ "\x7d") = .ok [.expression source] := by
  have htext : ("$\x7b" ++ source ++ "\x7d").toList =
      '$' :: '\x7b' :: (source.toList ++ ['\x7d']) := by
    simp [String.toList_append]
  rw [split, htext]
  exact splitFrom_expression (scanSpan?_of_parse h ht hc []) (splitFrom_nil _)

/-- A regular expression, braces and a division -/
theorem tokenize_slashes : tokenize "[/\x7d/, \x7bk: a / b\x7d]" = .ok [
    ⟨.punct .openBracket, "[", 0⟩, ⟨.regex "\x7d" "", "/\x7d/", 1⟩, ⟨.punct .comma, ",", 4⟩,
    ⟨.punct .openBrace, "\x7b", 6⟩, ⟨.name "k", "k", 7⟩, ⟨.punct .colon, ":", 8⟩,
    ⟨.name "a", "a", 10⟩, ⟨.operator (.binary .divide), "/", 12⟩, ⟨.name "b", "b", 14⟩,
    ⟨.punct .closeBrace, "\x7d", 15⟩, ⟨.punct .closeBracket, "]", 16⟩, ⟨.eof, "", 17⟩] := by
  rw [tokenize_eq_ok_iff]
  iterate 11 refine Cursor.scan_cons rfl rfl ?_
  exact Cursor.scan_last rfl rfl

theorem split_embed_slashes : ∃ e, Expr.parse "[/\x7d/, \x7bk: a / b\x7d]" = .ok e ∧
    split "$\x7b[/\x7d/, \x7bk: a / b\x7d]\x7d" =
      .ok [.expression "[/\x7d/, \x7bk: a / b\x7d]"] := by
  have places : Tokens.ofSource "[/\x7d/, \x7bk: a / b\x7d]" = .ok ⟨_, _, none⟩ :=
    Tokens.ofSource_eq_ok_iff.2 (tokenize_eq_ok_iff.1 tokenize_slashes)
  have tree : Expr.parse "[/\x7d/, \x7bk: a / b\x7d]" = .ok (.array [
      .literal ⟨.regex "\x7d" "", "/\x7d/"⟩,
      .object [(.symbol ⟨"k", "k"⟩, .binary .divide (.ofName "a") (.ofName "b"))]]) := by
    rw [Expr.parse, places]
    cbv
  exact ⟨_, tree, split_embed tree tokenize_slashes (by decide)⟩

/-- Behind a closing brace a division is taken for a regular expression, which does not end. -/
theorem split_division_ne :
    Expr.parse "\x7b\x7d/a" = .ok (.binary .divide (.object []) (.ofName "a")) ∧
      split "$\x7b\x7b\x7d/a\x7d" = .error (.unterminated 0) := by
  constructor
  · have scanned : (Cursor.start "\x7b\x7d/a").scan = ([⟨.punct .openBrace, "\x7b", 0⟩,
        ⟨.punct .closeBrace, "\x7d", 1⟩, ⟨.operator (.binary .divide), "/", 2⟩, ⟨.name "a", "a", 3⟩,
        ⟨.eof, "", 4⟩], none) := by
      iterate 4 refine Cursor.scan_cons rfl rfl ?_
      exact Cursor.scan_last rfl rfl
    have places : Tokens.ofSource "\x7b\x7d/a" = .ok ⟨_, _, none⟩ :=
      Tokens.ofSource_eq_ok_iff.2 scanned
    rw [Expr.parse, places]
    cbv
  · exact splitFrom_unterminated rfl 0

end DataBinding.Template
