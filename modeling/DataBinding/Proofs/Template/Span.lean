import DataBinding.Proofs.Grammar.Nesting
import DataBinding.Proofs.Token.Numbers
import DataBinding.Proofs.Token.Steps
import DataBinding.Template.Basic

/-!
# The scanner of expressions in templates, token by token

The scanner that looks for the end of an expression in a template reads single characters. Over the text
of a token it goes from plain code to plain code, if it takes a slash for what the token makes of it.
Braces change the depth, and all else leaves it.

Results:

* `Passes.trans`, `passes_char`, `passes_escape`: what the scanner goes over.
* `passes_readString`, `passes_readPattern?`: strings and regular expressions.
* `passes_scans`: a token.
-/

namespace DataBinding.Template

/-- Where the scanner is between two characters. -/
structure Place where
  state : SpanState
  depth : Nat
  /-- The last character that is not blank. -/
  last : Option Char

/-- The scanner goes over the characters from one place to another, whatever follows them. -/
def Passes (p : Place) (x : List Char) (p' : Place) : Prop :=
  ∀ r, scanSpan? p.state p.depth p.last (x ++ r) =
    (scanSpan? p'.state p'.depth p'.last r).map fun (text, rest) => (x ++ text, rest)

theorem passes_nil (p : Place) : Passes p [] p := fun r => by
  cases h : scanSpan? p.state p.depth p.last r <;> simp [h]

theorem Passes.trans {p₁ p₂ p₃ : Place} {x y : List Char} (h : Passes p₁ x p₂) (h' : Passes p₂ y p₃) :
    Passes p₁ (x ++ y) p₃ := by
  intro r
  rw [List.append_assoc, h, h', Option.map_map]
  congr 1
  funext ⟨text, rest⟩
  simp [List.append_assoc]

/-- One character, which is no backslash that takes another one along. -/
theorem passes_char {p : Place} {c : Char} {st : SpanState} {depth : Nat}
    (hb : p.state = .code ∨ c ≠ '\\') (h : p.state.next? p.last p.depth c = some (st, depth)) :
    Passes p [c] ⟨st, depth, lastAfter p.last c⟩ := by
  intro r
  cases r with
  | nil => simp [scanSpan?, h]
  | cons d r =>
    have hescape : (p.state.escapes && c == '\\') = false := by
      rcases hb with hb | hb
      · rw [hb]
        rfl
      · simp [hb]
    show scanSpan? p.state p.depth p.last (c :: d :: r) = _
    rw [scanSpan?, if_neg (Bool.eq_false_iff.1 hescape), h]
    rfl

/-- In a string or a regular expression a backslash takes the next character along. -/
theorem passes_escape {p : Place} (h : p.state.escapes = true) (c : Char) :
    Passes p ['\\', c] ⟨p.state, p.depth, lastAfter (lastAfter p.last '\\') c⟩ := by
  intro r
  show scanSpan? p.state p.depth p.last ('\\' :: c :: r) = _
  rw [scanSpan?, if_pos (by simp [h])]
  rfl

/-! ## Plain code -/

/-- The characters with a meaning of their own in plain code. -/
def codeMarks : List Char := ['\x7b', '\x7d', '\x27', '\x22', '/']

theorem next?_of_not_mem {c : Char} (h : c ∉ codeMarks) (last : Option Char) (depth : Nat) :
    SpanState.code.next? last depth c = some (.code, depth) := by
  simp only [codeMarks, List.mem_cons, List.not_mem_nil, or_false, not_or] at h
  obtain ⟨h₁, h₂, h₃, h₄, h₅⟩ := h
  simp [SpanState.next?, h₁, h₂, h₃, h₄, h₅]

theorem forall_not_mem_codeMarks {x : List Char}
    (h : x.any (fun c => codeMarks.contains c) = false) : ∀ c ∈ x, c ∉ codeMarks := by
  simpa using h

theorem passes_plain {x : List Char} (h : ∀ c ∈ x, c ∉ codeMarks) (depth : Nat)
    (last : Option Char) :
    Passes ⟨.code, depth, last⟩ x ⟨.code, depth, x.foldl lastAfter last⟩ := by
  induction x generalizing last with
  | nil => exact passes_nil _
  | cons c x ih =>
    rw [List.forall_mem_cons] at h
    exact (passes_char (.inl rfl) (next?_of_not_mem h.1 last depth)).trans (ih h.2 _)

/-- A character that is what none of a list is, is not in it. -/
theorem not_mem_of_any {p : Char → Bool} {cs : List Char} (hp : cs.any p = false) {c : Char}
    (h : p c = true) : c ∉ cs := by
  intro hm
  rw [List.any_eq_true.2 ⟨c, hm, h⟩] at hp
  cases hp

/-- Blanks leave everything as it is. -/
theorem passes_blanks {bs : List Char} (h : ∀ b ∈ bs, Unicode.isWhitespace b = true) (depth : Nat)
    (last : Option Char) : Passes ⟨.code, depth, last⟩ bs ⟨.code, depth, last⟩ := by
  have hlast : bs.foldl lastAfter last = last := by
    induction bs with
    | nil => rfl
    | cons b bs ih =>
      rw [List.forall_mem_cons] at h
      rw [List.foldl_cons, lastAfter, if_pos h.1, ih h.2]
  have hplain : ∀ b ∈ bs, b ∉ codeMarks := fun b hb => not_mem_of_any rfl (h b hb)
  have hp := passes_plain hplain depth last
  rwa [hlast] at hp

/-- Plain characters that end in one that is not blank. -/
theorem passes_last {x : List Char} {z : Char} (h : ∀ c ∈ x, c ∉ codeMarks)
    (hz : x.getLast? = some z) (hb : Unicode.isWhitespace z = false) (depth : Nat)
    (last : Option Char) : Passes ⟨.code, depth, last⟩ x ⟨.code, depth, some z⟩ := by
  obtain ⟨init, rfl⟩ := List.getLast?_eq_some_iff.1 hz
  have hp := passes_plain h depth last
  rwa [List.foldl_append, List.foldl_cons, List.foldl_nil, lastAfter, if_neg (by simp [hb])] at hp

theorem opensRegex_of_not_mem {c : Char} (h : c ∉ regexPreceders) : opensRegex (some c) = false := by
  simpa [opensRegex] using h

/-! ## Words and numbers -/

theorem not_mem_codeMarks_of_isIdentifierPart {c : Char} (h : isIdentifierPart c = true) :
    c ∉ codeMarks := not_mem_of_any rfl h

theorem opensRegex_of_isIdentifierPart {c : Char} (h : isIdentifierPart c = true) :
    opensRegex (some c) = false := opensRegex_of_not_mem (not_mem_of_any rfl h)

/-- Behind the characters of a name no regular expression opens. -/
theorem passes_word {x : List Char} (hne : x ≠ []) (h : ∀ c ∈ x, isIdentifierPart c = true)
    (depth : Nat) (last : Option Char) : ∃ last', opensRegex last' = false ∧
      Passes ⟨.code, depth, last⟩ x ⟨.code, depth, last'⟩ := by
  have hz : isIdentifierPart (x.getLast hne) = true := h _ (List.getLast_mem hne)
  exact ⟨some (x.getLast hne), opensRegex_of_isIdentifierPart hz,
    passes_last (fun c hc => not_mem_codeMarks_of_isIdentifierPart (h c hc))
      (List.getLast?_eq_some_getLast hne) (Token.isWhitespace_of_isIdentifierPart hz) depth last⟩

/-- Behind a number no regular expression opens. -/
theorem passes_number {cs : List Char} {x : Float}
    (hx : Token.numberValue? (Token.spanNumber .start cs).1 = some x) (depth : Nat)
    (last : Option Char) : ∃ last', opensRegex last' = false ∧
      Passes ⟨.code, depth, last⟩ (Token.spanNumber .start cs).1 ⟨.code, depth, last'⟩ := by
  have hchars := Token.forall_spanNumber .start cs
  generalize (Token.spanNumber .start cs).1 = raw at hx hchars
  have hplain : ∀ c ∈ raw, c ∉ codeMarks := by
    intro c hc
    rcases hchars c hc with (rfl | rfl) | rfl | hpart
    · decide
    · decide
    · decide
    · exact not_mem_codeMarks_of_isIdentifierPart hpart
  rcases List.eq_nil_or_concat raw with rfl | ⟨init, z, rfl⟩
  · cases hx
  rw [List.concat_eq_append] at *
  have hz : z = '.' ∨ isIdentifierPart z = true := by
    refine (hchars z (by simp)).resolve_left fun hs => ?_
    rw [Token.numberValue?_concat_sign hs] at hx
    cases hx
  have hlast : (init ++ [z]).getLast? = some z := by simp
  rcases hz with rfl | hpart
  · exact ⟨some '.', rfl, passes_last hplain hlast rfl depth last⟩
  · exact ⟨some z, opensRegex_of_isIdentifierPart hpart,
      passes_last hplain hlast (Token.isWhitespace_of_isIdentifierPart hpart) depth last⟩

/-! ## Strings -/

/-- The scanner stays in the string. -/
def StaysQuoted (quote : Char) (x : List Char) : Prop :=
  ∀ depth last, ∃ last', Passes ⟨.quoted quote, depth, last⟩ x ⟨.quoted quote, depth, last'⟩

theorem staysQuoted_nil (quote : Char) : StaysQuoted quote [] := fun _ last => ⟨last, passes_nil _⟩

theorem StaysQuoted.append {quote : Char} {x y : List Char} (hx : StaysQuoted quote x)
    (hy : StaysQuoted quote y) : StaysQuoted quote (x ++ y) := by
  intro depth last
  obtain ⟨last₁, h₁⟩ := hx depth last
  obtain ⟨last₂, h₂⟩ := hy depth last₁
  exact ⟨last₂, h₁.trans h₂⟩

theorem staysQuoted_char {quote c : Char} (hc : c ≠ quote) (hb : c ≠ '\\') :
    StaysQuoted quote [c] := by
  intro depth last
  refine ⟨_, passes_char (.inr hb) ?_⟩
  simp [SpanState.next?, hc]

theorem staysQuoted_escape (quote c : Char) : StaysQuoted quote ['\\', c] :=
  fun _ _ => ⟨_, passes_escape rfl c⟩

theorem staysQuoted_of_forall {quote : Char} {p : Char → Bool} (hq : p quote = false)
    (hb : p '\\' = false) {x : List Char} (h : ∀ c ∈ x, p c = true) : StaysQuoted quote x := by
  induction x with
  | nil => exact staysQuoted_nil quote
  | cons c x ih =>
    rw [List.forall_mem_cons] at h
    have ne : ∀ {d : Char}, p d = false → c ≠ d := by
      rintro d hd rfl
      rw [h.1] at hd
      cases hd
    exact (staysQuoted_char (ne hq) (ne hb)).append (ih h.2)

/-- The quotes of strings. -/
def IsQuote (c : Char) : Prop := c = '\x22' ∨ c = '\x27'

theorem staysQuoted_readHex {quote marker : Char} (hq : IsQuote quote) {position count n : Nat}
    {digits cs rest : List Char}
    (h : Token.readHex marker position count digits cs = .ok (n, rest)) :
    ∃ used, cs = used ++ rest ∧ StaysQuoted quote used := by
  have hquote : Token.isHexDigit quote = false := by rcases hq with rfl | rfl <;> rfl
  obtain ⟨used, hused, hdigits⟩ : ∃ used, cs = used ++ rest ∧
      ∀ c ∈ used, Token.isHexDigit c = true := by
    induction count generalizing digits cs with
    | zero =>
      cases h
      exact ⟨[], rfl, by simp⟩
    | succ count ih =>
      cases cs with
      | nil => cases h
      | cons c cs =>
        rw [Token.readHex] at h
        split at h
        · rename_i hc
          obtain ⟨used, rfl, hu⟩ := ih h
          exact ⟨c :: used, rfl, List.forall_mem_cons.2 ⟨hc, hu⟩⟩
        · cases h
  exact ⟨used, hused, staysQuoted_of_forall hquote rfl hdigits⟩

theorem staysQuoted_readUnicodeEscape {quote : Char} (hq : IsQuote quote) {position : Nat}
    {cs rest : List Char} {c : Char}
    (h : Token.readUnicodeEscape position cs = .ok (c, rest)) :
    ∃ used, cs = used ++ rest ∧ StaysQuoted quote used := by
  obtain ⟨⟨high, rest₁⟩, hhigh, hunit⟩ := bind_eq_ok_iff.1 h
  obtain ⟨used, rfl, hused⟩ := staysQuoted_readHex hq hhigh
  dsimp only at hunit
  split at hunit
  · rename_i more
    split at hunit
    · obtain ⟨⟨low, rest₂⟩, hlow, hpair⟩ := bind_eq_ok_iff.1 hunit
      obtain ⟨used₂, rfl, hused₂⟩ := staysQuoted_readHex hq hlow
      have hrest : rest = rest₂ := by
        dsimp only at hpair
        split at hpair
        · exact (Prod.mk.inj (Except.ok.inj hpair)).2.symm
        · exact Token.charOfUnit_suffix hpair
      subst hrest
      exact ⟨used ++ (['\\', 'u'] ++ used₂), by simp,
        hused.append ((staysQuoted_escape quote 'u').append hused₂)⟩
    · exact ⟨used, by rw [Token.charOfUnit_suffix hunit], hused⟩
  · exact ⟨used, by rw [Token.charOfUnit_suffix hunit], hused⟩

/-- An escape inside a string ends inside it. -/
theorem staysQuoted_readEscape {quote : Char} (hq : IsQuote quote) {position : Nat}
    {cs out more : List Char} {u : Char}
    (h : Token.readEscape position cs = .ok (out, u :: more)) :
    ∃ es, cs = es ++ u :: more ∧ StaysQuoted quote ('\\' :: es) := by
  cases cs with
  | nil => cases h
  | cons c rest =>
    -- the first character is taken along, and the others stay in the string
    have first : ∀ used : List Char, rest = used ++ u :: more → StaysQuoted quote used →
        ∃ es, c :: rest = es ++ u :: more ∧ StaysQuoted quote ('\\' :: es) := fun used hrest hused =>
      ⟨c :: used, by rw [hrest, List.cons_append], (staysQuoted_escape quote c).append hused⟩
    unfold Token.readEscape at h
    dsimp only at h
    split at h
    · rename_i hoct
      obtain ⟨-, hdrop⟩ := Prod.mk.inj (Except.ok.inj h)
      obtain ⟨ds, hds, hrun, -⟩ := Token.octalRun_local hoct hdrop
      have hall : ∀ d ∈ c :: ds, Token.isOctalDigit d = true := by
        rw [← hrun]
        exact fun d hd => List.all_eq_true.1 List.all_takeWhile d hd
      refine first ds (List.cons.inj hds).2
        (staysQuoted_of_forall ?_ rfl (List.forall_mem_cons.1 hall).2)
      rcases hq with rfl | rfl <;> rfl
    split at h
    · cases h
      exact first [] rfl (staysQuoted_nil quote)
    split at h
    · obtain ⟨⟨n, rest'⟩, hhex, he⟩ := bind_eq_ok_iff.1 h
      cases he
      obtain ⟨used, hrest, hused⟩ := staysQuoted_readHex hq hhex
      exact first used hrest hused
    split at h
    · obtain ⟨⟨d, rest'⟩, huni, he⟩ := bind_eq_ok_iff.1 h
      cases he
      obtain ⟨used, hrest, hused⟩ := staysQuoted_readUnicodeEscape hq huni
      exact first used hrest hused
    split at h
    · cases h
      exact first [] rfl (staysQuoted_nil quote)
    split at h
    · split at h
      · cases h
        refine first ['\n'] rfl (staysQuoted_char ?_ (by decide))
        rcases hq with rfl | rfl <;> decide
      · cases h
        exact first [] rfl (staysQuoted_nil quote)
    · cases h
      exact first [] rfl (staysQuoted_nil quote)

/-- The scanner leaves a string where the reader of tokens does. -/
theorem passes_readString {quote : Char} (hq : IsQuote quote) {start position : Nat}
    {cs text rest : List Char} (h : Token.readString quote start position cs = .ok (text, rest)) :
    ∃ c used, cs = c :: used ++ rest ∧ ∀ depth last,
      Passes ⟨.quoted quote, depth, last⟩ (c :: used) ⟨.code, depth, some quote⟩ := by
  fun_induction Token.readString quote start position cs generalizing text rest with
  | case1 => cases h
  | case2 _ more =>
    cases h
    refine ⟨quote, [], rfl, fun depth last => ?_⟩
    have hnext : (SpanState.quoted quote).next? last depth quote = some (.code, depth) := by
      simp [SpanState.next?]
    have hlast : lastAfter last quote = some quote := by rcases hq with rfl | rfl <;> rfl
    rw [← hlast]
    exact passes_char (.inr (by rcases hq with rfl | rfl <;> decide)) hnext
  | case3 => cases h
  | case4 => cases h
  | case5 position' more out rest' he hne hline ih =>
    obtain ⟨⟨text', r'⟩, htext, heq⟩ := bind_eq_ok_iff.1 h
    cases heq
    obtain ⟨u, used, rfl, hused⟩ := ih htext
    obtain ⟨es, rfl, hes⟩ := staysQuoted_readEscape hq he
    refine ⟨'\\', es ++ u :: used, by simp, fun depth last => ?_⟩
    obtain ⟨last', hstay⟩ := hes depth last
    exact hstay.trans (hused depth last')
  | case6 position' c more hne hline hb ih =>
    obtain ⟨⟨text', r'⟩, htext, heq⟩ := bind_eq_ok_iff.1 h
    cases heq
    obtain ⟨u, used, rfl, hused⟩ := ih htext
    refine ⟨c, u :: used, rfl, fun depth last => ?_⟩
    obtain ⟨last', hstay⟩ := staysQuoted_char hne hb depth last
    exact hstay.trans (hused depth last')

/-! ## Regular expressions -/

/-- The scanner leaves a pattern where the reader of tokens does. -/
theorem passes_readPattern? {inClass : Bool} {cs p rest : List Char}
    (h : Token.readPattern? inClass cs = some (p, rest)) : ∃ used, cs = used ++ rest ∧
      ∀ depth last, Passes ⟨.regex inClass, depth, last⟩ used ⟨.code, depth, some '/'⟩ := by
  fun_induction Token.readPattern? inClass cs generalizing p rest with
  | case1 => cases h
  | case2 => cases h
  | case3 inClass c more hc ih =>
    obtain ⟨⟨p', rest'⟩, h', he⟩ := Option.map_eq_some_iff.1 h
    cases he
    obtain ⟨used, rfl, hused⟩ := ih h'
    exact ⟨'\\' :: c :: used, rfl, fun depth last => (passes_escape rfl c).trans (hused depth _)⟩
  | case4 => cases h
  | case5 inClass c more hfirst hc hs =>
    cases h
    obtain ⟨rfl, hclass⟩ := hs
    refine ⟨['/'], rfl, fun depth last => passes_char (.inr (by decide)) ?_⟩
    simp [SpanState.next?, hclass]
  | case6 inClass c more hfirst hc hs ih =>
    obtain ⟨⟨p', rest'⟩, h', he⟩ := Option.map_eq_some_iff.1 h
    cases he
    obtain ⟨used, rfl, hused⟩ := ih h'
    have hb : c ≠ '\\' := fun hb => hc (.inr (.inr hb))
    refine ⟨c :: used, rfl, fun depth last => (passes_char (.inr hb) ?_).trans (hused depth _)⟩
    simp only [SpanState.next?]
    split
    · rfl
    split
    · rfl
    · rfl

/-! ## Tokens -/

/-- Does the scanner take a slash behind the token for the start of a regular expression? It only sees
    the last character: a word is no operator to it, and every closing brace ends a statement. -/
def opensRegexAfter : TokenKind → Bool
  | .punct .closeBrace => true
  | .punct .dot => false
  | .operator (.binary .divide) | .operator (.binary .within) | .operator .typeof
  | .operator .void => false
  | kind => kind.expectsValue

/-- The word operators do not count. -/
theorem opensRegexAfter_of_word {op : Operator}
    (h : op.spelling.toList.all isIdentifierPart = true) :
    opensRegexAfter (.operator op) = false := by
  cases op with
  | binary op => cases op <;> first | rfl | exact absurd h (by decide +kernel)
  | _ => first | rfl | exact absurd h (by decide +kernel)

/-- The last character of an operator that does not divide tells what the scanner takes a slash for. -/
theorem passes_operator {op : Operator} (h : op ≠ .binary .divide) (depth : Nat)
    (last : Option Char) : ∃ last', opensRegex last' = opensRegexAfter (.operator op) ∧
      Passes ⟨.code, depth, last⟩ op.spelling.toList ⟨.code, depth, last'⟩ := by
  have ends {z : Char} (hz : op.spelling.toList.getLast? = some z)
      (hplain : ∀ c ∈ op.spelling.toList, c ∉ codeMarks) (hb : Unicode.isWhitespace z = false)
      (hr : opensRegex (some z) = opensRegexAfter (.operator op)) :
      ∃ last', opensRegex last' = opensRegexAfter (.operator op) ∧
        Passes ⟨.code, depth, last⟩ op.spelling.toList ⟨.code, depth, last'⟩ :=
    ⟨some z, hr, passes_last hplain hz hb depth last⟩
  cases op with
  | binary op =>
    cases op <;> first
      | exact absurd rfl h
      | exact ends rfl (forall_not_mem_codeMarks rfl) rfl rfl
  | _ => exact ends rfl (forall_not_mem_codeMarks rfl) rfl rfl

/-- A division, where the scanner takes it for one. -/
theorem passes_divide {last : Option Char} (h : opensRegex last = false) (depth : Nat) :
    Passes ⟨.code, depth, last⟩ ['/'] ⟨.code, depth, some '/'⟩ :=
  passes_char (.inl rfl) (by simp [SpanState.next?, h])

/-- A mark: braces change the depth. -/
theorem passes_punct (p : Punct) {depth depth' : Nat}
    (h : Nested.depthAfterKind? depth (.punct p) = some depth') (last : Option Char) :
    ∃ last', opensRegex last' = opensRegexAfter (.punct p) ∧
      Passes ⟨.code, depth, last⟩ [p.char] ⟨.code, depth', last'⟩ := by
  have hnext : SpanState.code.next? last depth p.char = some (.code, depth') := by
    cases p with
    | closeBrace =>
      simp only [Nested.depthAfterKind?] at h
      split at h
      · cases h
      · rename_i hdepth
        cases h
        simp [SpanState.next?, Punct.char, hdepth]
    | _ => cases h; rfl
  refine ⟨lastAfter last p.char, ?_, passes_char (.inl rfl) hnext⟩
  cases p <;> rfl

/-- A string. -/
theorem passes_string {quote : Char} (hq : IsQuote quote) {cs text rest : List Char}
    (h : Token.readString quote 0 0 cs = .ok (text, rest)) (depth : Nat) (last : Option Char) :
    ∃ raw, quote :: cs = raw ++ rest ∧
      Passes ⟨.code, depth, last⟩ raw ⟨.code, depth, some quote⟩ := by
  obtain ⟨c, used, rfl, hused⟩ := passes_readString hq h
  have hopen : SpanState.code.next? last depth quote = some (.quoted quote, depth) := by
    rcases hq with rfl | rfl <;> rfl
  exact ⟨quote :: c :: used, rfl, (passes_char (.inl rfl) hopen).trans (hused depth _)⟩

/-- A regular expression and its flags, where the scanner takes it for one. -/
theorem passes_regex {cs pattern rest : List Char}
    (h : Token.readPattern? false cs = some (pattern, rest)) {last : Option Char}
    (hl : opensRegex last = true) (depth : Nat) : ∃ raw last',
      '/' :: cs = raw ++ rest.dropWhile isIdentifierPart ∧ opensRegex last' = false ∧
      Passes ⟨.code, depth, last⟩ raw ⟨.code, depth, last'⟩ := by
  obtain ⟨used, rfl, hused⟩ := passes_readPattern? h
  have hopen : SpanState.code.next? last depth '/' = some (.regex false, depth) := by
    simp [SpanState.next?, hl]
  have hpattern : Passes ⟨.code, depth, last⟩ ('/' :: used) ⟨.code, depth, some '/'⟩ :=
    (passes_char (.inl rfl) hopen).trans (hused depth _)
  have htext : '/' :: (used ++ rest) = ('/' :: used ++ rest.takeWhile isIdentifierPart) ++
      rest.dropWhile isIdentifierPart := by
    rw [List.append_assoc, List.takeWhile_append_dropWhile, List.cons_append]
  by_cases hflags : rest.takeWhile isIdentifierPart = []
  · refine ⟨_, some '/', htext, rfl, ?_⟩
    rwa [hflags, List.append_nil]
  · obtain ⟨last', hr, hword⟩ := passes_word hflags
      (fun c hc => List.all_eq_true.1 List.all_takeWhile c hc) depth (some '/')
    exact ⟨_, last', htext, hr, hpattern.trans hword⟩

theorem spelling_of_ofSpelling? {s : String} {op : Operator} (h : Operator.ofSpelling? s = some op) :
    op.spelling = s := by
  unfold Operator.ofSpelling? at h
  have hop := List.find?_some h
  exact beq_iff_eq.1 hop

/-- An operator token is read from its spelling. -/
theorem spelling_of_kindOfOperator {position : Nat} {op : List Char} {kind : TokenKind}
    (h : Token.kindOfOperator position (String.ofList op) = .ok kind) :
    (op = ['=', '>'] ∧ kind = .arrow) ∨ ∃ o : Operator, op = o.spelling.toList ∧ kind = .operator o := by
  unfold Token.kindOfOperator at h
  split at h
  · rename_i he
    cases h
    exact .inl ⟨by rw [← String.toList_ofList (l := op), he]; rfl, rfl⟩
  split at h
  · rename_i o ho
    cases h
    exact .inr ⟨o, by rw [spelling_of_ofSpelling? ho, String.toList_ofList], rfl⟩
  · cases h

/-- A word opens no brace, and to the scanner it is no operator. -/
theorem opensRegexAfter_of_kindOfWord {afterDot : Bool} {position : Nat} {word : String}
    {kind : TokenKind} (h : Token.kindOfWord afterDot position word = .ok kind)
    (hw : word.toList.all isIdentifierPart = true) :
    (∀ depth, Nested.depthAfterKind? depth kind = some depth) ∧ opensRegexAfter kind = false := by
  unfold Token.kindOfWord at h
  split at h
  · cases h
    exact ⟨fun _ => rfl, rfl⟩
  split at h
  · cases h
    exact ⟨fun _ => rfl, rfl⟩
  split at h
  · rename_i op hop
    cases h
    exact ⟨fun _ => rfl, opensRegexAfter_of_word (spelling_of_ofSpelling? hop ▸ hw)⟩
  -- neither forbidden nor reserved
  iterate 2
    split at h
    · cases h
  cases h
  exact ⟨fun _ => rfl, rfl⟩

/-- Does the token start with a slash? -/
def startsWithSlash : TokenKind → Bool
  | .operator (.binary .divide) | .regex .. => true
  | _ => false

/-- The scanner goes over a token, if it takes a slash at its start as the reader of tokens does. -/
theorem passes_scans {v d : Bool} {c : Char} {cs rest : List Char} {kind : TokenKind}
    (h : Token.Scans v d c cs kind rest) {depth depth' : Nat}
    (hd : Nested.depthAfterKind? depth kind = some depth') {last : Option Char}
    (hl : startsWithSlash kind = true → opensRegex last = v) : ∃ raw last',
      c :: cs = raw ++ rest ∧ opensRegex last' = opensRegexAfter kind ∧
      Passes ⟨.code, depth, last⟩ raw ⟨.code, depth', last'⟩ := by
  cases h with
  | number hc hx =>
    cases hd
    obtain ⟨last', hr, hp⟩ := passes_number hx depth last
    exact ⟨_, last', (Token.spanNumber_append .start (c :: cs)).symm, hr, hp⟩
  | string hc h =>
    cases hd
    obtain ⟨raw, hraw, hp⟩ := passes_string hc (h 0 0) depth last
    exact ⟨raw, some c, hraw, by rcases hc with rfl | rfl <;> rfl, hp⟩
  | regex hc hv hp hne hf =>
    cases hd
    subst hc
    obtain ⟨raw, last', hraw, hr, hp⟩ := passes_regex hp ((hl rfl).trans hv) depth
    exact ⟨raw, last', hraw, hr, hp⟩
  | punct p hc hn =>
    subst hc
    obtain ⟨last', hr, hp⟩ := passes_punct p hd last
    exact ⟨[p.char], last', rfl, hr, hp⟩
  | operator hc hv hk =>
    have htext := Token.extendOperator_append [] (c :: cs)
    rw [List.nil_append] at htext
    obtain ⟨hop, rfl⟩ | ⟨op, hop, rfl⟩ := spelling_of_kindOfOperator (hk 0)
    · cases hd
      rw [hop] at htext
      exact ⟨_, some '>', htext.symm, rfl,
        passes_last (forall_not_mem_codeMarks rfl) rfl rfl depth last⟩
    cases hd
    rw [hop] at htext
    by_cases hdivide : op = .binary .divide
    · subst hdivide
      have hc : c = '/' := (List.cons.inj htext).1.symm
      exact ⟨_, some '/', htext.symm, rfl, passes_divide ((hl rfl).trans (hv hc)) depth⟩
    · obtain ⟨last', hr, hp⟩ := passes_operator hdivide depth last
      exact ⟨_, last', htext.symm, hr, hp⟩
  | word hc hk =>
    have hne : (c :: cs).takeWhile isIdentifierPart ≠ [] := by
      simp [Token.isIdentifierPart_of_start hc]
    have hall : ∀ c' ∈ (c :: cs).takeWhile isIdentifierPart, isIdentifierPart c' = true :=
      fun c' hc' => List.all_eq_true.1 List.all_takeWhile c' hc'
    obtain ⟨last', hr, hp⟩ := passes_word hne hall depth last
    obtain ⟨hdepth, hkind⟩ := opensRegexAfter_of_kindOfWord (hk 0) (by simp)
    cases (hdepth depth).symm.trans hd
    exact ⟨_, last', List.takeWhile_append_dropWhile.symm, hr.trans hkind.symm, hp⟩

end DataBinding.Template
