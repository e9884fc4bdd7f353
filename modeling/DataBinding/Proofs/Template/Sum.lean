import DataBinding.Eval.Documents
import DataBinding.Proofs.Program.Parts

/-!
# The value of a template

A template of several segments is a sum of its parts, added from the left. A value that is a text or has
an identity adds as a text, and so does the sum from there on; only values before the first of these are
added as numbers.

Results:

* `Value.sum_of_text`: if one of the first two values adds as a text, the sum is the text of all values
  in a row.
* `Value.sum_of_numbers`: what the values before the first text give.
* `Expr.evalIn_sum`: a sum of expressions evaluates them in order and adds their values.
* `Program.value_of_template`: the value of a template by the values of its segments.
-/

namespace DataBinding

/-! ## Sums of values -/

namespace Value

/-- Does the value make any sum with it a text? Texts do, and values with an identity. -/
def addsAsText (v : Value) : Bool := v.primitive.isString

theorem toText_primitive (v : Value) : v.primitive.toText = v.toText := by
  unfold primitive
  split
  · rfl
  · rw [toText_string]

/-- What does not add as a text is its own primitive value. -/
theorem primitive_eq_self {v : Value} (h : v.addsAsText = false) : v.primitive = v := by
  unfold addsAsText at h
  unfold primitive at h ⊢
  split
  · rfl
  · rename_i hp
    rw [if_neg hp] at h
    cases h

theorem add_of_text {a b : Value} (h : a.addsAsText = true ∨ b.addsAsText = true) :
    a.add b = string (a.toText ++ b.toText) := by
  have hs : (a.primitive.isString || b.primitive.isString) = true :=
    (Bool.or_eq_true _ _).mpr h
  unfold add
  dsimp only
  rw [if_pos hs, toText_primitive, toText_primitive]

theorem add_of_numbers {a b : Value} (ha : a.addsAsText = false) (hb : b.addsAsText = false) :
    a.add b = number (a.toNumber + b.toNumber) := by
  have h : ¬ (a.primitive.isString || b.primitive.isString) = true := by
    change ¬ (a.addsAsText || b.addsAsText) = true
    rw [ha, hb]
    exact Bool.false_ne_true
  unfold add
  dsimp only
  rw [if_neg h, primitive_eq_self ha, primitive_eq_self hb]

/-- The sum of the values, from the left. No value is the empty text. -/
def sum : List Value → Value
  | [] => string ""
  | v :: vs => vs.foldl add v

/-- A text stays a text, whatever is added. -/
theorem foldl_add_string (s : String) (vs : List Value) :
    vs.foldl add (string s) = string (s ++ String.join (vs.map toText)) := by
  induction vs generalizing s with
  | nil => simp
  | cons v vs ih =>
    have hadd : (string s).add v = string (s ++ v.toText) := by
      rw [add_of_text (.inl rfl), toText_string]
    rw [List.foldl_cons, hadd, ih, List.map_cons, String.join_cons, String.append_assoc]

/-- If one of the first two values adds as a text, the sum is the text of all of them in a row. -/
theorem sum_of_text {a b : Value} (h : a.addsAsText = true ∨ b.addsAsText = true)
    (vs : List Value) : sum (a :: b :: vs) = string (String.join ((a :: b :: vs).map toText)) := by
  rw [sum, List.foldl_cons, add_of_text h, foldl_add_string]
  simp only [List.map_cons, String.join_cons, String.append_assoc]

/-- The sum of the values as numbers, from the left. -/
def numberSum : List Value → Float
  | [] => 0.0
  | v :: vs => vs.foldl (fun sum w => sum + w.toNumber) v.toNumber

/-- Values that do not add as texts are added as numbers. -/
theorem foldl_add_number {vs : List Value} (h : ∀ v ∈ vs, v.addsAsText = false) (x : Float) :
    vs.foldl add (number x) = number (vs.foldl (fun sum v => sum + v.toNumber) x) := by
  induction vs generalizing x with
  | nil => rfl
  | cons v vs ih =>
    rw [List.forall_mem_cons] at h
    have hadd : (number x).add v = number (x + v.toNumber) := add_of_numbers rfl h.1
    rw [List.foldl_cons, hadd, ih h.2, List.foldl_cons]

/-- The values before the first one that adds as a text give the sum of their numbers, and the text of
    that sum stands before the others. -/
theorem sum_of_numbers {numbers texts : List Value} (hn : ∀ v ∈ numbers, v.addsAsText = false)
    (hlen : 2 ≤ numbers.length) (ht : ∀ v, texts.head? = some v → v.addsAsText = true) :
    sum (numbers ++ texts) =
      if texts = [] then number (numberSum numbers)
      else string (Decimal.valueText (numberSum numbers) ++ String.join (texts.map toText)) := by
  obtain ⟨a, b, rest, rfl⟩ : ∃ a b rest, numbers = a :: b :: rest := by
    match numbers, hlen with
    | a :: b :: rest, _ => exact ⟨a, b, rest, rfl⟩
  rw [List.forall_mem_cons, List.forall_mem_cons] at hn
  have leading : (b :: rest).foldl add a = number (numberSum (a :: b :: rest)) := by
    rw [List.foldl_cons, add_of_numbers hn.1 hn.2.1, foldl_add_number hn.2.2]
    rfl
  rw [List.cons_append, sum, List.foldl_append, leading]
  cases texts with
  | nil => rfl
  | cons v vs =>
    have hadd : (number (numberSum (a :: b :: rest))).add v =
        string (Decimal.valueText (numberSum (a :: b :: rest)) ++ v.toText) := by
      rw [add_of_text (.inr (ht v rfl))]
      rfl
    rw [List.foldl_cons, hadd, foldl_add_string, if_neg (List.cons_ne_nil v vs), List.map_cons,
      String.join_cons, String.append_assoc]

/-- Values that do not add as texts, and then one that does, if there is any. -/
theorem exists_split_texts (vs : List Value) : ∃ numbers texts, vs = numbers ++ texts ∧
    (∀ v ∈ numbers, v.addsAsText = false) ∧ ∀ v, texts.head? = some v → v.addsAsText = true := by
  refine ⟨vs.takeWhile fun v => !v.addsAsText, vs.dropWhile fun v => !v.addsAsText,
    List.takeWhile_append_dropWhile.symm, fun v hv => ?_, fun v hv => ?_⟩
  · simpa using List.all_eq_true.1 List.all_takeWhile v hv
  · have hhead := List.head?_dropWhile_not (fun v : Value => !v.addsAsText) vs
    rw [hv] at hhead
    simpa using hhead

end Value

/-! ## Runs in a row -/

/-- An evaluation of two steps gives a value if both steps do. -/
theorem Eval.run_bind_eq_ok_iff {α β : Type} {x : Eval α} {f : α → Eval β} {t t' : Trace} {b : β} :
    ((x >>= f).run).run t = (.ok b, t') ↔
      ∃ a t₁, (x.run).run t = (.ok a, t₁) ∧ ((f a).run).run t₁ = (.ok b, t') := by
  show (ExceptT.bindCont f ((x.run).run t).1).run ((x.run).run t).2 = (.ok b, t') ↔ _
  generalize (x.run).run t = outcome
  obtain ⟨a | a, t₁⟩ := outcome
  · constructor
    · intro h
      cases h
    · rintro ⟨a', t₂, h, -⟩
      cases h
  · constructor
    · exact fun h => ⟨a, t₁, rfl, h⟩
    · rintro ⟨a', t₂, h, hf⟩
      cases h
      exact hf

namespace Expr

variable {env : Env} {call : Caller} {locals : Dict Value}

theorem evalIn_add (left right : Expr) : (binary .add left right).evalIn env call locals = (do
    let a ← left.evalIn env call locals
    let b ← right.evalIn env call locals
    return a.add b) := by
  rw [evalIn]
  rfl

/-- A sum evaluates its parts in order and adds their values. -/
theorem evalIn_sum (e : Expr) (parts : List Expr) :
    (parts.foldl (binary .add) e).evalIn env call locals = (do
      let a ← e.evalIn env call locals
      let vs ← evalList env call locals parts
      return vs.foldl Value.add a) := by
  induction parts generalizing e with
  | nil =>
    rw [List.foldl_nil, evalList]
    simp
  | cons part parts ih =>
    rw [List.foldl_cons, ih, evalIn_add, evalList]
    simp only [bind_assoc, pure_bind, List.foldl_cons]

/-- The value of several parts is the sum of their values. -/
theorem exists_sum_of_eval {x y : Expr} {rest : List Expr} {t t' : Trace} {v : Value}
    (h : (((concatenate (x :: y :: rest)).evalIn env call locals).run).run t = (.ok v, t')) :
    ∃ vs, ((evalList env call locals (x :: y :: rest)).run).run t = (.ok vs, t') ∧ v = Value.sum vs := by
  change ((((y :: rest).foldl (binary .add) x).evalIn env call locals).run).run t = _ at h
  rw [evalIn_sum] at h
  obtain ⟨a, t₁, ha, h⟩ := Eval.run_bind_eq_ok_iff.1 h
  obtain ⟨vs, t₂, hvs, h⟩ := Eval.run_bind_eq_ok_iff.1 h
  cases h
  refine ⟨a :: vs, ?_, rfl⟩
  rw [evalList]
  exact Eval.run_bind_eq_ok_iff.2 ⟨a, t₁, ha, Eval.run_bind_eq_ok_iff.2 ⟨vs, t', hvs, rfl⟩⟩

end Expr

/-! ## Templates -/

/-- The values that the segments of a template have by themselves: a plain text has its text, and an
    expression what a call of its own program gives. The calls follow each other, from one trace to
    another. -/
inductive Linker.SegmentValues (l : Linker) (host : Host) (direct : List Value) :
    List Segment → Trace → List Value → Trace → Prop where
  | nil (t : Trace) : SegmentValues l host direct [] t [] t
  | literal (text : String) {rest : List Segment} {vs : List Value} {t t' : Trace}
      (hs : SegmentValues l host direct rest t vs t') :
      SegmentValues l host direct (.literal text :: rest) t (.string text :: vs) t'
  | expression {source : String} {p : Program} {rest : List Segment} {v : Value} {vs : List Value}
      {t t₁ t' : Trace} (hp : l.compile source = .ok p)
      (hv : ((p.call host direct).run).run t = (.ok v, t₁))
      (hs : SegmentValues l host direct rest t₁ vs t') :
      SegmentValues l host direct (.expression source :: rest) t (v :: vs) t'

/-- There is a value for each segment. -/
theorem Linker.SegmentValues.length_eq {l : Linker} {host : Host} {direct : List Value}
    {segments : List Segment} {t t' : Trace} {vs : List Value}
    (h : l.SegmentValues host direct segments t vs t') : vs.length = segments.length := by
  induction h with
  | nil => rfl
  | literal _ _ ih | expression _ _ _ ih => rw [List.length_cons, List.length_cons, ih]

namespace Program

variable {p q : Program} {host : Host} {direct : List Value}

theorem directNames_congr (h : p.parameters = q.parameters) : p.directNames = q.directNames := by
  rw [directNames, h, directNames]

/-- Programs with the same parameters run in the same surroundings. -/
theorem env_congr (h : p.parameters = q.parameters) : p.env host direct = q.env host direct := by
  rw [env, directNames_congr h, env]

end Program

namespace Linker

variable {l : Linker} {host : Host} {direct : List Value}

/-- If the parts of a template have values one after the other, its segments have these values. -/
theorem segmentValues_of_evalList {p : Program} (hv : l.config.validate = .ok ())
    (hp : p.parameters = l.config.parameters) (hlen : p.directNames.length = direct.length)
    {segments : List Segment} {parts : List (Expr × List String)}
    (hs : l.compileSegments segments = .ok parts) {t t' : Trace} {vs : List Value}
    (h : ((evalList (p.env host direct) ((p.env host direct).call maxCallDepth) []
      (parts.map Prod.fst)).run).run t = (.ok vs, t')) :
    l.SegmentValues host direct segments t vs t' := by
  induction segments generalizing parts t vs with
  | nil =>
    cases hs
    cases h
    exact .nil _
  | cons s rest ih =>
    obtain ⟨part, hpart, hs⟩ := bind_eq_ok_iff.1 hs
    obtain ⟨parts', hparts, hs⟩ := bind_eq_ok_iff.1 hs
    cases hs
    rw [List.map_cons, evalList] at h
    obtain ⟨v, t₁, hval, h⟩ := Eval.run_bind_eq_ok_iff.1 h
    obtain ⟨vs', t₂, hvals, h⟩ := Eval.run_bind_eq_ok_iff.1 h
    cases h
    cases s with
    | literal text =>
      cases hpart
      cases hval
      exact .literal text (ih hparts hvals)
    | expression source =>
      obtain ⟨q, hq, hpart⟩ := bind_eq_ok_iff.1 hpart
      cases hpart
      have hqp : q.parameters = p.parameters := by
        obtain ⟨e, linked, code, -, -, -, rfl⟩ := compileChecked_eq_ok_iff.1 hq
        exact hp.symm
      refine .expression (compile_eq_ok_iff.2 ⟨hv, hq⟩) ?_ (ih hparts hvals)
      rw [Program.call_eq (Program.directNames_congr hqp ▸ hlen), Program.env_congr hqp]
      rw [Expr.evalIn_parens] at hval
      exact hval

theorem compileSegments_cons {s : Segment} {rest : List Segment} {part : Expr × List String}
    {parts : List (Expr × List String)} (h : l.compileSegment s = .ok part)
    (hs : l.compileSegments rest = .ok parts) : l.compileSegments (s :: rest) = .ok (part :: parts) := by
  rw [compileSegments, h, hs]
  rfl

theorem compileSegment_of_link {source : String} {e tree : Expr} {watchers : List String}
    {code : String} (he : Expr.parse source = .ok e) (hl : l.link e = .ok ⟨tree, watchers⟩)
    (hc : tree.print = .ok code) :
    l.compileSegment (.expression source) = .ok (.parens tree, watchers) := by
  rw [compileSegment, compileChecked_eq_ok_iff.2 ⟨e, _, code, he, hl, hc, rfl⟩]
  rfl

/-- There is a part for each segment. -/
theorem length_of_compileSegments {segments : List Segment} {parts : List (Expr × List String)}
    (h : l.compileSegments segments = .ok parts) : parts.length = segments.length := by
  induction segments generalizing parts with
  | nil =>
    cases h
    rfl
  | cons s rest ih =>
    obtain ⟨part, -, h⟩ := bind_eq_ok_iff.1 h
    obtain ⟨parts', hparts, h⟩ := bind_eq_ok_iff.1 h
    cases h
    rw [List.length_cons, List.length_cons, ih hparts]

/-- The value of a template of several segments is the sum of their values. -/
theorem exists_segmentValues {source : String} {segments : List Segment} {p : Program}
    (hs : Template.split source = .ok segments) (hlen : 2 ≤ segments.length)
    (hp : l.compileTemplate source = .ok p) {t t' : Trace} {v : Value}
    (h : ((p.call host direct).run).run t = (.ok v, t')) :
    ∃ vs, l.SegmentValues host direct segments t vs t' ∧ v = Value.sum vs := by
  obtain ⟨hv, segments', parts, code, hs', hparts, -, rfl⟩ := compileTemplate_eq_ok_iff.1 hp
  cases hs.symm.trans hs'
  have hcount := length_of_compileSegments hparts
  obtain ⟨x, y, rest, hxy⟩ : ∃ x y rest, parts.map Prod.fst = x :: y :: rest := by
    match parts, hcount with
    | x :: y :: rest, _ => exact ⟨x.1, y.1, rest.map Prod.fst, rfl⟩
    | [], hcount | [_], hcount =>
      simp only [List.length_nil, List.length_cons] at hcount
      omega
  unfold Program.call at h
  split at h
  · cases h
  · rename_i harity
    have harity := Decidable.not_not.1 harity
    change (((Expr.concatenate (parts.map Prod.fst)).evalIn _ _ _).run).run t = _ at h
    rw [hxy] at h
    obtain ⟨vs, hvals, rfl⟩ := Expr.exists_sum_of_eval h
    rw [← hxy] at hvals
    exact ⟨vs, segmentValues_of_evalList hv rfl harity hparts hvals, rfl⟩

end Linker

/-- If the call of a template of at least two segments gives a value, each segment has a value by itself.
    If one of the first two of these adds as a text, which every plain text does, the value of the
    template is the text of all of them in a row. Otherwise the values before the first that adds as a
    text are added as numbers, and if there are any others, the text of that sum and those of the others
    make up the value. -/
theorem Program.value_of_template {c : Config} {source : String} {segments : List Segment}
    {p : Program} (hs : Template.split source = .ok segments) (hlen : 2 ≤ segments.length)
    (hp : (Linker.ofConfig c).compileTemplate source = .ok p) {host : Host} {direct : List Value}
    {t t' : Trace} {v : Value} (h : ((p.call host direct).run).run t = (.ok v, t')) :
    ∃ vs, (Linker.ofConfig c).SegmentValues host direct segments t vs t' ∧
      ((∃ x ∈ vs.take 2, x.addsAsText = true) → v = .string (String.join (vs.map Value.toText))) ∧
      ((∀ x ∈ vs.take 2, x.addsAsText = false) → ∃ numbers texts, vs = numbers ++ texts ∧
        (∀ x ∈ numbers, x.addsAsText = false) ∧
        (∀ x, texts.head? = some x → x.addsAsText = true) ∧
        v = if texts = [] then .number (Value.numberSum numbers)
          else .string (Decimal.valueText (Value.numberSum numbers) ++
            String.join (texts.map Value.toText))) := by
  obtain ⟨vs, hvals, rfl⟩ := Linker.exists_segmentValues hs hlen hp h
  have hcount : 2 ≤ vs.length := hvals.length_eq ▸ hlen
  obtain ⟨a, b, rest, rfl⟩ : ∃ a b rest, vs = a :: b :: rest := by
    match vs, hcount with
    | a :: b :: rest, _ => exact ⟨a, b, rest, rfl⟩
  refine ⟨_, hvals, ?_, ?_⟩
  · rintro ⟨x, hx, htext⟩
    have hx : x = a ∨ x = b := by simpa using hx
    refine Value.sum_of_text ?_ rest
    rcases hx with rfl | rfl
    · exact .inl htext
    · exact .inr htext
  · intro hnum
    have ha : a.addsAsText = false := hnum a (by simp)
    have hb : b.addsAsText = false := hnum b (by simp)
    obtain ⟨numbers, texts, rfl, hn, ht⟩ := Value.exists_split_texts rest
    have hn : ∀ x ∈ a :: b :: numbers, x.addsAsText = false := by
      rw [List.forall_mem_cons, List.forall_mem_cons]
      exact ⟨ha, hb, hn⟩
    refine ⟨a :: b :: numbers, texts, rfl, hn, ht, ?_⟩
    exact Value.sum_of_numbers hn (by simp) ht

/-- Two expressions with texts as their values, and a plain text. -/
theorem Program.value_of_template_texts : ∃ (p : Program) (host : Host) (t' : Trace) (vs : List Value),
    (Linker.ofConfig .standard).compileTemplate "$\x7ba\x7d$\x7bb\x7d!" = .ok p ∧
      ((p.call host [.undefined]).run).run ⟨1, []⟩ = (.ok (.string "xy!"), t') ∧
      (Linker.ofConfig .standard).SegmentValues host [.undefined]
        [.expression "a", .expression "b", .literal "!"] ⟨1, []⟩ vs t' ∧
      ((∃ x ∈ vs.take 2, x.addsAsText = true) →
        Value.string "xy!" = .string (String.join (vs.map Value.toText))) := by
  let host := Documents.host [("scope", .object 0 [("a", .string "x"), ("b", .string "y")])]
  have segments : Template.split "$\x7ba\x7d$\x7bb\x7d!" =
      .ok [.expression "a", .expression "b", .literal "!"] := by
    have text : "$\x7ba\x7d$\x7bb\x7d!".toList =
      ['$', '\x7b', 'a', '\x7d', '$', '\x7b', 'b', '\x7d', '!'] := rfl
    rw [Template.split, text]
    exact Template.splitFrom_expression rfl (Template.splitFrom_expression rfl
      (Template.splitFrom_literal (by decide) rfl (Template.splitFrom_nil _)))
  have treeA : Expr.parse "a" = .ok (.ofName "a") :=
    Expr.parse_of_scan (Cursor.scan_cons rfl rfl (Cursor.scan_last rfl rfl)) rfl (.symbol ⟨rfl, rfl⟩)
      trivial
  have treeB : Expr.parse "b" = .ok (.ofName "b") :=
    Expr.parse_of_scan (Cursor.scan_cons rfl rfl (Cursor.scan_last rfl rfl)) rfl (.symbol ⟨rfl, rfl⟩)
      trivial
  obtain ⟨p, compiled, t', value⟩ : ∃ p, (Linker.ofConfig .standard).compileTemplate
      "$\x7ba\x7d$\x7bb\x7d!" = .ok p ∧ ∃ t',
        ((p.call host [.undefined]).run).run ⟨1, []⟩ = (.ok (.string "xy!"), t') := by
    have partA := Linker.compileSegment_of_link treeA
      (rfl : (Linker.ofConfig .standard).link (.ofName "a") = .ok _) rfl
    have partB := Linker.compileSegment_of_link treeB
      (rfl : (Linker.ofConfig .standard).link (.ofName "b") = .ok _) rfl
    have parts := Linker.compileSegments_cons partA (Linker.compileSegments_cons partB
      (rfl : (Linker.ofConfig .standard).compileSegments [.literal "!"] = .ok _))
    exact ⟨_, Linker.compileTemplate_eq_ok_iff.2 ⟨rfl, _, _, _, segments, parts, rfl, rfl⟩, _, rfl⟩
  obtain ⟨vs, values, text, -⟩ := value_of_template segments (by decide) compiled value
  exact ⟨p, host, t', vs, compiled, value, values, text⟩

/-- Null and a boolean at the start of a template are added as numbers. -/
theorem Program.value_of_template_numbers : ∃ (p : Program) (x : Float),
    Template.split "$\x7bnull\x7d$\x7btrue\x7d" = .ok [.expression "null", .expression "true"] ∧
      (Linker.ofConfig .standard).compileTemplate "$\x7bnull\x7d$\x7btrue\x7d" = .ok p ∧
      (∀ host t, ((p.call host [.undefined]).run).run t = (.ok (.number x), t) ∧
        (Linker.ofConfig .standard).SegmentValues host [.undefined]
          [.expression "null", .expression "true"] t [.null, .boolean true] t) ∧
      Value.number x ≠ .string (String.join ([Value.null, .boolean true].map Value.toText)) := by
  have segments : Template.split "$\x7bnull\x7d$\x7btrue\x7d" =
      .ok [.expression "null", .expression "true"] := by
    have text : "$\x7bnull\x7d$\x7btrue\x7d".toList =
      ['$', '\x7b', 'n', 'u', 'l', 'l', '\x7d', '$', '\x7b', 't', 'r', 'u', 'e', '\x7d'] := rfl
    rw [Template.split, text]
    exact Template.splitFrom_expression rfl (Template.splitFrom_expression rfl (Template.splitFrom_nil _))
  have treeNull : Expr.parse "null" = .ok (.literal ⟨.null, "null"⟩) :=
    Expr.parse_of_scan (Cursor.scan_cons rfl rfl (Cursor.scan_last rfl rfl)) rfl (.literal ⟨rfl, rfl⟩)
      trivial
  have treeTrue : Expr.parse "true" = .ok (.literal ⟨.boolean true, "true"⟩) :=
    Expr.parse_of_scan (Cursor.scan_cons rfl rfl (Cursor.scan_last rfl rfl)) rfl (.literal ⟨rfl, rfl⟩)
      trivial
  obtain ⟨first, hfirst, vfirst⟩ : ∃ p, (Linker.ofConfig .standard).compile "null" = .ok p ∧
      ∀ host t, ((p.call host [.undefined]).run).run t = (.ok .null, t) :=
    ⟨_, Linker.compile_eq_ok_iff.2 ⟨rfl,
      Linker.compileChecked_eq_ok_iff.2 ⟨_, _, _, treeNull, rfl, rfl, rfl⟩⟩, fun _ _ => rfl⟩
  obtain ⟨second, hsecond, vsecond⟩ : ∃ p, (Linker.ofConfig .standard).compile "true" = .ok p ∧
      ∀ host t, ((p.call host [.undefined]).run).run t = (.ok (.boolean true), t) :=
    ⟨_, Linker.compile_eq_ok_iff.2 ⟨rfl,
      Linker.compileChecked_eq_ok_iff.2 ⟨_, _, _, treeTrue, rfl, rfl, rfl⟩⟩, fun _ _ => rfl⟩
  have partNull := Linker.compileSegment_of_link treeNull
    (rfl : (Linker.ofConfig .standard).link (.literal ⟨.null, "null"⟩) = .ok _) rfl
  have partTrue := Linker.compileSegment_of_link treeTrue
    (rfl : (Linker.ofConfig .standard).link (.literal ⟨.boolean true, "true"⟩) = .ok _) rfl
  have parts := Linker.compileSegments_cons partNull (Linker.compileSegments_cons partTrue
    (rfl : (Linker.ofConfig .standard).compileSegments [] = .ok _))
  refine ⟨_, _, segments, Linker.compileTemplate_eq_ok_iff.2 ⟨rfl, _, _, _, segments, parts, rfl, rfl⟩,
    fun host t => ⟨rfl, ?_⟩, fun h => by cases h⟩
  exact .expression hfirst (vfirst host t) (.expression hsecond (vsecond host t) (.nil t))

end DataBinding
