import DataBinding.Proofs.Grammar.Spelling
import DataBinding.Proofs.Printing.Pieces

/-!
# The phrases of a printed text

What each construct of an expression is read as, if its parts are read as trees.

Results:

* `Lexes.conditional`, `Lexes.unary`, `Lexes.binary`, `Lexes.member`, `Lexes.index`, `Lexes.call`,
  `Lexes.array`, `Lexes.object`, `Lexes.parens`: one phrase for each construct.
* `Lexes.list_cons`, `Lexes.entries_cons`: lists with commas.
-/

namespace DataBinding

open DataBinding.Expr (Spelled SpelledList SpelledEntries)

section

variable {v v' : Bool} {x r : List Char} {P Q : List Token → Prop}

/-- A blank before a piece. -/
theorem Lexes.blank (h : Lexes v x r v' P) : Lexes v (' ' :: x) r v' P :=
  lexes_blank.append h fun us ws hu hw => by
    rw [hu]
    exact hw

/-- A mark before a piece. -/
theorem Lexes.mark (p : Punct) (hp : p ≠ .dot) (h : Lexes p.expectsValue x r v' P)
    (hQ : ∀ t ts, t.kind = .punct p → P ts → Q (t :: ts)) : Lexes v (p.char :: x) r v' Q :=
  (lexes_punct p hp).append h fun us ws ⟨t, hu, ht⟩ hw => by
    rw [hu]
    exact hQ t ws ht hw

/-- A mark that ends a phrase. -/
theorem lexes_closing {p : Punct} (hp : p ≠ .dot) (hv : p.expectsValue = false) :
    Lexes v [p.char] r false fun ts => ∃ t, ts = [t] ∧ t.kind = .punct p :=
  hv ▸ lexes_punct p hp

/-! ## Operators -/

theorem Lexes.conditional {c y a : List Char} {condition yes alternative : Expr}
    (hc : ∀ s, Lexes true c (' ' :: s) false (Spelled condition))
    (hy : ∀ s, Lexes true y (' ' :: s) false (Spelled yes))
    (ha : Lexes true a r false (Spelled alternative)) :
    Lexes true (c ++ ' ' :: '?' :: ' ' :: (y ++ ' ' :: ':' :: ' ' :: a)) r false
      (Spelled (.conditional condition yes alternative)) := by
  have second : Lexes false (' ' :: ':' :: ' ' :: a) r false fun ts =>
      ∃ colon as, ts = colon :: as ∧ colon.kind = .punct .colon ∧ Spelled alternative as :=
    .blank <| .mark .colon (by simp) ha.blank fun t ts ht hs => ⟨t, ts, rfl, ht, hs⟩
  have first : Lexes true (y ++ ' ' :: ':' :: ' ' :: a) r false fun ts => ∃ ys colon as,
      ts = ys ++ colon :: as ∧ Spelled yes ys ∧ colon.kind = .punct .colon ∧ Spelled alternative as :=
    (hy _).append second fun us ws hu ⟨colon, as, hw, hm, hs⟩ => ⟨us, colon, as, by rw [hw], hu, hm, hs⟩
  have mark : Lexes false (' ' :: '?' :: ' ' :: (y ++ ' ' :: ':' :: ' ' :: a)) r false fun ts =>
      ∃ question ys colon as, ts = question :: (ys ++ colon :: as) ∧
        question.kind = .operator .question ∧ Spelled yes ys ∧ colon.kind = .punct .colon ∧
          Spelled alternative as :=
    .blank <| lexes_question.append first.blank fun us ws ⟨t, hu, ht⟩ ⟨ys, colon, as, hw, hys, hm, hs⟩ =>
      ⟨t, ys, colon, as, by rw [hu, hw]; rfl, ht, hys, hm, hs⟩
  refine (hc _).append mark fun us ws hu ⟨question, ys, colon, as, hw, hq, hys, hm, hs⟩ => ?_
  rw [hw]
  exact .conditional hu hq hys hm hs

theorem Lexes.unary {op : UnaryOp} {operand : Expr} (he : op.EndsBefore (x ++ r))
    (h : Lexes true x r false (Spelled operand)) :
    Lexes true (op.spelling.toList ++ x) r false (Spelled (.unary op operand)) := by
  refine (lexes_unary he).append h fun us ws ⟨t, hu, ht⟩ hw => ?_
  rw [hu]
  exact .unary ht hw

theorem Lexes.binary {l y : List Char} {op : BinaryOp} {left right : Expr}
    (hl : ∀ s, Lexes true l (' ' :: s) false (Spelled left))
    (hr : Lexes true y r false (Spelled right)) :
    Lexes true (l ++ ' ' :: (op.spelling.toList ++ ' ' :: y)) r false
      (Spelled (.binary op left right)) := by
  have mark : Lexes false (' ' :: (op.spelling.toList ++ ' ' :: y)) r false fun ts =>
      ∃ t rs, ts = t :: rs ∧ t.kind = .operator (.binary op) ∧ Spelled right rs :=
    .blank <| (lexes_binary op).append hr.blank fun us ws ⟨t, hu, ht⟩ hw => ⟨t, ws, by rw [hu]; rfl, ht, hw⟩
  refine (hl _).append mark fun us ws hu ⟨t, rs, hw, ht, hrs⟩ => ?_
  rw [hw]
  exact .binary hu ht hrs

/-! ## Accesses and calls -/

theorem Lexes.member {target : Expr} {name : String}
    (h : ∀ s, Lexes true x ('.' :: s) false (Spelled target)) (hn : isIdentifier name = true)
    (hr : ∀ c, r.head? = some c → isStop c = true ∨ c = '.') :
    Lexes true (x ++ '.' :: name.toList) r false (Spelled (.member target name)) := by
  refine (h _).append (lexes_member hn hr) fun us ws hu ⟨dot, t, hw, hd, ht⟩ => ?_
  rw [hw]
  exact .member hu hd ht

theorem Lexes.index {k : List Char} {target key : Expr}
    (h : ∀ s, Lexes true x ('[' :: s) false (Spelled target))
    (hk : ∀ s, Lexes true k (']' :: s) false (Spelled key)) :
    Lexes true (x ++ '[' :: (k ++ [']'])) r false (Spelled (.index target key)) := by
  have rest : Lexes true (k ++ [']']) r false fun ts =>
      ∃ ks t, ts = ks ++ [t] ∧ Spelled key ks ∧ t.kind = .punct .closeBracket :=
    (hk r).append (lexes_closing (p := .closeBracket) (by simp) rfl)
      fun us ws hu ⟨t, hw, ht⟩ => ⟨us, t, by rw [hw], hu, ht⟩
  have access : Lexes false ('[' :: (k ++ [']'])) r false fun ts => ∃ opening ks t,
      ts = opening :: (ks ++ [t]) ∧ opening.kind = .punct .openBracket ∧ Spelled key ks ∧
        t.kind = .punct .closeBracket :=
    .mark .openBracket (by simp) rest fun o ts ho ⟨ks, t, hts, hks, ht⟩ =>
      ⟨o, ks, t, by rw [hts], ho, hks, ht⟩
  refine (h _).append access fun us ws hu ⟨o, ks, t, hw, ho, hks, ht⟩ => ?_
  rw [hw]
  exact .index hu ho hks ht

/-- A list of parts between two marks. -/
theorem Lexes.between {y : List Char} (p q : Punct) (hp : p ≠ .dot ∧ p.expectsValue = true)
    (hq : q ≠ .dot ∧ q.expectsValue = false)
    (h : ∀ s, ∃ v', Lexes true y (q.char :: s) v' P)
    (hQ : ∀ t ts u, t.kind = .punct p → P ts → u.kind = .punct q → Q (t :: (ts ++ [u]))) :
    Lexes v (p.char :: (y ++ [q.char])) r false Q := by
  obtain ⟨v', hy⟩ := h r
  have rest : Lexes p.expectsValue (y ++ [q.char]) r false fun ts =>
      ∃ us u, ts = us ++ [u] ∧ P us ∧ u.kind = .punct q :=
    hp.2 ▸ hy.append (lexes_closing hq.1 hq.2) fun us ws hu ⟨t, hw, ht⟩ => ⟨us, t, by rw [hw], hu, ht⟩
  refine .mark p hp.1 rest fun t ts ht ⟨us, u, hts, hus, hu⟩ => ?_
  rw [hts]
  exact hQ t us u ht hus hu

theorem Lexes.call {y : List Char} {callee : Expr} {args : List Expr}
    (h : ∀ s, Lexes true x ('(' :: s) false (Spelled callee))
    (hy : ∀ s, ∃ v', Lexes true y (')' :: s) v' (SpelledList args)) :
    Lexes true (x ++ '(' :: (y ++ [')'])) r false (Spelled (.call callee args)) := by
  have arguments : Lexes false ('(' :: (y ++ [')'])) r false fun ts => ∃ opening xs closing,
      ts = opening :: (xs ++ [closing]) ∧ opening.kind = .punct .openParen ∧ SpelledList args xs ∧
        closing.kind = .punct .closeParen :=
    .between .openParen .closeParen (by decide) (by decide) hy
      fun t ts u ht hts hu => ⟨t, ts, u, rfl, ht, hts, hu⟩
  refine (h _).append arguments fun us ws hu ⟨t, ts, u, hw, ht, hts, hc⟩ => ?_
  rw [hw]
  exact .call hu ht hts hc

/-! ## Brackets -/

theorem Lexes.array {elements : List Expr}
    (h : ∀ s, ∃ v', Lexes true x (']' :: s) v' (SpelledList elements)) :
    Lexes v ('[' :: (x ++ [']'])) r false (Spelled (.array elements)) :=
  .between .openBracket .closeBracket (by decide) (by decide) h fun _ _ _ ht hts hu => .array ht hts hu

theorem Lexes.object {entries : List (ObjectKey × Expr)}
    (h : ∀ s, ∃ v', Lexes true x ('\x7d' :: s) v' (SpelledEntries entries)) :
    Lexes v ('\x7b' :: (x ++ ['\x7d'])) r false (Spelled (.object entries)) :=
  .between .openBrace .closeBrace (by decide) (by decide) h fun _ _ _ ht hts hu => .object ht hts hu

theorem Lexes.parens {inner : Expr} (h : ∀ s, Lexes true x (')' :: s) false (Spelled inner)) :
    Lexes v ('(' :: (x ++ [')'])) r false (Spelled (.parens inner)) :=
  .between .openParen .closeParen (by decide) (by decide)
    (fun s => ⟨false, (h s).imp fun _ => SpelledList.last⟩) fun _ _ _ ht hts hu => .parens ht hts hu

/-! ## Lists -/

/-- A text before others with commas. -/
theorem toList_intercalate_cons {x : String} {xs : List String} (h : xs ≠ []) :
    (", ".intercalate (x :: xs)).toList =
      x.toList ++ ',' :: ' ' :: (", ".intercalate xs).toList := by
  cases xs with
  | nil => exact absurd rfl h
  | cons y ys => simp [String.intercalate_cons_cons, String.toList_append]

theorem Lexes.list_cons {y : List Char} {e : Expr} {es : List Expr}
    (h : ∀ s, Lexes true x (',' :: s) false (Spelled e)) (hy : Lexes true y r v' (SpelledList es)) :
    Lexes true (x ++ ',' :: ' ' :: y) r v' (SpelledList (e :: es)) := by
  have rest : Lexes false (',' :: ' ' :: y) r v' fun ts =>
      ∃ comma us, ts = comma :: us ∧ comma.kind = .punct .comma ∧ SpelledList es us :=
    .mark .comma (by simp) hy.blank fun t ts ht hts => ⟨t, ts, rfl, ht, hts⟩
  refine (h _).append rest fun us ws hu ⟨t, ts, hw, ht, hts⟩ => ?_
  rw [hw]
  exact .cons hu ht hts

/-- An entry of an object literal. -/
theorem Lexes.entry {raw : String} {kind : TokenKind} {e : Expr} (hk : IsToken raw kind)
    (hl : kind.isLeaf = true) (h : Lexes true x r v' (Spelled e)) :
    Lexes true (raw.toList ++ ':' :: ' ' :: x) r v' fun ts => ∃ t colon us,
      ts = t :: colon :: us ∧ t.Is kind raw ∧ colon.kind = .punct .colon ∧ Spelled e us := by
  have value : Lexes false (':' :: ' ' :: x) r v' fun ts =>
      ∃ colon us, ts = colon :: us ∧ colon.kind = .punct .colon ∧ Spelled e us :=
    .mark .colon (by simp) h.blank fun t ts ht hts => ⟨t, ts, rfl, ht, hts⟩
  refine (lexes_leaf hk hl (.of_isStop rfl)).append value fun us ws ⟨t, hu, ht⟩ ⟨c, ts, hw, hc, hts⟩ => ?_
  exact ⟨t, c, ts, by rw [hu, hw]; rfl, ht, hc, hts⟩

theorem Lexes.entries_cons {y : List Char} {key : ObjectKey} {e : Expr}
    {entries : List (ObjectKey × Expr)} (hk : IsToken key.raw key.kind)
    (hl : key.kind.isLeaf = true) (h : ∀ s, Lexes true x (',' :: s) false (Spelled e))
    (hy : Lexes true y r v' (SpelledEntries entries)) :
    Lexes true (key.raw.toList ++ ':' :: ' ' :: x ++ ',' :: ' ' :: y) r v'
      (SpelledEntries ((key, e) :: entries)) := by
  have rest : Lexes false (',' :: ' ' :: y) r v' fun ts =>
      ∃ comma us, ts = comma :: us ∧ comma.kind = .punct .comma ∧ SpelledEntries entries us :=
    .mark .comma (by simp) hy.blank fun t ts ht hts => ⟨t, ts, rfl, ht, hts⟩
  refine (Lexes.entry hk hl (h _)).append rest fun us ws ⟨t, colon, ts, hu, ht, hm, hts⟩
    ⟨comma, ws', hw, hc, hws⟩ => ?_
  rw [hu, hw]
  exact .cons ht hm hts hc hws

end

end DataBinding
