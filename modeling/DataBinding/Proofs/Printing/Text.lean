import DataBinding.Proofs.Printing.Phrases
import DataBinding.Proofs.Printing.Tree

/-!
# Printed texts are read back

The text of a tree is read phrase by phrase, by recursion along the printer, as the tokens of the tree
of the text. As no pair of parentheses is missing there, the parser finds that tree.

Results:

* `Expr.readsAs_print`: what a printed text is read as, before anything that may follow it.
* `Expr.parse_print`: the parser gives back the printed tree, up to parentheses and keys.
-/

namespace DataBinding.Expr

/-- The characters may follow the text of the tree. -/
def EndsBefore (e : Expr) (r : List Char) : Prop :=
  ∀ c, r.head? = some c → isStop c = true ∨ c = '.' ∧ e.level = postfixLevel ∧ e.AllowsPoint

theorem EndsBefore.of_isStop {e : Expr} {c : Char} {r : List Char} (h : isStop c = true) :
    e.EndsBefore (c :: r) := by
  intro d hd
  cases hd
  exact .inl h

theorem EndsBefore.nil {e : Expr} : e.EndsBefore [] := by
  intro d hd
  cases hd

/-- Only a stop follows what binds looser than accesses. -/
theorem EndsBefore.of_level {e e' : Expr} {r : List Char} (h : e.EndsBefore r)
    (hl : e.level ≠ postfixLevel) : e'.EndsBefore r := by
  intro c hc
  rcases h c hc with hs | ⟨-, he, -⟩
  · exact .inl hs
  · exact absurd he hl

/-- The text does not make an operator before it longer. -/
def Starts (cs : List Char) : Prop := ∃ c more, cs = c :: more ∧ c ≠ '='

theorem Starts.append {cs : List Char} (h : Starts cs) (ds : List Char) : Starts (cs ++ ds) := by
  obtain ⟨c, more, rfl, hc⟩ := h
  exact ⟨c, more ++ ds, rfl, hc⟩

/-- The text is read as the tree `t` of the text of `e`. -/
structure ReadsAs (e t : Expr) (x : String) : Prop where
  starts : Starts x.toList
  lexes : ∀ r, e.EndsBefore r → Lexes true x.toList r false (Spelled t)

theorem ReadsAs.of_toList {e t : Expr} {x : String} {cs : List Char} (hx : x.toList = cs)
    (hs : Starts cs) (h : ∀ r, e.EndsBefore r → Lexes true cs r false (Spelled t)) : e.ReadsAs t x :=
  ⟨hx ▸ hs, hx ▸ h⟩

/-- The text of an operand is read as its tree, with parentheses if the place asks for them. -/
theorem ReadsAs.wrapped {e t : Expr} {x : String} (h : e.ReadsAs t x) (least : Nat) :
    Starts (wrapped least e x).toList ∧ ∀ r, (e.level < least ∨ e.EndsBefore r) →
      Lexes true (wrapped least e x).toList r false (Spelled (grouped least e t)) := by
  unfold Expr.wrapped grouped
  split
  · have htext : ("(" ++ x ++ ")").toList = '(' :: (x.toList ++ [')']) := by
      simp [String.toList_append]
    rw [htext]
    exact ⟨⟨_, _, rfl, by decide⟩, fun r _ => .parens fun s => h.lexes _ (.of_isStop rfl)⟩
  · rename_i hl
    exact ⟨h.starts, fun r hr => h.lexes r (hr.resolve_left hl)⟩

/-- Before a blank or another stop. -/
theorem ReadsAs.wrapped_stop {e t : Expr} {x : String} (h : e.ReadsAs t x) (least : Nat) {c : Char}
    (hc : isStop c = true) (s : List Char) :
    Lexes true (Expr.wrapped least e x).toList (c :: s) false (Spelled (grouped least e t)) :=
  (h.wrapped least).2 _ (.inr (.of_isStop hc))

theorem level_le_postfixLevel (e : Expr) : e.level ≤ postfixLevel := by
  cases e with
  | binary op => exact Nat.le_of_lt (le_postfixLevel_precedence op)
  | _ => simp [level, conditionalLevel, unaryLevel, postfixLevel]

/-- Before a point. -/
theorem ReadsAs.wrapped_point {e t : Expr} {x : String} (h : e.ReadsAs t x) (hp : e.AllowsPoint)
    (s : List Char) : Lexes true (Expr.wrapped postfixLevel e x).toList ('.' :: s) false
      (Spelled (grouped postfixLevel e t)) := by
  refine (h.wrapped postfixLevel).2 _ ?_
  by_cases hl : e.level < postfixLevel
  · exact .inl hl
  · refine .inr fun c hc => .inr ⟨(Option.some.inj hc).symm, ?_, hp⟩
    exact Nat.le_antisymm e.level_le_postfixLevel (Nat.not_lt.1 hl)

theorem starts_spelling (op : UnaryOp) : Starts op.spelling.toList := by
  cases op <;> exact ⟨_, _, rfl, by decide⟩

/-- A unary operator is not made longer by the text of its operand, which a space separates from it if
    needed. -/
theorem unary_endsBefore {op : UnaryOp} {x : String} (h : Starts x.toList) (r : List Char) :
    op.EndsBefore ((if needsSpace op x then " " else "").toList ++ x.toList ++ r) := by
  obtain ⟨c, more, hx, hc⟩ := h
  cases hs : needsSpace op x with
  | true => exact ⟨' ', _, rfl, by decide, fun _ => by decide, fun _ => by decide, fun _ => rfl⟩
  | false =>
    refine ⟨c, more ++ r, by rw [hx]; rfl, hc, ?_, ?_, ?_⟩
    · rintro rfl
      simpa [needsSpace, hx] using hs
    · rintro rfl
      simpa [needsSpace, hx] using hs
    · cases op <;> simp [needsSpace, UnaryOp.isWord] at hs ⊢

theorem ne_nil_of_printList_cons {e : Expr} {rest : List Expr} {xs : List String}
    (h : printList (e :: rest) = .ok xs) : xs ≠ [] := by
  obtain ⟨y, -, h⟩ := bind_eq_ok_iff.1 h
  obtain ⟨ys, -, h⟩ := bind_eq_ok_iff.1 h
  cases h
  simp

theorem ne_nil_of_printEntries_cons {key : ObjectKey} {e : Expr} {rest : List (ObjectKey × Expr)}
    {xs : List String} (h : printEntries ((key, e) :: rest) = .ok xs) : xs ≠ [] := by
  obtain ⟨y, -, h⟩ := bind_eq_ok_iff.1 h
  obtain ⟨ys, -, h⟩ := bind_eq_ok_iff.1 h
  cases h
  simp

mutual

/-- What a printed text is read as, before anything that may follow it. -/
theorem readsAs_print : (e : Expr) → e.PrintsAll → ∃ x, e.print = .ok x ∧ e.ReadsAs e.printed x
  | literal l, h => by
    obtain ⟨c, more, hraw, -, hc⟩ := IsToken.exists_cons h.self (LiteralValue.isLeaf_kind l.value)
    refine ⟨l.raw, rfl, ⟨c, more, hraw, hc⟩, fun r hr => ?_⟩
    refine (lexes_leaf h.self (LiteralValue.isLeaf_kind l.value) fun d hd => ?_).imp fun ts ⟨t, hts, ht⟩ => ?_
    · refine (hr d hd).imp_right fun ⟨hp, _, ha⟩ => ⟨hp, fun x hx => ha x l.raw ?_⟩
      rw [← LiteralValue.eq_number_of_kind hx]
    · rw [hts]
      exact .literal ht
  | symbol s, h => by
    obtain ⟨c, more, hraw, -, hc⟩ := IsToken.exists_cons h.self rfl
    refine ⟨s.raw, rfl, ⟨c, more, hraw, hc⟩, fun r hr => ?_⟩
    refine (lexes_leaf h.self rfl fun d hd => ?_).imp fun ts ⟨t, hts, ht⟩ => ?_
    · exact (hr d hd).imp_right fun ⟨hp, _⟩ => ⟨hp, fun x hx => nomatch hx⟩
    · rw [hts]
      exact .symbol ht
  | conditional condition yes alternative, h => by
    obtain ⟨c, hc, rc⟩ := readsAs_print condition (h.child (by simp [children]))
    obtain ⟨y, hy, ry⟩ := readsAs_print yes (h.child (by simp [children]))
    obtain ⟨a, ha, ra⟩ := readsAs_print alternative (h.child (by simp [children]))
    have htext : (wrapped (conditionalLevel + 1) condition c ++ " ? " ++ y ++ " : " ++ a).toList =
        (wrapped (conditionalLevel + 1) condition c).toList ++
          ' ' :: '?' :: ' ' :: (y.toList ++ ' ' :: ':' :: ' ' :: a.toList) := by
      simp [String.toList_append]
    refine ⟨_, by rw [print, hc, hy, ha]; rfl,
      .of_toList htext ((rc.wrapped _).1.append _) fun r hr => ?_⟩
    rw [printed]
    exact .conditional (rc.wrapped_stop _ rfl) (fun s => ry.lexes _ (.of_isStop rfl))
      (ra.lexes r (hr.of_level (by simp [level, conditionalLevel, postfixLevel])))
  | unary op operand, h => by
    obtain ⟨x, hx, rx⟩ := readsAs_print operand (h.child (by simp [children]))
    obtain ⟨hs, hw⟩ := rx.wrapped unaryLevel
    have htext : (op.spelling ++ (if needsSpace op (wrapped unaryLevel operand x) then " " else "") ++
        wrapped unaryLevel operand x).toList = op.spelling.toList ++
          ((if needsSpace op (wrapped unaryLevel operand x) then " " else "").toList ++
            (wrapped unaryLevel operand x).toList) := by
      simp only [String.toList_append, List.append_assoc]
    refine ⟨_, by rw [print, hx]; rfl, .of_toList htext ((starts_spelling op).append _) fun r hr => ?_⟩
    rw [printed]
    refine .unary (unary_endsBefore hs r) ?_
    have hoperand := hw r (.inr (hr.of_level (by simp [level, unaryLevel, postfixLevel])))
    split
    · exact hoperand.blank
    · exact hoperand
  | binary op left right, h => by
    obtain ⟨l, hl, rl⟩ := readsAs_print left (h.child (by simp [children]))
    obtain ⟨x, hx, rx⟩ := readsAs_print right (h.child (by simp [children]))
    have htext : (wrapped op.precedence left l ++ " " ++ op.spelling ++ " " ++
        wrapped (op.precedence + 1) right x).toList = (wrapped op.precedence left l).toList ++
          ' ' :: (op.spelling.toList ++ ' ' :: (wrapped (op.precedence + 1) right x).toList) := by
      simp [String.toList_append]
    refine ⟨_, by rw [print, hl, hx]; rfl,
      .of_toList htext ((rl.wrapped _).1.append _) fun r hr => ?_⟩
    rw [printed]
    exact .binary (rl.wrapped_stop _ rfl)
      ((rx.wrapped _).2 r (.inr (hr.of_level (Nat.ne_of_lt (le_postfixLevel_precedence op)))))
  | member target name, h => by
    obtain ⟨t, ht, rt⟩ := readsAs_print target (h.child (by simp [children]))
    refine ⟨memberText (wrapped postfixLevel target t) name, by rw [print, ht]; rfl, ?_⟩
    unfold memberText
    rw [printed]
    split
    · rename_i hn
      have htext : (wrapped postfixLevel target t ++ "." ++ name).toList =
          (wrapped postfixLevel target t).toList ++ '.' :: name.toList := by
        simp [String.toList_append]
      refine .of_toList htext ((rt.wrapped _).1.append _) fun r hr => ?_
      exact .member (rt.wrapped_point (h.self hn)) hn fun c hc => (hr c hc).imp_right And.left
    · have htext : (wrapped postfixLevel target t ++ "[" ++ Json.quote name ++ "]").toList =
          (wrapped postfixLevel target t).toList ++ '[' :: ((Json.quote name).toList ++ [']']) := by
        simp [String.toList_append]
      refine .of_toList htext ((rt.wrapped _).1.append _) fun r _ => ?_
      refine .index (rt.wrapped_stop _ rfl) fun s => ?_
      refine (lexes_leaf (isToken_quote name) rfl (.of_isStop rfl)).imp fun ts ⟨u, hts, hu⟩ => ?_
      rw [hts]
      exact .literal hu
  | index target key, h => by
    obtain ⟨t, ht, rt⟩ := readsAs_print target (h.child (by simp [children]))
    obtain ⟨k, hk, rk⟩ := readsAs_print key (h.child (by simp [children]))
    have htext : (wrapped postfixLevel target t ++ "[" ++ k ++ "]").toList =
        (wrapped postfixLevel target t).toList ++ '[' :: (k.toList ++ [']']) := by
      simp [String.toList_append]
    refine ⟨_, by rw [print, ht, hk]; rfl,
      .of_toList htext ((rt.wrapped _).1.append _) fun r _ => ?_⟩
    rw [printed]
    exact .index (rt.wrapped_stop _ rfl) fun s => rk.lexes _ (.of_isStop rfl)
  | call callee args, h => by
    obtain ⟨f, hf, rf⟩ := readsAs_print callee (h.child (by simp [children]))
    obtain ⟨xs, hxs, hlex⟩ := lexes_printList args fun e he => h.child (by simp [children, he])
    have htext : (wrapped postfixLevel callee f ++ "(" ++ ", ".intercalate xs ++ ")").toList =
        (wrapped postfixLevel callee f).toList ++ '(' :: ((", ".intercalate xs).toList ++ [')']) := by
      simp [String.toList_append]
    refine ⟨_, by rw [print, hf, hxs]; rfl,
      .of_toList htext ((rf.wrapped _).1.append _) fun r _ => ?_⟩
    rw [printed]
    exact .call (rf.wrapped_stop _ rfl) fun s => hlex _ s rfl
  | array elements, h => by
    obtain ⟨xs, hxs, hlex⟩ := lexes_printList elements fun e he => h.child he
    have htext : ("[" ++ ", ".intercalate xs ++ "]").toList =
        '[' :: ((", ".intercalate xs).toList ++ [']']) := by
      simp [String.toList_append]
    refine ⟨_, by rw [print, hxs]; rfl, .of_toList htext ⟨_, _, rfl, by decide⟩ fun r _ => ?_⟩
    rw [printed]
    exact .array fun s => hlex _ s rfl
  | object entries, h => by
    obtain ⟨xs, hxs, hlex⟩ := lexes_printEntries entries (fun entry he => (h.self entry he).2)
      fun e he => h.child he
    have htext : ("\x7b" ++ ", ".intercalate xs ++ "\x7d").toList =
        '\x7b' :: ((", ".intercalate xs).toList ++ ['\x7d']) := by
      simp [String.toList_append]
    refine ⟨_, by rw [print, hxs]; rfl, .of_toList htext ⟨_, _, rfl, by decide⟩ fun r _ => ?_⟩
    rw [printed]
    exact .object fun s => hlex _ s rfl
  | parens inner, h => by
    obtain ⟨x, hx, rx⟩ := readsAs_print inner (h.child (by simp [children]))
    have htext : ("(" ++ x ++ ")").toList = '(' :: (x.toList ++ [')']) := by
      simp [String.toList_append]
    refine ⟨_, by rw [print, hx]; rfl, .of_toList htext ⟨_, _, rfl, by decide⟩ fun r _ => ?_⟩
    rw [printed]
    exact .parens fun s => rx.lexes _ (.of_isStop rfl)
  | pipeline input stages, h => h.self.elim
  | arrow params body, h => h.self.elim

/-- What the printed text of a list is read as, before a stop. -/
theorem lexes_printList : (es : List Expr) → (∀ e ∈ es, e.PrintsAll) → ∃ xs, printList es = .ok xs ∧
    ∀ c s, isStop c = true → ∃ v, Lexes true (", ".intercalate xs).toList (c :: s) v
      (SpelledList (printedList es))
  | [], _ => ⟨[], rfl, fun c s _ => ⟨true, lexes_nil.imp fun ts hts => hts ▸ .nil⟩⟩
  | e :: rest, h => by
    obtain ⟨x, hx, rx⟩ := readsAs_print e (h e List.mem_cons_self)
    obtain ⟨xs, hxs, hlex⟩ := lexes_printList rest fun e he => h e (List.mem_cons_of_mem _ he)
    refine ⟨x :: xs, by rw [printList, hx, hxs]; rfl, fun c s hc => ?_⟩
    rw [printedList]
    cases rest with
    | nil =>
      cases hxs
      rw [String.intercalate_singleton, printedList]
      exact ⟨false, (rx.lexes _ (.of_isStop hc)).imp fun _ => .last⟩
    | cons e' rest =>
      obtain ⟨v, hv⟩ := hlex c s hc
      rw [toList_intercalate_cons (ne_nil_of_printList_cons hxs)]
      exact ⟨v, .list_cons (fun s => rx.lexes _ (.of_isStop rfl)) hv⟩

/-- What the printed text of the entries of an object literal is read as, before a stop. -/
theorem lexes_printEntries : (entries : List (ObjectKey × Expr)) →
    (∀ entry ∈ entries, IsToken entry.1.raw entry.1.kind) → (∀ e ∈ entries.map Prod.snd, e.PrintsAll) →
      ∃ xs, printEntries entries = .ok xs ∧ ∀ c s, isStop c = true →
        ∃ v, Lexes true (", ".intercalate xs).toList (c :: s) v (SpelledEntries (printedEntries entries))
  | [], _, _ => ⟨[], rfl, fun c s _ => ⟨true, lexes_nil.imp fun ts hts => hts ▸ .nil⟩⟩
  | (key, e) :: rest, hk, h => by
    obtain ⟨x, hx, rx⟩ := readsAs_print e (h e List.mem_cons_self)
    obtain ⟨xs, hxs, hlex⟩ := lexes_printEntries rest
      (fun entry he => hk entry (List.mem_cons_of_mem _ he)) fun e he => h e (List.mem_cons_of_mem _ he)
    have hkey : IsToken key.raw key.kind := hk (key, e) List.mem_cons_self
    have hentry : (key.raw ++ ": " ++ x).toList = key.raw.toList ++ ':' :: ' ' :: x.toList := by
      simp [String.toList_append]
    refine ⟨(key.raw ++ ": " ++ x) :: xs, by rw [printEntries, hx, hxs]; rfl, fun c s hc => ?_⟩
    rw [printedEntries]
    cases rest with
    | nil =>
      cases hxs
      rw [String.intercalate_singleton, printedEntries, hentry]
      refine ⟨false, ?_⟩
      refine (Lexes.entry hkey key.isLeaf_kind (rx.lexes _ (.of_isStop hc))).imp ?_
      rintro ts ⟨t, colon, us, rfl, ht, hm, hus⟩
      exact .last ht hm hus
    | cons e' rest =>
      obtain ⟨v, hv⟩ := hlex c s hc
      rw [toList_intercalate_cons (ne_nil_of_printEntries_cons hxs), hentry]
      exact ⟨v, .entries_cons hkey key.isLeaf_kind (fun s => rx.lexes _ (.of_isStop rfl)) hv⟩

end

/-- The tree of a printed text is what the parser finds. -/
theorem parse_printed {e : Expr} (h : e.PrintsAll) :
    ∃ code, e.print = .ok code ∧ parse code = .ok e.printed := by
  obtain ⟨code, hcode, hreads⟩ := readsAs_print e h
  obtain ⟨ts, last, htokens, hlast, hts⟩ := (hreads.lexes [] .nil).tokenize_eq
  refine ⟨code, hcode, ?_⟩
  exact parse_complete htokens hlast (.expression hts) (stratified_printed e h).stratifiedText

/-- A printed text is parsed, and the tree is the printed one up to parentheses, where a member name that
    is no identifier is read as a computed string key. -/
theorem parse_print {e : Expr} (h : e.PrintsAll) :
    ∃ code t, e.print = .ok code ∧ parse code = .ok t ∧ t.bare = e.keysRead.bare := by
  obtain ⟨code, hcode, hparse⟩ := parse_printed h
  exact ⟨code, e.printed, hcode, hparse, bare_printed e⟩

/-- A sign before a sign, a sum as the object of an access, and a key that is no identifier -/
theorem parse_print_signs : ∃ e : Expr,
    e = unary .negate (unary .negate (member (binary .add (ofName "$a") (ofString "b")) "c d")) ∧
      e.PrintsAll ∧
      ∃ code t, e.print = .ok code ∧ parse code = .ok t ∧ t.bare = e.keysRead.bare := by
  have htoken : IsToken ("$" ++ "a") (.name ("$" ++ "a")) := isToken_dollar rfl
  have hname : (ofName "$a").PrintsAll := printsAll_of_children htoken fun _ hc => nomatch hc
  have htext : (ofString "b").PrintsAll :=
    printsAll_of_children (isToken_quote "b") fun _ hc => nomatch hc
  have hsum : (binary .add (ofName "$a") (ofString "b")).PrintsAll :=
    printsAll_of_children trivial (List.forall_mem_cons.2 ⟨hname, List.forall_mem_singleton.2 htext⟩)
  have hmember : (member (binary .add (ofName "$a") (ofString "b")) "c d").PrintsAll :=
    printsAll_of_children (fun _ _ _ he => nomatch he) (List.forall_mem_singleton.2 hsum)
  have hsign : (unary .negate (member (binary .add (ofName "$a") (ofString "b")) "c d")).PrintsAll :=
    printsAll_of_children trivial (List.forall_mem_singleton.2 hmember)
  have hsigns := printsAll_of_children (e := unary .negate _) trivial
    (List.forall_mem_singleton.2 hsign)
  exact ⟨_, rfl, hsigns, parse_print hsigns⟩

end DataBinding.Expr
