import DataBinding.Link.Stages
import DataBinding.Proofs.Printing.Tree

/-!
# Trees of sources

The literals and names of a tree that is read from a source are tokens by themselves, and every operand
binds as tightly as its place asks for. Such a tree is legible: printed, it needs no more parentheses.

Results:

* `Cursor.tokensStand_scan`: the literals and names among the tokens of a text.
* `Expr.legible_withoutPipeline`: the tree of a source is legible once its pipeline is written as calls.
* `Expr.Legible.printsAll`, `Expr.Legible.printed_eq`: how a legible tree is printed.
-/

namespace DataBinding

/-! ## Tokens -/

/-- The literals and names among the tokens, but for the names after a point, are tokens by themselves.
    The first token follows a point if `afterDot` says so. -/
def TokensStand (afterDot : Bool) : List Token → Prop
  | [] => True
  | t :: ts =>
    (t.kind.isLeaf = true → (∀ s, t.kind = .name s → afterDot = false) → IsToken t.raw t.kind) ∧
      TokensStand (t.kind.isPunct .dot) ts

/-- The literals and names of a text are tokens by themselves. -/
theorem Cursor.tokensStand_scan (c : Cursor) : TokensStand c.afterDot c.scan.1 := by
  rw [scan_eq]
  cases hnext : c.next with
  | error e => trivial
  | ok next =>
    obtain ⟨t, c'⟩ := next
    have hdot : c'.afterDot = t.kind.isPunct .dot := by
      obtain ⟨⟨kind, rest⟩, -, he⟩ := bind_eq_ok_iff.1 hnext
      obtain ⟨rfl, rfl⟩ := Prod.mk.inj (Except.ok.inj he)
      rfl
    dsimp only
    split
    · exact ⟨isToken_of_next hnext, trivial⟩
    · rename_i ht
      have hlt := next_length_lt hnext (Bool.eq_false_iff.2 ht)
      exact ⟨isToken_of_next hnext, hdot ▸ tokensStand_scan c'⟩
termination_by c.rest.length

namespace TokensStand

variable {afterDot : Bool} {ts us : List Token} {t : Token} {kind : TokenKind}

theorem left (h : TokensStand afterDot (ts ++ us)) : TokensStand afterDot ts := by
  induction ts generalizing afterDot with
  | nil => trivial
  | cons t ts ih => exact ⟨h.1, ih h.2⟩

theorem right (h : TokensStand afterDot (ts ++ us)) : ∃ afterDot, TokensStand afterDot us := by
  induction ts generalizing afterDot with
  | nil => exact ⟨afterDot, h⟩
  | cons t ts ih => exact ih h.2

/-- After a first token that is no point. -/
theorem tail (h : TokensStand afterDot (t :: us)) (ht : t.kind = kind)
    (hk : kind.isPunct .dot = false) : TokensStand false us := by
  have hu := h.2
  rwa [ht, hk] at hu

/-- After a token that is no point. -/
theorem behind (h : TokensStand afterDot (ts ++ t :: us)) (ht : t.kind = kind)
    (hk : kind.isPunct .dot = false) : TokensStand false us := by
  obtain ⟨_, hright⟩ := h.right
  exact hright.tail ht hk

/-- A literal or a name that follows no point. -/
theorem isToken {raw : String} (h : TokensStand false (t :: ts)) (ht : t.Is kind raw)
    (hk : kind.isLeaf = true) : IsToken raw kind := by
  obtain ⟨rfl, rfl⟩ := ht
  exact h.1 hk fun _ _ => rfl

end TokensStand

namespace Expr

/-! ## Legible trees -/

mutual

/-- Every literal, name, key and parameter is a token, keys are plain, every operand binds as tightly as
    its place asks for, and there is no pipeline. -/
def Legible : Expr → Prop
  | conditional condition yes alternative =>
    Legible condition ∧ Legible yes ∧ Legible alternative ∧ conditionalLevel < condition.tightness
  | unary _ operand => Legible operand ∧ unaryLevel ≤ operand.tightness
  | binary op left right =>
    Legible left ∧ Legible right ∧ op.precedence ≤ left.tightness ∧ op.precedence < right.tightness
  | member target _ => Legible target ∧ postfixLevel ≤ target.tightness
  | index target key => Legible target ∧ Legible key ∧ postfixLevel ≤ target.tightness
  | literal l => IsToken l.raw l.value.kind
  | symbol s => IsToken s.raw (.name s.name)
  | call callee args => Legible callee ∧ LegibleList args ∧ postfixLevel ≤ callee.tightness
  | array elements => LegibleList elements
  | object entries => LegibleEntries entries
  | parens inner => Legible inner
  | pipeline .. => False
  | arrow params body => (∀ s ∈ params, IsToken s.raw (.name s.name)) ∧ Legible body

/-- Every tree of the list is legible. -/
def LegibleList : List Expr → Prop
  | [] => True
  | e :: rest => Legible e ∧ LegibleList rest

/-- Every value of the entries is legible, and every key is a plain token. -/
def LegibleEntries : List (ObjectKey × Expr) → Prop
  | [] => True
  | (key, e) :: rest =>
    (key.isPlain = true ∧ IsToken key.raw key.kind) ∧ Legible e ∧ LegibleEntries rest

end

theorem legibleList_iff {es : List Expr} : LegibleList es ↔ ∀ e ∈ es, e.Legible := by
  induction es with
  | nil => simp [LegibleList]
  | cons e es ih => simp [LegibleList, ih]

theorem legibleEntries_iff {entries : List (ObjectKey × Expr)} : LegibleEntries entries ↔
    (∀ entry ∈ entries, entry.1.isPlain = true ∧ IsToken entry.1.raw entry.1.kind) ∧
      ∀ e ∈ entries.map Prod.snd, e.Legible := by
  induction entries with
  | nil => simp [LegibleEntries]
  | cons entry entries ih =>
    obtain ⟨key, e⟩ := entry
    simp only [LegibleEntries, ih, List.forall_mem_cons, List.map_cons]
    constructor
    · rintro ⟨hk, he, hks, hes⟩
      exact ⟨⟨hk, hks⟩, he, hes⟩
    · rintro ⟨⟨hk, hks⟩, he, hes⟩
      exact ⟨hk, he, hks, hes⟩

theorem legible_ofString (s : String) : (ofString s).Legible := isToken_quote s

/-- The parameters of an arrow function of a text are tokens. -/
theorem forall_isToken_of_spelled {params : List Symbol} {ts : List Token}
    (h : SpelledList (params.map .symbol) ts) (hts : TokensStand false ts) :
    ∀ s ∈ params, IsToken s.raw (.name s.name) := by
  induction params generalizing ts with
  | nil => simp
  | cons s rest ih =>
    rw [List.forall_mem_cons]
    rw [List.map_cons] at h
    generalize hrest : rest.map Expr.symbol = es at h
    cases h with
    | last h =>
      obtain rfl := List.map_eq_nil_iff.1 hrest
      cases h with
      | symbol h => exact ⟨hts.isToken h rfl, by simp⟩
    | cons h hc hs =>
      subst hrest
      have hbehind := hts.behind hc rfl
      cases h with
      | symbol h => exact ⟨hts.isToken h rfl, ih hs hbehind⟩

/-! ## The tree of a source -/

mutual

/-- A tree that is spelled by the tokens of a text is legible. -/
theorem legible_of_spelled {ts : List Token} : (e : Expr) → Spelled e ts → e.Stratified →
    TokensStand false ts → e.Legible
  | literal l, h, _, hts => by
    cases h with
    | literal h => exact hts.isToken h (LiteralValue.isLeaf_kind l.value)
  | symbol s, h, _, hts => by
    cases h with
    | symbol h => exact hts.isToken h rfl
  | conditional condition yes alternative, h, st, hts => by
    cases h with
    | conditional hc hq hy hm ha =>
      have hrest := hts.behind hq rfl
      exact ⟨legible_of_spelled condition hc st.1 hts.left, legible_of_spelled yes hy st.2.1 hrest.left,
        legible_of_spelled alternative ha st.2.2.1 (hrest.behind hm rfl), st.2.2.2.1⟩
  | unary op operand, h, st, hts => by
    cases h with
    | unary ho h =>
      exact ⟨legible_of_spelled operand h st.1 (hts.tail ho rfl), st.2⟩
  | binary op left right, h, st, hts => by
    cases h with
    | binary hl ho hr =>
      exact ⟨legible_of_spelled left hl st.1 hts.left,
        legible_of_spelled right hr st.2.1 (hts.behind ho rfl), st.2.2.1, st.2.2.2.1⟩
  | member target name, h, st, hts => by
    cases h with
    | member h hd hn => exact ⟨legible_of_spelled target h st.1 hts.left, st.2.1⟩
  | index target key, h, st, hts => by
    cases h with
    | index h ho hk hc =>
      exact ⟨legible_of_spelled target h st.1 hts.left,
        legible_of_spelled key hk st.2.1 (hts.behind ho rfl).left, st.2.2.1⟩
  | call callee args, h, st, hts => by
    cases h with
    | call h ho hx hc =>
      exact ⟨legible_of_spelled callee h st.1 hts.left,
        legibleList_of_spelled args hx st.2.1 (hts.behind ho rfl).left, st.2.2.1⟩
  | array elements, h, st, hts => by
    cases h with
    | array ho hx hc =>
      exact legibleList_of_spelled elements hx st (hts.tail ho rfl).left
  | object entries, h, st, hts => by
    cases h with
    | object ho hx hc =>
      exact legibleEntries_of_spelled entries hx st (hts.tail ho rfl).left
  | parens inner, h, st, hts => by
    cases h with
    | parens ho hx hc =>
      have hrest := (hts.tail ho rfl).left
      cases hx with
      | last h => exact legible_of_spelled inner h st hrest
      | cons h _ _ => exact legible_of_spelled inner h st hrest.left
  | pipeline input stages, h, _, _ => by cases h
  | arrow params body, h, st, hts => by
    cases h with
    | arrow ho hx hc hm h =>
      have hrest := hts.tail ho rfl
      exact ⟨forall_isToken_of_spelled hx hrest.left,
        legible_of_spelled body h st ((hrest.behind hc rfl).tail hm rfl)⟩
    | bareArrow hp hm h =>
      exact ⟨List.forall_mem_singleton.2 (hts.isToken hp rfl),
        legible_of_spelled body h st (hts.2.tail hm rfl)⟩
termination_by structural e => e

theorem legibleList_of_spelled {ts : List Token} : (es : List Expr) → SpelledList es ts →
    StratifiedList es → TokensStand false ts → LegibleList es
  | [], _, _, _ => trivial
  | e :: rest, h, st, hts => by
    cases h with
    | last h => exact ⟨legible_of_spelled e h st.1 hts, trivial⟩
    | cons h hc hs =>
      exact ⟨legible_of_spelled e h st.1 hts.left,
        legibleList_of_spelled rest hs st.2 (hts.behind hc rfl)⟩
termination_by structural es => es

theorem legibleEntries_of_spelled {ts : List Token} : (entries : List (ObjectKey × Expr)) →
    SpelledEntries entries ts → StratifiedEntries entries → TokensStand false ts →
      LegibleEntries entries
  | [], _, _, _ => trivial
  | (key, e) :: rest, h, st, hts => by
    cases h with
    | last hk hm h =>
      have hvalue := hts.2.tail hm rfl
      exact ⟨⟨st.1, hts.isToken hk key.isLeaf_kind⟩, legible_of_spelled e h st.2.1 hvalue, trivial⟩
    | cons hk hm h hc hs =>
      have hvalue := hts.2.tail hm rfl
      exact ⟨⟨st.1, hts.isToken hk key.isLeaf_kind⟩, legible_of_spelled e h st.2.1 hvalue.left,
        legibleEntries_of_spelled rest hs st.2.2 (hvalue.behind hc rfl)⟩
termination_by structural entries => entries

end

/-- Stages that are written as calls are legible. -/
theorem legible_applyStages {stages : List (Symbol × List Expr)} {ts : List Token} {input : Expr}
    {afterDot : Bool} (h : SpelledStages stages ts) (st : StratifiedStages stages)
    (hts : TokensStand afterDot ts) (hi : input.Legible) : (input.applyStages stages).Legible := by
  induction h generalizing input afterDot with
  | nil => exact hi
  | name hp ht hs ih =>
    have hname := hts.tail hp rfl
    refine ih st.2 (hname.tail ht.1 rfl) ?_
    exact ⟨hname.isToken ht rfl, ⟨hi, trivial⟩, Nat.le_refl _⟩
  | @call s args stages pipe t opening closing xs us hp ht ho hx hc hs ih =>
    have hname := hts.tail hp rfl
    have hargs := hname.2.tail ho rfl
    refine ih st.2 (hargs.behind hc rfl) ?_
    exact ⟨hname.isToken ht rfl, ⟨hi, legibleList_of_spelled args hx st.1 hargs.left⟩, Nat.le_refl _⟩

/-- The tree of a source is legible once its pipeline is written as calls. -/
theorem legible_withoutPipeline {source : String} {e : Expr} (h : parse source = .ok e) :
    e.withoutPipeline.Legible := by
  obtain ⟨ts, last, htokens, -, hs, st⟩ := parse_sound h
  have hts : TokensStand false ts := by
    have hscan := Cursor.tokensStand_scan (.start source)
    rw [tokenize_eq_ok_iff.1 htokens] at hscan
    exact hscan.left
  cases hs with
  | expression hs =>
    have he : e.withoutPipeline = e := by cases hs <;> rfl
    have st' : e.Stratified := by cases hs <;> exact st
    rw [he]
    exact legible_of_spelled e hs st' hts
  | pipeline hs hstages =>
    obtain ⟨sti, -, sts⟩ := st
    obtain ⟨_, hright⟩ := hts.right
    exact legible_applyStages hstages sts hright (legible_of_spelled _ hs sti hts.left)

/-! ## How legible trees are printed -/

theorem Legible.child {e child : Expr} (h : e.Legible) (hc : child ∈ e.children) : child.Legible := by
  cases e with
  | literal | symbol => cases hc
  | pipeline => exact h.elim
  | conditional condition yes alternative =>
    simp only [children, List.mem_cons, List.not_mem_nil, or_false] at hc
    rcases hc with rfl | rfl | rfl
    · exact h.1
    · exact h.2.1
    · exact h.2.2.1
  | binary op left right =>
    simp only [children, List.mem_cons, List.not_mem_nil, or_false] at hc
    rcases hc with rfl | rfl
    · exact h.1
    · exact h.2.1
  | index target key =>
    simp only [children, List.mem_cons, List.not_mem_nil, or_false] at hc
    rcases hc with rfl | rfl
    · exact h.1
    · exact h.2.1
  | unary | member =>
    obtain rfl := List.mem_singleton.1 hc
    exact h.1
  | parens =>
    obtain rfl := List.mem_singleton.1 hc
    exact h
  | arrow =>
    obtain rfl := List.mem_singleton.1 hc
    exact h.2
  | call f args =>
    rcases List.mem_cons.1 hc with rfl | hc
    · exact h.1
    · exact legibleList_iff.1 h.2.1 _ hc
  | array elements => exact legibleList_iff.1 h _ hc
  | object entries => exact (legibleEntries_iff.1 h).2 _ hc

theorem Legible.of_mem_walk {e x : Expr} (h : e.Legible) (hx : x ∈ e.walk) : x.Legible := by
  induction e using walk.induct with
  | case1 e ih =>
    rcases mem_walk_iff.1 hx with rfl | ⟨child, hc, hx⟩
    · exact h
    · exact ih child hc (h.child hc) hx

/-- A legible tree has a text that can be read, if it has no arrow functions and a point may follow what
    is before one. -/
theorem Legible.printsAll {e : Expr} (h : e.Legible) (ha : ∀ params body, arrow params body ∉ e.walk)
    (hn : ∀ target name, member target name ∈ e.walk → target.AllowsPoint) : e.PrintsAll := by
  intro x hx
  have hl := h.of_mem_walk hx
  cases x with
  | literal | symbol => exact hl
  | member target name => exact fun _ => hn target name hx
  | object entries => exact (legibleEntries_iff.1 hl).1
  | pipeline => exact hl.elim
  | arrow params body => exact absurd hx (ha params body)
  | _ => trivial

theorem grouped_eq {least : Nat} {e t : Expr} (h : least ≤ e.tightness) (hp : e.Prints) :
    grouped least e t = t := by
  have hl : e.level = e.tightness := by
    cases e with
    | arrow => exact hp.elim
    | _ => rfl
  exact if_neg (by omega)

mutual

/-- Printed, a legible tree needs no more parentheses. -/
theorem Legible.printed_eq : (e : Expr) → e.Legible → e.PrintsAll → e.printed = e.keysRead
  | literal l, _, _ => rfl
  | symbol s, _, _ => rfl
  | conditional condition yes alternative, h, hp => by
    have pc : condition.PrintsAll := hp.child (by simp [children])
    rw [printed, keysRead, grouped_eq h.2.2.2 pc.self, Legible.printed_eq condition h.1 pc,
      Legible.printed_eq yes h.2.1 (hp.child (by simp [children])),
      Legible.printed_eq alternative h.2.2.1 (hp.child (by simp [children]))]
  | unary op operand, h, hp => by
    have po : operand.PrintsAll := hp.child (by simp [children])
    rw [printed, keysRead, grouped_eq h.2 po.self, Legible.printed_eq operand h.1 po]
  | binary op left right, h, hp => by
    have pl : left.PrintsAll := hp.child (by simp [children])
    have pr : right.PrintsAll := hp.child (by simp [children])
    rw [printed, keysRead, grouped_eq h.2.2.1 pl.self, grouped_eq h.2.2.2 pr.self,
      Legible.printed_eq left h.1 pl, Legible.printed_eq right h.2.1 pr]
  | member target name, h, hp => by
    have pt : target.PrintsAll := hp.child (by simp [children])
    rw [printed, keysRead, grouped_eq h.2 pt.self, Legible.printed_eq target h.1 pt]
  | index target key, h, hp => by
    have pt : target.PrintsAll := hp.child (by simp [children])
    rw [printed, keysRead, grouped_eq h.2.2 pt.self, Legible.printed_eq target h.1 pt,
      Legible.printed_eq key h.2.1 (hp.child (by simp [children]))]
  | call callee args, h, hp => by
    have pc : callee.PrintsAll := hp.child (by simp [children])
    rw [printed, keysRead, grouped_eq h.2.2 pc.self, Legible.printed_eq callee h.1 pc,
      LegibleList.printedList_eq args h.2.1 fun e he => hp.child (by simp [children, he])]
  | array elements, h, hp => by
    rw [printed, keysRead, LegibleList.printedList_eq elements h fun e he => hp.child he]
  | object entries, h, hp => by
    rw [printed, keysRead, LegibleEntries.printedEntries_eq entries h fun e he => hp.child he]
  | parens inner, h, hp => by
    rw [printed, keysRead, Legible.printed_eq inner h (hp.child (by simp [children]))]
  | pipeline input stages, h, _ => h.elim
  | arrow params body, h, hp => hp.self.elim

theorem LegibleList.printedList_eq : (es : List Expr) → LegibleList es → (∀ e ∈ es, e.PrintsAll) →
    printedList es = keysReadList es
  | [], _, _ => rfl
  | e :: rest, h, hp => by
    rw [printedList, keysReadList, Legible.printed_eq e h.1 (hp e List.mem_cons_self),
      LegibleList.printedList_eq rest h.2 fun e he => hp e (List.mem_cons_of_mem _ he)]

theorem LegibleEntries.printedEntries_eq : (entries : List (ObjectKey × Expr)) →
    LegibleEntries entries → (∀ e ∈ entries.map Prod.snd, e.PrintsAll) →
      printedEntries entries = keysReadEntries entries
  | [], _, _ => rfl
  | (key, e) :: rest, h, hp => by
    rw [printedEntries, keysReadEntries, Legible.printed_eq e h.2.1 (hp e List.mem_cons_self),
      LegibleEntries.printedEntries_eq rest h.2.2 fun e he => hp e (List.mem_cons_of_mem _ he)]

end

end Expr

end DataBinding
