import DataBinding.Link.Resolve
import DataBinding.Proofs.Link.Names
import DataBinding.Proofs.Printing.Source
import DataBinding.Proofs.Token.Steps

/-!
# Names in parentheses

A source is given a pair of parentheses around one of its names: the callee of a call, or a name that is
all there is. The new source has the tree with the parentheses.

Results:

* `Expr.SwapsCallee`: two trees that differ in the callee of one call.
* `Expr.SwapsCallee.spellsWith`, `Expr.SwapsCallee.stratified`: the other tree is spelled by the tokens
  with those of the other callee, and it is well stratified.
* `Expr.exists_parse_callee`, `Expr.exists_parse_symbol`: the source with a pair of parentheses.
-/

namespace DataBinding

namespace Expr

/-! ## Another callee -/

/-- The second tree is the first one with `y` for the callee `x` of one call. The parameters `inner` are
    in sight of that call where `outer` are in sight of the trees. Stages of pipelines are not calls. -/
inductive SwapsCallee (x y : Expr) (inner : List String) : List String → Expr → Expr → Prop where
  | here {args : List Expr} : SwapsCallee x y inner inner (call x args) (call y args)
  | condition {outer : List String} {e e' yes alternative : Expr} (h : SwapsCallee x y inner outer e e') :
      SwapsCallee x y inner outer (conditional e yes alternative) (conditional e' yes alternative)
  | yes {outer : List String} {condition e e' alternative : Expr} (h : SwapsCallee x y inner outer e e') :
      SwapsCallee x y inner outer (conditional condition e alternative)
        (conditional condition e' alternative)
  | alternative {outer : List String} {condition yes e e' : Expr} (h : SwapsCallee x y inner outer e e') :
      SwapsCallee x y inner outer (conditional condition yes e) (conditional condition yes e')
  | operand {outer : List String} {op : UnaryOp} {e e' : Expr} (h : SwapsCallee x y inner outer e e') :
      SwapsCallee x y inner outer (unary op e) (unary op e')
  | left {outer : List String} {op : BinaryOp} {e e' right : Expr}
      (h : SwapsCallee x y inner outer e e') :
      SwapsCallee x y inner outer (binary op e right) (binary op e' right)
  | right {outer : List String} {op : BinaryOp} {left e e' : Expr}
      (h : SwapsCallee x y inner outer e e') :
      SwapsCallee x y inner outer (binary op left e) (binary op left e')
  | member {outer : List String} {e e' : Expr} {name : String} (h : SwapsCallee x y inner outer e e') :
      SwapsCallee x y inner outer (member e name) (member e' name)
  | object {outer : List String} {e e' key : Expr} (h : SwapsCallee x y inner outer e e') :
      SwapsCallee x y inner outer (index e key) (index e' key)
  | key {outer : List String} {target e e' : Expr} (h : SwapsCallee x y inner outer e e') :
      SwapsCallee x y inner outer (index target e) (index target e')
  | callee {outer : List String} {e e' : Expr} {args : List Expr} (h : SwapsCallee x y inner outer e e') :
      SwapsCallee x y inner outer (call e args) (call e' args)
  | argument {outer : List String} {callee e e' : Expr} {before behind : List Expr}
      (h : SwapsCallee x y inner outer e e') :
      SwapsCallee x y inner outer (call callee (before ++ e :: behind))
        (call callee (before ++ e' :: behind))
  | element {outer : List String} {e e' : Expr} {before behind : List Expr}
      (h : SwapsCallee x y inner outer e e') :
      SwapsCallee x y inner outer (array (before ++ e :: behind)) (array (before ++ e' :: behind))
  | value {outer : List String} {k : ObjectKey} {e e' : Expr} {before behind : List (ObjectKey × Expr)}
      (h : SwapsCallee x y inner outer e e') :
      SwapsCallee x y inner outer (.object (before ++ (k, e) :: behind))
        (.object (before ++ (k, e') :: behind))
  | inside {outer : List String} {e e' : Expr} (h : SwapsCallee x y inner outer e e') :
      SwapsCallee x y inner outer (parens e) (parens e')
  | input {outer : List String} {e e' : Expr} {stages : List (Symbol × List Expr)}
      (h : SwapsCallee x y inner outer e e') :
      SwapsCallee x y inner outer (pipeline e stages) (pipeline e' stages)
  | stageArgument {outer : List String} {input e e' : Expr} {s : Symbol} {before behind : List Expr}
      {earlier later : List (Symbol × List Expr)} (h : SwapsCallee x y inner outer e e') :
      SwapsCallee x y inner outer (pipeline input (earlier ++ (s, before ++ e :: behind) :: later))
        (pipeline input (earlier ++ (s, before ++ e' :: behind) :: later))
  | body {outer : List String} {params : List Symbol} {e e' : Expr}
      (h : SwapsCallee x y inner (Config.extendScope outer params) e e') :
      SwapsCallee x y inner outer (arrow params e) (arrow params e')

namespace SwapsCallee

variable {x y e e' : Expr} {inner outer : List String}

/-- The call is a node of the tree. -/
theorem exists_mem_walk (h : x.SwapsCallee y inner outer e e') : ∃ args, call x args ∈ e.walk := by
  induction h with
  | here => exact ⟨_, mem_walk_self⟩
  | condition _ ih | yes _ ih | alternative _ ih | operand _ ih | left _ ih | right _ ih | member _ ih
  | object _ ih | key _ ih | callee _ ih | argument _ ih | element _ ih | value _ ih | inside _ ih
  | input _ ih | stageArgument _ ih | body _ ih =>
    obtain ⟨args, hm⟩ := ih
    exact ⟨args, mem_walk_iff.2 (.inr ⟨_, by simp [children, stageArgs], hm⟩)⟩

/-- With a pipeline written as calls, its parts are arguments. -/
theorem applyStages {stages : List (Symbol × List Expr)} (h : x.SwapsCallee y inner outer e e') :
    x.SwapsCallee y inner outer (e.applyStages stages) (e'.applyStages stages) := by
  induction stages generalizing e e' with
  | nil => exact h
  | cons stage stages ih => exact ih (@argument x y inner outer (symbol stage.1) e e' [] stage.2 h)

theorem withoutPipeline (h : x.SwapsCallee y inner outer e e') :
    x.SwapsCallee y inner outer e.withoutPipeline e'.withoutPipeline := by
  have keep := h
  cases h with
  | input h => exact h.applyStages
  | @stageArgument _ input e e' s before behind earlier later h =>
    show x.SwapsCallee y inner outer (Expr.applyStages _ _) (Expr.applyStages _ _)
    rw [applyStages_append, applyStages_append]
    have hstage := @argument x y inner outer (symbol s) e e'
      (Expr.applyStages input earlier :: before) behind h
    exact hstage.applyStages
  | _ => exact keep

end SwapsCallee

/-! ## Tokens -/

/-- Some of the tokens spell `x`. With tokens that spell `y` in their place, and those behind them moved,
    `P` holds. -/
def SpellsWith (x y : Expr) (P : List Token → Prop) (ts : List Token) : Prop :=
  ∃ us ws vs, ts = us ++ (ws ++ vs) ∧ Spelled x ws ∧
    ∀ n ws', Spelled y ws' → P (us ++ (ws' ++ vs.map (Token.moved n)))

namespace SpellsWith

variable {x y : Expr} {P Q : List Token → Prop} {t : Token} {ts us : List Token}

theorem imp (h : SpellsWith x y P ts) (hq : ∀ ts, P ts → Q ts) : SpellsWith x y Q ts := by
  obtain ⟨us, ws, vs, rfl, hw, hp⟩ := h
  exact ⟨us, ws, vs, rfl, hw, fun n ws' hw' => hq _ (hp n ws' hw')⟩

/-- Behind a token. -/
theorem cons (h : SpellsWith x y (fun ts => Q (t :: ts)) ts) : SpellsWith x y Q (t :: ts) := by
  obtain ⟨us, ws, vs, rfl, hw, hp⟩ := h
  exact ⟨t :: us, ws, vs, rfl, hw, hp⟩

/-- Behind other tokens. -/
theorem behind (h : SpellsWith x y (fun ts => Q (us ++ ts)) ts) : SpellsWith x y Q (us ++ ts) := by
  induction us generalizing Q with
  | nil => exact h
  | cons u us ih => exact .cons (ih h)

/-- In front of other tokens. -/
theorem before (h : SpellsWith x y P ts)
    (hq : ∀ n ts, P ts → Q (ts ++ us.map (Token.moved n))) : SpellsWith x y Q (ts ++ us) := by
  obtain ⟨fs, ws, vs, rfl, hw, hp⟩ := h
  refine ⟨fs, ws, vs ++ us, by simp, hw, fun n ws' hw' => ?_⟩
  have hrest := hq n _ (hp n ws' hw')
  rwa [List.append_assoc, List.append_assoc, ← List.map_append] at hrest

end SpellsWith

theorem spellsWith_list {x y e e' : Expr} {before behind : List Expr} {ts : List Token}
    (hs : SpelledList (before ++ e :: behind) ts)
    (h : ∀ {ts}, Spelled e ts → SpellsWith x y (Spelled e') ts) :
    SpellsWith x y (SpelledList (before ++ e' :: behind)) ts := by
  induction before generalizing ts with
  | nil =>
    rw [List.nil_append] at hs ⊢
    cases hs with
    | last hs => exact (h hs).imp fun ts => .last
    | cons hs hc hrest => exact (h hs).before fun n ts ht => .cons ht hc hrest.moved
  | cons a before ih =>
    rw [List.cons_append] at hs ⊢
    generalize hrest : before ++ e :: behind = es at hs
    cases hs with
    | last => simp at hrest
    | cons ha hc hs =>
      subst hrest
      exact .behind (.cons ((ih hs).imp fun ts ht => .cons ha hc ht))

theorem spellsWith_entries {x y e e' : Expr} {k : ObjectKey} {before behind : List (ObjectKey × Expr)}
    {ts : List Token} (hs : SpelledEntries (before ++ (k, e) :: behind) ts)
    (h : ∀ {ts}, Spelled e ts → SpellsWith x y (Spelled e') ts) :
    SpellsWith x y (SpelledEntries (before ++ (k, e') :: behind)) ts := by
  induction before generalizing ts with
  | nil =>
    rw [List.nil_append] at hs ⊢
    cases hs with
    | last hk hm hs => exact .cons (.cons ((h hs).imp fun ts => .last hk hm))
    | cons hk hm hs hc hrest =>
      exact .cons (.cons ((h hs).before fun n ts ht => .cons hk hm ht hc hrest.moved))
  | cons a before ih =>
    rw [List.cons_append] at hs ⊢
    generalize hrest : before ++ (k, e) :: behind = entries at hs
    cases hs with
    | last => simp at hrest
    | cons hk hm ha hc hs =>
      subst hrest
      exact .cons (.cons (.behind (.cons ((ih hs).imp fun ts ht => .cons hk hm ha hc ht))))

theorem spellsWith_stages {x y e e' : Expr} {s : Symbol} {before behind : List Expr}
    {earlier later : List (Symbol × List Expr)} {ts : List Token}
    (hs : SpelledStages (earlier ++ (s, before ++ e :: behind) :: later) ts)
    (h : ∀ {ts}, Spelled e ts → SpellsWith x y (Spelled e') ts) :
    SpellsWith x y (SpelledStages (earlier ++ (s, before ++ e' :: behind) :: later)) ts := by
  induction earlier generalizing ts with
  | nil =>
    rw [List.nil_append] at hs ⊢
    generalize hargs : before ++ e :: behind = args at hs
    cases hs with
    | name => simp at hargs
    | call hp ht ho hx hc hrest =>
      subst hargs
      refine .cons (.cons (.cons ((spellsWith_list hx h).before fun n ts hts => ?_)))
      exact .call hp ht ho hts hc hrest.moved
  | cons stage earlier ih =>
    rw [List.cons_append] at hs ⊢
    generalize hrest : earlier ++ (s, before ++ e :: behind) :: later = stages at hs
    cases hs with
    | name hp ht hs =>
      subst hrest
      exact .cons (.cons ((ih hs).imp fun ts hts => .name hp ht hts))
    | call hp ht ho hx hc hs =>
      subst hrest
      exact .cons (.cons (.cons (.behind (.cons ((ih hs).imp fun ts hts =>
        .call hp ht ho hx hc hts)))))

namespace SwapsCallee

variable {x y e e' : Expr} {inner outer : List String}

/-- The tokens of a tree with those of the callee replaced spell the other tree. -/
theorem spellsWith (h : x.SwapsCallee y inner outer e e') {ts : List Token} (hs : Spelled e ts) :
    SpellsWith x y (Spelled e') ts := by
  induction h generalizing ts with
  | here =>
    cases hs with
    | @call _ _ _ xs opening closing hx ho hargs hc =>
      refine ⟨[], _, _, rfl, hx, fun n ws' hw => ?_⟩
      simp only [List.map_append, List.map_cons]
      exact .call hw ho hargs.moved hc
  | condition _ ih =>
    cases hs with
    | conditional hc hq hy hm ha =>
      refine (ih hc).before fun n ts h => ?_
      simp only [List.map_append, List.map_cons]
      exact .conditional h hq hy.moved hm ha.moved
  | yes _ ih =>
    cases hs with
    | conditional hc hq hy hm ha =>
      exact .behind (.cons ((ih hy).before fun n ts h => .conditional hc hq h hm ha.moved))
  | alternative _ ih =>
    cases hs with
    | conditional hc hq hy hm ha =>
      exact .behind (.cons (.behind (.cons ((ih ha).imp fun ts h => .conditional hc hq hy hm h))))
  | operand _ ih =>
    cases hs with
    | unary ho h => exact .cons ((ih h).imp fun ts h => .unary ho h)
  | left _ ih =>
    cases hs with
    | binary hl ho hr => exact (ih hl).before fun n ts h => .binary h ho hr.moved
  | right _ ih =>
    cases hs with
    | binary hl ho hr => exact .behind (.cons ((ih hr).imp fun ts h => .binary hl ho h))
  | member _ ih =>
    cases hs with
    | member h hd hn => exact (ih h).before fun n ts h => .member h hd hn
  | object _ ih =>
    cases hs with
    | index h ho hk hc =>
      refine (ih h).before fun n ts h => ?_
      simp only [List.map_append, List.map_cons]
      exact .index h ho hk.moved hc
  | key _ ih =>
    cases hs with
    | index h ho hk hc => exact .behind (.cons ((ih hk).before fun n ts hk => .index h ho hk hc))
  | callee _ ih =>
    cases hs with
    | call h ho hargs hc =>
      refine (ih h).before fun n ts h => ?_
      simp only [List.map_append, List.map_cons]
      exact .call h ho hargs.moved hc
  | argument _ ih =>
    cases hs with
    | call h ho hargs hc =>
      exact .behind (.cons ((spellsWith_list hargs ih).before fun n ts hargs => .call h ho hargs hc))
  | element _ ih =>
    cases hs with
    | array ho hx hc => exact .cons ((spellsWith_list hx ih).before fun n ts hx => .array ho hx hc)
  | value _ ih =>
    cases hs with
    | object ho hx hc => exact .cons ((spellsWith_entries hx ih).before fun n ts hx => .object ho hx hc)
  | @inside _ e e' _ ih =>
    cases hs with
    | parens ho hx hc =>
      have hinner := @spellsWith_list x y e e' [] [] _ hx ih
      exact .cons (hinner.before fun n ts hx => .parens ho hx hc)
  | input | stageArgument => cases hs
  | body _ ih =>
    cases hs with
    | arrow ho hx hc hm h =>
      exact .cons (.behind (.cons (.cons ((ih h).imp fun ts h => .arrow ho hx hc hm h))))
    | bareArrow ht hm h => exact .cons (.cons ((ih h).imp fun ts h => .bareArrow ht hm h))

/-- So do the tokens of a whole text. -/
theorem spellsWith_text (h : x.SwapsCallee y inner outer e e') {ts : List Token}
    (hs : SpelledText e ts) : SpellsWith x y (SpelledText e') ts := by
  cases hs with
  | expression hs => exact (h.spellsWith hs).imp fun ts => .expression
  | pipeline hs hstages =>
    cases h with
    | input h => exact (h.spellsWith hs).before fun n ts hs => .pipeline hs hstages.moved
    | stageArgument h =>
      exact .behind ((spellsWith_stages hstages h.spellsWith).imp fun ts => .pipeline hs)

/-! ## Strata -/

theorem tightness_eq (h : x.SwapsCallee y inner outer e e') : e'.tightness = e.tightness := by
  cases h <;> rfl

theorem endsInArrow_eq (h : x.SwapsCallee y inner outer e e') : e'.endsInArrow = e.endsInArrow := by
  induction h with
  | operand _ ih | right _ ih | alternative _ ih => exact ih
  | _ => rfl

end SwapsCallee

theorem stratifiedList_iff {es : List Expr} : StratifiedList es ↔ ∀ e ∈ es, e.Stratified := by
  induction es with
  | nil => simp [StratifiedList]
  | cons e es ih => simp [StratifiedList, ih]

theorem stratifiedEntries_iff {entries : List (ObjectKey × Expr)} : StratifiedEntries entries ↔
    ∀ entry ∈ entries, entry.1.isPlain = true ∧ entry.2.Stratified := by
  induction entries with
  | nil => simp [StratifiedEntries]
  | cons entry entries ih => simp [StratifiedEntries, ih, and_assoc]

theorem stratifiedStages_iff {stages : List (Symbol × List Expr)} : StratifiedStages stages ↔
    ∀ stage ∈ stages, StratifiedList stage.2 := by
  induction stages with
  | nil => simp [StratifiedStages]
  | cons stage stages ih => simp [StratifiedStages, ih]

/-- One element of a list may be another one if that has the property too. -/
theorem forall_mem_middle {α : Type} {P : α → Prop} {a b : α} {before behind : List α}
    (h : ∀ c ∈ before ++ a :: behind, P c) (hb : P a → P b) : ∀ c ∈ before ++ b :: behind, P c := by
  rw [List.forall_mem_append, List.forall_mem_cons] at h ⊢
  exact ⟨h.1, hb h.2.1, h.2.2⟩

namespace SwapsCallee

variable {x y e e' : Expr} {inner outer : List String}

/-- The other tree is well stratified if the new callee is and binds as tightly as a callee does. -/
theorem stratified (h : x.SwapsCallee y inner outer e e') (hy : y.Stratified)
    (hl : y.tightness = postfixLevel) (st : e.Stratified) : e'.Stratified := by
  have arguments : ∀ {e e' : Expr} {before behind : List Expr},
      (e.Stratified → e'.Stratified) → StratifiedList (before ++ e :: behind) →
      StratifiedList (before ++ e' :: behind) := fun ih st =>
    stratifiedList_iff.2 (forall_mem_middle (stratifiedList_iff.1 st) ih)
  induction h with
  | here => exact ⟨hy, st.2.1, Nat.le_of_eq hl.symm, endsInArrow_eq_false hl⟩
  | condition h ih => exact ⟨ih st.1, st.2.1, st.2.2.1, h.tightness_eq ▸ st.2.2.2.1,
      h.endsInArrow_eq.trans st.2.2.2.2⟩
  | yes h ih => exact ⟨st.1, ih st.2.1, st.2.2⟩
  | alternative h ih => exact ⟨st.1, st.2.1, ih st.2.2.1, st.2.2.2⟩
  | operand h ih => exact ⟨ih st.1, h.tightness_eq ▸ st.2⟩
  | left h ih => exact ⟨ih st.1, st.2.1, h.tightness_eq ▸ st.2.2.1, st.2.2.2.1,
      h.endsInArrow_eq.trans st.2.2.2.2⟩
  | right h ih => exact ⟨st.1, ih st.2.1, st.2.2.1, h.tightness_eq ▸ st.2.2.2.1, st.2.2.2.2⟩
  | member h ih => exact ⟨ih st.1, h.tightness_eq ▸ st.2.1, h.endsInArrow_eq.trans st.2.2⟩
  | object h ih => exact ⟨ih st.1, st.2.1, h.tightness_eq ▸ st.2.2.1, h.endsInArrow_eq.trans st.2.2.2⟩
  | key h ih => exact ⟨st.1, ih st.2.1, st.2.2⟩
  | callee h ih => exact ⟨ih st.1, st.2.1, h.tightness_eq ▸ st.2.2.1, h.endsInArrow_eq.trans st.2.2.2⟩
  | argument h ih => exact ⟨st.1, arguments ih st.2.1, st.2.2⟩
  | element h ih => exact arguments ih st
  | value h ih =>
    exact stratifiedEntries_iff.2 (forall_mem_middle (stratifiedEntries_iff.1 st) fun hv => ⟨hv.1, ih hv.2⟩)
  | inside h ih => exact ih st
  | input | stageArgument => exact st.elim
  | body h ih => exact ih st

/-- So is the tree of a whole text. -/
theorem stratifiedText (h : x.SwapsCallee y inner outer e e') (hy : y.Stratified)
    (hl : y.tightness = postfixLevel) (st : StratifiedText e) : StratifiedText e' := by
  have keep := h
  cases h with
  | input h => exact ⟨h.stratified hy hl st.1, st.2⟩
  | stageArgument h =>
    refine ⟨st.1, by simp, stratifiedStages_iff.2 ?_⟩
    refine forall_mem_middle (stratifiedStages_iff.1 st.2.2) fun hargs => ?_
    exact stratifiedList_iff.2 (forall_mem_middle (stratifiedList_iff.1 hargs) (h.stratified hy hl))
  | _ => exact keep.stratified hy hl st

end SwapsCallee

/-! ## Texts -/

/-- A name in parentheses is read as that, wherever it stands. -/
theorem takes_parens_name {s : Symbol} (h : IsToken s.raw (.name s.name)) (p : Nat) (v d : Bool)
    (r : List Char) : ∃ ts, (⟨'(' :: (s.raw.toList ++ ')' :: r), p, v, d⟩ : Cursor).Takes ts
      ⟨r, p + s.raw.toList.length + 2, false, false⟩ ∧ Spelled (parens (symbol s)) ts := by
  obtain ⟨c, more, hraw, hc, -⟩ := h.exists_cons rfl
  have opening : (⟨'(' :: (s.raw.toList ++ ')' :: r), p, v, d⟩ : Cursor).next =
      .ok (⟨.punct .openParen, "(", p⟩, ⟨s.raw.toList ++ ')' :: r, p + 1, true, false⟩) :=
    Cursor.next_of_scanKind (x := []) rfl rfl
  have name : (⟨s.raw.toList ++ ')' :: r, p + 1, true, false⟩ : Cursor).next =
      .ok (⟨.name s.name, s.raw, p + 1⟩,
        ⟨')' :: r, p + 1 + s.raw.toList.length, false, false⟩) := by
    have hscan := h.scanKind rfl (p + 1) (.of_isStop (c := ')') (r := r) rfl)
    rw [hraw] at hscan ⊢
    rw [Cursor.next_of_scanKind hc hscan, ← hraw, String.ofList_toList]
    rfl
  have closing : (⟨')' :: r, p + 1 + s.raw.toList.length, false, false⟩ : Cursor).next =
      .ok (⟨.punct .closeParen, ")", p + 1 + s.raw.toList.length⟩,
        ⟨r, p + 1 + s.raw.toList.length + 1, false, false⟩) :=
    Cursor.next_of_scanKind (x := []) rfl rfl
  have hposition : p + s.raw.toList.length + 2 = p + 1 + s.raw.toList.length + 1 := by omega
  rw [hposition]
  exact ⟨_, (Cursor.takes_of_next opening rfl).trans
    ((Cursor.takes_of_next name rfl).trans (Cursor.takes_of_next closing rfl)),
    .parens rfl (.last (.symbol ⟨rfl, rfl⟩)) rfl⟩

/-- A source with a pair of parentheses around one of its names, where the tree with the parentheses is
    spelled so. -/
theorem exists_parse_parens {source : String} {e e' : Expr} {s : Symbol} (h : parse source = .ok e)
    (ht : IsToken s.raw (.name s.name)) (st : StratifiedText e → StratifiedText e')
    (hs : ∀ {ts}, SpelledText e ts →
      SpellsWith (symbol s) (parens (symbol s)) (SpelledText e') ts) : ∃ front back,
      source = front ++ s.raw ++ back ∧ parse (front ++ "(" ++ s.raw ++ ")" ++ back) = .ok e' := by
  obtain ⟨ts, last, hscan, hlast, hne, hspelled, hst⟩ := scan_of_parse h
  obtain ⟨us, ws, vs, rfl, hw, hrest⟩ := hs hspelled
  cases hw with
  | @symbol _ t hw =>
  obtain ⟨hkind, hraw⟩ := hw
  rw [List.forall_mem_append, List.singleton_append, List.forall_mem_cons] at hne
  rw [List.append_assoc, List.singleton_append, List.cons_append] at hscan
  obtain ⟨front, c, htext, hc, hbehind, hbefore⟩ :=
    Cursor.takes_before hscan hne.1 (by rw [hkind]; rfl)
  rw [hraw] at htext hc
  rw [hkind] at hc
  obtain ⟨v, d, hbefore⟩ := hbefore '(' (s.raw.toList ++ ')' :: c.rest) rfl
  obtain ⟨ws, hparens, hw⟩ := takes_parens_name ht ((Cursor.start source).position + front.length) v d
    c.rest
  obtain ⟨last', hmoved, hlast'⟩ := Cursor.scan_moved hbehind hlast hne.2.2 2
  refine ⟨String.ofList front, String.ofList c.rest, ?_, ?_⟩
  · rw [← String.toList_inj]
    simpa [Cursor.start] using htext
  · have hplace : (⟨c.rest, (Cursor.start source).position + front.length + s.raw.toList.length + 2,
        false, false⟩ : Cursor) = c.moved 2 := by
      rw [hc]
      rfl
    have hstart : Cursor.start (String.ofList front ++ "(" ++ s.raw ++ ")" ++ String.ofList c.rest) =
        ⟨front ++ '(' :: (s.raw.toList ++ ')' :: c.rest), 0, true, false⟩ := by
      simp [Cursor.start]
    have htakes := hbefore.trans hparens
    rw [hplace, Cursor.Takes, hmoved, List.append_assoc, ← List.append_assoc ws,
      ← List.append_assoc us] at htakes
    refine parse_complete (tokenize_eq_ok_iff.2 (hstart ▸ htakes)) hlast' ?_ (st hst)
    exact hrest 2 ws hw

/-- A source with the callee of one of its calls in parentheses. -/
theorem exists_parse_callee {source : String} {e e' : Expr} {s : Symbol} {scope : List String}
    (he : parse source = .ok e) (h : (symbol s).SwapsCallee (parens (symbol s)) scope [] e e') :
    ∃ front back, source = front ++ s.raw ++ back ∧
      parse (front ++ "(" ++ s.raw ++ ")" ++ back) = .ok e' := by
  have token : IsToken s.raw (.name s.name) := by
    obtain ⟨args, hm⟩ := h.withoutPipeline.exists_mem_walk
    have hcall : (call (symbol s) args).Legible := (legible_withoutPipeline he).of_mem_walk hm
    exact hcall.1
  exact exists_parse_parens he token (h.stratifiedText trivial rfl) h.spellsWith_text

/-- A source that is just a name, in parentheses. -/
theorem exists_parse_symbol {source : String} {s : Symbol} (he : parse source = .ok (symbol s)) :
    ∃ front back, source = front ++ s.raw ++ back ∧
      parse (front ++ "(" ++ s.raw ++ ")" ++ back) = .ok (parens (symbol s)) := by
  have token : IsToken s.raw (.name s.name) := legible_withoutPipeline he
  refine exists_parse_parens he token (fun _ => trivial) fun {ts} hs => ?_
  cases hs with
  | expression hs =>
    exact ⟨[], ts, [], (List.append_nil ts).symm, hs, fun n ws' hw =>
      (List.append_nil ws').symm ▸ .expression hw⟩

end Expr

end DataBinding
