import DataBinding.Proofs.Link.Names
import DataBinding.Proofs.Printing.Leaf

/-!
# The tree of a printed text

A printed text is that of a tree with more parentheses, where an operand binds looser than its place
allows, and with a computed string key for every member name that is no identifier.

Results:

* `Expr.keysRead_eq_self`: only member names that are no identifiers are read as other keys.
* `Expr.PrintsAll`: what a tree needs to have a text that can be read.
* `Expr.bare_printed`: but for parentheses only the keys differ from the printed tree.
* `Expr.stratified_printed`: no pair of parentheses is missing in the tree of a printed text.
-/

namespace DataBinding.Expr

/-! ## Keys -/

mutual

/-- The tree in which a member name that is no identifier is a computed string key. A pipeline, which
    has no text, stays as it is. -/
def keysRead : Expr → Expr
  | conditional condition yes alternative =>
    conditional (keysRead condition) (keysRead yes) (keysRead alternative)
  | unary op operand => unary op (keysRead operand)
  | binary op left right => binary op (keysRead left) (keysRead right)
  | member target name =>
    if isIdentifier name then member (keysRead target) name
    else index (keysRead target) (ofString name)
  | index target key => index (keysRead target) (keysRead key)
  | literal l => literal l
  | symbol s => symbol s
  | call callee args => call (keysRead callee) (keysReadList args)
  | array elements => array (keysReadList elements)
  | object entries => object (keysReadEntries entries)
  | parens inner => parens (keysRead inner)
  | pipeline input stages => pipeline input stages
  | arrow params body => arrow params (keysRead body)

/-- The trees of a list with their keys read. -/
def keysReadList : List Expr → List Expr
  | [] => []
  | e :: rest => keysRead e :: keysReadList rest

/-- The entries of an object literal with the keys in their values read. -/
def keysReadEntries : List (ObjectKey × Expr) → List (ObjectKey × Expr)
  | [] => []
  | (key, e) :: rest => (key, keysRead e) :: keysReadEntries rest

end

/-- Every member name is an identifier. -/
def NamesIdentifiers (e : Expr) : Prop :=
  ∀ target name, member target name ∈ e.walk → isIdentifier name = true

theorem NamesIdentifiers.child {e child : Expr} (h : e.NamesIdentifiers) (hc : child ∈ e.children) :
    child.NamesIdentifiers :=
  fun target name hm => h target name (mem_walk_iff.2 (.inr ⟨child, hc, hm⟩))

mutual

/-- Where every member name is an identifier, reading the keys changes nothing. -/
theorem keysRead_eq_self : (e : Expr) → e.NamesIdentifiers → e.keysRead = e
  | conditional condition yes alternative, h => by
    rw [keysRead, keysRead_eq_self condition (h.child (by simp [children])),
      keysRead_eq_self yes (h.child (by simp [children])),
      keysRead_eq_self alternative (h.child (by simp [children]))]
  | unary op operand, h => by
    rw [keysRead, keysRead_eq_self operand (h.child (by simp [children]))]
  | binary op left right, h => by
    rw [keysRead, keysRead_eq_self left (h.child (by simp [children])),
      keysRead_eq_self right (h.child (by simp [children]))]
  | member target name, h => by
    rw [keysRead, if_pos (h target name mem_walk_self),
      keysRead_eq_self target (h.child (by simp [children]))]
  | index target key, h => by
    rw [keysRead, keysRead_eq_self target (h.child (by simp [children])),
      keysRead_eq_self key (h.child (by simp [children]))]
  | literal l, _ => rfl
  | symbol s, _ => rfl
  | call callee args, h => by
    rw [keysRead, keysRead_eq_self callee (h.child (by simp [children])),
      keysReadList_eq_self args fun e he => h.child (by simp [children, he])]
  | array elements, h => by
    rw [keysRead, keysReadList_eq_self elements fun e he => h.child he]
  | object entries, h => by
    rw [keysRead, keysReadEntries_eq_self entries fun e he => h.child he]
  | parens inner, h => by
    rw [keysRead, keysRead_eq_self inner (h.child (by simp [children]))]
  | pipeline input stages, _ => rfl
  | arrow params body, h => by
    rw [keysRead, keysRead_eq_self body (h.child (by simp [children]))]

theorem keysReadList_eq_self : (es : List Expr) → (∀ e ∈ es, e.NamesIdentifiers) →
    keysReadList es = es
  | [], _ => rfl
  | e :: rest, h => by
    rw [keysReadList, keysRead_eq_self e (h e List.mem_cons_self),
      keysReadList_eq_self rest fun e he => h e (List.mem_cons_of_mem _ he)]

theorem keysReadEntries_eq_self : (entries : List (ObjectKey × Expr)) →
    (∀ e ∈ entries.map Prod.snd, e.NamesIdentifiers) → keysReadEntries entries = entries
  | [], _ => rfl
  | (key, e) :: rest, h => by
    rw [keysReadEntries, keysRead_eq_self e (h e List.mem_cons_self),
      keysReadEntries_eq_self rest fun e he => h e (List.mem_cons_of_mem _ he)]

end

/-! ## Parentheses -/

mutual

/-- The tree without parentheses. A pipeline, which has no text, stays as it is. -/
def bare : Expr → Expr
  | conditional condition yes alternative =>
    conditional (bare condition) (bare yes) (bare alternative)
  | unary op operand => unary op (bare operand)
  | binary op left right => binary op (bare left) (bare right)
  | member target name => member (bare target) name
  | index target key => index (bare target) (bare key)
  | literal l => literal l
  | symbol s => symbol s
  | call callee args => call (bare callee) (bareList args)
  | array elements => array (bareList elements)
  | object entries => object (bareEntries entries)
  | parens inner => bare inner
  | pipeline input stages => pipeline input stages
  | arrow params body => arrow params (bare body)

/-- The trees of a list without parentheses. -/
def bareList : List Expr → List Expr
  | [] => []
  | e :: rest => bare e :: bareList rest

/-- The entries of an object literal without parentheses in their values. -/
def bareEntries : List (ObjectKey × Expr) → List (ObjectKey × Expr)
  | [] => []
  | (key, e) :: rest => (key, bare e) :: bareEntries rest

end

/-- The tree `t` of the text of the operand `e` in a place that asks for `least`. -/
def grouped (least : Nat) (e t : Expr) : Expr := if e.level < least then parens t else t

mutual

/-- The tree of the printed text. A pipeline, which has no text, stays as it is. -/
def printed : Expr → Expr
  | conditional condition yes alternative =>
    conditional (grouped (conditionalLevel + 1) condition (printed condition)) (printed yes)
      (printed alternative)
  | unary op operand => unary op (grouped unaryLevel operand (printed operand))
  | binary op left right =>
    binary op (grouped op.precedence left (printed left))
      (grouped (op.precedence + 1) right (printed right))
  | member target name =>
    if isIdentifier name then member (grouped postfixLevel target (printed target)) name
    else index (grouped postfixLevel target (printed target)) (ofString name)
  | index target key => index (grouped postfixLevel target (printed target)) (printed key)
  | literal l => literal l
  | symbol s => symbol s
  | call callee args => call (grouped postfixLevel callee (printed callee)) (printedList args)
  | array elements => array (printedList elements)
  | object entries => object (printedEntries entries)
  | parens inner => parens (printed inner)
  | pipeline input stages => pipeline input stages
  | arrow params body => arrow params (printed body)

/-- The trees of the printed texts of a list. -/
def printedList : List Expr → List Expr
  | [] => []
  | e :: rest => printed e :: printedList rest

/-- The entries of the printed text of an object literal. -/
def printedEntries : List (ObjectKey × Expr) → List (ObjectKey × Expr)
  | [] => []
  | (key, e) :: rest => (key, printed e) :: printedEntries rest

end

theorem bare_grouped (least : Nat) (e t : Expr) : (grouped least e t).bare = t.bare := by
  unfold grouped
  split <;> rfl

mutual

/-- But for parentheses, the tree of a printed text is the printed tree with its keys read. -/
theorem bare_printed : (e : Expr) → e.printed.bare = e.keysRead.bare
  | conditional condition yes alternative => by
    rw [printed, keysRead, bare, bare, bare_grouped, bare_printed condition, bare_printed yes,
      bare_printed alternative]
  | unary op operand => by
    rw [printed, keysRead, bare, bare, bare_grouped, bare_printed operand]
  | binary op left right => by
    rw [printed, keysRead, bare, bare, bare_grouped, bare_grouped, bare_printed left,
      bare_printed right]
  | member target name => by
    rw [printed, keysRead]
    split
    · rw [bare, bare, bare_grouped, bare_printed target]
    · rw [bare, bare, bare_grouped, bare_printed target]
  | index target key => by
    rw [printed, keysRead, bare, bare, bare_grouped, bare_printed target, bare_printed key]
  | literal l => rfl
  | symbol s => rfl
  | call callee args => by
    rw [printed, keysRead, bare, bare, bare_grouped, bare_printed callee, bareList_printedList args]
  | array elements => by
    rw [printed, keysRead, bare, bare, bareList_printedList elements]
  | object entries => by
    rw [printed, keysRead, bare, bare, bareEntries_printedEntries entries]
  | parens inner => by
    rw [printed, keysRead, bare, bare, bare_printed inner]
  | pipeline input stages => rfl
  | arrow params body => by
    rw [printed, keysRead, bare, bare, bare_printed body]

theorem bareList_printedList : (es : List Expr) → bareList (printedList es) = bareList (keysReadList es)
  | [] => rfl
  | e :: rest => by
    rw [printedList, keysReadList, bareList, bareList, bare_printed e, bareList_printedList rest]

theorem bareEntries_printedEntries : (entries : List (ObjectKey × Expr)) →
    bareEntries (printedEntries entries) = bareEntries (keysReadEntries entries)
  | [] => rfl
  | (key, e) :: rest => by
    rw [printedEntries, keysReadEntries, bareEntries, bareEntries, bare_printed e,
      bareEntries_printedEntries rest]

end

/-! ## Strata -/

/-- A point may follow the tree: it is no number, or one that ends before a point. -/
def AllowsPoint (e : Expr) : Prop :=
  ∀ x raw, e = literal ⟨.number x, raw⟩ → isMarked raw.toList = true

/-- The node has a text that can be read. The texts of literals, names and keys are single tokens, keys
    are plain, and where a member name follows a point a point may follow what is before it. Pipelines
    have no text, and that of an arrow function is a function expression, which cannot be read. -/
def Prints : Expr → Prop
  | literal l => IsToken l.raw l.value.kind
  | symbol s => IsToken s.raw (.name s.name)
  | member target name => isIdentifier name = true → target.AllowsPoint
  | object entries => ∀ entry ∈ entries, entry.1.isPlain = true ∧ IsToken entry.1.raw entry.1.kind
  | pipeline .. | arrow .. => False
  | _ => True

/-- Every node has a text that can be read. -/
def PrintsAll (e : Expr) : Prop := ∀ n ∈ e.walk, n.Prints

theorem PrintsAll.self {e : Expr} (h : e.PrintsAll) : e.Prints := h e mem_walk_self

theorem PrintsAll.child {e child : Expr} (h : e.PrintsAll) (hc : child ∈ e.children) :
    child.PrintsAll := fun n hn => h n (mem_walk_iff.2 (.inr ⟨child, hc, hn⟩))

theorem printsAll_of_children {e : Expr} (h : e.Prints) (hc : ∀ child ∈ e.children, child.PrintsAll) :
    e.PrintsAll := by
  intro n hn
  rcases mem_walk_iff.1 hn with rfl | ⟨child, hchild, hn⟩
  · exact h
  · exact hc child hchild n hn

theorem stratified_grouped {least : Nat} {e t : Expr} (h : t.Stratified) :
    (grouped least e t).Stratified := by
  unfold grouped
  split
  · exact h
  · exact h

theorem endsInArrow_grouped {least : Nat} {e t : Expr} (h : t.endsInArrow = false) :
    (grouped least e t).endsInArrow = false := by
  unfold grouped
  split
  · rfl
  · exact h

/-- The text of an operand binds as tightly as its place asks for. -/
theorem le_tightness_grouped {least : Nat} {e : Expr} (hl : least ≤ postfixLevel) (h : e.Prints) :
    least ≤ (grouped least e e.printed).tightness := by
  have ht : e.printed.tightness = e.level := by
    cases e with
    | member target name =>
      rw [printed]
      split <;> rfl
    | pipeline | arrow => exact h.elim
    | _ => rfl
  unfold grouped
  split
  · exact hl
  · rw [ht]
    omega

/-- The text of a tree without arrow functions does not end in one. -/
theorem endsInArrow_printed : (e : Expr) → e.PrintsAll → e.printed.endsInArrow = false
  | unary op operand, h => by
    rw [printed, endsInArrow]
    exact endsInArrow_grouped (endsInArrow_printed operand (h.child (by simp [children])))
  | binary op left right, h => by
    rw [printed, endsInArrow]
    exact endsInArrow_grouped (endsInArrow_printed right (h.child (by simp [children])))
  | conditional condition yes alternative, h => by
    rw [printed, endsInArrow]
    exact endsInArrow_printed alternative (h.child (by simp [children]))
  | member target name, h => by
    rw [printed]
    split <;> rfl
  | arrow params body, h => h.self.elim
  | index .., _ | literal _, _ | symbol _, _ | call .., _ | array _, _ | object _, _ | parens _, _
  | pipeline .., _ => rfl

theorem le_postfixLevel_precedence (op : BinaryOp) : op.precedence < postfixLevel := by
  cases op <;> decide

/-- What an access or a call follows is bound tightly enough and does not end in an arrow function. -/
theorem stratified_postfix {e : Expr} (h : e.PrintsAll) (hs : e.printed.Stratified) :
    (grouped postfixLevel e e.printed).Stratified ∧
      postfixLevel ≤ (grouped postfixLevel e e.printed).tightness ∧
      (grouped postfixLevel e e.printed).endsInArrow = false :=
  ⟨stratified_grouped hs, le_tightness_grouped (Nat.le_refl _) h.self,
    endsInArrow_grouped (endsInArrow_printed e h)⟩

mutual

/-- No pair of parentheses is missing in the tree of a printed text. -/
theorem stratified_printed : (e : Expr) → e.PrintsAll → e.printed.Stratified
  | conditional condition yes alternative, h => by
    have hc : condition.PrintsAll := h.child (by simp [children])
    rw [printed, Stratified]
    refine ⟨stratified_grouped (stratified_printed condition hc),
      stratified_printed yes (h.child (by simp [children])),
      stratified_printed alternative (h.child (by simp [children])), ?_,
      endsInArrow_grouped (endsInArrow_printed condition hc)⟩
    exact le_tightness_grouped (by decide) hc.self
  | unary op operand, h => by
    have hc : operand.PrintsAll := h.child (by simp [children])
    rw [printed, Stratified]
    exact ⟨stratified_grouped (stratified_printed operand hc), le_tightness_grouped (by decide) hc.self⟩
  | binary op left right, h => by
    have hl : left.PrintsAll := h.child (by simp [children])
    have hr : right.PrintsAll := h.child (by simp [children])
    have hop := le_postfixLevel_precedence op
    rw [printed, Stratified]
    exact ⟨stratified_grouped (stratified_printed left hl),
      stratified_grouped (stratified_printed right hr), le_tightness_grouped (by omega) hl.self,
      le_tightness_grouped (by omega) hr.self, endsInArrow_grouped (endsInArrow_printed left hl)⟩
  | member target name, h => by
    have hc : target.PrintsAll := h.child (by simp [children])
    obtain ⟨hs, ht, ha⟩ := stratified_postfix hc (stratified_printed target hc)
    rw [printed]
    split
    · exact ⟨hs, ht, ha⟩
    · exact ⟨hs, trivial, ht, ha⟩
  | index target key, h => by
    have hc : target.PrintsAll := h.child (by simp [children])
    obtain ⟨hs, ht, ha⟩ := stratified_postfix hc (stratified_printed target hc)
    exact ⟨hs, stratified_printed key (h.child (by simp [children])), ht, ha⟩
  | literal l, _ => trivial
  | symbol s, _ => trivial
  | call callee args, h => by
    have hc : callee.PrintsAll := h.child (by simp [children])
    obtain ⟨hs, ht, ha⟩ := stratified_postfix hc (stratified_printed callee hc)
    exact ⟨hs, stratifiedList_printedList args fun e he => h.child (by simp [children, he]), ht, ha⟩
  | array elements, h => stratifiedList_printedList elements fun e he => h.child he
  | object entries, h =>
    stratifiedEntries_printedEntries entries (fun entry he => (h.self entry he).1)
      fun e he => h.child he
  | parens inner, h => stratified_printed inner (h.child (by simp [children]))
  | pipeline input stages, h => h.self.elim
  | arrow params body, h => h.self.elim

theorem stratifiedList_printedList : (es : List Expr) → (∀ e ∈ es, e.PrintsAll) →
    StratifiedList (printedList es)
  | [], _ => trivial
  | e :: rest, h =>
    ⟨stratified_printed e (h e List.mem_cons_self),
      stratifiedList_printedList rest fun e he => h e (List.mem_cons_of_mem _ he)⟩

theorem stratifiedEntries_printedEntries : (entries : List (ObjectKey × Expr)) →
    (∀ entry ∈ entries, entry.1.isPlain = true) → (∀ e ∈ entries.map Prod.snd, e.PrintsAll) →
      StratifiedEntries (printedEntries entries)
  | [], _, _ => trivial
  | (key, e) :: rest, hk, h =>
    ⟨hk (key, e) List.mem_cons_self, stratified_printed e (h e List.mem_cons_self),
      stratifiedEntries_printedEntries rest (fun entry he => hk entry (List.mem_cons_of_mem _ he))
        fun e he => h e (List.mem_cons_of_mem _ he)⟩

end

end DataBinding.Expr
