import DataBinding.Proofs.Grammar.Whole
import DataBinding.Link.Linked

/-!
# Rules for the names of an expression

A `NameRule` asks something of every name that an expression reads, of every parameter and of every
call of a name. A name that is read stands in the place of a callee or not, and the parameters around
it may hide it. The member name after a point and the keys of object literals are not asked about. No
expression with a pipeline in it obeys a rule.

A tree read from a text obeys a rule if its tokens do, and a tree that obeys a rule does so in all of
its parts.

Results:

* `Expr.Obeys.call_of_mem_walk`: the calls in a tree that obeys a rule.
* `Expr.SpelledText.obeys`: the tree of a text obeys what its name tokens say.
* `Config.admits_plainRule`: the names of a text that does not name the accessor.
-/

namespace DataBinding

/-- A name in the text is the accessor. -/
def NamesAccessor (source : String) : Prop :=
  ∃ ts, tokenize source = .ok ts ∧ ∃ t ∈ ts, t.kind = .name accessorName

theorem not_namesAccessor {source : String} {ts : List Token} (h : tokenize source = .ok ts)
    (hn : ∀ t ∈ ts, t.kind ≠ .name accessorName) : ¬ NamesAccessor source := by
  rintro ⟨us, hu, t, hm, hk⟩
  cases h.symm.trans hu
  exact hn t hm hk

/-- What is asked of the names of an expression. -/
structure NameRule where
  /-- A name that is read in the sight of parameters, as a callee or not -/
  name : List String → Bool → Symbol → Prop
  param : Symbol → Prop
  /-- A call of a name -/
  call : Symbol → List Expr → Prop

namespace Expr

mutual

/-- The names of the expression obey the rule, where the parameters `scope` are in sight and the
    expression is a callee or not. -/
def Obeys (ρ : NameRule) (scope : List String) (callee : Bool) : Expr → Prop
  | symbol s => ρ.name scope callee s
  | literal _ => True
  | conditional condition yes alternative =>
    Obeys ρ scope false condition ∧ Obeys ρ scope false yes ∧ Obeys ρ scope false alternative
  | unary _ operand => Obeys ρ scope false operand
  | binary _ left right => Obeys ρ scope false left ∧ Obeys ρ scope false right
  | member target _ => Obeys ρ scope false target
  | index target key => Obeys ρ scope false target ∧ Obeys ρ scope false key
  | call f args => (∀ s, f = symbol s → ρ.call s args) ∧ Obeys ρ scope true f ∧ ObeysList ρ scope args
  | array elements => ObeysList ρ scope elements
  | object entries => ObeysEntries ρ scope entries
  | parens inner => Obeys ρ scope false inner
  | pipeline .. => False
  | arrow params body =>
    (∀ s ∈ params, ρ.param s) ∧ Obeys ρ (Config.extendScope scope params) false body

/-- The names of all expressions of the list obey the rule. -/
def ObeysList (ρ : NameRule) (scope : List String) : List Expr → Prop
  | [] => True
  | e :: rest => Obeys ρ scope false e ∧ ObeysList ρ scope rest

/-- The names of all values of the entries obey the rule. -/
def ObeysEntries (ρ : NameRule) (scope : List String) : List (ObjectKey × Expr) → Prop
  | [] => True
  | (_, e) :: rest => Obeys ρ scope false e ∧ ObeysEntries ρ scope rest

end

theorem obeysList_iff {ρ : NameRule} {scope : List String} {es : List Expr} :
    ObeysList ρ scope es ↔ ∀ e ∈ es, e.Obeys ρ scope false := by
  induction es with
  | nil => simp [ObeysList]
  | cons e es ih => simp [ObeysList, ih]

theorem obeysEntries_iff {ρ : NameRule} {scope : List String} {entries : List (ObjectKey × Expr)} :
    ObeysEntries ρ scope entries ↔ ∀ e ∈ entries.map Prod.snd, e.Obeys ρ scope false := by
  induction entries with
  | nil => simp [ObeysEntries]
  | cons entry entries ih =>
    obtain ⟨key, e⟩ := entry
    simp [ObeysEntries, ih]

/-! ## Descendants -/

theorem mem_walk_iff {e x : Expr} : x ∈ e.walk ↔ x = e ∨ ∃ child ∈ e.children, x ∈ child.walk := by
  rw [walk_eq, List.mem_cons, List.mem_flatMap]

theorem mem_walk_self {e : Expr} : e ∈ e.walk := mem_walk_iff.2 (.inl rfl)

/-- The children of an expression that obeys a rule obey it where they stand. -/
theorem Obeys.child {ρ : NameRule} {scope : List String} {callee : Bool} {e child : Expr}
    (h : e.Obeys ρ scope callee) (hc : child ∈ e.children) :
    ∃ scope callee, child.Obeys ρ scope callee := by
  cases e with
  | literal | symbol => cases hc
  | pipeline => exact h.elim
  | conditional condition yes alternative =>
    simp only [children, List.mem_cons, List.not_mem_nil, or_false] at hc
    rcases hc with rfl | rfl | rfl
    · exact ⟨_, _, h.1⟩
    · exact ⟨_, _, h.2.1⟩
    · exact ⟨_, _, h.2.2⟩
  | binary op left right =>
    simp only [children, List.mem_cons, List.not_mem_nil, or_false] at hc
    rcases hc with rfl | rfl
    · exact ⟨_, _, h.1⟩
    · exact ⟨_, _, h.2⟩
  | index target key =>
    simp only [children, List.mem_cons, List.not_mem_nil, or_false] at hc
    rcases hc with rfl | rfl
    · exact ⟨_, _, h.1⟩
    · exact ⟨_, _, h.2⟩
  | unary | member | parens =>
    obtain rfl := List.mem_singleton.1 hc
    exact ⟨_, _, h⟩
  | arrow params body =>
    obtain rfl := List.mem_singleton.1 hc
    exact ⟨_, _, h.2⟩
  | call f args =>
    rcases List.mem_cons.1 hc with rfl | hc
    · exact ⟨_, _, h.2.1⟩
    · exact ⟨_, _, obeysList_iff.1 h.2.2 _ hc⟩
  | array elements => exact ⟨_, _, obeysList_iff.1 h _ hc⟩
  | object entries => exact ⟨_, _, obeysEntries_iff.1 h _ hc⟩

theorem Obeys.of_mem_walk {ρ : NameRule} {scope : List String} {callee : Bool} {e x : Expr}
    (h : e.Obeys ρ scope callee) (hx : x ∈ e.walk) : ∃ scope callee, x.Obeys ρ scope callee := by
  induction e using walk.induct generalizing scope callee with
  | case1 e ih =>
    rcases mem_walk_iff.1 hx with rfl | ⟨child, hc, hx⟩
    · exact ⟨_, _, h⟩
    · obtain ⟨_, _, hchild⟩ := h.child hc
      exact ih child hc hchild hx

/-- The calls of names in an expression that obeys a rule are as it asks. -/
theorem Obeys.call_of_mem_walk {ρ : NameRule} {scope : List String} {callee : Bool} {e : Expr}
    {s : Symbol} {args : List Expr} (h : e.Obeys ρ scope callee)
    (hx : call (symbol s) args ∈ e.walk) : ρ.call s args := by
  obtain ⟨_, _, hcall⟩ := h.of_mem_walk hx
  exact hcall.1 s rfl

/-! ## The tree of a text -/

/-- The rule is obeyed where name tokens with the property are read, bound or called. -/
structure Admits (ρ : NameRule) (P : Token → Prop) : Prop where
  name : ∀ {t s scope callee}, P t → t.Is (.name s.name) s.raw → ρ.name scope callee s
  param : ∀ {t s}, P t → t.Is (.name s.name) s.raw → ρ.param s
  call : ∀ {t s args}, P t → t.Is (.name s.name) s.raw → ρ.call s args

section

variable {ρ : NameRule} {P : Token → Prop}

theorem param_of_spelled (a : Admits ρ P) {s : Symbol} {ts : List Token} (h : Spelled (.symbol s) ts)
    (ht : ∀ t ∈ ts, P t) : ρ.param s := by
  cases h with
  | symbol h => exact a.param (ht _ List.mem_cons_self) h

theorem params_of_spelledList (a : Admits ρ P) {params : List Symbol} {ts : List Token}
    (h : SpelledList (params.map .symbol) ts) (ht : ∀ t ∈ ts, P t) : ∀ s ∈ params, ρ.param s := by
  induction params generalizing ts with
  | nil => simp
  | cons p ps ih =>
    rw [List.forall_mem_cons]
    generalize hes : ps.map symbol = es at h ih
    rw [List.map_cons, hes] at h
    cases h with
    | last h =>
      obtain rfl := List.map_eq_nil_iff.1 hes
      exact ⟨param_of_spelled a h ht, by simp⟩
    | cons h hc hrest =>
      exact ⟨param_of_spelled a h fun t hm => ht t (List.mem_append_left _ hm),
        ih hrest fun t hm => ht t (List.mem_append_right _ (List.mem_cons_of_mem _ hm))⟩

mutual

/-- What is spelled by tokens obeys what they allow. -/
theorem Spelled.obeys (a : Admits ρ P) {scope : List String} {callee : Bool} {ts : List Token} :
    (e : Expr) → Spelled e ts → (∀ t ∈ ts, P t) → e.Obeys ρ scope callee
  | .literal l, _, _ => trivial
  | .symbol s, h, ht => by
    cases h with
    | symbol h => exact a.name (ht _ List.mem_cons_self) h
  | .conditional condition yes alternative, h, ht => by
    cases h with
    | conditional hc hq hy hm ha =>
      exact ⟨Spelled.obeys a _ hc fun t hm => ht t (by simp [hm]),
        Spelled.obeys a _ hy fun t hm => ht t (by simp [hm]),
        Spelled.obeys a _ ha fun t hm => ht t (by simp [hm])⟩
  | .unary op operand, h, ht => by
    cases h with
    | unary ho h =>
      have ih : operand.Obeys ρ scope false := Spelled.obeys a _ h fun t hm => ht t (by simp [hm])
      exact ih
  | .binary op left right, h, ht => by
    cases h with
    | binary hl ho hr =>
      exact ⟨Spelled.obeys a _ hl fun t hm => ht t (by simp [hm]),
        Spelled.obeys a _ hr fun t hm => ht t (by simp [hm])⟩
  | .member target name, h, ht => by
    cases h with
    | member h hd hn =>
      have ih : target.Obeys ρ scope false := Spelled.obeys a _ h fun t hm => ht t (by simp [hm])
      exact ih
  | .index target key, h, ht => by
    cases h with
    | index h ho hk hc =>
      exact ⟨Spelled.obeys a _ h fun t hm => ht t (by simp [hm]),
        Spelled.obeys a _ hk fun t hm => ht t (by simp [hm])⟩
  | .call f args, h, ht => by
    cases h with
    | call h ho hx hc =>
      refine ⟨fun s hs => ?_, Spelled.obeys a _ h fun t hm => ht t (by simp [hm]),
        SpelledList.obeys a _ hx fun t hm => ht t (by simp [hm])⟩
      subst hs
      cases h with
      | symbol h => exact a.call (ht _ (by simp)) h
  | .array elements, h, ht => by
    cases h with
    | array ho hx hc => exact SpelledList.obeys a _ hx fun t hm => ht t (by simp [hm])
  | .object entries, h, ht => by
    cases h with
    | object ho hx hc => exact SpelledEntries.obeys a _ hx fun t hm => ht t (by simp [hm])
  | .parens inner, h, ht => by
    cases h with
    | parens ho hx hc =>
      cases hx with
      | last h =>
        have ih : inner.Obeys ρ scope false := Spelled.obeys a _ h fun t hm => ht t (by simp [hm])
        exact ih
      | cons h _ _ =>
        have ih : inner.Obeys ρ scope false := Spelled.obeys a _ h fun t hm => ht t (by simp [hm])
        exact ih
  | .pipeline input stages, h, _ => by cases h
  | .arrow params body, h, ht => by
    cases h with
    | arrow ho hx hc hm h =>
      exact ⟨params_of_spelledList a hx fun t hm => ht t (by simp [hm]),
        Spelled.obeys a _ h fun t hm => ht t (by simp [hm])⟩
    | bareArrow hp hm h =>
      refine ⟨fun s hs => ?_, Spelled.obeys a _ h fun t hm => ht t (by simp [hm])⟩
      obtain rfl := List.mem_singleton.1 hs
      exact a.param (ht _ List.mem_cons_self) hp
termination_by structural e => e

theorem SpelledList.obeys (a : Admits ρ P) {scope : List String} {ts : List Token} : (es : List Expr) →
    SpelledList es ts → (∀ t ∈ ts, P t) → ObeysList ρ scope es
  | [], _, _ => trivial
  | e :: rest, h, ht => by
    cases h with
    | last h => exact ⟨Spelled.obeys a _ h ht, trivial⟩
    | cons h hc hs =>
      exact ⟨Spelled.obeys a _ h fun t hm => ht t (by simp [hm]),
        SpelledList.obeys a _ hs fun t hm => ht t (by simp [hm])⟩
termination_by structural es => es

theorem SpelledEntries.obeys (a : Admits ρ P) {scope : List String} {ts : List Token} :
    (entries : List (ObjectKey × Expr)) → SpelledEntries entries ts → (∀ t ∈ ts, P t) →
      ObeysEntries ρ scope entries
  | [], _, _ => trivial
  | (key, e) :: rest, h, ht => by
    cases h with
    | last hk hm h => exact ⟨Spelled.obeys a _ h fun t hm => ht t (by simp [hm]), trivial⟩
    | cons hk hm h hc hs =>
      exact ⟨Spelled.obeys a _ h fun t hm => ht t (by simp [hm]),
        SpelledEntries.obeys a _ hs fun t hm => ht t (by simp [hm])⟩
termination_by structural entries => entries

end

/-- Stages that are written as calls obey what their tokens allow. -/
theorem obeys_applyStages (a : Admits ρ P) {scope : List String} {callee : Bool}
    {stages : List (Symbol × List Expr)} {ts : List Token} {input : Expr}
    (h : SpelledStages stages ts) (ht : ∀ t ∈ ts, P t)
    (hi : ∀ callee, input.Obeys ρ scope callee) : (input.applyStages stages).Obeys ρ scope callee := by
  induction stages generalizing ts input with
  | nil => exact hi callee
  | cons stage stages ih =>
    obtain ⟨s, args⟩ := stage
    cases h with
    | name hp hn hs =>
      have hn' := ht _ (List.mem_cons_of_mem _ List.mem_cons_self)
      exact ih hs (fun t hm => ht t (by simp [hm])) fun _ =>
        ⟨by rintro _ ⟨⟩; exact a.call hn' hn, a.name hn' hn, hi false, trivial⟩
    | call hp hn ho hx hc hs =>
      have hn' := ht _ (List.mem_cons_of_mem _ List.mem_cons_self)
      exact ih hs (fun t hm => ht t (by simp [hm])) fun _ =>
        ⟨by rintro _ ⟨⟩; exact a.call hn' hn, a.name hn' hn, hi false,
          SpelledList.obeys a args hx fun t hm => ht t (by simp [hm])⟩

/-- The tree of a text obeys what its tokens allow, with its pipeline as calls. -/
theorem SpelledText.obeys (a : Admits ρ P) {scope : List String} {callee : Bool} {e : Expr}
    {ts : List Token} (h : SpelledText e ts) (ht : ∀ t ∈ ts, P t) :
    e.withoutPipeline.Obeys ρ scope callee := by
  cases h with
  | expression h =>
    have he : e.withoutPipeline = e := by cases h <;> rfl
    rw [he]
    exact Spelled.obeys a e h ht
  | pipeline h hs =>
    exact obeys_applyStages a hs (fun t hm => ht t (List.mem_append_right _ hm)) fun _ =>
      Spelled.obeys a _ h fun t hm => ht t (List.mem_append_left _ hm)

end

end Expr

/-! ## Plain names -/

namespace Config

/-- Names are spelled as they are called, and none is the accessor. -/
def plainRule : NameRule :=
  ⟨fun _ _ s => s.raw = s.name ∧ s.name ≠ accessorName, fun s => s.name ≠ accessorName,
    fun _ _ => True⟩

/-- The names of a text that does not name the accessor are plain. -/
theorem admits_plainRule {source : String} {ts : List Token} (ht : tokenize source = .ok ts)
    (ha : ¬ NamesAccessor source) : Expr.Admits plainRule fun t => t ∈ ts := by
  have plain : ∀ {t : Token} {s : Symbol}, t ∈ ts → t.Is (.name s.name) s.raw →
      s.raw = s.name ∧ s.name ≠ accessorName := by
    intro t s hm hk
    refine ⟨hk.2 ▸ raw_of_tokenize ht hm hk.1, fun he => ha ⟨ts, ht, t, hm, ?_⟩⟩
    rw [hk.1, he]
  exact ⟨fun hm hk => plain hm hk, fun hm hk => (plain hm hk).2, fun _ _ => trivial⟩

end Config

end DataBinding
