import DataBinding.Proofs.Link.Names

/-!
# Names after the reads are written as calls

Once the reads are written as calls of the accessor, no name is left that stands for data behind it.
The calls of the accessor that were not there before start with the text of a symbol.

Results:

* `Config.reading_eq_read`: the first argument of a read.
* `Config.Reads.obeys_reading`, `Config.Reads.obeys_withReads`: what the names are after the reads are
  calls.
* `Config.reading_of_isUnread`: where no name is read through the accessor, there is nothing to write.
-/

namespace DataBinding

namespace Config

variable {c : Config} {ρ σ : NameRule}

/-! ## Callees -/

/-- An expression in the place of a callee with its reads written as calls. -/
def callee (c : Config) (scope : List String) : Expr → Expr
  | .member target name => .member (c.reading scope target).expr name
  | .index target key => .index (c.reading scope target).expr (c.reading scope key).expr
  | f => (c.reading scope f).expr

/-- In the place of a callee the last key of a chain stays a member. -/
theorem reading_call (c : Config) (scope : List String) (f : Expr) (args : List Expr) :
    c.reading scope (.call f args) =
      .other (.call (c.callee scope f) (c.readingList scope args)) := by
  cases f <;> rfl

/-- What is no chain of members is the same in the place of a callee. -/
theorem callee_call (c : Config) (scope : List String) (f : Expr) (args : List Expr) :
    c.callee scope (.call f args) = .call (c.callee scope f) (c.readingList scope args) := by
  show (c.reading scope (.call f args)).expr = _
  rw [reading_call]
  rfl

/-- A callee that is a name was the same name before. -/
theorem eq_symbol_of_callee {scope : List String} {f : Expr} {s : Symbol}
    (h : c.callee scope f = .symbol s) : f = .symbol s := by
  cases f with
  | symbol s' =>
    change (c.reading scope (.symbol s')).expr = _ at h
    rw [reading] at h
    split at h
    · cases h
    · exact h
  | call f args => cases (c.callee_call scope f args).symm.trans h
  | _ => cases h

/-! ## Reads -/

/-- A read starts with the text of a symbol that stands for data behind the accessor. -/
theorem reading_eq_read {scope : List String} {e : Expr} {args : List Expr}
    (h : c.reading scope e = .read args) :
    ∃ s rest, c.isReadSymbol scope s = true ∧ args = .ofString (tagOf s) :: rest := by
  have ofMember : ∀ {target key : Expr} {other : Expr → Expr},
      (∀ args, c.reading scope target = .read args →
        ∃ s rest, c.isReadSymbol scope s = true ∧ args = .ofString (tagOf s) :: rest) →
      (c.reading scope target).memberOf key other = .read args →
      ∃ s rest, c.isReadSymbol scope s = true ∧ args = .ofString (tagOf s) :: rest := by
    intro target key other ih h
    generalize c.reading scope target = r at ih h
    cases r with
    | read args' =>
      obtain ⟨s, rest, hs, rfl⟩ := ih _ rfl
      cases h
      exact ⟨s, rest ++ [key], hs, rfl⟩
    | other e => cases h
  match e with
  | .symbol s =>
    rw [reading] at h
    split at h
    · rename_i hs
      cases h
      exact ⟨s, [], hs, rfl⟩
    · cases h
  | .member target name => exact ofMember (fun _ => reading_eq_read) h
  | .index target key => exact ofMember (fun _ => reading_eq_read) h
  | .call f args =>
    rw [reading_call] at h
    cases h
  | .literal _ | .conditional .. | .unary .. | .binary .. | .array _ | .object _ | .parens _
  | .pipeline .. | .arrow .. => cases h
termination_by structural e

theorem isReadSymbol_eq_true_iff {scope : List String} {s : Symbol} :
    c.isReadSymbol scope s = true ↔
      s.name ∉ scope ∧ ∃ r, c.recognize? s.raw = some r ∧ r.direct = false := by
  simp [isReadSymbol, Option.any_eq_true]

theorem reading_symbol_of_eq_true {scope : List String} {s : Symbol}
    (h : c.isReadSymbol scope s = true) :
    c.reading scope (.symbol s) = .read [.ofString (tagOf s)] := if_pos h

theorem reading_symbol_of_eq_false {scope : List String} {s : Symbol}
    (h : c.isReadSymbol scope s = false) :
    c.reading scope (.symbol s) = .other (.symbol s) := if_neg (by simp [h])

/-- Once the reads are written as calls, the rule `σ` holds of names of which `ρ` holds before. -/
structure Reads (c : Config) (ρ σ : NameRule) : Prop where
  name : ∀ {scope callee s}, ρ.name scope callee s → c.isReadSymbol scope s = false →
    σ.name scope callee s
  accessor : ∀ {scope}, σ.name scope true (.ofName accessorName)
  param : ∀ {s}, ρ.param s → σ.param s
  call : ∀ {scope s args}, ρ.name scope true s → σ.call s args
  read : ∀ {scope s rest}, c.isReadSymbol scope s = true →
    σ.call (.ofName accessorName) (.ofString (tagOf s) :: rest)

namespace Reads

/-- A read as a call obeys the rule if its arguments do. -/
theorem obeys_read (k : c.Reads ρ σ) {scope : List String} {callee : Bool} {e : Expr}
    {args : List Expr} (h : c.reading scope e = .read args) (rest : List Expr)
    (ha : Expr.ObeysList σ scope (args ++ rest)) :
    (Reading.read (args ++ rest)).expr.Obeys σ scope callee := by
  obtain ⟨s, rest', hs, rfl⟩ := reading_eq_read h
  refine ⟨?_, k.accessor, ha⟩
  rintro _ ⟨⟩
  exact k.read hs

theorem obeys_memberOf (k : c.Reads ρ σ) {scope : List String} {callee : Bool} {target key : Expr}
    {other : Expr → Expr} (ht : (c.reading scope target).expr.Obeys σ scope false)
    (hk : key.Obeys σ scope false)
    (ho : ∀ e, e.Obeys σ scope false → (other e).Obeys σ scope callee) :
    ((c.reading scope target).memberOf key other).expr.Obeys σ scope callee := by
  cases hr : c.reading scope target with
  | read args =>
    rw [hr] at ht
    refine k.obeys_read hr _ (Expr.obeysList_iff.2 fun e he => ?_)
    rcases List.mem_append.1 he with he | he
    · exact Expr.obeysList_iff.1 ht.2.2 e he
    · obtain rfl := List.mem_singleton.1 he
      exact hk
  | other e =>
    rw [hr] at ht
    exact ho e ht

mutual

/-- What the names are once the reads are written as calls, also in the place of a callee. -/
theorem obeys_reading (k : c.Reads ρ σ) {scope : List String} {callee : Bool} :
    (e : Expr) → e.Obeys ρ scope callee →
      (c.reading scope e).expr.Obeys σ scope callee ∧ (c.callee scope e).Obeys σ scope callee
  | .symbol s, h => by
    have hs : (c.reading scope (.symbol s)).expr.Obeys σ scope callee := by
      cases hr : c.isReadSymbol scope s with
      | true =>
        rw [reading_symbol_of_eq_true hr]
        exact k.obeys_read (reading_symbol_of_eq_true hr) [] ⟨trivial, trivial⟩
      | false =>
        rw [reading_symbol_of_eq_false hr]
        exact k.name h hr
    exact ⟨hs, hs⟩
  | .literal l, _ => ⟨trivial, trivial⟩
  | .conditional condition yes alternative, h => by
    have h₁ := (k.obeys_reading condition h.1).1
    have h₂ := (k.obeys_reading yes h.2.1).1
    have h₃ := (k.obeys_reading alternative h.2.2).1
    exact ⟨⟨h₁, h₂, h₃⟩, h₁, h₂, h₃⟩
  | .unary op operand, h => by
    have h₁ : (c.reading scope operand).expr.Obeys σ scope false := (k.obeys_reading operand h).1
    exact ⟨h₁, h₁⟩
  | .binary op left right, h => by
    have h₁ := (k.obeys_reading left h.1).1
    have h₂ := (k.obeys_reading right h.2).1
    exact ⟨⟨h₁, h₂⟩, h₁, h₂⟩
  | .member target name, h => by
    have h₁ : (c.reading scope target).expr.Obeys σ scope false := (k.obeys_reading target h).1
    exact ⟨k.obeys_memberOf h₁ trivial fun _ => id, h₁⟩
  | .index target key, h => by
    have h₁ := (k.obeys_reading target h.1).1
    have h₂ := (k.obeys_reading key h.2).1
    exact ⟨k.obeys_memberOf h₁ h₂ fun _ ht => ⟨ht, h₂⟩, h₁, h₂⟩
  | .call f args, h => by
    have h₁ := (k.obeys_reading f h.2.1).2
    have h₂ := k.obeys_readingList args h.2.2
    have hc : ∀ s, c.callee scope f = .symbol s → σ.call s (c.readingList scope args) := by
      intro s hs
      obtain rfl := eq_symbol_of_callee hs
      exact k.call h.2.1
    rw [callee_call, reading_call]
    exact ⟨⟨hc, h₁, h₂⟩, hc, h₁, h₂⟩
  | .array elements, h => by
    have h₁ := k.obeys_readingList elements h
    exact ⟨h₁, h₁⟩
  | .object entries, h => by
    have h₁ := k.obeys_readingEntries entries h
    exact ⟨h₁, h₁⟩
  | .parens inner, h => by
    have h₁ : (c.reading scope inner).expr.Obeys σ scope false := (k.obeys_reading inner h).1
    exact ⟨h₁, h₁⟩
  | .pipeline input stages, h => h.elim
  | .arrow params body, h => by
    have h₁ := (k.obeys_reading body h.2).1
    have hp : ∀ s ∈ params, σ.param s := fun s hs => k.param (h.1 s hs)
    exact ⟨⟨hp, h₁⟩, hp, h₁⟩
termination_by structural e => e

theorem obeys_readingList (k : c.Reads ρ σ) {scope : List String} : (es : List Expr) →
    Expr.ObeysList ρ scope es → Expr.ObeysList σ scope (c.readingList scope es)
  | [], _ => trivial
  | e :: rest, h => ⟨(k.obeys_reading e h.1).1, k.obeys_readingList rest h.2⟩
termination_by structural es => es

theorem obeys_readingEntries (k : c.Reads ρ σ) {scope : List String} :
    (entries : List (ObjectKey × Expr)) → Expr.ObeysEntries ρ scope entries →
      Expr.ObeysEntries σ scope (c.readingEntries scope entries)
  | [], _ => trivial
  | (_, e) :: rest, h => ⟨(k.obeys_reading e h.1).1, k.obeys_readingEntries rest h.2⟩
termination_by structural entries => entries

end

/-- What the names of a whole expression are once the reads are written as calls. -/
theorem obeys_withReads (k : c.Reads ρ σ) {callee : Bool} {e : Expr} (h : e.Obeys ρ [] callee) :
    (c.withReads e).Obeys σ [] callee := (k.obeys_reading e h).1

end Reads

/-! ## Nothing to write -/

mutual

/-- Where no name is read through the accessor, there is nothing to write. -/
theorem reading_of_isUnread
    (hu : ∀ {scope callee s}, ρ.name scope callee s → c.isReadSymbol scope s = false)
    {scope : List String} {callee : Bool} : (e : Expr) → e.Obeys ρ scope callee →
      c.reading scope e = .other e ∧ c.callee scope e = e
  | .symbol s, h => by
    have hs : c.reading scope (.symbol s) = .other (.symbol s) := reading_symbol_of_eq_false (hu h)
    refine ⟨hs, ?_⟩
    show (c.reading scope (.symbol s)).expr = .symbol s
    rw [hs]
    rfl
  | .literal l, _ => ⟨rfl, rfl⟩
  | .conditional condition yes alternative, h => by
    have h₁ := (reading_of_isUnread hu condition h.1).1
    have h₂ := (reading_of_isUnread hu yes h.2.1).1
    have h₃ := (reading_of_isUnread hu alternative h.2.2).1
    simp [Config.callee, reading, Reading.expr, h₁, h₂, h₃]
  | .unary op operand, h => by
    have h₁ := (reading_of_isUnread hu operand h).1
    simp [Config.callee, reading, Reading.expr, h₁]
  | .binary op left right, h => by
    have h₁ := (reading_of_isUnread hu left h.1).1
    have h₂ := (reading_of_isUnread hu right h.2).1
    simp [Config.callee, reading, Reading.expr, h₁, h₂]
  | .member target name, h => by
    have h₁ := (reading_of_isUnread hu target h).1
    simp [Config.callee, reading, Reading.expr, Reading.memberOf, h₁]
  | .index target key, h => by
    have h₁ := (reading_of_isUnread hu target h.1).1
    have h₂ := (reading_of_isUnread hu key h.2).1
    simp [Config.callee, reading, Reading.expr, Reading.memberOf, h₁, h₂]
  | .call f args, h => by
    have h₁ := (reading_of_isUnread hu f h.2.1).2
    have h₂ := readingList_of_isUnread hu args h.2.2
    rw [callee_call, reading_call, h₁, h₂]
    exact ⟨rfl, rfl⟩
  | .array elements, h => by
    have h₁ := readingList_of_isUnread hu elements h
    simp [Config.callee, reading, Reading.expr, h₁]
  | .object entries, h => by
    have h₁ := readingEntries_of_isUnread hu entries h
    simp [Config.callee, reading, Reading.expr, h₁]
  | .parens inner, h => by
    have h₁ := (reading_of_isUnread hu inner h).1
    simp [Config.callee, reading, Reading.expr, h₁]
  | .pipeline input stages, h => h.elim
  | .arrow params body, h => by
    have h₁ := (reading_of_isUnread hu body h.2).1
    simp [Config.callee, reading, Reading.expr, h₁]

theorem readingList_of_isUnread
    (hu : ∀ {scope callee s}, ρ.name scope callee s → c.isReadSymbol scope s = false)
    {scope : List String} : (es : List Expr) → Expr.ObeysList ρ scope es →
      c.readingList scope es = es
  | [], _ => rfl
  | e :: rest, h => by
    rw [readingList, (reading_of_isUnread hu e h.1).1, readingList_of_isUnread hu rest h.2]
    rfl

theorem readingEntries_of_isUnread
    (hu : ∀ {scope callee s}, ρ.name scope callee s → c.isReadSymbol scope s = false)
    {scope : List String} : (entries : List (ObjectKey × Expr)) →
      Expr.ObeysEntries ρ scope entries → c.readingEntries scope entries = entries
  | [], _ => rfl
  | (key, e) :: rest, h => by
    rw [readingEntries, (reading_of_isUnread hu e h.1).1, readingEntries_of_isUnread hu rest h.2]
    rfl

end

end Config

end DataBinding
