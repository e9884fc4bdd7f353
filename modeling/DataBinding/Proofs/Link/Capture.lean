import DataBinding.Proofs.Link.Reads
import DataBinding.Proofs.Link.Renaming
import DataBinding.Proofs.Link.Resolve

/-!
# Linking and the names of parameters

Linking depends on the names of parameters only in that it inserts names of its own, those of the
containers and of the accessor. A parameter that is called otherwise can be renamed before linking or
after it, which is the same. A parameter that is called like a container captures what is read from that
container in its body.

Results:

* `Config.resolve_rename`: resolving commutes with renaming.
* `Config.reading_rename`: writing reads as calls commutes with renaming.
* `Linker.link_rename`: linking commutes with renaming.
* `Linker.link_rename_captured`: it does not for a parameter that is called like a container.
-/

namespace DataBinding

/-- The name occurs in the text, whether it is read, bound, a key or the name of a member. -/
def OccursIn (source name : String) : Prop :=
  ∃ ts, tokenize source = .ok ts ∧ ∃ t ∈ ts, t.kind = .name name

/-- No name that is read is `new`. -/
def avoidRule (new : String) : NameRule :=
  ⟨fun _ _ s => s.name ≠ new, fun _ => True, fun _ _ => True⟩

namespace Config

variable {c : Config} {r : Renaming} {S S' : List String} {spot : Spot}

/-- Linking does not insert the name: it is neither a container nor the accessor. -/
structure Spares (c : Config) (name : String) : Prop where
  container : ∀ container, c.IsContainer container → name ≠ "$" ++ container
  accessor : name ≠ accessorName

/-! ## Resolving -/

theorem rename_containerMember (ho : c.Spares r.old) {container : String} (hc : c.IsContainer container)
    (key : String) :
    (containerMember container key).rename r spot = containerMember container key := by
  have hs : r.symbol spot (.ofName ("$" ++ container)) = .ofName ("$" ++ container) :=
    r.symbol_of_ne spot (ho.container container hc).symm
  rw [containerMember, Expr.rename, Expr.ofName, Expr.rename, hs]

theorem rename_lift (ho : c.Spares r.old) (name : String) :
    (c.lift name).rename r spot = c.lift name := by
  unfold lift
  split
  · rename_i hd
    exact rename_containerMember ho (.inr (.inr hd)) _
  · exact rename_containerMember ho (.inl rfl) _

theorem arrows_lift (name : String) : (c.lift name).arrows = 0 := by
  unfold lift
  split <;> simp [containerMember, Expr.ofName]

/-- A name is resolved after the renaming as before. -/
theorem resolveName_rename (ho : c.Spares r.old) (h : r.Corresponds S S' spot) {callee : Bool}
    {s : Symbol} (hs : s.name ≠ r.new) :
    c.resolveName S' callee (r.symbol spot s) =
      (c.resolveName S callee s).map (Expr.rename r spot) := by
  by_cases hm : s.name ∈ S
  · have hm' : (r.symbol spot s).name ∈ S' := (h.mem_symbol_iff hs).1 hm
    rw [resolveName, resolveName, if_pos (by simp [hm']), if_pos (by simp [hm])]
    rfl
  · -- A name that is not in sight stays, so the same is decided about it.
    obtain ⟨hstay, hm'⟩ := h.symbol_of_not_mem hs hm
    have hin : S.contains s.name = false := by simp [hm]
    have hin' : S'.contains s.name = false := by simp [hm']
    rw [hstay, resolveName, resolveName, hin, hin']
    split
    · show _ = Except.ok (Expr.symbol (r.symbol spot s))
      rw [hstay]
    · split
      · rfl
      · split
        · show _ = Except.ok ((containerMember c.callContainer s.name).rename r spot)
          rw [rename_containerMember ho (.inr (.inl rfl))]
        · show _ = Except.ok ((c.lift s.name).rename r spot)
          rw [rename_lift ho]

theorem arrows_of_resolveName {callee : Bool} {s : Symbol} {t : Expr}
    (h : c.resolveName S callee s = .ok t) : t.arrows = 0 := by
  unfold resolveName at h
  split at h
  · cases h
    simp
  split at h
  · cases h
  · cases h
    split
    · simp [containerMember, Expr.ofName]
    · exact arrows_lift _

mutual

/-- Resolving keeps the arrow functions. -/
theorem arrows_of_resolve {S : List String} {callee : Bool} {t : Expr} {ρ : NameRule} :
    (e : Expr) → e.Obeys ρ S callee → c.resolve S callee e = .ok t → t.arrows = e.arrows
  | .symbol s, _, h => (arrows_of_resolveName h).trans Expr.arrows_symbol.symm
  | .literal l, _, h => by
    cases h
    rfl
  | .conditional condition yes alternative, hs, h => by
    obtain ⟨_, h₁, h⟩ := bind_eq_ok_iff.1 h
    obtain ⟨_, h₂, h⟩ := bind_eq_ok_iff.1 h
    obtain ⟨_, h₃, h⟩ := bind_eq_ok_iff.1 h
    cases h
    simp only [Expr.arrows_conditional, arrows_of_resolve _ hs.1 h₁, arrows_of_resolve _ hs.2.1 h₂,
      arrows_of_resolve _ hs.2.2 h₃]
  | .unary op operand, hs, h => by
    obtain ⟨_, h₁, h⟩ := bind_eq_ok_iff.1 h
    cases h
    simp only [Expr.arrows_unary, arrows_of_resolve operand hs h₁]
  | .binary op left right, hs, h => by
    obtain ⟨_, h₁, h⟩ := bind_eq_ok_iff.1 h
    obtain ⟨_, h₂, h⟩ := bind_eq_ok_iff.1 h
    cases h
    simp only [Expr.arrows_binary, arrows_of_resolve _ hs.1 h₁, arrows_of_resolve _ hs.2 h₂]
  | .member target name, hs, h => by
    obtain ⟨_, h₁, h⟩ := bind_eq_ok_iff.1 h
    cases h
    simp only [Expr.arrows_member, arrows_of_resolve target hs h₁]
  | .index target key, hs, h => by
    obtain ⟨_, h₁, h⟩ := bind_eq_ok_iff.1 h
    obtain ⟨_, h₂, h⟩ := bind_eq_ok_iff.1 h
    cases h
    simp only [Expr.arrows_index, arrows_of_resolve _ hs.1 h₁, arrows_of_resolve _ hs.2 h₂]
  | .call f args, hs, h => by
    obtain ⟨_, h₁, h⟩ := bind_eq_ok_iff.1 h
    obtain ⟨_, h₂, h⟩ := bind_eq_ok_iff.1 h
    cases h
    simp only [Expr.arrows_call, arrows_of_resolve _ hs.2.1 h₁, arrowsIn_of_resolveList _ hs.2.2 h₂]
  | .array elements, hs, h => by
    obtain ⟨_, h₁, h⟩ := bind_eq_ok_iff.1 h
    cases h
    simp only [Expr.arrows_array, arrowsIn_of_resolveList elements hs h₁]
  | .object entries, hs, h => by
    obtain ⟨_, h₁, h⟩ := bind_eq_ok_iff.1 h
    cases h
    simp only [Expr.arrows_object, arrowsIn_of_resolveEntries entries hs h₁]
  | .parens inner, hs, h => by
    obtain ⟨_, h₁, h⟩ := bind_eq_ok_iff.1 h
    cases h
    simp only [Expr.arrows_parens, arrows_of_resolve inner hs h₁]
  | .pipeline input stages, hs, _ => hs.elim
  | .arrow params body, hs, h => by
    obtain ⟨_, h₁, h⟩ := bind_eq_ok_iff.1 h
    cases h
    simp only [Expr.arrows_arrow, arrows_of_resolve body hs.2 h₁]
termination_by structural e => e

theorem arrowsIn_of_resolveList {S : List String} {ts : List Expr} {ρ : NameRule} :
    (es : List Expr) → Expr.ObeysList ρ S es → c.resolveList S es = .ok ts →
      Expr.arrowsIn ts = Expr.arrowsIn es
  | [], _, h => by
    cases h
    rfl
  | e :: rest, hs, h => by
    obtain ⟨_, h₁, h⟩ := bind_eq_ok_iff.1 h
    obtain ⟨_, h₂, h⟩ := bind_eq_ok_iff.1 h
    cases h
    simp only [Expr.arrowsIn_cons, arrows_of_resolve _ hs.1 h₁, arrowsIn_of_resolveList _ hs.2 h₂]
termination_by structural es => es

theorem arrowsIn_of_resolveEntries {S : List String} {ts : List (ObjectKey × Expr)} {ρ : NameRule} :
    (entries : List (ObjectKey × Expr)) → Expr.ObeysEntries ρ S entries →
      c.resolveEntries S entries = .ok ts →
      Expr.arrowsIn (ts.map Prod.snd) = Expr.arrowsIn (entries.map Prod.snd)
  | [], _, h => by
    cases h
    rfl
  | (key, e) :: rest, hs, h => by
    obtain ⟨_, h₁, h⟩ := bind_eq_ok_iff.1 h
    obtain ⟨_, h₂, h⟩ := bind_eq_ok_iff.1 h
    cases h
    simp only [List.map_cons, Expr.arrowsIn_cons, arrows_of_resolve _ hs.1 h₁,
      arrowsIn_of_resolveEntries _ hs.2 h₂]
termination_by structural entries => entries

end

/-- A step after a mapped one, where only what the first one gives counts. -/
theorem map_bind_eq {ε α β γ : Type} {x : Except ε α} {f : α → α} {g : α → Except ε β}
    {g' : α → Except ε γ} {k : β → γ} (h : ∀ a, x = .ok a → g' (f a) = (g a).map k) :
    (x.map f >>= g') = (x >>= g).map k := by
  cases x with
  | error e => rfl
  | ok a => exact h a rfl

mutual

/-- Resolving commutes with renaming. -/
theorem resolve_rename (ho : c.Spares r.old) {S S' : List String} {spot : Spot} {callee : Bool} :
    (e : Expr) → e.Obeys (avoidRule r.new) S callee → r.Corresponds S S' spot →
      c.resolve S' callee (e.rename r spot) = (c.resolve S callee e).map (Expr.rename r spot)
  | .symbol s, hs, h => by
    rw [Expr.rename, resolve, resolve]
    exact resolveName_rename ho h hs
  | .literal l, _, _ => rfl
  | .conditional condition yes alternative, hs, h => by
    rw [Expr.rename, resolve, resolve, resolve_rename ho condition hs.1 h]
    refine map_bind_eq fun a ha => ?_
    rw [resolve_rename ho yes hs.2.1 (h.pass _)]
    refine map_bind_eq fun b hb => ?_
    rw [resolve_rename ho alternative hs.2.2 (h.pass _)]
    refine map_bind_eq fun d _ => ?_
    show Except.ok _ = Except.ok (Expr.rename r spot (.conditional a b d))
    rw [Expr.rename, arrows_of_resolve _ hs.1 ha, arrows_of_resolve _ hs.2.1 hb]
  | .unary op operand, hs, h => by
    rw [Expr.rename, resolve, resolve, resolve_rename ho operand hs h]
    exact map_bind_eq fun a _ => rfl
  | .binary op left right, hs, h => by
    rw [Expr.rename, resolve, resolve, resolve_rename ho left hs.1 h]
    refine map_bind_eq fun a ha => ?_
    rw [resolve_rename ho right hs.2 (h.pass _)]
    refine map_bind_eq fun b _ => ?_
    show Except.ok _ = Except.ok (Expr.rename r spot (.binary op a b))
    rw [Expr.rename, arrows_of_resolve _ hs.1 ha]
  | .member target name, hs, h => by
    rw [Expr.rename, resolve, resolve, resolve_rename ho target hs h]
    exact map_bind_eq fun a _ => rfl
  | .index target key, hs, h => by
    rw [Expr.rename, resolve, resolve, resolve_rename ho target hs.1 h]
    refine map_bind_eq fun a ha => ?_
    rw [resolve_rename ho key hs.2 (h.pass _)]
    refine map_bind_eq fun b _ => ?_
    show Except.ok _ = Except.ok (Expr.rename r spot (.index a b))
    rw [Expr.rename, arrows_of_resolve _ hs.1 ha]
  | .call f args, hs, h => by
    rw [Expr.rename, resolve, resolve, resolve_rename ho f hs.2.1 h]
    refine map_bind_eq fun a ha => ?_
    rw [resolveList_rename ho args hs.2.2 (h.pass _)]
    refine map_bind_eq fun b _ => ?_
    show Except.ok _ = Except.ok (Expr.rename r spot (.call a b))
    rw [Expr.rename, arrows_of_resolve _ hs.2.1 ha]
  | .array elements, hs, h => by
    rw [Expr.rename, resolve, resolve, resolveList_rename ho elements hs h]
    exact map_bind_eq fun a _ => rfl
  | .object entries, hs, h => by
    rw [Expr.rename, resolve, resolve, resolveEntries_rename ho entries hs h]
    exact map_bind_eq fun a _ => rfl
  | .parens inner, hs, h => by
    rw [Expr.rename, resolve, resolve, resolve_rename ho inner hs h]
    exact map_bind_eq fun a _ => rfl
  | .pipeline input stages, hs, _ => hs.elim
  | .arrow params body, hs, h => by
    rw [Expr.rename, resolve, resolve, resolve_rename ho body hs.2 (h.enter params)]
    exact map_bind_eq fun a _ => rfl
termination_by structural e => e

theorem resolveList_rename (ho : c.Spares r.old) {S S' : List String} {spot : Spot} :
    (es : List Expr) → Expr.ObeysList (avoidRule r.new) S es → r.Corresponds S S' spot →
      c.resolveList S' (Expr.renameList r spot es) =
        (c.resolveList S es).map (Expr.renameList r spot)
  | [], _, _ => rfl
  | e :: rest, hs, h => by
    rw [Expr.renameList, resolveList, resolveList, resolve_rename ho e hs.1 h]
    refine map_bind_eq fun a ha => ?_
    rw [resolveList_rename ho rest hs.2 (h.pass _)]
    refine map_bind_eq fun b _ => ?_
    show Except.ok _ = Except.ok (Expr.renameList r spot (a :: b))
    rw [Expr.renameList, arrows_of_resolve _ hs.1 ha]
termination_by structural es => es

theorem resolveEntries_rename (ho : c.Spares r.old) {S S' : List String} {spot : Spot} :
    (entries : List (ObjectKey × Expr)) → Expr.ObeysEntries (avoidRule r.new) S entries →
      r.Corresponds S S' spot →
      c.resolveEntries S' (Expr.renameEntries r spot entries) =
        (c.resolveEntries S entries).map (Expr.renameEntries r spot)
  | [], _, _ => rfl
  | (key, e) :: rest, hs, h => by
    rw [Expr.renameEntries, resolveEntries, resolveEntries, resolve_rename ho e hs.1 h]
    refine map_bind_eq fun a ha => ?_
    rw [resolveEntries_rename ho rest hs.2 (h.pass _)]
    refine map_bind_eq fun b _ => ?_
    show Except.ok _ = Except.ok (Expr.renameEntries r spot ((key, a) :: b))
    rw [Expr.renameEntries, arrows_of_resolve _ hs.1 ha]
termination_by structural entries => entries

end

end Config

/-! ## Reads -/

namespace Reading

variable {r : Renaming} {spot : Spot}

/-- A read or another expression after the renaming. -/
def rename (r : Renaming) (spot : Spot) : Reading → Reading
  | read args => read (Expr.renameList r spot args)
  | other e => other (e.rename r spot)

@[simp] theorem rename_other (e : Expr) : (other e).rename r spot = other (e.rename r spot) := rfl

theorem expr_rename (ho : r.old ≠ accessorName) (x : Reading) :
    (x.rename r spot).expr = x.expr.rename r spot := by
  cases x with
  | read args =>
    have hs : r.symbol spot (.ofName accessorName) = .ofName accessorName :=
      r.symbol_of_ne spot ho.symm
    show _ = Expr.rename r spot (.call (.ofName accessorName) args)
    rw [Expr.rename, Expr.ofName, Expr.arrows_symbol, Spot.pass_zero, Expr.rename, hs]
    rfl
  | other e => rfl

@[simp] theorem expr_other (e : Expr) : (other e).expr = e := rfl

@[simp] theorem arrows_expr_read (args : List Expr) :
    (read args).expr.arrows = Expr.arrowsIn args := by
  simp [expr, Expr.ofName]

theorem rename_memberOf {x : Reading} {key : Expr} {other f : Expr → Expr}
    (h : ∀ e, x = .other e → (other e).rename r spot = f (e.rename r spot)) :
    (x.memberOf key other).rename r spot =
      (x.rename r spot).memberOf (key.rename r (spot.pass x.expr.arrows)) f := by
  cases x with
  | read args =>
    show read (Expr.renameList r spot (args ++ [key])) = read (_ ++ [_])
    rw [Expr.renameList_append, arrows_expr_read]
    rfl
  | other e =>
    show Reading.other _ = Reading.other _
    rw [h e rfl]

theorem arrows_memberOf {x : Reading} {key : Expr} {other : Expr → Expr}
    (h : ∀ e, (other e).arrows = e.arrows + key.arrows) :
    (x.memberOf key other).expr.arrows = x.expr.arrows + key.arrows := by
  cases x with
  | read args =>
    show (read (args ++ [key])).expr.arrows = _
    simp
  | other e => exact h e

end Reading

namespace Config

variable {c : Config} {r : Renaming}

mutual

/-- Writing reads as calls keeps the arrow functions, also in the place of a callee. -/
theorem arrows_reading {S : List String} {callee : Bool} {ρ : NameRule} : (e : Expr) →
    e.Obeys ρ S callee →
      (c.reading S e).expr.arrows = e.arrows ∧ (c.callee S e).arrows = e.arrows
  | .symbol s, _ => by
    have hs : (c.reading S (.symbol s)).expr.arrows = (Expr.symbol s).arrows := by
      rw [reading]
      split
      · simp [Expr.ofString]
      · rfl
    exact ⟨hs, hs⟩
  | .literal l, _ => ⟨rfl, rfl⟩
  | .conditional condition yes alternative, h => by
    have h₁ := (arrows_reading condition h.1).1
    have h₂ := (arrows_reading yes h.2.1).1
    have h₃ := (arrows_reading alternative h.2.2).1
    simp [Config.callee, reading, h₁, h₂, h₃]
  | .unary op operand, h => by
    have h₁ := (arrows_reading operand h).1
    simp [Config.callee, reading, h₁]
  | .binary op left right, h => by
    have h₁ := (arrows_reading left h.1).1
    have h₂ := (arrows_reading right h.2).1
    simp [Config.callee, reading, h₁, h₂]
  | .member target name, h => by
    have h₁ := (arrows_reading target h).1
    refine ⟨?_, by simp [Config.callee, h₁]⟩
    rw [reading, Reading.arrows_memberOf fun e => by simp [Expr.ofString], h₁]
    simp [Expr.ofString]
  | .index target key, h => by
    have h₁ := (arrows_reading target h.1).1
    have h₂ := (arrows_reading key h.2).1
    refine ⟨?_, by simp [Config.callee, h₁, h₂]⟩
    rw [reading, Reading.arrows_memberOf fun e => by simp, h₁, h₂, Expr.arrows_index]
  | .call f args, h => by
    have h₁ := (arrows_reading f h.2.1).2
    have h₂ := arrowsIn_readingList args h.2.2
    rw [callee_call, reading_call]
    simp [h₁, h₂]
  | .array elements, h => by
    have h₁ := arrowsIn_readingList elements h
    simp [Config.callee, reading, h₁]
  | .object entries, h => by
    have h₁ := arrowsIn_readingEntries entries h
    simp [Config.callee, reading, h₁]
  | .parens inner, h => by
    have h₁ := (arrows_reading inner h).1
    simp [Config.callee, reading, h₁]
  | .pipeline input stages, h => h.elim
  | .arrow params body, h => by
    have h₁ := (arrows_reading body h.2).1
    simp [Config.callee, reading, h₁]
termination_by structural e => e

theorem arrowsIn_readingList {S : List String} {ρ : NameRule} : (es : List Expr) →
    Expr.ObeysList ρ S es → Expr.arrowsIn (c.readingList S es) = Expr.arrowsIn es
  | [], _ => rfl
  | e :: rest, h => by
    rw [readingList, Expr.arrowsIn_cons, Expr.arrowsIn_cons, (arrows_reading e h.1).1,
      arrowsIn_readingList rest h.2]
termination_by structural es => es

theorem arrowsIn_readingEntries {S : List String} {ρ : NameRule} :
    (entries : List (ObjectKey × Expr)) → Expr.ObeysEntries ρ S entries →
      Expr.arrowsIn ((c.readingEntries S entries).map Prod.snd) =
        Expr.arrowsIn (entries.map Prod.snd)
  | [], _ => rfl
  | (key, e) :: rest, h => by
    rw [readingEntries, List.map_cons, List.map_cons, Expr.arrowsIn_cons, Expr.arrowsIn_cons,
      (arrows_reading e h.1).1, arrowsIn_readingEntries rest h.2]
termination_by structural entries => entries

end

/-- A name is read through the accessor after the renaming if it was before. -/
theorem isReadSymbol_rename {S S' : List String} {spot : Spot} (h : r.Corresponds S S' spot)
    {s : Symbol} (hs : s.name ≠ r.new) :
    c.isReadSymbol S' (r.symbol spot s) = c.isReadSymbol S s ∧
      (c.isReadSymbol S s = true → r.symbol spot s = s) := by
  by_cases hm : s.name ∈ S
  · have hm' : (r.symbol spot s).name ∈ S' := (h.mem_symbol_iff hs).1 hm
    simp [isReadSymbol, hm, hm']
  · obtain ⟨hstay, hm'⟩ := h.symbol_of_not_mem hs hm
    simp [isReadSymbol, hstay, hm, hm']

mutual

/-- Writing reads as calls commutes with renaming, also in the place of a callee. -/
theorem reading_rename (ho : r.old ≠ accessorName) {S S' : List String} {spot : Spot}
    {callee : Bool} : (e : Expr) → e.Obeys (avoidRule r.new) S callee → r.Corresponds S S' spot →
      c.reading S' (e.rename r spot) = (c.reading S e).rename r spot ∧
        c.callee S' (e.rename r spot) = (c.callee S e).rename r spot
  | .symbol s, hs, h => by
    have hr : c.reading S' (.symbol (r.symbol spot s)) =
        (c.reading S (.symbol s)).rename r spot := by
      obtain ⟨hiff, hstay⟩ := isReadSymbol_rename h hs
      rw [reading, reading, hiff]
      split
      · rename_i hread
        rw [hstay hread]
        rfl
      · rfl
    rw [Expr.rename]
    refine ⟨hr, ?_⟩
    show (c.reading S' (.symbol (r.symbol spot s))).expr = _
    rw [hr, Reading.expr_rename ho]
    rfl
  | .literal l, _, _ => ⟨rfl, rfl⟩
  | .conditional condition yes alternative, hs, h => by
    have h₁ := (reading_rename ho condition hs.1 h).1
    have h₂ := (reading_rename ho yes hs.2.1 (h.pass condition.arrows)).1
    have h₃ := (reading_rename ho alternative hs.2.2 (h.pass (condition.arrows + yes.arrows))).1
    have k₁ := (arrows_reading (c := c) condition hs.1).1
    have k₂ := (arrows_reading (c := c) yes hs.2.1).1
    simp [Config.callee, Expr.rename, reading, h₁, h₂, h₃, k₁, k₂,
      Reading.expr_rename ho]
  | .unary op operand, hs, h => by
    have h₁ := (reading_rename ho operand hs h).1
    simp [Config.callee, Expr.rename, reading, h₁, Reading.expr_rename ho]
  | .binary op left right, hs, h => by
    have h₁ := (reading_rename ho left hs.1 h).1
    have h₂ := (reading_rename ho right hs.2 (h.pass left.arrows)).1
    have k₁ := (arrows_reading (c := c) left hs.1).1
    simp [Config.callee, Expr.rename, reading, h₁, h₂, k₁,
      Reading.expr_rename ho]
  | .member target name, hs, h => by
    have h₁ := (reading_rename ho target hs h).1
    have k₁ := (arrows_reading (c := c) target hs).1
    rw [Expr.rename]
    refine ⟨?_, by simp [Config.callee, Expr.rename, h₁, Reading.expr_rename ho]⟩
    rw [reading, reading, h₁, Reading.rename_memberOf (f := fun t => .member t name)
      fun e _ => rfl]
    rfl
  | .index target key, hs, h => by
    have h₁ := (reading_rename ho target hs.1 h).1
    have h₂ := (reading_rename ho key hs.2 (h.pass target.arrows)).1
    have k₁ := (arrows_reading (c := c) target hs.1).1
    rw [Expr.rename]
    refine ⟨?_, by simp [Config.callee, Expr.rename, h₁, h₂, k₁, Reading.expr_rename ho]⟩
    rw [reading, reading, h₁, h₂, Reading.expr_rename ho, Reading.rename_memberOf
      (f := fun t => .index t ((c.reading S key).expr.rename r (spot.pass target.arrows)))
      fun e he => ?_, k₁]
    rw [he] at k₁
    rw [Expr.rename, ← k₁]
    rfl
  | .call f args, hs, h => by
    have h₁ := (reading_rename ho f hs.2.1 h).2
    have h₂ := readingList_rename ho args hs.2.2 (h.pass f.arrows)
    have k₁ := (arrows_reading (c := c) f hs.2.1).2
    rw [Expr.rename, callee_call, callee_call, reading_call, reading_call]
    simp [Expr.rename, h₁, h₂, k₁]
  | .array elements, hs, h => by
    have h₁ := readingList_rename ho elements hs h
    simp [Config.callee, Expr.rename, reading, h₁]
  | .object entries, hs, h => by
    have h₁ := readingEntries_rename ho entries hs h
    simp [Config.callee, Expr.rename, reading, h₁]
  | .parens inner, hs, h => by
    have h₁ := (reading_rename ho inner hs h).1
    simp [Config.callee, Expr.rename, reading, h₁, Reading.expr_rename ho]
  | .pipeline input stages, hs, _ => hs.elim
  | .arrow params body, hs, h => by
    have h₁ := (reading_rename ho body hs.2 (h.enter params)).1
    simp [Config.callee, Expr.rename, reading, h₁, Reading.expr_rename ho]
termination_by structural e => e

theorem readingList_rename (ho : r.old ≠ accessorName) {S S' : List String} {spot : Spot} :
    (es : List Expr) → Expr.ObeysList (avoidRule r.new) S es → r.Corresponds S S' spot →
      c.readingList S' (Expr.renameList r spot es) = Expr.renameList r spot (c.readingList S es)
  | [], _, _ => rfl
  | e :: rest, hs, h => by
    rw [Expr.renameList, readingList, readingList, Expr.renameList, (reading_rename ho e hs.1 h).1,
      readingList_rename ho rest hs.2 (h.pass e.arrows), (arrows_reading e hs.1).1,
      Reading.expr_rename ho]
termination_by structural es => es

theorem readingEntries_rename (ho : r.old ≠ accessorName) {S S' : List String} {spot : Spot} :
    (entries : List (ObjectKey × Expr)) → Expr.ObeysEntries (avoidRule r.new) S entries →
      r.Corresponds S S' spot →
      c.readingEntries S' (Expr.renameEntries r spot entries) =
        Expr.renameEntries r spot (c.readingEntries S entries)
  | [], _, _ => rfl
  | (key, e) :: rest, hs, h => by
    rw [Expr.renameEntries, readingEntries, readingEntries, Expr.renameEntries,
      (reading_rename ho e hs.1 h).1, readingEntries_rename ho rest hs.2 (h.pass e.arrows),
      (arrows_reading e hs.1).1, Reading.expr_rename ho]
termination_by structural entries => entries

end

/-! ## Linking -/

/-- Containers are not called by the new name, which starts with no dollar sign. -/
theorem avoidRule_container {new : String} (hd : new.toList.head? ≠ some '$') {scope : List String}
    {name : String} : (avoidRule new).name scope false (.ofName ("$" ++ name)) := by
  intro he
  apply hd
  rw [← he]
  simp [Symbol.ofName]

theorem resolves_avoidRule {new : String} (hd : new.toList.head? ≠ some '$') :
    c.Resolves (avoidRule new) (avoidRule new) where
  name hs _ := hs
  container _ := avoidRule_container hd
  param hs := hs
  call := trivial

theorem symbol_pass (spot : Spot) (n : Nat) (s : Symbol) :
    r.symbol (spot.pass n) s = r.symbol spot s := by
  cases spot with
  | ahead k =>
    rw [Spot.pass]
    split <;> rfl
  | around => rfl
  | gone => rfl

/-- A pipeline is written as calls after the renaming as before. -/
theorem applyStages_rename {spot : Spot} (stages : List (Symbol × List Expr)) (input : Expr) :
    (input.rename r spot).applyStages (Expr.renameStages r (spot.pass input.arrows) stages) =
      (input.applyStages stages).rename r spot := by
  induction stages generalizing input with
  | nil => rfl
  | cons stage stages ih =>
    obtain ⟨f, args⟩ := stage
    have hstage : Expr.applyStage (input.rename r spot) (r.symbol (spot.pass input.arrows) f,
        Expr.renameList r (spot.pass input.arrows) args) =
          (Expr.applyStage input (f, args)).rename r spot := by
      simp [Expr.applyStage, Expr.rename, Expr.renameList, symbol_pass]
    have hnext : (spot.pass input.arrows).pass (Expr.arrowsIn args) =
        spot.pass (Expr.applyStage input (f, args)).arrows := by
      simp [Expr.applyStage]
    show (Expr.applyStage _ _).applyStages (Expr.renameStages r _ stages) = _
    rw [hstage, hnext]
    exact ih _

theorem withoutPipeline_rename {spot : Spot} (e : Expr) :
    (e.rename r spot).withoutPipeline = e.withoutPipeline.rename r spot := by
  cases e with
  | pipeline input stages => exact applyStages_rename stages input
  | _ => rfl

theorem wrapName_rename (ho : c.Spares r.old) (k : Nat) (e : Expr) :
    c.wrapName (e.rename r (.ahead k)) = (c.wrapName e).rename r (.ahead k) := by
  cases e with
  | symbol s =>
    show (if c.isRecognized s.raw then Expr.symbol s else c.lift s.name) =
      (if c.isRecognized s.raw then Expr.symbol s else c.lift s.name).rename r (.ahead k)
    split
    · rfl
    · rw [rename_lift ho]
  | _ => rfl

/-- The names of a text are not the new one, which does not occur in it. -/
theorem admits_avoidRule {source new : String} {ts : List Token} (ht : tokenize source = .ok ts)
    (hn : ¬ OccursIn source new) : Expr.Admits (avoidRule new) fun t => t ∈ ts := by
  refine ⟨fun hm hk he => hn ⟨ts, ht, _, hm, ?_⟩, fun _ _ => trivial, fun _ _ => trivial⟩
  rw [hk.1, he]

end Config

/-- Linking commutes with renaming: if a parameter of an arrow function gets a name that does not occur
    in the text and starts with no dollar sign, what is linked is the same up to this renaming, and so is
    the report of what cannot be linked. The watchers stay. The parameter must not be called like a
    container or the accessor. -/
theorem Linker.link_rename {c : Config} {source : String} {e : Expr} {r : Renaming}
    (he : Expr.parse source = .ok e) (hn : ¬ OccursIn source r.new)
    (hd : r.new.toList.head? ≠ some '$') (ho : c.Spares r.old) (k : Nat) :
    (ofConfig c).link (e.rename r (.ahead k)) =
      ((ofConfig c).link e).map fun l => ⟨l.tree.rename r (.ahead k), l.watchers⟩ := by
  obtain ⟨ts, last, ht, -, hs, -⟩ := Expr.parse_sound he
  have names : (c.wrapName e.withoutPipeline).Obeys (avoidRule r.new) [] false :=
    Config.Resolves.obeys_wrapName (fun _ => Config.avoidRule_container hd)
      (hs.obeys (Config.admits_avoidRule ht hn) fun t hm => List.mem_append_left _ hm)
  have start : r.Corresponds [] [] (.ahead k) := fun _ _ => Iff.rfl
  have resolved : c.resolved (e.rename r (.ahead k)) =
      (c.resolved e).map (Expr.rename r (.ahead k)) := by
    rw [Config.resolved, Config.withoutPipeline_rename, Config.wrapName_rename ho]
    exact Config.resolve_rename ho _ names start
  have accessor : r.new ≠ accessorName := by
    intro hnew
    rw [hnew] at hd
    exact hd (by decide)
  rw [link_ofConfig, link_ofConfig, Config.linkTree, Config.linkTree, resolved]
  cases ht : c.resolved e with
  | error _ => rfl
  | ok t =>
    have plain : t.Obeys (avoidRule r.new) [] false :=
      (Config.resolves_avoidRule hd).obeys_resolve _ names ht
    have reads : c.withReads (t.rename r (.ahead k)) = (c.withReads t).rename r (.ahead k) := by
      rw [Config.withReads, Config.withReads, (Config.reading_rename ho.accessor t plain start).1,
        Reading.expr_rename ho.accessor]
    show Except.ok (Linked.mk _ _) = Except.ok (Linked.mk _ _)
    rw [reads, Expr.watchers_rename ho.accessor accessor]

/-- The parameter of a callback gets another name. -/
theorem Linker.link_rename_callback : ∃ e, Expr.parse "a.map(x => b[x])" = .ok e ∧
    ¬ OccursIn "a.map(x => b[x])" "y" ∧
    e.rename ⟨0, "x", "y"⟩ (.ahead 0) = .call (.member (.ofName "a") "map")
      [.arrow [.ofName "y"] (.index (.ofName "b") (.ofName "y"))] ∧
    (ofConfig .standard).link (e.rename ⟨0, "x", "y"⟩ (.ahead 0)) =
      ((ofConfig .standard).link e).map fun l =>
        ⟨l.tree.rename ⟨0, "x", "y"⟩ (.ahead 0), l.watchers⟩ := by
  have silent : ¬ OccursIn "a.map(x => b[x])" "y" := by
    rintro ⟨ts, ht, t, hm, hk⟩
    cases Expr.tokenize_callback.symm.trans ht
    revert hk
    revert t
    simp
  have spared : Config.standard.Spares "x" := by
    refine ⟨fun container hc he => ?_, by decide⟩
    have hx := congrArg (fun n => n.toList.head?) he
    simp at hx
  refine ⟨_, Expr.parse_callback, silent, ?_,
    link_rename Expr.parse_callback silent (by decide) spared 0⟩
  simp [Expr.rename, Expr.renameList, Renaming.params, Renaming.enter, Renaming.symbol,
    Renaming.IsParam, Renaming.Binds, Expr.ofName, Symbol.ofName]

/-- The tokens of an arrow function whose parameter is called like a container -/
theorem Expr.tokenize_captured : tokenize "$scope => a" = .ok [⟨.name "$scope", "$scope", 0⟩,
    ⟨.arrow, "=>", 7⟩, ⟨.name "a", "a", 10⟩, ⟨.eof, "", 11⟩] := by
  rw [tokenize_eq_ok_iff]
  iterate 3 refine Cursor.scan_cons rfl rfl ?_
  exact Cursor.scan_last rfl rfl

/-- A parameter that is called like a container captures a free name of the body: the name is read from
    the parameter, and there is nothing to watch. Where the parameter has another name, it is read from
    the container. -/
theorem Linker.link_rename_captured :
    ∃ e, Expr.parse "$scope => a" = .ok e ∧ ¬ OccursIn "$scope => a" "x" ∧
      (ofConfig .standard).link e =
        .ok ⟨.arrow [.ofName "$scope"] (.member (.ofName "$scope") "a"), []⟩ ∧
      (ofConfig .standard).link (e.rename ⟨0, "$scope", "x"⟩ (.ahead 0)) =
        .ok ⟨.arrow [.ofName "x"]
          (.call (.ofName accessorName) [.ofString "scope", .ofString "a"]), ["scope.a"]⟩ := by
  have parsed : Expr.parse "$scope => a" = .ok (.arrow [.ofName "$scope"] (.ofName "a")) := by
    have places : Tokens.ofSource "$scope => a" = .ok ⟨_, _, none⟩ :=
      Tokens.ofSource_eq_ok_iff.2 (tokenize_eq_ok_iff.1 Expr.tokenize_captured)
    rw [Expr.parse, places]
    cbv
  have silent : ¬ OccursIn "$scope => a" "x" := by
    rintro ⟨ts, ht, t, hm, hk⟩
    cases Expr.tokenize_captured.symm.trans ht
    revert hk
    revert t
    simp
  have captured : (Expr.arrow [.ofName "$scope"] (.member (.ofName "$scope") "a")).watchers = [] := by
    cbv
  have read : (Expr.arrow [.ofName "x"] (.call (.ofName accessorName)
      [.ofString "scope", .ofString "a"])).watchers = ["scope.a"] := by
    cbv
  refine ⟨_, parsed, silent, ?_, ?_⟩
  · rw [← captured]
    rfl
  · rw [← read]
    rfl

end DataBinding
