import DataBinding.Proofs.Config.Recognition
import DataBinding.Proofs.Link.Names
import DataBinding.Proofs.Outcome

/-!
# Names after resolving

Under a configuration that passes, the containers are symbols of the configuration, so that a name
read from a container is one that is recognized. What a rule asks of the names after resolving follows
from what another one asks before, if it does so name by name.

Results:

* `Config.isRecognized_of_mem`: a configured name after a dollar sign is recognized.
* `Config.validate_eq_ok_iff`: when a configuration passes.
* `Config.Resolves.obeys_resolve`, `Config.Resolves.obeys_resolved`: what the names are after resolving.
* `Config.resolve_of_isBound`: where every name is bound, there is nothing to resolve.
-/

namespace DataBinding

namespace Config

variable {c : Config} {ρ σ : NameRule}

/-! ## Symbols of a configuration -/

/-- A configured name after a dollar sign is recognized. -/
theorem isRecognized_of_mem {name : String} (h : name ∈ c.names) :
    c.isRecognized ("$" ++ name) = true := by
  obtain ⟨s, hs⟩ := Option.isSome_iff_exists.1 (find?_isSome_of_mem h)
  rw [isRecognized, recognize?_dollar, hs]
  rfl

/-- The accessor is recognized only where a symbol has its name. -/
theorem recognize?_accessorName (h : "_get_by_any" ∉ c.names) : c.recognize? accessorName = none := by
  have hd : trailingDigits "_get_by_any".toList = 0 := by decide
  show c.recognize? ("$" ++ "_get_by_any") = none
  rw [recognize?_dollar, find?_eq_none_iff.2 h, recognizeLevel?, hd]
  rfl

/-- The name is a container of the configuration. -/
def IsContainer (c : Config) (name : String) : Prop :=
  name = c.container ∨ name = c.callContainer ∨ c.dollarContainer = some name

theorem checkRole_eq_ok_iff {role : Role} {name : String} :
    c.checkRole role name = .ok () ↔ name ∈ c.names := by
  unfold checkRole
  split
  · rename_i hm
    exact ⟨fun _ => hm, fun _ => rfl⟩
  · rename_i hm
    refine ⟨fun h => ?_, fun h => absurd h hm⟩
    cases h

/-- A configuration passes exactly if its names are well formed and different and have its containers
    among them. -/
theorem validate_eq_ok_iff : c.validate = .ok () ↔
    (∀ s ∈ c.symbols, isSymbolName s.name = true) ∧ c.names.Nodup ∧
      ∀ name, c.IsContainer name → name ∈ c.names := by
  constructor
  · intro h
    obtain ⟨_, hnames, h⟩ := bind_eq_ok_iff.1 h
    obtain ⟨_, hother, h⟩ := bind_eq_ok_iff.1 h
    obtain ⟨_, hcall, h⟩ := bind_eq_ok_iff.1 h
    obtain ⟨formed, nodup⟩ := checkNames_ok_iff.1 hnames
    refine ⟨fun s hs => (formed s hs).1, nodup, ?_⟩
    rintro name (rfl | rfl | hd)
    · exact checkRole_eq_ok_iff.1 hother
    · exact checkRole_eq_ok_iff.1 hcall
    · rw [hd] at h
      exact checkRole_eq_ok_iff.1 h
  · rintro ⟨formed, nodup, containers⟩
    refine bind_eq_ok_iff.2 ⟨(), checkNames_ok_iff.2 ⟨fun s hs => ⟨formed s hs, ?_⟩, nodup⟩, ?_⟩
    · exact List.not_mem_nil
    refine bind_eq_ok_iff.2 ⟨(), checkRole_eq_ok_iff.2 (containers _ (.inl rfl)), ?_⟩
    refine bind_eq_ok_iff.2 ⟨(), checkRole_eq_ok_iff.2 (containers _ (.inr (.inl rfl))), ?_⟩
    split
    · rename_i name hd
      exact checkRole_eq_ok_iff.2 (containers name (.inr (.inr hd)))
    · rfl

/-- The containers of a configuration that passes are symbols. -/
theorem mem_names_of_validate (h : c.validate = .ok ()) {name : String} (hn : c.IsContainer name) :
    name ∈ c.names := (validate_eq_ok_iff.1 h).2.2 name hn

/-- The names of the symbols of a configuration that passes are different. -/
theorem names_nodup (h : c.validate = .ok ()) : c.names.Nodup := (validate_eq_ok_iff.1 h).2.1

/-! ## Where names are read -/

/-- The name needs no container: it is recognized, built in or a parameter in sight. -/
def IsBound (c : Config) (scope : List String) (s : Symbol) : Prop :=
  (c.isRecognized s.raw || isBuiltin s.name || scope.contains s.name) = true

theorem isBound_of_mem {scope : List String} {name : String} (h : name ∈ c.names) :
    c.IsBound scope (.ofName ("$" ++ name)) := by
  simp [IsBound, Symbol.ofName, isRecognized_of_mem h]

/-- What is read from a container of the configuration is resolved. -/
theorem resolve_containerMember {name : String} (h : name ∈ c.names) (key : String) :
    c.resolve [] false (containerMember name key) = .ok (containerMember name key) := by
  have hbound : c.resolveName [] false (.ofName ("$" ++ name)) = .ok (.ofName ("$" ++ name)) :=
    if_pos (isBound_of_mem h)
  rw [containerMember, resolve, Expr.ofName, resolve, hbound]
  rfl

theorem resolve_lift (hv : c.validate = .ok ()) (name : String) :
    c.resolve [] false (c.lift name) = .ok (c.lift name) := by
  unfold lift
  split
  · rename_i hd
    exact resolve_containerMember (mem_names_of_validate hv (.inr (.inr hd))) _
  · exact resolve_containerMember (mem_names_of_validate hv (.inl rfl)) _

theorem resolve_parens (scope : List String) (callee : Bool) (e : Expr) :
    c.resolve scope callee (.parens e) = (c.resolve scope false e).map .parens := by
  rw [resolve]
  cases c.resolve scope false e <;> rfl

/-- After resolving, the rule `σ` holds of names of which `ρ` holds before. -/
structure Resolves (c : Config) (ρ σ : NameRule) : Prop where
  name : ∀ {scope callee s}, ρ.name scope callee s → c.IsBound scope s → σ.name scope callee s
  container : ∀ {scope name}, c.IsContainer name → σ.name scope false (.ofName ("$" ++ name))
  param : ∀ {s}, ρ.param s → σ.param s
  call : ∀ {s args}, σ.call s args

namespace Resolves

variable {scope : List String} {callee : Bool}

theorem obeys_lift (k : c.Resolves ρ σ) (name : String) : (c.lift name).Obeys σ scope callee := by
  unfold lift
  split
  · rename_i hd
    exact k.container (.inr (.inr hd))
  · exact k.container (.inl rfl)

theorem obeys_resolveName (k : c.Resolves ρ σ) {s : Symbol} {r : Expr} (hs : ρ.name scope callee s)
    (h : c.resolveName scope callee s = .ok r) : r.Obeys σ scope callee := by
  unfold resolveName at h
  split at h
  · rename_i hb
    cases h
    exact k.name hs hb
  split at h
  · cases h
  · cases h
    split
    · exact k.container (.inr (.inl rfl))
    · exact k.obeys_lift _

mutual

/-- What the names are after resolving. -/
theorem obeys_resolve (k : c.Resolves ρ σ) {scope : List String} {callee : Bool} {r : Expr} :
    (e : Expr) → e.Obeys ρ scope callee → c.resolve scope callee e = .ok r → r.Obeys σ scope callee
  | .symbol s, hs, h => k.obeys_resolveName hs h
  | .literal l, _, h => by
    cases h
    trivial
  | .conditional condition yes alternative, hs, h => by
    obtain ⟨_, h₁, h⟩ := bind_eq_ok_iff.1 h
    obtain ⟨_, h₂, h⟩ := bind_eq_ok_iff.1 h
    obtain ⟨_, h₃, h⟩ := bind_eq_ok_iff.1 h
    cases h
    exact ⟨k.obeys_resolve _ hs.1 h₁, k.obeys_resolve _ hs.2.1 h₂, k.obeys_resolve _ hs.2.2 h₃⟩
  | .unary op operand, hs, h => by
    obtain ⟨_, h₁, h⟩ := bind_eq_ok_iff.1 h
    cases h
    have ih := k.obeys_resolve operand hs h₁
    exact ih
  | .binary op left right, hs, h => by
    obtain ⟨_, h₁, h⟩ := bind_eq_ok_iff.1 h
    obtain ⟨_, h₂, h⟩ := bind_eq_ok_iff.1 h
    cases h
    exact ⟨k.obeys_resolve _ hs.1 h₁, k.obeys_resolve _ hs.2 h₂⟩
  | .member target name, hs, h => by
    obtain ⟨_, h₁, h⟩ := bind_eq_ok_iff.1 h
    cases h
    have ih := k.obeys_resolve target hs h₁
    exact ih
  | .index target key, hs, h => by
    obtain ⟨_, h₁, h⟩ := bind_eq_ok_iff.1 h
    obtain ⟨_, h₂, h⟩ := bind_eq_ok_iff.1 h
    cases h
    exact ⟨k.obeys_resolve _ hs.1 h₁, k.obeys_resolve _ hs.2 h₂⟩
  | .call f args, hs, h => by
    obtain ⟨_, h₁, h⟩ := bind_eq_ok_iff.1 h
    obtain ⟨_, h₂, h⟩ := bind_eq_ok_iff.1 h
    cases h
    exact ⟨fun _ _ => k.call, k.obeys_resolve _ hs.2.1 h₁, k.obeys_resolveList _ hs.2.2 h₂⟩
  | .array elements, hs, h => by
    obtain ⟨_, h₁, h⟩ := bind_eq_ok_iff.1 h
    cases h
    exact k.obeys_resolveList elements hs h₁
  | .object entries, hs, h => by
    obtain ⟨_, h₁, h⟩ := bind_eq_ok_iff.1 h
    cases h
    exact k.obeys_resolveEntries entries hs h₁
  | .parens inner, hs, h => by
    obtain ⟨_, h₁, h⟩ := bind_eq_ok_iff.1 h
    cases h
    have ih := k.obeys_resolve inner hs h₁
    exact ih
  | .pipeline input stages, hs, _ => hs.elim
  | .arrow params body, hs, h => by
    obtain ⟨_, h₁, h⟩ := bind_eq_ok_iff.1 h
    cases h
    exact ⟨fun s hp => k.param (hs.1 s hp), k.obeys_resolve body hs.2 h₁⟩
termination_by structural e => e

theorem obeys_resolveList (k : c.Resolves ρ σ) {scope : List String} {rs : List Expr} :
    (es : List Expr) → Expr.ObeysList ρ scope es → c.resolveList scope es = .ok rs → Expr.ObeysList σ scope rs
  | [], _, h => by
    cases h
    trivial
  | e :: rest, hs, h => by
    obtain ⟨_, h₁, h⟩ := bind_eq_ok_iff.1 h
    obtain ⟨_, h₂, h⟩ := bind_eq_ok_iff.1 h
    cases h
    exact ⟨k.obeys_resolve _ hs.1 h₁, k.obeys_resolveList _ hs.2 h₂⟩
termination_by structural es => es

theorem obeys_resolveEntries (k : c.Resolves ρ σ) {scope : List String} {rs : List (ObjectKey × Expr)} :
    (entries : List (ObjectKey × Expr)) → Expr.ObeysEntries ρ scope entries →
      c.resolveEntries scope entries = .ok rs → Expr.ObeysEntries σ scope rs
  | [], _, h => by
    cases h
    trivial
  | (key, e) :: rest, hs, h => by
    obtain ⟨_, h₁, h⟩ := bind_eq_ok_iff.1 h
    obtain ⟨_, h₂, h⟩ := bind_eq_ok_iff.1 h
    cases h
    exact ⟨k.obeys_resolve _ hs.1 h₁, k.obeys_resolveEntries _ hs.2 h₂⟩
termination_by structural entries => entries

end

/-- A container may stand for the root. -/
theorem obeys_wrapName {e : Expr} (hk : ∀ {scope name}, c.IsContainer name →
      ρ.name scope false (.ofName ("$" ++ name))) (he : e.Obeys ρ [] false) :
    (c.wrapName e).Obeys ρ [] false := by
  cases e with
  | symbol s =>
    show (if c.isRecognized s.raw then .symbol s else c.lift s.name : Expr).Obeys ρ [] false
    split
    · exact he
    · unfold lift
      split
      · rename_i hd
        exact hk (.inr (.inr hd))
      · exact hk (.inl rfl)
  | _ => exact he

/-- What the names of a text are after resolving. -/
theorem obeys_resolved (k : c.Resolves ρ σ) {e r : Expr} (hk : ∀ {scope name}, c.IsContainer name →
      ρ.name scope false (.ofName ("$" ++ name)))
    (he : e.withoutPipeline.Obeys ρ [] false) (h : c.resolved e = .ok r) : r.Obeys σ [] false :=
  k.obeys_resolve _ (obeys_wrapName hk he) h

end Resolves

/-! ## Nothing to resolve -/

mutual

/-- Where every name is bound, there is nothing to resolve. -/
theorem resolve_of_isBound (hb : ∀ {scope callee s}, ρ.name scope callee s → c.IsBound scope s)
    {scope : List String} {callee : Bool} :
    (e : Expr) → e.Obeys ρ scope callee → c.resolve scope callee e = .ok e
  | .symbol s, h => if_pos (hb h)
  | .literal l, _ => rfl
  | .conditional condition yes alternative, h => by
    rw [resolve, resolve_of_isBound hb _ h.1, resolve_of_isBound hb _ h.2.1,
      resolve_of_isBound hb _ h.2.2]
    rfl
  | .unary op operand, h => by
    rw [resolve, resolve_of_isBound hb operand h]
    rfl
  | .binary op left right, h => by
    rw [resolve, resolve_of_isBound hb _ h.1, resolve_of_isBound hb _ h.2]
    rfl
  | .member target name, h => by
    rw [resolve, resolve_of_isBound hb target h]
    rfl
  | .index target key, h => by
    rw [resolve, resolve_of_isBound hb _ h.1, resolve_of_isBound hb _ h.2]
    rfl
  | .call f args, h => by
    rw [resolve, resolve_of_isBound hb _ h.2.1, resolveList_of_isBound hb _ h.2.2]
    rfl
  | .array elements, h => by
    rw [resolve, resolveList_of_isBound hb _ h]
    rfl
  | .object entries, h => by
    rw [resolve, resolveEntries_of_isBound hb _ h]
    rfl
  | .parens inner, h => by
    rw [resolve, resolve_of_isBound hb inner h]
    rfl
  | .pipeline input stages, h => h.elim
  | .arrow params body, h => by
    rw [resolve, resolve_of_isBound hb body h.2]
    rfl

theorem resolveList_of_isBound (hb : ∀ {scope callee s}, ρ.name scope callee s → c.IsBound scope s)
    {scope : List String} :
    (es : List Expr) → Expr.ObeysList ρ scope es → c.resolveList scope es = .ok es
  | [], _ => rfl
  | e :: rest, h => by
    rw [resolveList, resolve_of_isBound hb _ h.1, resolveList_of_isBound hb _ h.2]
    rfl

theorem resolveEntries_of_isBound
    (hb : ∀ {scope callee s}, ρ.name scope callee s → c.IsBound scope s) {scope : List String} :
    (entries : List (ObjectKey × Expr)) → Expr.ObeysEntries ρ scope entries →
      c.resolveEntries scope entries = .ok entries
  | [], _ => rfl
  | (key, e) :: rest, h => by
    rw [resolveEntries, resolve_of_isBound hb _ h.1, resolveEntries_of_isBound hb _ h.2]
    rfl

end

end Config

end DataBinding
