/-!
# Outcomes that may be errors

Results:

* `bind_eq_ok_iff`, `bind_eq_error_iff`: steps in a row succeed when each does.
* `error?_bind`: of steps in a row the first that fails decides.
* `Agree.bind`: two computations that agree step by step.
-/

namespace DataBinding

variable {ε ε' α α' β β' : Type}

/-- Steps in a row succeed when each does. -/
theorem bind_eq_ok_iff {x : Except ε α} {f : α → Except ε β} {b : β} :
    (x >>= f) = .ok b ↔ ∃ a, x = .ok a ∧ f a = .ok b := by
  cases x <;> simp [bind, Except.bind]

theorem map_eq_ok_iff {x : Except ε α} {f : α → β} {b : β} :
    x.map f = .ok b ↔ ∃ a, x = .ok a ∧ f a = b := by
  cases x <;> simp [Except.map]

theorem mapError_eq_ok_iff {x : Except ε α} {f : ε → ε'} {a : α} :
    x.mapError f = .ok a ↔ x = .ok a := by
  cases x with
  | error e =>
    constructor
    · intro h
      cases h
    · intro h
      cases h
  | ok b =>
    show Except.ok b = Except.ok a ↔ _
    rw [Except.ok.injEq, Except.ok.injEq]

/-- Steps in a row fail with the fault of the one that fails. -/
theorem bind_eq_error_iff {x : Except ε α} {f : α → Except ε β} {e : ε} :
    (x >>= f) = .error e ↔ x = .error e ∨ ∃ a, x = .ok a ∧ f a = .error e := by
  cases x <;> simp [bind, Except.bind]

theorem mapError_eq_error_iff {x : Except ε α} {f : ε → ε'} {e' : ε'} :
    x.mapError f = .error e' ↔ ∃ e, x = .error e ∧ f e = e' := by
  cases x with
  | error e =>
    show Except.error (f e) = Except.error e' ↔ _
    simp
  | ok a =>
    show Except.ok a = Except.error e' ↔ _
    simp

/-- An outcome does not fail with an error that no error turns into. -/
theorem mapError_ne_error {x : Except ε α} {f : ε → ε'} {e' : ε'} (hf : ∀ e, f e ≠ e') :
    x.mapError f ≠ .error e' := by
  intro h
  obtain ⟨e, -, he⟩ := mapError_eq_error_iff.1 h
  exact hf e he

/-! ## Errors -/

/-- The error of an outcome. -/
def error? : Except ε α → Option ε
  | .error e => some e
  | .ok _ => none

theorem error?_eq_some_iff {x : Except ε α} {e : ε} : error? x = some e ↔ x = .error e := by
  cases x <;> simp [error?]

theorem error?_map (f : α → β) (x : Except ε α) : error? (x.map f) = error? x := by
  cases x <;> rfl

/-- The first step that fails decides, where what the second one fails with does not depend on the
    first. -/
theorem error?_bind {f : α → Except ε β} {o : Option ε} (x : Except ε α) (h : ∀ a, error? (f a) = o) :
    error? (x >>= f) = (error? x).or o := by
  cases x with
  | error e => rfl
  | ok a => exact h a

theorem error?_bind_pure (x : Except ε α) (f : α → β) :
    error? (x >>= fun a => pure (f a)) = error? x := by
  cases x <;> rfl

/-! ## Two outcomes -/

/-- Both fail with one error, or both succeed with results that `R` relates. -/
inductive Agree (R : α → α' → Prop) : Except ε α → Except ε α' → Prop where
  | error (e : ε) : Agree R (.error e) (.error e)
  | ok {a : α} {a' : α'} (h : R a a') : Agree R (.ok a) (.ok a')

namespace Agree

variable {R : α → α' → Prop} {S : β → β' → Prop} {x : Except ε α} {x' : Except ε α'}

theorem imp_ok {R' : α → α' → Prop} (h : Agree R x x')
    (hr : ∀ a a', x = .ok a → R a a' → R' a a') : Agree R' x x' := by
  cases h with
  | error e => exact .error e
  | ok h => exact .ok (hr _ _ rfl h)

/-- Steps that agree in a row agree. -/
theorem bind {f : α → Except ε β} {f' : α' → Except ε β'} (h : Agree R x x')
    (hf : ∀ a a', R a a' → Agree S (f a) (f' a')) : Agree S (x >>= f) (x' >>= f') := by
  cases h with
  | error e => exact .error e
  | ok h => exact hf _ _ h

/-- Steps that agree agree behind one and the same step. -/
theorem behind {f : α → Except ε β} {f' : α → Except ε β'} (hf : ∀ a, Agree S (f a) (f' a)) :
    Agree S (x >>= f) (x >>= f') := by
  cases x with
  | error e => exact .error e
  | ok a => exact hf a

theorem map {f : α → β} {f' : α' → β'} (h : Agree R x x') (hf : ∀ a a', R a a' → S (f a) (f' a')) :
    Agree S (x.map f) (x'.map f') := by
  cases h with
  | error e => exact .error e
  | ok h => exact .ok (hf _ _ h)

end Agree

end DataBinding
