import DataBinding.Proofs.Grammar.Whole

/-!
# Braces and points among the tokens of a tree

Only object literals have braces, an opening one and the one that closes it, and a point stands only
before the name of a member. So whatever tokens a tree is spelled by, the braces among them pair up, and
no point is left without a name.

Results:

* `Expr.SpelledText.nested`: the tokens of a text nest.
* `Nested.depthAfter?`: after them no brace is left open.
* `Nested.pointsNamed`: every point among them is followed by a name.
-/

namespace DataBinding

/-- Braces come in pairs, and every point is followed by a name. -/
inductive Nested : List Token → Prop where
  | nil : Nested []
  | token {t : Token} (h : ∀ p, t.kind = .punct p → p ≠ .openBrace ∧ p ≠ .closeBrace ∧ p ≠ .dot) :
      Nested [t]
  | member {name : String} {dot t : Token} (hd : dot.kind = .punct .dot) (ht : t.kind = .name name) :
      Nested [dot, t]
  | braces {ts : List Token} {opening closing : Token} (ho : opening.kind = .punct .openBrace)
      (h : Nested ts) (hc : closing.kind = .punct .closeBrace) :
      Nested (opening :: (ts ++ [closing]))
  | append {ts us : List Token} (h : Nested ts) (hs : Nested us) : Nested (ts ++ us)

namespace Nested

variable {ts us : List Token} {t : Token}

/-- A token that is no mark. -/
theorem word (h : ∀ p, t.kind ≠ .punct p) : Nested [t] := .token fun p hp => absurd hp (h p)

/-- A mark that is no brace and no point. -/
theorem mark {p : Punct} (ht : t.kind = .punct p)
    (h : p ≠ .openBrace ∧ p ≠ .closeBrace ∧ p ≠ .dot) : Nested [t] := by
  refine .token fun q hq => ?_
  cases ht.symm.trans hq
  exact h

theorem cons (ht : Nested [t]) (h : Nested ts) : Nested (t :: ts) := ht.append h

/-! ## Open braces -/

/-- The number of open braces after a token of this kind, if any is open where one closes. -/
def depthAfterKind? (depth : Nat) : TokenKind → Option Nat
  | .punct .openBrace => some (depth + 1)
  | .punct .closeBrace => if depth = 0 then none else some (depth - 1)
  | _ => some depth

/-- The number of open braces after the tokens. -/
def depthAfter? (depth : Nat) : List Token → Option Nat
  | [] => some depth
  | t :: ts => (depthAfterKind? depth t.kind).bind fun depth => depthAfter? depth ts

theorem depthAfter?_append (depth : Nat) (ts us : List Token) :
    depthAfter? depth (ts ++ us) = (depthAfter? depth ts).bind fun depth => depthAfter? depth us := by
  induction ts generalizing depth with
  | nil => rfl
  | cons t ts ih =>
    rw [List.cons_append, depthAfter?, depthAfter?, Option.bind_assoc]
    congr 1
    funext depth'
    exact ih depth'

theorem depthAfterKind?_of_ne {kind : TokenKind} (h : ∀ p, kind = .punct p → p ≠ .openBrace ∧
    p ≠ .closeBrace) (depth : Nat) : depthAfterKind? depth kind = some depth := by
  cases kind with
  | punct p =>
    obtain ⟨ho, hc⟩ := h p rfl
    cases p <;> first | rfl | exact absurd rfl ho | exact absurd rfl hc
  | _ => rfl

/-- No brace is left open, and none closes that was not opened. -/
theorem depthAfter?_eq (h : Nested ts) (depth : Nat) : depthAfter? depth ts = some depth := by
  induction h generalizing depth with
  | nil => rfl
  | token h =>
    rw [depthAfter?, depthAfterKind?_of_ne fun p hp => ⟨(h p hp).1, (h p hp).2.1⟩]
    rfl
  | member hd ht =>
    simp only [depthAfter?, hd, ht]
    rfl
  | braces ho _ hc ih =>
    rw [depthAfter?, ho]
    show depthAfter? (depth + 1) _ = _
    rw [depthAfter?_append, ih, Option.bind_some, depthAfter?, hc]
    rfl
  | append _ _ ih ih' => rw [depthAfter?_append, ih, Option.bind_some, ih']

end Nested

/-! ## Points -/

/-- Every point is followed by a name. The first token follows a point if `afterDot` says so. -/
def PointsNamed (afterDot : Bool) : List Token → Prop
  | [] => afterDot = false
  | t :: ts => (afterDot = true → ∃ name, t.kind = .name name) ∧ PointsNamed (t.kind.isPunct .dot) ts

theorem PointsNamed.append {afterDot : Bool} {ts us : List Token} (h : PointsNamed afterDot ts)
    (hs : PointsNamed false us) : PointsNamed afterDot (ts ++ us) := by
  induction ts generalizing afterDot with
  | nil =>
    obtain rfl : afterDot = false := h
    exact hs
  | cons t ts ih => exact ⟨h.1, ih h.2⟩

theorem isPunct_eq_false {kind : TokenKind} {p : Punct} (h : kind ≠ .punct p) :
    kind.isPunct p = false := by
  refine Bool.eq_false_iff.2 fun hp => h ?_
  cases kind with
  | punct q => rw [beq_iff_eq.1 hp]
  | _ => cases hp

/-- Every point among tokens that nest is followed by a name. -/
theorem Nested.pointsNamed {ts : List Token} (h : Nested ts) : PointsNamed false ts := by
  -- one token that is no point
  have single : ∀ {t : Token}, t.kind ≠ .punct .dot → PointsNamed false [t] := fun ht =>
    ⟨nofun, isPunct_eq_false ht⟩
  induction h with
  | nil => rfl
  | token h => exact single fun hd => (h .dot hd).2.2 rfl
  | @member name dot t hd ht =>
    refine ⟨nofun, fun _ => ⟨name, ht⟩, ?_⟩
    rw [ht]
    rfl
  | @braces ts opening closing ho _ hc ih =>
    have hopen : PointsNamed false [opening] := single (by simp [ho])
    exact hopen.append (ih.append (single (by simp [hc])))
  | append _ _ ih ih' => exact ih.append ih'

/-! ## The tokens of trees -/

namespace Expr

theorem nested_of_is {t : Token} {kind : TokenKind} {raw : String} (h : t.Is kind raw)
    (hk : ∀ p, kind ≠ .punct p) : Nested [t] := .word (h.1 ▸ hk)

theorem ObjectKey.kind_ne_punct (key : ObjectKey) (p : Punct) : key.kind ≠ .punct p := by
  cases key with
  | literal l => exact LiteralValue.kind_ne_punct l.value p
  | symbol s => exact fun h => by cases h

mutual

/-- The tokens of a tree nest. -/
theorem Spelled.nested {e : Expr} {ts : List Token} : Spelled e ts → Nested ts
  | .literal h => nested_of_is h (LiteralValue.kind_ne_punct _)
  | .symbol h => nested_of_is h (by simp)
  | .conditional hc hq hy hm ha =>
    hc.nested.append (.cons (.word (by simp [hq]))
      (hy.nested.append (.cons (.mark hm (by simp)) ha.nested)))
  | .unary ht h => .cons (.word (by simp [ht])) h.nested
  | .binary hl ht hr => hl.nested.append (.cons (.word (by simp [ht])) hr.nested)
  | .member h hd ht => h.nested.append (.member hd ht)
  | .index h ho hk hc =>
    h.nested.append (.cons (.mark ho (by simp)) (hk.nested.append (.mark hc (by simp))))
  | .call h ho hx hc =>
    h.nested.append (.cons (.mark ho (by simp)) (hx.nested.append (.mark hc (by simp))))
  | .array ho hx hc => .cons (.mark ho (by simp)) (hx.nested.append (.mark hc (by simp)))
  | .object ho hx hc => .braces ho hx.nested hc
  | .parens ho hx hc => .cons (.mark ho (by simp)) (hx.nested.append (.mark hc (by simp)))
  | .arrow ho hx hc hm h =>
    .cons (.mark ho (by simp)) (hx.nested.append (.cons (.mark hc (by simp))
      (.cons (.word (by simp [hm])) h.nested)))
  | .bareArrow ht hm h =>
    .cons (nested_of_is ht (by simp)) (.cons (.word (by simp [hm])) h.nested)

theorem SpelledList.nested {es : List Expr} {ts : List Token} : SpelledList es ts → Nested ts
  | .nil => .nil
  | .last h => h.nested
  | .cons h hc hs => h.nested.append (.cons (.mark hc (by simp)) hs.nested)

theorem SpelledEntries.nested {entries : List (ObjectKey × Expr)} {ts : List Token} :
    SpelledEntries entries ts → Nested ts
  | .nil => .nil
  | .last ht hm h =>
    .cons (nested_of_is ht (ObjectKey.kind_ne_punct _)) (.cons (.mark hm (by simp)) h.nested)
  | .cons ht hm h hc hs =>
    .cons (nested_of_is ht (ObjectKey.kind_ne_punct _)) (.cons (.mark hm (by simp))
      (h.nested.append (.cons (.mark hc (by simp)) hs.nested)))

end

theorem SpelledStages.nested {stages : List (Symbol × List Expr)} {ts : List Token}
    (h : SpelledStages stages ts) : Nested ts := by
  induction h with
  | nil => exact .nil
  | name hp ht _ ih => exact .cons (.word (by simp [hp])) (.cons (nested_of_is ht (by simp)) ih)
  | call hp ht ho hx hc _ ih =>
    exact .cons (.word (by simp [hp])) (.cons (nested_of_is ht (by simp)) (.cons (.mark ho (by simp))
      (hx.nested.append (.cons (.mark hc (by simp)) ih))))

/-- The tokens of a whole text nest. -/
theorem SpelledText.nested {e : Expr} {ts : List Token} (h : SpelledText e ts) : Nested ts := by
  cases h with
  | expression h => exact h.nested
  | pipeline h hs => exact h.nested.append hs.nested

end Expr

end DataBinding
