import DataBinding.Proofs.Printing.Phrases
import DataBinding.Proofs.Printing.Total
import DataBinding.Proofs.Token.Steps
import Mathlib.Data.List.Forall2

/-!
# Sources inside other sources

A source without a pipeline is one expression, and its last token is none that a value comes next behind.
So it has its tokens, and its tree, wherever a value may stand and what follows it ends every token.

Results:

* `Expr.spelled_of_parse`: the tokens of a source without a pipeline.
* `isPhrase_iff`: such a source is read as its tree wherever it stands.
* `IsPhrase.parens`, `IsPhrase.call`: sources in parentheses and in a call.
-/

namespace DataBinding

open DataBinding.Expr (Spelled SpelledList)

namespace Expr

/-- Without a pipeline a source is one expression. -/
theorem spelled_of_parse {source : String} {e : Expr} (h : parse source = .ok e)
    (hp : e.isPipeline = false) : e.Stratified ∧ ∃ ts last,
      (Cursor.start source).scan = (ts ++ [last], none) ∧ last.kind = .eof ∧
        (∀ t ∈ ts, t.kind ≠ .eof) ∧ Spelled e ts := by
  obtain ⟨ts, last, hscan, hlast, hne, hs, st⟩ := scan_of_parse h
  cases hs with
  | expression hs =>
    have st : e.Stratified := by cases hs <;> exact st
    exact ⟨st, ts, last, hscan, hlast, hne, hs⟩
  | pipeline => cases hp

/-- A source without a pipeline is read as its tree in front of what ends every token. -/
theorem lexes_of_parse {source : String} {e : Expr} (h : parse source = .ok e)
    (hp : e.isPipeline = false) {r : List Char} (hr : Token.EndsTokens r) :
    Lexes true source.toList r false (Spelled e) := by
  obtain ⟨-, ts, last, hscan, hlast, hts, hs⟩ := spelled_of_parse h hp
  obtain ⟨t, ht, hv⟩ := hs.exists_last
  obtain ⟨front, rfl⟩ := List.getLast?_eq_some_iff.1 ht
  rw [List.forall_mem_append, List.forall_mem_singleton] at hts
  rw [List.append_assoc, List.singleton_append] at hscan
  have hdot : t.kind.isPunct .dot = false := by
    cases hk : t.kind with
    | punct p =>
      rw [hk] at hv
      cases p <;> first | rfl | cases hv
    | _ => rfl
  intro p
  obtain ⟨q, htakes⟩ := Cursor.takes_followed hscan hlast (TokenKind.isEof_eq_false hts.2) hts.1 hr p
  rw [Cursor.followed, Cursor.start, Nat.zero_add, hv, hdot] at htakes
  exact ⟨_, q, htakes, hs.moved⟩

end Expr

/-! ## Phrases -/

/-- The text is read as the tree, wherever a value may stand and what follows ends every token. -/
structure IsPhrase (x : String) (e : Expr) : Prop where
  lexes : ∀ r, Token.EndsTokens r → Lexes true x.toList r false (Spelled e)
  stratified : e.Stratified

/-- What is read as a tree wherever it stands is just a source of the tree, without a pipeline. -/
theorem isPhrase_iff {x : String} {e : Expr} :
    IsPhrase x e ↔ Expr.parse x = .ok e ∧ e.isPipeline = false := by
  constructor
  · intro h
    obtain ⟨ts, last, htokens, hlast, hts⟩ := (h.lexes [] .nil).tokenize_eq
    refine ⟨Expr.parse_complete htokens hlast (.expression hts) h.stratified.stratifiedText, ?_⟩
    cases hts <;> rfl
  · rintro ⟨h, hp⟩
    exact ⟨fun r hr => Expr.lexes_of_parse h hp hr, (Expr.spelled_of_parse h hp).1⟩

theorem IsPhrase.parse_eq {x : String} {e : Expr} (h : IsPhrase x e) : Expr.parse x = .ok e :=
  (isPhrase_iff.1 h).1

/-- A text that is one name is read as that name. -/
theorem isPhrase_name {name : String} (h : IsToken name (.name name)) : IsPhrase name (.ofName name) := by
  obtain ⟨ts, last, htokens, hlast, t, rfl, ht⟩ := (lexes_leaf h rfl .nil).tokenize_eq
  exact isPhrase_iff.2 ⟨Expr.parse_complete htokens hlast (.expression (.symbol ht)) trivial, rfl⟩

/-- A source in parentheses is read as its tree in parentheses, also where no value may stand. -/
theorem IsPhrase.lexes_parens {x : String} {e : Expr} (h : IsPhrase x e) (v : Bool) (r : List Char) :
    Lexes v ("(" ++ x ++ ")").toList r false (Spelled (.parens e)) := by
  have htext : ("(" ++ x ++ ")").toList = '(' :: (x.toList ++ [')']) := by
    simp [String.toList_append]
  rw [htext]
  exact .parens fun s => h.lexes _ (.cons rfl)

/-- The text of a call -/
def callText (f : String) (args : List String) : String := f ++ "(" ++ ", ".intercalate args ++ ")"

/-- Sources with commas between them are read as their trees. -/
theorem lexes_arguments {args : List String} {es : List Expr} (h : List.Forall₂ IsPhrase args es)
    (s : List Char) :
    ∃ v, Lexes true (", ".intercalate args).toList (')' :: s) v (SpelledList es) := by
  induction h with
  | nil => exact ⟨true, lexes_nil.imp fun ts hts => hts ▸ .nil⟩
  | @cons x e args es hx hs ih =>
    cases hs with
    | nil =>
      rw [String.intercalate_singleton]
      exact ⟨false, (hx.lexes _ (.cons rfl)).imp fun _ => .last⟩
    | cons hy hs =>
      obtain ⟨v, hv⟩ := ih
      rw [toList_intercalate_cons (List.cons_ne_nil _ _)]
      exact ⟨v, .list_cons (fun s => hx.lexes _ (.cons rfl)) hv⟩

theorem stratifiedList_of_phrases {args : List String} {es : List Expr}
    (h : List.Forall₂ IsPhrase args es) : Expr.StratifiedList es := by
  induction h with
  | nil => trivial
  | cons hx _ ih => exact ⟨hx.stratified, ih⟩

/-- A call of a name with sources as its arguments is read as the call with their trees. -/
theorem IsPhrase.call {f : String} {s : Symbol} (hf : IsPhrase f (.symbol s)) {args : List String}
    {es : List Expr} (h : List.Forall₂ IsPhrase args es) :
    IsPhrase (callText f args) (.call (.symbol s) es) := by
  have htext : (callText f args).toList =
      f.toList ++ '(' :: ((", ".intercalate args).toList ++ [')']) := by
    simp [callText, String.toList_append]
  refine ⟨fun r _ => ?_, trivial, stratifiedList_of_phrases h, Nat.le_refl _, rfl⟩
  rw [htext]
  exact .call (fun s => hf.lexes _ (.cons rfl)) (lexes_arguments h)

end DataBinding
