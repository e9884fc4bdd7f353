import DataBinding.Template.Basic
import DataBinding.Proofs.Outcome
import Mathlib.Data.List.Chain
import Mathlib.Data.List.Infix

/-!
# Joining what a template was split into

A template is its segments written one behind the other. What the scanner finds in front of the brace
that closes an expression does not depend on what follows the brace, so each expression of a template is
split off by itself, and segments that are joined are found again.

Results:

* `splitFrom_eq_ok_iff`: the splitter gives the segments that the text is made of.
* `split_joined`: these are the segments that join to the text, and an expression that is not closed opens
  where the template in front of it ends.
-/

namespace DataBinding

/-- Is the segment plain text? -/
def Segment.isLiteral : Segment → Bool
  | literal _ => true
  | expression _ => false

namespace Template

/-- The mark that opens an expression. -/
def opening : List Char := ['$', '\x7b']

/-- The segment as it stands in a template. -/
def written : Segment → List Char
  | .literal text => text.toList
  | .expression source => '$' :: '\x7b' :: (source.toList ++ ['\x7d'])

/-- The template of the segments. -/
def joined (segments : List Segment) : String := String.ofList (segments.flatMap written)

/-- The text is one expression between the marks of a template. -/
def IsSpan (source : String) : Prop :=
  split ("$\x7b" ++ source ++ "\x7d") = .ok [.expression source]

/-- Segments whose plain texts are as long as they can be and hold no mark. -/
structure Alternates (segments : List Segment) : Prop where
  nonempty : ∀ text, .literal text ∈ segments → text ≠ ""
  plain : ∀ text, .literal text ∈ segments → ¬ opening <:+: text.toList
  apart : segments.IsChain fun s t => s.isLiteral = true → t.isLiteral = false

/-! ## One expression -/

theorem scanSpan?_cons {st st' : SpanState} {depth depth' : Nat} {last : Option Char} {c : Char}
    (he : (st.escapes && c == '\\') = false) (hn : st.next? last depth c = some (st', depth'))
    {cs : List Char} (hcs : cs ≠ []) : scanSpan? st depth last (c :: cs) =
      (scanSpan? st' depth' (lastAfter last c) cs).map fun (text, rest) => (c :: text, rest) := by
  cases cs with
  | nil => exact absurd rfl hcs
  | cons d rest => rw [scanSpan?, if_neg (Bool.eq_false_iff.1 he), hn]

/-- The brace that closes an expression is found whatever follows it. -/
theorem scanSpan?_close {st : SpanState} {depth : Nat} {last : Option Char}
    (h : st.next? last depth '\x7d' = none) (more : List Char) :
    scanSpan? st depth last ('\x7d' :: more) = some ([], more) := by
  cases more with
  | nil => rw [scanSpan?, h]; rfl
  | cons d rest =>
    have he : ¬ (st.escapes && '\x7d' == '\\') = true := by simp
    rw [scanSpan?, if_neg he, h]

/-- An expression ends at the same brace whatever follows it. -/
theorem scanSpan?_local {st : SpanState} {depth : Nat} {last : Option Char} {cs text rest : List Char}
    (h : scanSpan? st depth last cs = some (text, rest)) (more : List Char) :
    scanSpan? st depth last (text ++ '\x7d' :: more) = some (text, more) := by
  fun_induction scanSpan? st depth last cs generalizing text rest with
  | case1 => cases h
  | case2 st depth last c hn =>
    obtain ⟨rfl, -⟩ := Prod.mk.inj (Option.some.inj h)
    have hn := Option.isNone_iff_eq_none.1 hn
    obtain rfl := SpanState.eq_brace_of_next? hn
    exact scanSpan?_close hn more
  | case3 => cases h
  | case4 st depth last c d cs he ih =>
    obtain ⟨⟨text', rest'⟩, h', heq⟩ := Option.map_eq_some_iff.1 h
    obtain ⟨rfl, -⟩ := Prod.mk.inj heq
    rw [List.cons_append, List.cons_append, scanSpan?, if_pos he, ih h']
    rfl
  | case5 st depth last c d cs he hn =>
    obtain ⟨rfl, -⟩ := Prod.mk.inj (Option.some.inj h)
    obtain rfl := SpanState.eq_brace_of_next? hn
    exact scanSpan?_close hn more
  | case6 st depth last c d cs he st' depth' hn ih =>
    obtain ⟨⟨text', rest'⟩, h', heq⟩ := Option.map_eq_some_iff.1 h
    obtain ⟨rfl, -⟩ := Prod.mk.inj heq
    rw [List.cons_append, scanSpan?_cons (Bool.eq_false_iff.2 he) hn (by simp), ih h']
    rfl

/-! ## Plain text -/

/-- Plain text ends in front of this: at the end of the template, or where an expression opens. -/
def EndsPlain (cs : List Char) : Prop := cs = [] ∨ opening <+: cs

theorem literalRun_cons {c : Char} {cs : List Char} (h : ¬ opening <+: c :: cs) :
    literalRun (c :: cs) = (c :: (literalRun cs).1, (literalRun cs).2) := by
  rw [literalRun]
  rintro rest rfl rfl
  exact h (List.prefix_append opening rest)

/-- A run of plain text holds no mark and goes up to the next one. -/
theorem literalRun_spec (cs : List Char) :
    ¬ opening <:+: (literalRun cs).1 ∧ EndsPlain (literalRun cs).2 := by
  fun_induction literalRun cs with
  | case1 => exact ⟨by decide, .inl rfl⟩
  | case2 rest =>
    have hnil : ¬ opening <:+: [] := by decide
    exact ⟨hnil, .inr (List.prefix_append opening rest)⟩
  | case3 c rest hopen text rest' h ih =>
    rw [h] at ih
    refine ⟨fun hinfix => ?_, ih.2⟩
    rcases List.infix_cons_iff.1 hinfix with hprefix | hinfix
    · obtain ⟨more, hmore⟩ := hprefix
      have happend := literalRun_append rest
      rw [h] at happend
      obtain ⟨rfl, rfl⟩ := List.cons.inj hmore
      exact hopen _ rfl happend.symm
    · exact ih.1 hinfix

/-- No mark begins in plain text, not even at its last character. -/
theorem not_opening_ahead {c : Char} {text more : List Char} (hp : ¬ opening <:+: c :: text)
    (hm : EndsPlain more) : ¬ opening <+: c :: (text ++ more) := by
  rintro ⟨rest, hrest⟩
  obtain ⟨rfl, htail⟩ := List.cons.inj hrest
  cases text with
  | nil =>
    rcases hm with rfl | ⟨after, rfl⟩
    · cases htail
    · exact absurd (List.cons.inj htail).1 (by decide)
  | cons d text =>
    obtain ⟨rfl, -⟩ := List.cons.inj htail
    exact hp (List.prefix_append opening text).isInfix

/-- What ends plain text still ends it without a mark at its end. -/
theorem EndsPlain.of_append {front rest : List Char}
    (h : EndsPlain (front ++ '$' :: '\x7b' :: rest)) : EndsPlain front := by
  rcases h with h | ⟨after, h⟩
  · simp at h
  · cases front with
    | nil => exact .inl rfl
    | cons c front =>
      obtain ⟨rfl, htail⟩ := List.cons.inj h
      cases front with
      | nil => exact absurd (List.cons.inj htail).1 (by decide)
      | cons d front =>
        obtain ⟨rfl, -⟩ := List.cons.inj htail
        exact .inr (List.prefix_append opening front)

theorem literalRun_eq {text more : List Char} (hp : ¬ opening <:+: text) (hm : EndsPlain more) :
    literalRun (text ++ more) = (text, more) := by
  induction text with
  | nil => rcases hm with rfl | ⟨rest, rfl⟩ <;> rfl
  | cons c text ih =>
    have htext : ¬ opening <:+: text := fun h => hp (h.trans (List.suffix_cons c text).isInfix)
    rw [List.cons_append, literalRun_cons (not_opening_ahead hp hm), ih htext]

/-! ## Whole templates -/

/-- The characters are split into the segments. -/
inductive Splits : List Char → List Segment → Prop where
  | nil : Splits [] []
  | expression {source : String} {rest more : List Char} {segments : List Segment}
      (h : scanSpan? .code 0 none rest = some (source.toList, more)) (hs : Splits more segments) :
      Splits ('$' :: '\x7b' :: rest) (.expression source :: segments)
  | literal {text : String} {more : List Char} {segments : List Segment} (hne : text ≠ "")
      (hp : ¬ opening <:+: text.toList) (hm : EndsPlain more) (hs : Splits more segments) :
      Splits (text.toList ++ more) (.literal text :: segments)

theorem splits_plain {text more : List Char} {segments : List Segment} (hne : text ≠ [])
    (hp : ¬ opening <:+: text) (hm : EndsPlain more) (hs : Splits more segments) :
    Splits (text ++ more) (.literal (String.ofList text) :: segments) := by
  rw [← String.toList_ofList (l := text)] at hp
  have hsplits := Splits.literal (by simpa using hne) hp hm hs
  rwa [String.toList_ofList] at hsplits

/-- The run of plain text from a character on that opens no expression holds no mark. -/
theorem not_opening_of_run {c : Char} {rest : List Char}
    (h : ∀ after, c = '$' → rest = '\x7b' :: after → False) :
    ¬ opening <:+: c :: (literalRun rest).1 := by
  have hopen : ¬ opening <+: c :: rest := by
    rintro ⟨after, hafter⟩
    obtain ⟨rfl, rfl⟩ := List.cons.inj hafter
    exact h after rfl rfl
  have hrun := (literalRun_spec (c :: rest)).1
  rwa [literalRun_cons hopen] at hrun

/-- The segments do not depend on the position, which only the error tells. -/
theorem splits_of_splitFrom {position : Nat} {cs : List Char} {segments : List Segment}
    (h : splitFrom position cs = .ok segments) : Splits cs segments := by
  fun_induction splitFrom position cs generalizing segments with
  | case1 =>
    cases h
    exact .nil
  | case2 => cases h
  | case3 position rest text more hspan ih =>
    obtain ⟨segments', hs, he⟩ := bind_eq_ok_iff.1 h
    cases he
    exact .expression (by rw [hspan, String.toList_ofList]) (ih hs)
  | case4 position c rest hopen text =>
    rename_i ih
    obtain ⟨segments', hs, he⟩ := bind_eq_ok_iff.1 h
    cases he
    have hplain := not_opening_of_run hopen
    have hsplits := splits_plain (by simp) hplain (literalRun_spec rest).2 (ih hs)
    rwa [List.cons_append, literalRun_append] at hsplits

theorem Splits.splitFrom_eq {cs : List Char} {segments : List Segment} (h : Splits cs segments)
    (position : Nat) : splitFrom position cs = .ok segments := by
  induction h generalizing position with
  | nil => exact splitFrom_nil position
  | expression h hs ih => exact splitFrom_expression h (ih _)
  | @literal text more segments hne hp hm hs ih =>
    cases htext : text.toList with
    | nil => exact absurd (String.toList_eq_nil_iff.1 htext) hne
    | cons c cs =>
      rw [htext] at hp
      have hrun : literalRun (cs ++ more) = (cs, more) :=
        literalRun_eq (fun h => hp (h.trans (List.suffix_cons c cs).isInfix)) hm
      have hfirst : c ≠ '$' ∨ (cs ++ more).head? ≠ some '\x7b' := by
        by_contra hboth
        rw [not_or, not_not, not_not] at hboth
        obtain ⟨rfl, hhead⟩ := hboth
        obtain ⟨rest, hrest⟩ := List.head?_eq_some_iff.1 hhead
        refine not_opening_ahead hp hm ?_
        rw [hrest]
        exact List.prefix_append opening rest
      rw [List.cons_append]
      refine splitFrom_literal hfirst ?_ ?_
      · rw [hrun, htext]
      · rw [hrun]
        exact ih _

theorem splitFrom_eq_ok_iff {position : Nat} {cs : List Char} {segments : List Segment} :
    splitFrom position cs = .ok segments ↔ Splits cs segments :=
  ⟨splits_of_splitFrom, fun h => h.splitFrom_eq position⟩

/-- The expression that the splitter finds no end of opens where the segments in front of it end. -/
theorem exists_splits_of_splitFrom {position p : Nat} {cs : List Char}
    (h : splitFrom position cs = .error (.unterminated p)) : ∃ front rest segments,
      cs = front ++ '$' :: '\x7b' :: rest ∧ p = position + front.length ∧ Splits front segments := by
  fun_induction splitFrom position cs with
  | case1 => cases h
  | case2 position rest hspan =>
    cases h
    exact ⟨[], rest, [], rfl, rfl, .nil⟩
  | case3 position rest text more hspan ih =>
    cases hmore : splitFrom (position + text.length + 3) more with
    | ok segments =>
      rw [hmore] at h
      cases h
    | error e =>
      rw [hmore] at h
      cases h
      obtain ⟨front, after, segments, rfl, rfl, hs⟩ := ih hmore
      have hfront : scanSpan? .code 0 none (text ++ '\x7d' :: front) =
          some ((String.ofList text).toList, front) := by
        rw [scanSpan?_local hspan, String.toList_ofList]
      refine ⟨'$' :: '\x7b' :: (text ++ '\x7d' :: front), after, _, ?_, ?_, .expression hfront hs⟩
      · rw [scanSpan?_append hspan]
        simp
      · simp only [List.length_cons, List.length_append]
        omega
  | case4 position c rest hopen text =>
    rename_i ih
    cases hmore : splitFrom (position + (c :: (literalRun rest).1).length) (literalRun rest).2 with
    | ok segments =>
      rw [hmore] at h
      cases h
    | error e =>
      rw [hmore] at h
      cases h
      obtain ⟨front, after, segments, hrest, rfl, hs⟩ := ih hmore
      -- the text in front of the open expression ends the run as the whole rest does
      have hplain := not_opening_of_run hopen
      have hends : EndsPlain front := by
        have hrun := (literalRun_spec rest).2
        rw [hrest] at hrun
        exact hrun.of_append
      refine ⟨c :: (literalRun rest).1 ++ front, after, _, ?_, ?_,
        splits_plain (by simp) hplain hends hs⟩
      · rw [List.append_assoc, ← hrest, List.cons_append, literalRun_append]
      · rw [List.length_append, Nat.add_assoc]

/-! ## Splitting and joining -/

/-- The marks around an expression are found whatever follows them. -/
theorem isSpan_iff {source : String} : IsSpan source ↔ ∀ more,
    scanSpan? .code 0 none (source.toList ++ '\x7d' :: more) = some (source.toList, more) := by
  have htext : ("$\x7b" ++ source ++ "\x7d").toList = '$' :: '\x7b' :: (source.toList ++ ['\x7d']) := by
    simp [String.toList_append]
  rw [IsSpan, split, htext]
  constructor
  · intro h more
    have hs := splits_of_splitFrom h
    generalize hcs : '$' :: '\x7b' :: (source.toList ++ ['\x7d']) = cs at hs
    cases hs with
    | expression hspan _ => exact scanSpan?_local hspan more
  · intro h
    exact splitFrom_expression (h []) (splitFrom_nil _)

namespace Splits

variable {cs : List Char} {segments : List Segment}

theorem flatMap_written (h : Splits cs segments) : segments.flatMap written = cs := by
  induction h with
  | nil => rfl
  | expression h hs ih =>
    rw [List.flatMap_cons, ih, written, scanSpan?_append h]
    simp
  | literal hne hp hm hs ih => rw [List.flatMap_cons, ih, written]

theorem isSpan (h : Splits cs segments) : ∀ source, .expression source ∈ segments → IsSpan source := by
  induction h with
  | nil => simp
  | expression h hs ih =>
    intro source hmem
    rcases List.mem_cons.1 hmem with heq | hmem
    · cases heq
      exact isSpan_iff.2 (scanSpan?_local h)
    · exact ih source hmem
  | literal hne hp hm hs ih =>
    intro source hmem
    rcases List.mem_cons.1 hmem with heq | hmem
    · cases heq
    · exact ih source hmem

/-- Where an expression opens the first segment is no plain text. -/
theorem isLiteral_head (h : Splits cs segments) (hm : EndsPlain cs) :
    ∀ s ∈ segments.head?, s.isLiteral = false := by
  intro s hs
  cases h with
  | nil => cases hs
  | expression =>
    cases hs
    rfl
  | @literal text more segments hne hp hmore =>
    cases htext : text.toList with
    | nil => exact absurd (String.toList_eq_nil_iff.1 htext) hne
    | cons c text =>
      rw [htext] at hp hm
      rcases hm with hnil | hopen
      · cases hnil
      · exact absurd hopen (not_opening_ahead hp hmore)

theorem alternates (h : Splits cs segments) : Alternates segments := by
  induction h with
  | nil => exact ⟨by simp, by simp, .nil⟩
  | expression h hs ih =>
    refine ⟨fun text hmem => ?_, fun text hmem => ?_, List.isChain_cons.2 ⟨?_, ih.apart⟩⟩
    · exact ih.nonempty text ((List.mem_cons.1 hmem).resolve_left (by simp))
    · exact ih.plain text ((List.mem_cons.1 hmem).resolve_left (by simp))
    · rintro s - ⟨⟩
  | literal hne hp hm hs ih =>
    refine ⟨fun text hmem => ?_, fun text hmem => ?_, List.isChain_cons.2 ⟨?_, ih.apart⟩⟩
    · rcases List.mem_cons.1 hmem with heq | hmem
      · cases heq
        exact hne
      · exact ih.nonempty text hmem
    · rcases List.mem_cons.1 hmem with heq | hmem
      · cases heq
        exact hp
      · exact ih.plain text hmem
    · intro s hhead _
      exact hs.isLiteral_head hm s hhead

end Splits

theorem Alternates.tail {s : Segment} {segments : List Segment} (h : Alternates (s :: segments)) :
    Alternates segments where
  nonempty text hmem := h.nonempty text (List.mem_cons_of_mem s hmem)
  plain text hmem := h.plain text (List.mem_cons_of_mem s hmem)
  apart := (List.isChain_cons.1 h.apart).2

/-- Segments are found again in what they join to. -/
theorem splits_of_alternates {segments : List Segment} (h : Alternates segments)
    (hs : ∀ source, .expression source ∈ segments → IsSpan source) :
    Splits (segments.flatMap written) segments := by
  induction segments with
  | nil => exact .nil
  | cons s segments ih =>
    have hrest := ih h.tail fun source hmem => hs source (List.mem_cons_of_mem s hmem)
    rw [List.flatMap_cons]
    cases s with
    | expression source =>
      have hspan := isSpan_iff.1 (hs source List.mem_cons_self) (segments.flatMap written)
      rw [written, List.cons_append, List.cons_append, List.append_assoc]
      exact .expression hspan hrest
    | literal text =>
      have hm : EndsPlain (segments.flatMap written) := by
        cases segments with
        | nil => exact .inl rfl
        | cons t segments =>
          cases t with
          | expression source => exact .inr ⟨_, rfl⟩
          | literal text' => cases (List.isChain_cons_cons.1 h.apart).1 rfl
      exact .literal (h.nonempty text List.mem_cons_self) (h.plain text List.mem_cons_self) hm hrest

theorem splits_iff {cs : List Char} {segments : List Segment} : Splits cs segments ↔
    segments.flatMap written = cs ∧ Alternates segments ∧
      ∀ source, .expression source ∈ segments → IsSpan source := by
  constructor
  · intro h
    exact ⟨h.flatMap_written, h.alternates, h.isSpan⟩
  · rintro ⟨rfl, h, hs⟩
    exact splits_of_alternates h hs

/-- The segments of a template are those that join to it, whose plain texts are not empty, hold no mark
    and do not stand side by side, and whose expressions are each split off by themselves. Where the
    splitter finds no end of an expression, that expression opens there and the text in front of it is a
    template. -/
theorem split_joined (source : String) :
    (∀ segments, split source = .ok segments ↔ joined segments = source ∧ Alternates segments ∧
      ∀ e, .expression e ∈ segments → split ("$\x7b" ++ e ++ "\x7d") = .ok [.expression e]) ∧
    ∀ p, split source = .error (.unterminated p) →
      (∃ rest, source.toList.drop p = '$' :: '\x7b' :: rest) ∧
      ∃ before, split (String.ofList (source.toList.take p)) = .ok before := by
  constructor
  · intro segments
    have hjoined : joined segments = source ↔ segments.flatMap written = source.toList := by
      rw [joined, ← String.toList_inj, String.toList_ofList]
    rw [hjoined]
    exact splitFrom_eq_ok_iff.trans splits_iff
  · intro p h
    obtain ⟨front, rest, segments, hsource, hp, hs⟩ := exists_splits_of_splitFrom h
    obtain rfl : p = front.length := by omega
    rw [hsource, List.drop_left, List.take_left]
    refine ⟨⟨rest, rfl⟩, segments, ?_⟩
    rw [split, String.toList_ofList]
    exact hs.splitFrom_eq 0

/-- A brace in a string does not close the expression, and one that is not closed fails the template. -/
theorem split_joined_quoted :
    split "a$\x7b'\x7d'\x7d$" = .ok [.literal "a", .expression "'\x7d'", .literal "$"] ∧
      split "a$\x7b'\x7d" = .error (.unterminated 1) ∧
      ∃ before, split (String.ofList ("a$\x7b'\x7d".toList.take 1)) = .ok before := by
  have hspan : IsSpan "'\x7d'" := isSpan_iff.2 fun more => by cases more <;> rfl
  have halternates : Alternates [.literal "a", .expression "'\x7d'", .literal "$"] := by
    constructor
    · simp
    · simp [opening]
      decide
    · decide
  have hopen : split "a$\x7b'\x7d" = .error (.unterminated 1) := by
    show splitFrom 0 ('a' :: "$\x7b'\x7d".toList) = _
    rw [splitFrom]
    · show (splitFrom 1 "$\x7b'\x7d".toList >>= _) = _
      rw [show splitFrom 1 "$\x7b'\x7d".toList = _ from splitFrom_unterminated rfl 1]
      rfl
    · intro _ h
      exact absurd h (by decide)
  refine ⟨((split_joined _).1 _).2 ⟨rfl, halternates, fun e he => ?_⟩, hopen,
    ((split_joined _).2 1 hopen).2⟩
  obtain rfl : e = "'\x7d'" := by simpa using he
  exact hspan

end Template

end DataBinding
