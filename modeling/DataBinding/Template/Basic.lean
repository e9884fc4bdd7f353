import DataBinding.Json.Basic
import DataBinding.Unicode.Property

/-!
# Templates

A template is text with expressions in it. An expression stands between a dollar sign with an opening
brace and the brace that closes it; braces inside it nest, and those in strings and regular
expressions do not count.

Results:

* `scanSpan?_append`: an expression, its closing brace and what follows make up the text ahead.
* `literalRun_append`: a run of plain text and what follows make up the text ahead.
* `splitFrom_expression`, `splitFrom_literal`: the first segment of a template and the others.
-/

namespace DataBinding

/-- A part of a template. -/
inductive Segment where
  | literal (text : String)
  | expression (source : String)
  deriving DecidableEq, Repr

/-- Why a text is no template. -/
inductive TemplateError where
  /-- The expression that opens at this position is not closed. -/
  | unterminated (position : Nat)
  deriving DecidableEq, Repr

/-- The report of the error. -/
def TemplateError.message : TemplateError → String
  | unterminated p => "Unterminated '$\x7b' starting at position " ++ toString p

namespace Template

/-! ## One expression -/

/-- What the scanner of an expression is inside of. -/
inductive SpanState where
  /-- Plain code, inside so many braces -/
  | code
  /-- A string with this quote -/
  | quoted (quote : Char)
  /-- A regular expression, inside brackets or not -/
  | regex (inClass : Bool)
  deriving DecidableEq, Repr

/-- Characters after which a slash opens a regular expression. -/
def regexPreceders : List Char :=
  ['(', ',', '=', ':', '[', '!', '&', '|', '?', '\x7b', '\x7d', ';', '+', '-', '*', '%', '<', '>',
    '~', '^']

/-- Does a slash open a regular expression, where `last` is the last character before it that is not
    blank? -/
def opensRegex (last : Option Char) : Bool := last.all fun c => regexPreceders.contains c

/-- The last character that is not blank, after one more character. -/
def lastAfter (last : Option Char) (c : Char) : Option Char :=
  if Unicode.isWhitespace c then last else some c

/-- Does a backslash take the character after it along? -/
def SpanState.escapes : SpanState → Bool
  | code => false
  | _ => true

/-- The state and the depth of braces after one more character, or none at the brace that closes the
    expression. -/
def SpanState.next? (last : Option Char) (depth : Nat) (st : SpanState) (c : Char) :
    Option (SpanState × Nat) :=
  match st with
  | code =>
    if c = '\x7b' then some (code, depth + 1)
    else if c = '\x7d' then if depth = 0 then none else some (code, depth - 1)
    else if c = '\x27' ∨ c = '\x22' then some (quoted c, depth)
    else if c = '/' ∧ opensRegex last then some (regex false, depth)
    else some (code, depth)
  | quoted quote => some (if c = quote then code else quoted quote, depth)
  | regex inClass =>
    if c = '[' then some (regex true, depth)
    else if c = ']' then some (regex false, depth)
    else if c = '/' ∧ ¬ inClass then some (code, depth)
    else some (regex inClass, depth)

/-- The text of an expression up to the brace that closes it, and what follows the brace. -/
def scanSpan? (st : SpanState) (depth : Nat) (last : Option Char) :
    List Char → Option (List Char × List Char)
  | [] => none
  | [c] => if (st.next? last depth c).isNone then some ([], []) else none
  | c :: d :: rest =>
    if st.escapes && c == '\\' then
      (scanSpan? st depth (lastAfter (lastAfter last c) d) rest).map
        fun (text, rest) => (c :: d :: text, rest)
    else match st.next? last depth c with
      | none => some ([], d :: rest)
      | some (st', depth') =>
        (scanSpan? st' depth' (lastAfter last c) (d :: rest)).map
          fun (text, rest) => (c :: text, rest)

theorem SpanState.eq_brace_of_next? {last : Option Char} {depth : Nat} {st : SpanState} {c : Char}
    (h : st.next? last depth c = none) : c = '\x7d' := by
  unfold SpanState.next? at h
  split at h
  · split at h
    · simp at h
    split at h
    · assumption
    split at h
    · simp at h
    split at h <;> simp at h
  · simp at h
  · split at h
    · simp at h
    split at h
    · simp at h
    split at h <;> simp at h

/-- An expression, its closing brace and what follows make up the text ahead. -/
theorem scanSpan?_append {st : SpanState} {depth : Nat} {last : Option Char}
    {cs text rest : List Char} (h : scanSpan? st depth last cs = some (text, rest)) :
    cs = text ++ '\x7d' :: rest := by
  fun_induction scanSpan? st depth last cs generalizing text rest with
  | case1 => simp at h
  | case2 st depth last c hn =>
    obtain ⟨rfl, rfl⟩ := Prod.mk.inj (Option.some.inj h)
    rw [SpanState.eq_brace_of_next? (Option.isNone_iff_eq_none.1 hn), List.nil_append]
  | case3 => simp at h
  | case4 st depth last c d more _ ih =>
    obtain ⟨⟨text', rest'⟩, h', he⟩ := Option.map_eq_some_iff.1 h
    obtain ⟨rfl, rfl⟩ := Prod.mk.inj he
    rw [ih h']
    rfl
  | case5 st depth last c d more _ hn =>
    obtain ⟨rfl, rfl⟩ := Prod.mk.inj (Option.some.inj h)
    rw [SpanState.eq_brace_of_next? hn, List.nil_append]
  | case6 st depth last c d more _ st' depth' hn ih =>
    obtain ⟨⟨text', rest'⟩, h', he⟩ := Option.map_eq_some_iff.1 h
    obtain ⟨rfl, rfl⟩ := Prod.mk.inj he
    rw [ih h']
    rfl

/-! ## Whole templates -/

/-- The plain text up to the next opening of an expression, and what follows it. -/
def literalRun : List Char → List Char × List Char
  | [] => ([], [])
  | '$' :: '\x7b' :: rest => ([], '$' :: '\x7b' :: rest)
  | c :: rest =>
    let (text, rest) := literalRun rest
    (c :: text, rest)

/-- A run of plain text and what follows make up the text ahead. -/
theorem literalRun_append (cs : List Char) : (literalRun cs).1 ++ (literalRun cs).2 = cs := by
  fun_induction literalRun cs with
  | case1 => rfl
  | case2 => rfl
  | case3 c rest _ text rest' h ih => simpa [h] using ih

/-- The segments of a template that stands at `position`. -/
def splitFrom (position : Nat) (cs : List Char) : Except TemplateError (List Segment) :=
  match _h : cs with
  | [] => .ok []
  | '$' :: '\x7b' :: rest =>
    match _hs : scanSpan? .code 0 none rest with
    | none => .error (.unterminated position)
    | some (text, more) => do
      let segments ← splitFrom (position + text.length + 3) more
      return .expression (String.ofList text) :: segments
  | c :: rest => do
    let text := c :: (literalRun rest).1
    let segments ← splitFrom (position + text.length) (literalRun rest).2
    return .literal (String.ofList text) :: segments
termination_by cs.length
decreasing_by
  · have := congrArg List.length (scanSpan?_append _hs)
    simp only [List.length_append, List.length_cons] at *
    omega
  · have := congrArg List.length (literalRun_append rest)
    simp only [List.length_append, List.length_cons] at *
    omega

theorem splitFrom_nil (position : Nat) : splitFrom position [] = .ok [] := by
  rw [splitFrom]

/-- An expression that is not closed. -/
theorem splitFrom_unterminated {rest : List Char} (h : scanSpan? .code 0 none rest = none)
    (position : Nat) :
    splitFrom position ('$' :: '\x7b' :: rest) = .error (.unterminated position) := by
  rw [splitFrom]
  split
  · rfl
  · rename_i hsome
    rw [h] at hsome
    cases hsome

/-- An expression and the segments behind it. -/
theorem splitFrom_expression {source : String} {position : Nat} {rest more : List Char}
    {segments : List Segment} (h : scanSpan? .code 0 none rest = some (source.toList, more))
    (hs : splitFrom (position + source.length + 3) more = .ok segments) :
    splitFrom position ('$' :: '\x7b' :: rest) = .ok (.expression source :: segments) := by
  rw [splitFrom]
  split
  · rename_i hnone
    rw [h] at hnone
    cases hnone
  · rename_i hsome
    rw [h] at hsome
    cases hsome
    rw [String.length_toList, hs, String.ofList_toList]
    rfl

/-- A plain text and the segments behind it. -/
theorem splitFrom_literal {text : String} {position : Nat} {c : Char} {rest : List Char}
    {segments : List Segment} (h : c ≠ '$' ∨ rest.head? ≠ some '\x7b')
    (ht : c :: (literalRun rest).1 = text.toList)
    (hs : splitFrom (position + text.length) (literalRun rest).2 = .ok segments) :
    splitFrom position (c :: rest) = .ok (.literal text :: segments) := by
  rw [splitFrom]
  · rw [ht, String.length_toList, hs, String.ofList_toList]
    rfl
  · rintro more rfl hrest
    rcases h with h | h
    · exact h rfl
    · exact h (hrest ▸ rfl)

/-- The segments of a template. No plain text is empty, and no two stand side by side. -/
def split (source : String) : Except TemplateError (List Segment) := splitFrom 0 source.toList

/-! ## One expression for all segments -/

/-- A segment as an operand. -/
def renderOperand : Segment → String
  | .literal text => Json.quote text
  | .expression source => "(" ++ source ++ ")"

/-- The source of an expression for the text that the segments make. -/
def render : List Segment → String
  | [] => Json.quote ""
  | [.literal text] => Json.quote text
  | [.expression source] => source
  | segments => " + ".intercalate (segments.map renderOperand)

/-- The source of an expression for the text that a template makes. -/
def extract (source : String) : Except TemplateError String := (split source).map render

end Template

end DataBinding
