import DataBinding.Token.Basic
import DataBinding.Token.Error
import DataBinding.Expr.Print
import DataBinding.Json.Form

/-!
# From characters to tokens

The scanner reads one token at a time. Two facts about the token before decide how the next characters
are read: after a token that expects a value a slash opens a regular expression, and after a point a
word is a name even if it is reserved.

Every reader takes the characters ahead and returns what it read and the characters that follow.

Results:

* `scanKind_suffix`: what a token leaves is a suffix of the characters ahead, and every token but the
  end of the input takes at least one of them.
* `extendOperator_append`, `spanNumber_append`: the readers of operators and numbers lose nothing.
-/

namespace DataBinding.Token

/-! ## Words -/

/-- Words that spell operators without a place in expressions. -/
def forbiddenWordOperators : List String := ["instanceof", "new", "delete"]

/-- Words that never start an expression. -/
def reservedWords : List String := [
  "break", "case", "catch", "class", "const", "continue", "debugger", "default", "do", "else",
  "enum", "export", "extends", "finally", "for", "function", "if", "import", "return", "super",
  "switch", "this", "throw", "try", "var", "while", "with", "yield", "let", "static",
  "implements", "interface", "package", "private", "protected", "public"]

/-- The token of a word. -/
def kindOfWord (afterDot : Bool) (position : Nat) (word : String) : Except LexError TokenKind :=
  if afterDot then .ok (.name word)
  else if let some atom := Atom.ofWord? word then .ok (.atom atom)
  else if let some op := Operator.ofSpelling? word then .ok (.operator op)
  else if word ∈ forbiddenWordOperators then .error (.operatorNotAllowed word position)
  else if word ∈ reservedWords then .error (.keywordNotAllowed word position)
  else .ok (.name word)

/-- A word, which goes on as long as names do. -/
def readWord (afterDot : Bool) (position : Nat) (cs : List Char) : Except LexError (TokenKind × List Char) := do
  let kind ← kindOfWord afterDot position (String.ofList (cs.takeWhile isIdentifierPart))
  return (kind, cs.dropWhile isIdentifierPart)

/-! ## Operators -/

/-- Every operator spelling, with or without a place in expressions. -/
def operatorSpellings : List (List Char) := [
  ['+'], ['-'], ['*'], ['/'], ['%'], ['*', '*'], ['<'], ['>'], ['<', '='], ['>', '='],
  ['=', '='], ['=', '=', '='], ['!', '='], ['!', '=', '='], ['&', '&'], ['|', '|'], ['!'], ['?'],
  ['|'], ['&'], ['^'], ['~'], ['<', '<'], ['>', '>'], ['>', '>', '>'], ['='], ['+', '='],
  ['-', '='], ['*', '='], ['/', '='], ['%', '='], ['*', '*', '='], ['<', '<', '='],
  ['>', '>', '='], ['>', '>', '>', '='], ['&', '='], ['|', '='], ['^', '='], ['&', '&', '='],
  ['|', '|', '='], ['+', '+'], ['-', '-'], ['=', '>']]

/-- Does an operator start with the character? -/
def isOperatorChar (c : Char) : Bool := operatorSpellings.contains [c]

/-- The spelling `op` made longer by the characters ahead as long as it stays a spelling, and the
    characters after it. -/
def extendOperator (op : List Char) : List Char → List Char × List Char
  | [] => (op, [])
  | c :: rest =>
    if operatorSpellings.contains (op ++ [c]) then extendOperator (op ++ [c]) rest
    else (op, c :: rest)

/-- The token of an operator spelling. -/
def kindOfOperator (position : Nat) (op : String) : Except LexError TokenKind :=
  if op = "=>" then .ok .arrow
  else match Operator.ofSpelling? op with
    | some op => .ok (.operator op)
    | none => .error (.operatorNotAllowed op position)

/-- The longest operator spelling ahead. -/
def readOperator (position : Nat) (cs : List Char) : Except LexError (TokenKind × List Char) := do
  let (op, rest) := extendOperator [] cs
  let kind ← kindOfOperator position (String.ofList op)
  return (kind, rest)

/-! ## Numbers -/

/-- What the text of a number has held so far. -/
structure NumberState where
  hasX : Bool
  hasE : Bool
  hasDot : Bool
  /-- The last character was an exponent mark. -/
  afterE : Bool

/-- The state before a number. -/
def NumberState.start : NumberState := ⟨false, false, false, false⟩

/-- The state after one more character, if the number goes on with it. Letters and digits go on; a
    second `x`, exponent mark or point ends the number. -/
def NumberState.next? (st : NumberState) (c : Char) : Option NumberState :=
  if c = 'x' ∨ c = 'X' then
    if st.hasX then none else some ⟨true, st.hasE, st.hasDot, false⟩
  else if (c = 'e' ∨ c = 'E') ∧ ¬ st.hasX then
    if st.hasE then none else some ⟨st.hasX, true, st.hasDot, true⟩
  else if c = '+' ∨ c = '-' then
    if st.afterE then some ⟨st.hasX, st.hasE, st.hasDot, false⟩ else none
  else if c = '.' then
    if st.hasDot ∨ st.hasX ∨ st.hasE then none else some ⟨st.hasX, st.hasE, true, false⟩
  else if Unicode.isAlphanumeric c then some ⟨st.hasX, st.hasE, st.hasDot, false⟩
  else none

/-- The text of a number, and the characters after it. -/
def spanNumber (st : NumberState) : List Char → List Char × List Char
  | [] => ([], [])
  | c :: rest =>
    match st.next? c with
    | some st' =>
      let (raw, rest) := spanNumber st' rest
      (c :: raw, rest)
    | none => ([], c :: rest)

/-- Is the character an octal digit? -/
def isOctalDigit (c : Char) : Bool := decide ('0' ≤ c ∧ c ≤ '7')

/-- The value of the text of a number: hexadecimal after `0x`, octal after `0`, decimal otherwise. -/
def numberValue? (raw : List Char) : Option Float :=
  match raw with
  | '0' :: 'x' :: ds | '0' :: 'X' :: ds => Decimal.readBase? 16 ds
  | '0' :: d :: ds =>
    if (d :: ds).all isOctalDigit then Decimal.readBase? 8 (d :: ds) else decimal? raw
  | _ => decimal? raw
where
  /-- The value of a decimal text. -/
  decimal? (raw : List Char) : Option Float :=
    if raw.all fun c => c.isDigit || c == '.' || c == 'e' || c == 'E' || c == '+' || c == '-' then
      Decimal.read? raw
    else none

/-- A number. -/
def readNumber (position : Nat) (cs : List Char) : Except LexError (TokenKind × List Char) :=
  let (raw, rest) := spanNumber .start cs
  match numberValue? raw with
  | some x => .ok (.number x, rest)
  | none => .error (.invalidNumber (String.ofList raw) position)

/-! ## Strings -/

/-- The value of a run of digits in a base. -/
def digitsValue (base : Nat) (ds : List Char) : Nat :=
  ds.foldl (fun n c => base * n + (Decimal.digitValue? base c).getD 0) 0

/-- Is the character a hexadecimal digit? -/
def isHexDigit (c : Char) : Bool := (Decimal.digitValue? 16 c).isSome

/-- Exactly `count` more hexadecimal digits after `digits`. A fault reports the escape `marker` with
    the digits and the character that is none. -/
def readHex (marker : Char) (position : Nat) :
    (count : Nat) → (digits cs : List Char) → Except LexError (Nat × List Char)
  | 0, digits, cs => .ok (digitsValue 16 digits, cs)
  | _ + 1, digits, [] => .error (.invalidEscape (String.ofList (marker :: digits)) position)
  | count + 1, digits, c :: rest =>
    if isHexDigit c then readHex marker position count (digits ++ [c]) rest
    else .error (.invalidEscape (String.ofList (marker :: (digits ++ [c]))) position)

/-- The four upper-case hexadecimal digits of a number below `16 ^ 4`. -/
def upperHex4 (n : Nat) : List Char :=
  [n / 0x1000 % 16, n / 0x100 % 16, n / 0x10 % 16, n % 16].map fun d =>
    if d < 10 then Char.ofNat (48 + d) else Char.ofNat (55 + d)

/-- The character of a unit, or the fault of a unit that needs another one. -/
def charOfUnit (position n : Nat) (rest : List Char) : Except LexError (Char × List Char) :=
  if Json.isHighUnit n || Json.isLowUnit n then
    .error (.invalidEscape (String.ofList ('u' :: upperHex4 n)) position)
  else .ok (Char.ofNat n, rest)

/-- The character after `\u`: one unit, or a pair of units each written with `\u`. `position` is that
    of the first backslash. -/
def readUnicodeEscape (position : Nat) (cs : List Char) : Except LexError (Char × List Char) := do
  let (high, rest) ← readHex 'u' position 4 [] cs
  match rest with
  | '\\' :: 'u' :: more =>
    if Json.isHighUnit high then
      let (low, rest') ← readHex 'u' (position + 6) 4 [] more
      if Json.isLowUnit low then return (Char.ofNat (Json.pairCode high low), rest')
      else charOfUnit position high rest'
    else charOfUnit position high rest
  | _ => charOfUnit position high rest

/-- The octal digits ahead: up to three after `0` to `3`, up to two after `4` to `7`. -/
def octalRun (cs : List Char) : List Char :=
  let limit := if cs.head?.any fun c => c ≤ '3' then 3 else 2
  (cs.take limit).takeWhile isOctalDigit

/-- The control character of an escape of one letter. -/
def letterEscape? (c : Char) : Option Char :=
  [('n', '\n'), ('r', '\r'), ('t', '\t'), ('b', '\x08'), ('v', '\x0b'), ('f', '\x0c')].lookup c

/-- The characters that an escape stands for. `position` is that of the backslash, and `cs` follows
    it. -/
def readEscape (position : Nat) : (cs : List Char) → Except LexError (List Char × List Char)
  | [] => .ok ([], [])
  | c :: rest =>
    if isOctalDigit c then
      let ds := octalRun (c :: rest)
      .ok ([Char.ofNat (digitsValue 8 ds)], (c :: rest).drop ds.length)
    else if let some d := letterEscape? c then .ok ([d], rest)
    else if c = 'x' then do
      let (n, rest) ← readHex 'x' position 2 [] rest
      return ([Char.ofNat n], rest)
    else if c = 'u' then do
      let (c, rest) ← readUnicodeEscape position rest
      return ([c], rest)
    else if c = '\n' then .ok ([], rest)
    else if c = '\r' then
      match rest with
      | '\n' :: more => .ok ([], more)
      | _ => .ok ([], rest)
    else .ok ([c], rest)

/-! ### What the readers of escapes leave -/

theorem readHex_suffix {marker : Char} {position count n : Nat} {digits cs rest : List Char}
    (h : readHex marker position count digits cs = .ok (n, rest)) : rest <:+ cs := by
  fun_induction readHex marker position count digits cs with
  | case1 =>
    obtain ⟨-, rfl⟩ := Prod.mk.inj (Except.ok.inj h)
    exact List.suffix_refl _
  | case2 => simp at h
  | case3 _ _ c more _ ih => exact (ih h).trans (List.suffix_cons c more)
  | case4 => simp at h

theorem charOfUnit_suffix {position n : Nat} {cs rest : List Char} {c : Char}
    (h : charOfUnit position n cs = .ok (c, rest)) : rest = cs := by
  unfold charOfUnit at h
  split at h
  · simp at h
  · exact (Prod.mk.inj (Except.ok.inj h)).2.symm

theorem readUnicodeEscape_suffix {position : Nat} {cs rest : List Char} {c : Char}
    (h : readUnicodeEscape position cs = .ok (c, rest)) : rest <:+ cs := by
  unfold readUnicodeEscape at h
  cases h₁ : readHex 'u' position 4 [] cs with
  | error e => simp [h₁, bind, Except.bind] at h
  | ok r =>
    obtain ⟨high, rest₁⟩ := r
    have s₁ := readHex_suffix h₁
    simp only [h₁, bind, Except.bind] at h
    split at h
    · rename_i more
      split at h
      · cases h₂ : readHex 'u' (position + 6) 4 [] more with
        | error e => simp [h₂] at h
        | ok r =>
          obtain ⟨low, rest₂⟩ := r
          have s₂ := readHex_suffix h₂
          have s₃ : rest₂ <:+ cs :=
            s₂.trans (((List.suffix_cons 'u' more).trans (List.suffix_cons _ _)).trans s₁)
          simp only [h₂] at h
          split at h
          · obtain ⟨-, rfl⟩ := Prod.mk.inj (Except.ok.inj h)
            exact s₃
          · rw [charOfUnit_suffix h]
            exact s₃
      · rw [charOfUnit_suffix h]
        exact s₁
    · rw [charOfUnit_suffix h]
      exact s₁

theorem readEscape_suffix {position : Nat} {cs rest out : List Char}
    (h : readEscape position cs = .ok (out, rest)) : rest <:+ cs := by
  unfold readEscape at h
  split at h
  · obtain ⟨-, rfl⟩ := Prod.mk.inj (Except.ok.inj h)
    exact List.suffix_refl _
  · rename_i c more
    have s := List.suffix_cons c more
    split at h
    · obtain ⟨-, rfl⟩ := Prod.mk.inj (Except.ok.inj h)
      exact List.drop_suffix _ _
    split at h
    · obtain ⟨-, rfl⟩ := Prod.mk.inj (Except.ok.inj h)
      exact s
    split at h
    · cases h₁ : readHex 'x' position 2 [] more with
      | error e => simp [h₁, bind, Except.bind] at h
      | ok r =>
        simp only [h₁, bind, Except.bind] at h
        obtain ⟨-, rfl⟩ := Prod.mk.inj (Except.ok.inj h)
        exact (readHex_suffix h₁).trans s
    split at h
    · cases h₁ : readUnicodeEscape position more with
      | error e => simp [h₁, bind, Except.bind] at h
      | ok r =>
        simp only [h₁, bind, Except.bind] at h
        obtain ⟨-, rfl⟩ := Prod.mk.inj (Except.ok.inj h)
        exact (readUnicodeEscape_suffix h₁).trans s
    split at h
    · obtain ⟨-, rfl⟩ := Prod.mk.inj (Except.ok.inj h)
      exact s
    split at h
    · split at h
      · obtain ⟨-, rfl⟩ := Prod.mk.inj (Except.ok.inj h)
        exact (List.suffix_cons _ _).trans s
      · obtain ⟨-, rfl⟩ := Prod.mk.inj (Except.ok.inj h)
        exact s
    · obtain ⟨-, rfl⟩ := Prod.mk.inj (Except.ok.inj h)
      exact s

/-- The characters of a string up to its closing quote, and what follows the quote. The opening quote
    is at `start`, and `cs` stands at `position`. -/
def readString (quote : Char) (start position : Nat) (cs : List Char) :
    Except LexError (List Char × List Char) :=
  match cs with
  | [] => .error (.unterminatedString start)
  | c :: rest =>
    if c = quote then .ok ([], rest)
    else if c = '\n' ∨ c = '\r' then .error (.unterminatedString start)
    else if c = '\\' then
      match _h : readEscape position rest with
      | .error e => .error e
      | .ok (out, more) => do
        let (text, rest) ← readString quote start (position + (rest.length + 1 - more.length)) more
        return (out ++ text, rest)
    else do
      let (text, rest) ← readString quote start (position + 1) rest
      return (c :: text, rest)
termination_by cs.length
decreasing_by
  · have := (readEscape_suffix _h).length_le
    simp only [List.length_cons]
    omega
  · simp

theorem readString_suffix {quote : Char} {start position : Nat} {cs rest text : List Char}
    (h : readString quote start position cs = .ok (text, rest)) : rest <:+ cs := by
  fun_induction readString quote start position cs generalizing text rest with
  | case1 => simp at h
  | case2 _ more =>
    obtain ⟨-, rfl⟩ := Prod.mk.inj (Except.ok.inj h)
    exact List.suffix_cons _ _
  | case3 => simp at h
  | case4 => simp at h
  | case5 position' more out rest' he _ _ ih =>
    cases h₁ : readString quote start (position' + (more.length + 1 - rest'.length)) rest' with
    | error e => simp [h₁, bind, Except.bind] at h
    | ok r =>
      simp only [h₁, bind, Except.bind] at h
      obtain ⟨-, rfl⟩ := Prod.mk.inj (Except.ok.inj h)
      exact (ih h₁).trans ((readEscape_suffix he).trans (List.suffix_cons _ _))
  | case6 position' c more _ _ _ ih =>
    cases h₁ : readString quote start (position' + 1) more with
    | error e => simp [h₁, bind, Except.bind] at h
    | ok r =>
      simp only [h₁, bind, Except.bind] at h
      obtain ⟨-, rfl⟩ := Prod.mk.inj (Except.ok.inj h)
      exact (ih h₁).trans (List.suffix_cons _ _)

/-! ## Regular expressions -/

/-- The pattern up to the slash that closes it, and what follows the slash. A slash inside brackets or
    after a backslash belongs to the pattern. -/
def readPattern? (inClass : Bool) : List Char → Option (List Char × List Char)
  | [] => none
  | '\\' :: c :: rest =>
    if c = '\n' ∨ c = '\r' then none
    else (readPattern? inClass rest).map fun (p, rest) => ('\\' :: c :: p, rest)
  | c :: rest =>
    if c = '\n' ∨ c = '\r' ∨ c = '\\' then none
    else if c = '/' ∧ ¬ inClass then some ([], rest)
    else
      (readPattern? (if c = '[' then true else if c = ']' then false else inClass) rest).map
        fun (p, rest) => (c :: p, rest)

/-- The flags of regular expressions. -/
def regexFlags : List Char := ['d', 'g', 'i', 'm', 's', 'u', 'y']

/-- Are the flags known and different? -/
def validFlags (flags : List Char) : Bool :=
  flags.all (fun c => regexFlags.contains c) && decide flags.Nodup

/-- A regular expression after its opening slash at `position`. -/
def readRegex (position : Nat) (cs : List Char) : Except LexError (TokenKind × List Char) :=
  match readPattern? false cs with
  | none => .error (.unterminatedRegex position)
  | some (pattern, rest) =>
    if pattern.isEmpty then .error (.unexpectedChar '/' position)
    else
      let flags := rest.takeWhile isIdentifierPart
      if validFlags flags then
        .ok (.regex (String.ofList pattern) (String.ofList flags), rest.dropWhile isIdentifierPart)
      else .error (.invalidRegexFlags (String.ofList flags) position)

theorem readPattern?_suffix {inClass : Bool} {cs p rest : List Char}
    (h : readPattern? inClass cs = some (p, rest)) : rest <:+ cs := by
  fun_induction readPattern? inClass cs generalizing p rest with
  | case1 => simp at h
  | case2 => simp at h
  | case3 _ c more _ ih =>
    obtain ⟨⟨p', rest'⟩, h', he⟩ := Option.map_eq_some_iff.1 h
    obtain ⟨-, rfl⟩ := Prod.mk.inj he
    exact (ih h').trans ((List.suffix_cons c more).trans (List.suffix_cons _ _))
  | case4 => simp at h
  | case5 _ c more =>
    obtain ⟨-, rfl⟩ := Prod.mk.inj (Option.some.inj h)
    exact List.suffix_cons _ _
  | case6 _ c more _ _ _ ih =>
    obtain ⟨⟨p', rest'⟩, h', he⟩ := Option.map_eq_some_iff.1 h
    obtain ⟨-, rfl⟩ := Prod.mk.inj he
    exact (ih h').trans (List.suffix_cons _ _)

/-! ## One token -/

/-- The token ahead, where `cs` has no leading blanks and starts at `position`. -/
def scanKind (valueExpected afterDot : Bool) (position : Nat) (cs : List Char) :
    Except LexError (TokenKind × List Char) :=
  match cs with
  | [] => .ok (.eof, [])
  | c :: rest =>
    if c.isDigit || (c == '.' && rest.head?.any Char.isDigit) then readNumber position (c :: rest)
    else if c = '\x22' ∨ c = '\x27' then do
      let (text, rest) ← readString c position (position + 1) rest
      return (.string (String.ofList text), rest)
    else if c = '/' ∧ valueExpected then readRegex position rest
    else if let some p := Punct.ofChar? c then .ok (.punct p, rest)
    else if isOperatorChar c then readOperator position (c :: rest)
    else if isIdentifierStart c then readWord afterDot position (c :: rest)
    else .error (.unexpectedChar c position)

/-! ### What a token leaves -/

/-- The operator grows by exactly the characters it takes. -/
theorem extendOperator_append (op cs : List Char) :
    (extendOperator op cs).1 ++ (extendOperator op cs).2 = op ++ cs := by
  fun_induction extendOperator op cs with
  | case1 => rfl
  | case2 op c rest _ ih => rw [ih, List.append_assoc, List.singleton_append]
  | case3 => rfl

/-- A started operator only grows. -/
theorem extendOperator_prefix (op cs : List Char) : op <+: (extendOperator op cs).1 := by
  fun_induction extendOperator op cs with
  | case1 => exact List.prefix_refl _
  | case2 op c rest _ ih => exact (List.prefix_append op [c]).trans ih
  | case3 => exact List.prefix_refl _

/-- The text of a number and what follows it make up the characters ahead. -/
theorem spanNumber_append (st : NumberState) (cs : List Char) :
    (spanNumber st cs).1 ++ (spanNumber st cs).2 = cs := by
  fun_induction spanNumber st cs with
  | case1 => rfl
  | case2 st c rest st' h raw rest' h' ih => simpa [h'] using ih
  | case3 => rfl

/-- A number starts with a digit or a point. -/
theorem NumberState.start_next?_isSome {c : Char} (h : (c.isDigit || c == '.') = true) :
    ∃ st, NumberState.start.next? c = some st := by
  unfold NumberState.next? NumberState.start
  split
  · exact ⟨_, if_neg (by simp)⟩
  split
  · exact ⟨_, if_neg (by simp)⟩
  split
  · rename_i h₁
    rcases h₁ with rfl | rfl <;> exact absurd h (by decide)
  split
  · exact ⟨_, if_neg (by simp)⟩
  · rename_i hdot
    have hd : c.isDigit = true := by simpa [hdot] using h
    exact ⟨_, if_pos (by rw [Unicode.isAlphanumeric, Unicode.isNumeric_of_isDigit hd, Bool.or_true])⟩

theorem readNumber_suffix {position : Nat} {c : Char} {more rest : List Char} {kind : TokenKind}
    (hc : (c.isDigit || c == '.') = true)
    (h : readNumber position (c :: more) = .ok (kind, rest)) : rest <:+ more := by
  obtain ⟨st, hst⟩ := NumberState.start_next?_isSome hc
  have hs : (spanNumber .start (c :: more)).2 = (spanNumber st more).2 := by
    simp [spanNumber, hst]
  unfold readNumber at h
  simp only at h
  split at h
  · obtain ⟨-, rfl⟩ := Prod.mk.inj (Except.ok.inj h)
    exact hs ▸ ⟨_, spanNumber_append st more⟩
  · simp at h

theorem readRegex_suffix {position : Nat} {cs rest : List Char} {kind : TokenKind}
    (h : readRegex position cs = .ok (kind, rest)) : rest <:+ cs := by
  unfold readRegex at h
  split at h
  · simp at h
  · rename_i hp
    split at h
    · simp at h
    · simp only at h
      split at h
      · obtain ⟨-, rfl⟩ := Prod.mk.inj (Except.ok.inj h)
        exact (List.dropWhile_suffix _).trans (readPattern?_suffix hp)
      · simp at h

theorem readOperator_suffix {position : Nat} {c : Char} {more rest : List Char} {kind : TokenKind}
    (hc : isOperatorChar c = true)
    (h : readOperator position (c :: more) = .ok (kind, rest)) : rest <:+ more := by
  have he : extendOperator [] (c :: more) = extendOperator [c] more := by
    rw [extendOperator, if_pos (by simpa [isOperatorChar] using hc), List.nil_append]
  unfold readOperator at h
  simp only [he] at h
  cases hk : kindOfOperator position (String.ofList (extendOperator [c] more).1) with
  | error e => simp [hk, bind, Except.bind] at h
  | ok k =>
    simp only [hk, bind, Except.bind] at h
    obtain ⟨-, rfl⟩ := Prod.mk.inj (Except.ok.inj h)
    obtain ⟨t, ht⟩ := extendOperator_prefix [c] more
    have ha := extendOperator_append [c] more
    rw [← ht, List.append_assoc] at ha
    exact ⟨t, List.append_cancel_left ha⟩

theorem isIdentifierPart_of_start {c : Char} (h : isIdentifierStart c = true) :
    isIdentifierPart c = true := by
  simp only [isIdentifierStart, isIdentifierPart, Unicode.isAlphanumeric, Bool.or_eq_true] at h ⊢
  rcases h with (h | h) | h
  · exact Or.inl (Or.inl (Or.inl h))
  · exact Or.inl (Or.inr h)
  · exact Or.inr h

theorem readWord_suffix {afterDot : Bool} {position : Nat} {c : Char} {more rest : List Char}
    {kind : TokenKind} (hc : isIdentifierStart c = true)
    (h : readWord afterDot position (c :: more) = .ok (kind, rest)) : rest <:+ more := by
  unfold readWord at h
  cases hk : kindOfWord afterDot position
      (String.ofList ((c :: more).takeWhile isIdentifierPart)) with
  | error e => simp [hk, bind, Except.bind] at h
  | ok k =>
    simp only [hk, bind, Except.bind] at h
    obtain ⟨-, rfl⟩ := Prod.mk.inj (Except.ok.inj h)
    rw [List.dropWhile_cons_of_pos (isIdentifierPart_of_start hc)]
    exact List.dropWhile_suffix _

/-- What a reader leaves is a suffix of what it was given, and every token but the end of the input
    takes at least one character. -/
theorem scanKind_suffix {valueExpected afterDot : Bool} {position : Nat} {cs rest : List Char}
    {kind : TokenKind} (h : scanKind valueExpected afterDot position cs = .ok (kind, rest)) :
    rest <:+ cs ∧ (kind.isEof = false → rest.length < cs.length) := by
  unfold scanKind at h
  split at h
  · obtain ⟨rfl, rfl⟩ := Prod.mk.inj (Except.ok.inj h)
    simp [TokenKind.isEof]
  · rename_i c more
    have shorter : ∀ {r : List Char}, r <:+ more → r <:+ c :: more ∧
        (kind.isEof = false → r.length < (c :: more).length) := fun s =>
      ⟨s.trans (List.suffix_cons _ _), fun _ => by
        have := s.length_le
        simp only [List.length_cons]
        omega⟩
    split at h
    · rename_i hc
      refine shorter (readNumber_suffix ?_ h)
      cases hd : c.isDigit
      · rw [hd, Bool.false_or, Bool.and_eq_true] at hc
        rw [hc.1, Bool.or_true]
      · rfl
    split at h
    · cases h₁ : readString c position (position + 1) more with
      | error e => simp [h₁, bind, Except.bind] at h
      | ok r =>
        simp only [h₁, bind, Except.bind] at h
        obtain ⟨-, rfl⟩ := Prod.mk.inj (Except.ok.inj h)
        exact shorter (readString_suffix h₁)
    split at h
    · exact shorter (readRegex_suffix h)
    split at h
    · obtain ⟨-, rfl⟩ := Prod.mk.inj (Except.ok.inj h)
      exact shorter (List.suffix_refl _)
    split at h
    · rename_i hc
      exact shorter (readOperator_suffix hc h)
    split at h
    · rename_i hc
      exact shorter (readWord_suffix hc h)
    · simp at h

end DataBinding.Token
