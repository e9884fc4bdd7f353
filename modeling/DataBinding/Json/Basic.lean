import DataBinding.Dict
import DataBinding.Decimal.Layout

/-!
# JSON values and their text

A JSON value, its compact text and its indented text. Strings escape the quote, the backslash and the
control characters only. A whole number of magnitude below `2 ^ 53` is written as an integer.

Results:

* `quoteChar_eq_self`: a character that needs no escape is written as it is.
-/

namespace DataBinding

/-- A JSON value. -/
inductive Json where
  | null
  | bool (b : Bool)
  | number (x : Float)
  | string (s : String)
  | array (items : List Json)
  | object (members : List (String × Json))
  deriving Inhabited

namespace Json

/-! ## Strings -/

/-- The lower-case hexadecimal digit of a number below sixteen. -/
def hexDigit (n : Nat) : Char := if n < 10 then Char.ofNat (48 + n) else Char.ofNat (87 + n)

/-- A character inside a quoted string. -/
def quoteChar (c : Char) : List Char :=
  if c = '\x22' then ['\\', '\x22']
  else if c = '\\' then ['\\', '\\']
  else if c = '\n' then ['\\', 'n']
  else if c = '\r' then ['\\', 'r']
  else if c = '\t' then ['\\', 't']
  else if c = '\x08' then ['\\', 'b']
  else if c = '\x0c' then ['\\', 'f']
  else if c.toNat < 0x20 then
    ['\\', 'u', '0', '0', hexDigit (c.toNat / 16), hexDigit (c.toNat % 16)]
  else [c]

/-- A character that needs no escape is written as it is. -/
theorem quoteChar_eq_self {c : Char} (h₁ : c ≠ '\x22') (h₂ : c ≠ '\\') (h₃ : 0x20 ≤ c.toNat) :
    quoteChar c = [c] := by
  have ne : ∀ d : Char, d.toNat < 0x20 → c ≠ d := by
    rintro d hd rfl
    omega
  simp [quoteChar, h₁, h₂, ne '\n' (by decide), ne '\r' (by decide), ne '\t' (by decide),
    ne '\x08' (by decide), ne '\x0c' (by decide), Nat.not_lt.2 h₃]

/-- A text in double quotes. -/
def quoteChars (cs : List Char) : List Char := '\x22' :: (cs.flatMap quoteChar ++ ['\x22'])

/-- A string in double quotes. -/
def quote (s : String) : String := String.ofList (quoteChars s.toList)

/-! ## Numbers -/

/-- Is `x` a whole number that doubles hold together with its neighbours? -/
def isSmallWhole (x : Float) : Bool := x.floor == x && x.abs < 9007199254740992.0

/-- The text of a number. Numbers without a finite value are written `null`. -/
def numberText (x : Float) : String :=
  if isSmallWhole x then toString (Decimal.clampInt (-0x20000000000000) 0x20000000000000 x)
  else match Decimal.Binary.ofFloat? x with
    | some b => String.ofList (Decimal.jsonLayout.write b)
    | none => "null"

/-! ## Compact and indented text -/

mutual

/-- The text without spaces. -/
def compact : Json → String
  | null => "null"
  | bool b => if b then "true" else "false"
  | number x => numberText x
  | string s => quote s
  | array items => "[" ++ ",".intercalate (compactItems items) ++ "]"
  | object members => "\x7b" ++ ",".intercalate (compactMembers members) ++ "\x7d"

/-- The compact texts of the elements. -/
def compactItems : List Json → List String
  | [] => []
  | j :: rest => compact j :: compactItems rest

/-- The compact texts of the members. -/
def compactMembers : List (String × Json) → List String
  | [] => []
  | (name, j) :: rest => (quote name ++ ":" ++ compact j) :: compactMembers rest

end

/-- Parts on lines of their own, indented by `depth + 1` steps of two spaces, between brackets. -/
def block (opening closing : String) (depth : Nat) (parts : List String) : String :=
  if parts.isEmpty then opening ++ closing
  else
    let line := "\n" ++ String.ofList (List.replicate (2 * (depth + 1)) ' ')
    opening ++ line ++ ("," ++ line).intercalate parts ++ "\n" ++
      String.ofList (List.replicate (2 * depth) ' ') ++ closing

mutual

/-- The text with a line for each element and member, inside `depth` other blocks. -/
def indented (depth : Nat) : Json → String
  | null => "null"
  | bool b => if b then "true" else "false"
  | number x => numberText x
  | string s => quote s
  | array items => block "[" "]" depth (indentedItems depth items)
  | object members => block "\x7b" "\x7d" depth (indentedMembers depth members)

/-- The indented texts of the elements. -/
def indentedItems (depth : Nat) : List Json → List String
  | [] => []
  | j :: rest => indented (depth + 1) j :: indentedItems depth rest

/-- The indented texts of the members. -/
def indentedMembers (depth : Nat) : List (String × Json) → List String
  | [] => []
  | (name, j) :: rest =>
    (quote name ++ ": " ++ indented (depth + 1) j) :: indentedMembers depth rest

end

/-- The text with a line for each element and member. -/
def pretty (j : Json) : String := indented 0 j

end Json

end DataBinding
