import DataBinding.Unicode.Property

/-!
# Text shown for diagnosis

A text in double quotes in which every character can be seen: what does not print, and what would
join the character before it, stands as its code point.
-/

namespace DataBinding.Text

open Unicode

/-- The code point of a character in braces. -/
def codeEscape (c : Char) : List Char :=
  ['\\', 'u', '\x7b'] ++ Nat.toDigits 16 c.toNat ++ ['\x7d']

/-- A character as it is shown. -/
def visibleChar (c : Char) : List Char :=
  if c = '\x22' then ['\\', '\x22']
  else if c = '\\' then ['\\', '\\']
  else if c = '\n' then ['\\', 'n']
  else if c = '\r' then ['\\', 'r']
  else if c = '\t' then ['\\', 't']
  else if c = '\x00' then ['\\', '0']
  else if isGraphemeExtend c || !isPrintable c then codeEscape c
  else [c]

/-- A text as it is shown. -/
def visible (s : String) : String :=
  String.ofList ('\x22' :: (s.toList.flatMap visibleChar ++ ['\x22']))

/-- The text filled up with spaces on its right to `width` characters. -/
def padRight (width : Nat) (s : String) : String :=
  s ++ String.ofList (List.replicate (width - s.length) ' ')

/-- The text filled up with spaces on its left to `width` characters. -/
def padLeft (width : Nat) (s : String) : String :=
  String.ofList (List.replicate (width - s.length) ' ') ++ s

end DataBinding.Text
