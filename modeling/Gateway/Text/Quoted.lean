import Gateway.Text.Category

/-!
Texts in quotes for logs. A quote, a backslash, characters that cannot be seen and marks that are
drawn over the character before them or are a part of its letter are written as escapes, everything
else as it is.
-/

namespace Gateway.Text

/-- Whether a character would not be seen as one of its own. -/
def isUnseen (c : Char) : Bool :=
  c ≠ ' ' && category c ∈ [.unseen, .mark, .letterMark]

def quoteChar (c : Char) : List Char :=
  if c = '"' then ['\\', '"']
  else if c = '\\' then ['\\', '\\']
  else if c = '\t' then ['\\', 't']
  else if c = '\r' then ['\\', 'r']
  else if c = '\n' then ['\\', 'n']
  else if c.toNat = 0 then ['\\', '0']
  else if isUnseen c then ['\\', 'u', '\x7b'] ++ Nat.toDigits 16 c.toNat ++ ['\x7d']
  else [c]

def quoted (text : String) : String :=
  "\"" ++ String.ofList (text.toList.flatMap quoteChar) ++ "\""

def quotedList (texts : List String) : String :=
  "[" ++ ", ".intercalate (texts.map quoted) ++ "]"

def quotedPairs (pairs : List (String × String)) : String :=
  let written := pairs.map fun pair => quoted pair.1 ++ ": " ++ quoted pair.2
  "\x7b" ++ ", ".intercalate written ++ "\x7d"

end Gateway.Text
