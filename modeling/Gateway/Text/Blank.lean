/-!
White space and letter case of texts. `trim` drops blanks at both ends, where a blank is any
character with the white-space property; `lower` and `upper` fold ASCII letters only.
-/

namespace Gateway.Text

/-- Characters with the white-space property. -/
def isBlank (c : Char) : Bool :=
  let code := c.toNat
  (0x09 ≤ code && code ≤ 0x0D) || code = 0x20 || code = 0x85 || code = 0xA0 || code = 0x1680 ||
    (0x2000 ≤ code && code ≤ 0x200A) || code = 0x2028 || code = 0x2029 || code = 0x202F ||
    code = 0x205F || code = 0x3000

def dropBlankEnd (chars : List Char) : List Char :=
  (chars.reverse.dropWhile isBlank).reverse

def trimChars (chars : List Char) : List Char :=
  dropBlankEnd (chars.dropWhile isBlank)

/-- The text without blanks at either end. -/
def trim (text : String) : String :=
  String.ofList (trimChars text.toList)

def isBlankText (text : String) : Bool :=
  text.toList.all isBlank

/-- The text with ASCII capitals made small. -/
def lower (text : String) : String :=
  String.ofList (text.toList.map Char.toLower)

/-- The text with small ASCII letters made capital. -/
def upper (text : String) : String :=
  String.ofList (text.toList.map Char.toUpper)

end Gateway.Text
