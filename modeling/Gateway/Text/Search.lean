/-!
Finding and replacing a text within another. Replacement goes from left to right; what has been
written is not searched again.
-/

namespace Gateway.Text

def occurs (needle : List Char) : List Char → Bool
  | [] => needle.isEmpty
  | c :: rest => needle.isPrefixOf (c :: rest) || occurs needle rest

def contains (text needle : String) : Bool :=
  occurs needle.toList text.toList

/-- Replaces the occurrences of a pattern, `skip` characters of the last one being still ahead. -/
def replaceFrom (pattern replacement : List Char) : Nat → List Char → List Char
  | _, [] => []
  | skip + 1, _ :: rest => replaceFrom pattern replacement skip rest
  | 0, c :: rest =>
      if pattern.isPrefixOf (c :: rest) then
        replacement ++ replaceFrom pattern replacement (pattern.length - 1) rest
      else c :: replaceFrom pattern replacement 0 rest

/-- Replaces all occurrences of a pattern that is not empty. -/
def replace (text pattern replacement : String) : String :=
  String.ofList (replaceFrom pattern.toList replacement.toList 0 text.toList)

end Gateway.Text
