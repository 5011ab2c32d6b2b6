/-!
Cutting texts into pieces at a character, on lists of characters.
-/

namespace ProxyKeeper.Text

/-- The pieces of a text between the characters that `p` holds of; one more than there are such
characters. -/
def splitBy (p : Char → Bool) : List Char → List (List Char)
  | [] => [[]]
  | c :: rest =>
    if p c then [] :: splitBy p rest
    else
      match splitBy p rest with
      | [] => [[c]]
      | piece :: pieces => (c :: piece) :: pieces

/-- The pieces of a text between occurrences of one character. -/
def splitAt (sep : Char) (s : List Char) : List (List Char) := splitBy (· == sep) s

/-- What stands in front of the first occurrence of a character, and what behind it. -/
def cutAt (sep : Char) : List Char → Option (List Char × List Char)
  | [] => none
  | c :: rest =>
    if c = sep then some ([], rest)
    else (cutAt sep rest).map fun (before, after) => (c :: before, after)

/-- Whether the pattern stands somewhere in a text. -/
def hasInfix (pattern : List Char) : List Char → Bool
  | [] => pattern.isEmpty
  | c :: rest => pattern.isPrefixOf (c :: rest) || hasInfix pattern rest

end ProxyKeeper.Text
