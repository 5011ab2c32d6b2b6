/-!
What can be wrong with the form of a JSON text, and the words for it. An issue knows the place, as
the number of bytes in front of it; `Position.of` turns that into a line and a column.
-/

namespace ProxyKeeper.Json

inductive Defect where
  | endInList
  | endInObject
  | endInString
  | endInValue
  | wantsColon
  | wantsCommaOrListEnd
  | wantsCommaOrObjectEnd
  | wantsIdent
  | wantsValue
  | badEscape
  | badNumber
  | numberOutOfRange
  | controlCharacter
  | nameNotString
  | loneSurrogate
  | trailingComma
  | trailingCharacters
  | unfinishedSurrogate
  | tooDeep
  deriving Repr, DecidableEq

def Defect.message : Defect → String
  | .endInList => "EOF while parsing a list"
  | .endInObject => "EOF while parsing an object"
  | .endInString => "EOF while parsing a string"
  | .endInValue => "EOF while parsing a value"
  | .wantsColon => "expected `:`"
  | .wantsCommaOrListEnd => "expected `,` or `]`"
  | .wantsCommaOrObjectEnd => "expected `,` or `\x7d`"
  | .wantsIdent => "expected ident"
  | .wantsValue => "expected value"
  | .badEscape => "invalid escape"
  | .badNumber => "invalid number"
  | .numberOutOfRange => "number out of range"
  | .controlCharacter => "control character (\\u0000-\\u001F) found while parsing a string"
  | .nameNotString => "key must be a string"
  | .loneSurrogate => "lone leading surrogate in hex escape"
  | .trailingComma => "trailing comma"
  | .trailingCharacters => "trailing characters"
  | .unfinishedSurrogate => "unexpected end of hex escape"
  | .tooDeep => "recursion limit exceeded"

/-- A defect and the number of bytes in front of its place. -/
structure Issue where
  defect : Defect
  offset : Nat
  deriving Repr, DecidableEq

/-- A place in a text for the eyes of a reader. -/
structure Position where
  line : Nat
  column : Nat
  deriving Repr, DecidableEq

/-- Walks `offset` bytes into a text; lines count from one, columns are bytes since the line's
start. -/
def Position.advance : List Char → Nat → Position → Position
  | [], _, p => p
  | c :: rest, offset, p =>
    if offset = 0 then p
    else if offset < c.utf8Size then ⟨p.line, p.column + offset⟩
    else if c = '\n' then advance rest (offset - 1) ⟨p.line + 1, 0⟩
    else advance rest (offset - c.utf8Size) ⟨p.line, p.column + c.utf8Size⟩

def Position.of (text : List Char) (offset : Nat) : Position := advance text offset ⟨1, 0⟩

def Position.suffix (p : Position) : String := s!" at line {p.line} column {p.column}"

end ProxyKeeper.Json
