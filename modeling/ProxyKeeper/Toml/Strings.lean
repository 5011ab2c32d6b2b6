import ProxyKeeper.Text.Digits

/-!
The four kinds of TOML strings: basic ones with escapes and literal ones without, each on one line or
on several. Line ends are single line feeds here.

A basic string is read in two steps. The first finds its end, passing over whatever follows a
backslash; the second replaces the escapes.
-/

namespace ProxyKeeper.Toml

/-! ## characters -/

def isControl (c : Char) : Bool := c.toNat < 0x20 || c.toNat = 0x7F

/-- The blanks inside a line. -/
def isBlank (c : Char) : Bool := c = ' ' || c = '\t'

/-- What may stand in a string or a comment: no control character but the tab. -/
def isPlain (c : Char) : Bool := !isControl c || c = '\t'

/-- The character that a letter behind a backslash stands for. -/
def escaped? : Char → Option Char
  | '"' => some '"'
  | '\\' => some '\\'
  | 'b' => some '\x08'
  | 'f' => some '\x0c'
  | 'n' => some '\n'
  | 'r' => some '\r'
  | 't' => some '\t'
  | _ => none

/-- The character of a code point, unless it is a surrogate or out of range. -/
def charOf? (n : Nat) : Option Char := if n.isValidChar then some (Char.ofNat n) else none

/-! ## finding the end -/

/-- A reading of one character more. -/
def push (c : Char) (r : Option (List Char × List Char)) : Option (List Char × List Char) :=
  r.map fun (body, rest) => (c :: body, rest)

/-- What stands in front of the closing quote, escapes and all, and what stands behind it. -/
def basicBody : List Char → Option (List Char × List Char)
  | [] => none
  | ['\\'] => none
  | '\\' :: c :: rest => push '\\' (push c (basicBody rest))
  | c :: rest =>
    if c = '"' then some ([], rest) else if isPlain c then push c (basicBody rest) else none

def literalBody : List Char → Option (List Char × List Char)
  | [] => none
  | c :: rest =>
    if c = '\'' then some ([], rest) else if isPlain c then push c (literalBody rest) else none

/-- The end of a string in three quotes: one or two further quotes still belong to it. -/
def closeThree (quote : Char) (rest : List Char) : List Char × List Char :=
  let extra := (rest.take 2).takeWhile (· == quote)
  (extra, rest.drop extra.length)

def multiBasicBody : List Char → Option (List Char × List Char)
  | [] => none
  | ['\\'] => none
  | '\\' :: c :: rest => push '\\' (push c (multiBasicBody rest))
  | '"' :: '"' :: '"' :: rest => some (closeThree '"' rest)
  | c :: rest => if isPlain c || c = '\n' then push c (multiBasicBody rest) else none

def multiLiteralBody : List Char → Option (List Char × List Char)
  | [] => none
  | '\'' :: '\'' :: '\'' :: rest => some (closeThree '\'' rest)
  | c :: rest => if isPlain c || c = '\n' then push c (multiLiteralBody rest) else none

/-! ## escapes -/

/-- What a backslash has opened. -/
inductive Pending where
  | nothing
  | backslash
  /-- So many hexadecimal digits are to come; the value of those read. -/
  | digits (left value : Nat)
  /-- Only blanks may follow up to the end of the line. -/
  | lineEnd
  /-- Blanks and line ends are dropped. -/
  | folding
  deriving Repr, DecidableEq

/-- Replaces the escapes of a text; only a string on several lines may escape a line end. -/
def unescape (multiline : Bool) : Pending → List Char → Option (List Char)
  | .nothing, [] => some []
  | .folding, [] => some []
  | .backslash, [] => none
  | .digits _ _, [] => none
  | .lineEnd, [] => none
  | .nothing, c :: rest =>
    if c = '\\' then unescape multiline .backslash rest
    else (unescape multiline .nothing rest).map (c :: ·)
  | .folding, c :: rest =>
    if isBlank c || c = '\n' then unescape multiline .folding rest
    else if c = '\\' then unescape multiline .backslash rest
    else (unescape multiline .nothing rest).map (c :: ·)
  | .lineEnd, c :: rest =>
    if c = '\n' then unescape multiline .folding rest
    else if isBlank c then unescape multiline .lineEnd rest
    else none
  | .backslash, c :: rest =>
    match escaped? c with
    | some x => (unescape multiline .nothing rest).map (x :: ·)
    | none =>
      if c = 'u' then unescape multiline (.digits 4 0) rest
      else if c = 'U' then unescape multiline (.digits 8 0) rest
      else if multiline && c = '\n' then unescape multiline .folding rest
      else if multiline && isBlank c then unescape multiline .lineEnd rest
      else none
  | .digits left value, c :: rest =>
    match Text.digitValue? c with
    | none => none
    | some d =>
      if left = 1 then
        match charOf? (16 * value + d) with
        | none => none
        | some x => (unescape multiline .nothing rest).map (x :: ·)
      else unescape multiline (.digits (left - 1) (16 * value + d)) rest

/-! ## strings -/

/-- The text of a string whose body was found. -/
def finish (multiline escapes : Bool) (r : Option (List Char × List Char)) :
    Option (String × List Char) := do
  let (body, rest) ← r
  let chars ← if escapes then unescape multiline .nothing body else some body
  return (.ofList chars, rest)

/-- A line end right behind the opening quotes does not count. -/
def dropNewline : List Char → List Char
  | '\n' :: rest => rest
  | s => s

/-- Reads a string of one line. -/
def readLineString : List Char → Option (String × List Char)
  | '"' :: rest => finish false true (basicBody rest)
  | '\'' :: rest => finish false false (literalBody rest)
  | _ => none

/-- Reads a string of any kind. -/
def readString : List Char → Option (String × List Char)
  | '"' :: '"' :: '"' :: rest => finish true true (multiBasicBody (dropNewline rest))
  | '\'' :: '\'' :: '\'' :: rest => finish true false (multiLiteralBody (dropNewline rest))
  | s => readLineString s

end ProxyKeeper.Toml
