import ProxyKeeper.Toml.Scalar
import ProxyKeeper.Toml.Strings
import ProxyKeeper.Toml.Tree

/-!
Reading TOML documents. What a fault is and where it stands is not told: a text is a document or it
is none.
-/

namespace ProxyKeeper.Toml

/-! ## blanks and comments -/

/-- Carriage returns in front of line feeds do not count. -/
def normalize : List Char → List Char
  | '\r' :: '\n' :: rest => '\n' :: normalize rest
  | c :: rest => c :: normalize rest
  | [] => []

def dropBlanks (s : List Char) : List Char := s.dropWhile isBlank

/-- A comment may hold the last of the control characters, which strings may not. -/
def isCommentChar (c : Char) : Bool := isPlain c || c = '\x7f'

/-- Passes over the rest of a line in which nothing but a comment may stand. -/
def passLineEnd (s : List Char) : Option (List Char) :=
  let s := dropBlanks s
  let s := if s.head? == some '#' then s.dropWhile isCommentChar else s
  match s with
  | [] => some []
  | c :: rest => if c = '\n' then some rest else none

/-- Drops blanks, line ends and comments; `inComment` says that a comment has begun. -/
def dropLines : Bool → List Char → List Char
  | _, [] => []
  | false, c :: rest =>
    if isBlank c || c = '\n' then dropLines false rest
    else if c = '#' then dropLines true rest
    else c :: rest
  | true, c :: rest =>
    if c = '\n' then dropLines false rest
    else if isCommentChar c then dropLines true rest
    else c :: rest

/-! ## keys -/

/-- The largest number of parts of a key, and of arrays and tables around a value. -/
def depthLimit : Nat := 79

def isBareChar (c : Char) : Bool := c.isAlphanum || c = '_' || c = '-'

/-- One part of a key: a string of one line or a bare word. -/
def readKeyPart (s : List Char) : Option (String × List Char) :=
  if s.head? == some '"' || s.head? == some '\'' then readLineString s
  else
    let word := s.takeWhile isBareChar
    if word.isEmpty then none else some (.ofList word, s.dropWhile isBareChar)

/-- The parts of a key of at most so many parts. -/
def readKeyParts : Nat → List Char → Option (List String × List Char)
  | 0, _ => none
  | left + 1, s => do
    let (part, s) ← readKeyPart (dropBlanks s)
    match dropBlanks s with
    | '.' :: rest =>
      let (parts, s) ← readKeyParts left rest
      return (part :: parts, s)
    | s => return ([part], s)

/-- A key: the parts that lead to a table, and the name in it. -/
def readKey (s : List Char) : Option ((List String × String) × List Char) := do
  let (parts, s) ← readKeyParts depthLimit s
  return ((parts.dropLast, ← parts.getLast?), s)

/-! ## values -/

/-- The elements of an array and its end. Every element is at least a character, so `fuel` need not
be more than the length of the text. -/
def readElements (value : List Char → Option (Toml × List Char)) :
    Nat → List Char → Option (List Toml × List Char)
  | 0, _ => none
  | fuel + 1, s =>
    match dropLines false s with
    | ']' :: rest => some ([], rest)
    | s => do
      let (v, s) ← value s
      match dropLines false s with
      | ',' :: rest =>
        let (vs, s) ← readElements value fuel rest
        return (v :: vs, s)
      | ']' :: rest => return ([v], rest)
      | _ => none

/-- A key, the sign behind it and a value. -/
def readPair (value : List Char → Option (Toml × List Char)) (s : List Char) :
    Option ((List String × String × Toml) × List Char) := do
  let ((path, name), s) ← readKey s
  match s with
  | '=' :: rest =>
    let (v, s) ← value (dropBlanks rest)
    return ((path, name, v), s)
  | _ => none

/-- The entries of an inline table, of which there is one at least, and its end. -/
def readEntries (value : List Char → Option (Toml × List Char)) :
    Nat → Entries → List Char → Option (Entries × List Char)
  | 0, _, _ => none
  | fuel + 1, entries, s => do
    let ((path, name, v), s) ← readPair value s
    let entries ← Node.addKey path name v entries
    match dropBlanks s with
    | ',' :: rest => readEntries value fuel entries rest
    | '\x7d' :: rest => return (entries, rest)
    | _ => none

/-- An inline table behind its opening brace. -/
def readInlineTable (value : List Char → Option (Toml × List Char)) (s : List Char) :
    Option (Toml × List Char) :=
  match dropBlanks s with
  | '\x7d' :: rest => some (.table [], rest)
  | s => (readEntries value s.length [] s).map fun (entries, rest) =>
      (.table (Node.tomlEntries entries), rest)

/-- A value around which so many arrays and tables may still be put. -/
def readValue : Nat → List Char → Option (Toml × List Char)
  | depth, s =>
    match s with
    | [] => none
    | c :: rest =>
      if c = '[' ∨ c = '\x7b' then
        match depth with
        | 0 => none
        | depth + 1 =>
          if c = '[' then
            (readElements (readValue depth) (rest.length + 1) rest).map fun (vs, rest) =>
              (.array vs, rest)
          else readInlineTable (readValue depth) rest
      else if c = '"' ∨ c = '\'' then (readString s).map fun (t, rest) => (.text t, rest)
      else
        let (word, rest) := cutWord s
        (readWord word).map fun v => (v, rest)

/-! ## documents -/

/-- The key of a header and its closing brackets. -/
def readHeader (brackets : Nat) (s : List Char) : Option ((List String × String) × List Char) := do
  let (key, s) ← readKey s
  if s.take brackets = List.replicate brackets ']' then
    return (key, ← passLineEnd (s.drop brackets))
  else none

/-- The lines of a document, one expression each; `header` leads to the table in which they stand. -/
def readLines : Nat → List String → Entries → List Char → Option Entries
  | 0, _, _, _ => none
  | fuel + 1, header, root, s =>
    match dropBlanks s with
    | [] => some root
    | '[' :: '[' :: rest => do
      let ((path, name), s) ← readHeader 2 rest
      readLines fuel (path ++ [name]) (← Node.openElement path name root) s
    | '[' :: rest => do
      let ((path, name), s) ← readHeader 1 rest
      readLines fuel (path ++ [name]) (← Node.openTable path name root) s
    | c :: rest =>
      if c = '\n' ∨ c = '#' then do
        readLines fuel header root (← passLineEnd (c :: rest))
      else do
        let ((path, name, v), s) ← readPair (readValue depthLimit) (c :: rest)
        readLines fuel header (← Node.addUnder header path name v root) (← passLineEnd s)

/-- A mark of the byte order may stand at the beginning. -/
def dropMark : List Char → List Char
  | '\ufeff' :: rest => rest
  | s => s

/-- The table that a document is. -/
def read? (text : String) : Option (List (String × Toml)) :=
  let s := normalize (dropMark text.toList)
  (readLines (s.length + 1) [] [] s).map Node.tomlEntries

end ProxyKeeper.Toml
