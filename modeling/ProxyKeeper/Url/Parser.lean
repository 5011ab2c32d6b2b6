import ProxyKeeper.Url.Basic

/-!
Reading URLs. Blanks and control characters around the text and tabs and line ends inside it do not
count. What follows the scheme is read from left to right: user information, host, port, path,
query, fragment; each step returns what is left of the text.
-/

namespace ProxyKeeper.Url

open Text

/-! ## scheme -/

/-- The text that counts: nothing up to the space at its ends, no tabs and line ends. -/
def cleaned (s : List Char) : List Char :=
  let trimmed := (((s.dropWhile (· ≤ ' ')).reverse).dropWhile (· ≤ ' ')).reverse
  trimmed.filter fun c => c ≠ '\t' && c ≠ '\n' && c ≠ '\r'

def isSchemeChar (c : Char) : Bool := c.isAlphanum || c = '+' || c = '-' || c = '.'

/-- The scheme in lower case and what follows its colon. -/
def scheme? (s : List Char) : Option (String × List Char) :=
  match s with
  | [] => none
  | first :: _ =>
    if !first.isAlpha then none
    else
      match s.dropWhile isSchemeChar with
      | ':' :: rest => some (.ofList ((s.takeWhile isSchemeChar).map Char.toLower), rest)
      | _ => none

/-! ## path, query and fragment -/

/-- Whether a segment stands for its own directory, however its dot is written. -/
def isDot (s : String) : Bool := s = "." || s.toLower = "%2e"

/-- Whether a segment stands for the directory above. -/
def isDotDot (s : String) : Bool :=
  s = ".." || [".%2e", "%2e.", "%2e%2e"].contains s.toLower

def isDriveLetter (s : String) : Bool :=
  match s.toList with
  | [c, x] => c.isAlpha && (x = ':' || x = '|')
  | _ => false

def isNormalDriveLetter (s : String) : Bool :=
  match s.toList with
  | [c, ':'] => c.isAlpha
  | _ => false

/-- The path without its last segment; a drive at the root of a file path stays. -/
def shorten (kind : SchemeKind) (path : List String) : List String :=
  match kind, path with
  | .file, [drive] => if isNormalDriveLetter drive then path else []
  | _, _ => path.dropLast

/-- A drive at the root of a file path is written with a colon. -/
def normalDrive (kind : SchemeKind) (path : List String) (segment : String) : String :=
  if kind = .file && path.isEmpty && isDriveLetter segment then
    .ofList (segment.toList.take 1 ++ [':'])
  else segment

/-- Resolves segments one after the other against the path so far. -/
def resolve (kind : SchemeKind) : List String → List String → List String
  | [], path => path
  | segment :: rest, path =>
    let atEnd := if rest.isEmpty then [""] else []
    if isDotDot segment then resolve kind rest (shorten kind path ++ atEnd)
    else if isDot segment then resolve kind rest (path ++ atEnd)
    else resolve kind rest (path ++ [normalDrive kind path segment])

/-- The segments of the path text in front of a query or fragment. -/
def pathSegments (kind : SchemeKind) (text : List Char) : List String :=
  let isSlash (c : Char) : Bool := c = '/' || (kind.isSpecial && c = '\\')
  let relative :=
    match text with
    | c :: rest => if isSlash c then rest else text
    | [] => []
  let given := (splitBy isSlash relative).map fun s => String.ofList (percentEncode pathSet s)
  let resolved := resolve kind given []
  if kind = .file then
    match resolved.dropWhile (·.isEmpty) with
    | [] => [""]
    | names => names
  else resolved

def endsPath (c : Char) : Bool := c = '?' || c = '#'

/-- The query and the fragment at the end of a URL. -/
def queryAndFragment (kind : SchemeKind) (s : List Char) : Option String × Option String :=
  let fragmentOf (s : List Char) : Option String := some (.ofList (percentEncode fragmentSet s))
  match s with
  | '?' :: rest =>
    let encoded :=
      percentEncode (if kind.isSpecial then specialQuerySet else querySet) (rest.takeWhile (· ≠ '#'))
    match rest.dropWhile (· ≠ '#') with
    | [] => (some (.ofList encoded), none)
    | _ :: fragment => (some (.ofList encoded), fragmentOf fragment)
  | '#' :: rest => (none, fragmentOf rest)
  | _ => (none, none)

/-! ## authority -/

def endsAuthority (kind : SchemeKind) (c : Char) : Bool :=
  c = '/' || c = '?' || c = '#' || (kind.isSpecial && c = '\\')

/-- The text in front of the last `@` and what follows it. -/
def cutLastAt (s : List Char) : Option (List Char × List Char) :=
  (cutAt '@' s.reverse).map fun (behind, front) => (front.reverse, behind.reverse)

/-- User name, password and the text from the host on. -/
def userinfo (kind : SchemeKind) (s : List Char) :
    Except ParseError (String × String × List Char) :=
  let authority := s.takeWhile fun c => !endsAuthority kind c
  let rest := s.dropWhile fun c => !endsAuthority kind c
  match cutLastAt authority with
  | none => .ok ("", "", s)
  | some ([], host) =>
    if host.isEmpty && !rest.isEmpty then .error .emptyHost else .ok ("", "", host ++ rest)
  | some (user, host) =>
    let (name, password) := (cutAt ':' user).getD (user, [])
    .ok (.ofList (percentEncode userinfoSet name), .ofList (percentEncode userinfoSet password),
      host ++ rest)

/-- The text of a host: up to a colon outside of brackets or the end of the authority. -/
def hostText (kind : SchemeKind) : Bool → List Char → List Char × List Char
  | _, [] => ([], [])
  | inBrackets, c :: rest =>
    if endsAuthority kind c || (c = ':' && !inBrackets) then ([], c :: rest)
    else
      let (host, left) := hostText kind ((inBrackets || c = '[') && c ≠ ']') rest
      (c :: host, left)

/-- A port and what follows it; the default port of the scheme counts as none. -/
def readPort (scheme : String) (s : List Char) : Except ParseError (Option UInt16 × List Char) :=
  let digits := s.takeWhile Char.isDigit
  let rest := s.dropWhile Char.isDigit
  if rest.head?.all fun c => c = '/' || c = '\\' || c = '?' || c = '#' then
    if digits.isEmpty then .ok (none, rest)
    else
      match readDecimal UInt16.size digits with
      | none => .error .badPort
      | some n => .ok (if defaultPort? scheme = some n.toUInt16 then none else some n.toUInt16, rest)
  else .error .badPort

/-- The path of a URL with a host: empty only in a scheme that is not special. -/
def pathBehindHost (kind : SchemeKind) (text : List Char) : Path :=
  if text.isEmpty && !kind.isSpecial then .segments [] else .segments (pathSegments kind text)

/-- A URL from behind the two slashes that announce a host. -/
def withAuthority (scheme : String) (kind : SchemeKind) (s : List Char) : Except ParseError Url := do
  let (username, password, s) ← userinfo kind s
  let (text, s) := hostText kind false s
  if kind.isSpecial && text.isEmpty then throw .emptyHost
  let host ← if kind.isSpecial then Host.special text else Host.opaqueHost text
  let isEmpty := host = .domain ""
  let (port, s) ←
    match s with
    | ':' :: digits => if isEmpty then throw .emptyHost else readPort scheme digits
    | s => pure (none, s)
  if isEmpty && !(username.isEmpty && password.isEmpty) then throw .emptyHost
  let path := pathBehindHost kind (s.takeWhile fun c => !endsPath c)
  let (query, fragment) := queryAndFragment kind (s.dropWhile fun c => !endsPath c)
  return ⟨scheme, username, password, some host, port, path, query, fragment⟩

/-! ## the three families of schemes -/

/-- A URL of a scheme that is not special. -/
def other (scheme : String) (s : List Char) : Except ParseError Url :=
  match s with
  | '/' :: '/' :: rest => withAuthority scheme .other rest
  | _ =>
    let text := s.takeWhile fun c => !endsPath c
    let (query, fragment) := queryAndFragment .other (s.dropWhile fun c => !endsPath c)
    let path :=
      match text with
      | '/' :: _ => .segments (pathSegments .other text)
      | _ => .flat (.ofList (percentEncode isControl text))
    .ok ⟨scheme, "", "", none, none, path, query, fragment⟩

def isFileSlash (c : Char) : Bool := c = '/' || c = '\\'

/-- The host and the path of a file URL. A drive letter in the place of the host belongs to the
path, and so does a host in front of a drive. -/
def fileHost (s : List Char) : Except ParseError (Host × List Char) :=
  match s with
  | a :: b :: rest =>
    if isFileSlash a && isFileSlash b then
      let text := rest.takeWhile fun c => !(isFileSlash c || endsPath c)
      let left := rest.dropWhile fun c => !(isFileSlash c || endsPath c)
      if isDriveLetter (.ofList text) then .ok (.domain "", rest)
      else if text.isEmpty then .ok (.domain "", left)
      else
        match Host.special text with
        | .error e => .error e
        | .ok (.domain "localhost") => .ok (.domain "", left)
        | .ok host => .ok (host, left)
    else .ok (.domain "", s)
  | _ => .ok (.domain "", s)

/-- A URL of the scheme `file`. -/
def file (s : List Char) : Except ParseError Url := do
  let (host, s) ← fileHost s
  let names := pathSegments .file (s.takeWhile fun c => !endsPath c)
  let host := if names.head?.any isNormalDriveLetter then .domain "" else host
  let (query, fragment) := queryAndFragment .file (s.dropWhile fun c => !endsPath c)
  return ⟨"file", "", "", some host, none, .segments names, query, fragment⟩

/-- The URL that a text stands for. -/
def parse (text : String) : Except ParseError Url :=
  match scheme? (cleaned text.toList) with
  | none => .error .noScheme
  | some (scheme, rest) =>
    match schemeKind scheme with
    | .file => file rest
    | .special => withAuthority scheme .special (rest.dropWhile isFileSlash)
    | .other => other scheme rest

end ProxyKeeper.Url
