import ProxyKeeper.Idna.Mapping
import ProxyKeeper.Idna.Composition
import ProxyKeeper.Idna.Properties
import ProxyKeeper.Idna.Punycode

/-!
The labels of a domain name: what may stand in one, and how one is written in ASCII.
-/

namespace ProxyKeeper.Idna

/-! ## joiners -/

def nonJoiner : Char := '\u200c'

def joiner : Char := '\u200d'

/-- The combining class of the sign that takes a vowel away. -/
def viramaClass : Nat := 9

/-- Whether a letter on the one side joins over this place to one on the other. -/
def joinsOver (before after : List Char) : Bool :=
  let near (side : List Char) : Option Char := (side.dropWhile joinsThrough.contains).head?
  (near before).any joinsLeft.contains && (near after).any joinsRight.contains

/-- A joiner stands behind a virama; a non-joiner may also part letters that would join. `before` are
the characters in front, the last one first. -/
def checkJoiners : List Char → List Char → Bool
  | _, [] => true
  | before, c :: rest =>
    let behindVirama := before.head?.any fun b => combiningClass b = viramaClass
    let good :=
      if c = nonJoiner then behindVirama || joinsOver before rest
      else if c = joiner then behindVirama
      else true
    good && checkJoiners (c :: before) rest

/-! ## direction -/

def directionOf (c : Char) : Direction :=
  ((directionTable.find? fun (_, ranges) => ranges.contains c).map (·.1)).getD .left

/-- Whether a label has characters that are written from right to left. -/
def isRightward (label : List Char) : Bool :=
  label.any fun c => [.right, .arabic, .arabicNumber].contains (directionOf c)

/-- What may stand in labels of both directions. -/
def isShared (d : Direction) : Bool :=
  [.europeanNumber, .separator, .common, .terminator, .neutral, .boundary, .mark].contains d

/-- The rule for labels in a name of which one is written from right to left. -/
def checkDirection (label : List Char) : Bool :=
  let classes := label.map directionOf
  let last := (classes.reverse.dropWhile (· == .mark)).head?
  match classes with
  | [] => true
  | .left :: _ =>
    classes.all (fun d => d == .left || isShared d)
      && last.any fun d => d == .left || d == .europeanNumber
  | first :: _ =>
    (first == .right || first == .arabic)
      && classes.all (fun d => [.right, .arabic, .arabicNumber].contains d || isShared d)
      && last.any (fun d => [.right, .arabic, .europeanNumber, .arabicNumber].contains d)
      && !(classes.contains .europeanNumber && classes.contains .arabicNumber)

/-! ## labels -/

/-- What an encoded label has in front. -/
def encodedPrefix : List Char := ['x', 'n', '-', '-']

/-- What may stand in a label that is not of ASCII alone: no mark in front, no joiner in a wrong
place. -/
def isWellFormed (label : List Char) : Bool :=
  !label.head?.any marks.contains && checkJoiners [] label

/-- The longest label that is encoded, and the longest that is decoded. -/
def encodeLimit : Nat := 1000
def decodeLimit : Nat := 2000

/-- A label as it reads: one that is encoded must be decoded to what would be encoded so. -/
def readable? (label : List Char) : Option (List Char) :=
  if encodedPrefix.isPrefixOf label then do
    let code := label.drop encodedPrefix.length
    if decodeLimit < code.length then none
    let text ← Punycode.decode? code
    if text.all Punycode.isBasic then none
    if text.all isKept && normalize text == text && isWellFormed text then some text else none
  else if label.all Punycode.isBasic then some label
  else if isWellFormed label then some label
  else none

/-- A label in ASCII. -/
def written? (label : List Char) : Option (List Char) :=
  if label.all Punycode.isBasic then some label
  else if encodeLimit < label.length then none
  else some (encodedPrefix ++ Punycode.encode label)

end ProxyKeeper.Idna
