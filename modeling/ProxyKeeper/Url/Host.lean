import ProxyKeeper.Net.Ip
import ProxyKeeper.Url.Domain
import ProxyKeeper.Url.Error
import ProxyKeeper.Url.Percent

/-!
Hosts of URLs. In a special scheme a host is a domain name or an IP address, and a name that ends
in a number must be an IPv4 address; in any other scheme it is a text that is not looked into.
-/

namespace ProxyKeeper.Url

open Text Net

inductive Host where
  | domain (name : String)
  | ipv4 (ip : Ipv4)
  | ipv6 (ip : Ipv6)
  deriving Repr, DecidableEq, BEq

namespace Host

def render : Host → String
  | .domain name => name
  | .ipv4 ip => ip.render
  | .ipv6 ip => "[" ++ ip.compressed ++ "]"

/-! ## numbers in place of names -/

/-- A number between the dots of a host. -/
inductive Part where
  | value (n : Nat)
  /-- A number of 2^32 or more. -/
  | tooLarge

/-- A number in decimal, with a zero in front in octal, with `0x` in front in hexadecimal. -/
def number? (s : List Char) : Option Part :=
  let digits (base : Nat) (s : List Char) : Option Part :=
    if s.isEmpty then some (.value 0)
    else (readDigits base s).map fun n => if n < UInt32.size then .value n else .tooLarge
  match s with
  | [] => none
  | '0' :: 'x' :: rest => digits 16 rest
  | '0' :: 'X' :: rest => digits 16 rest
  | '0' :: c :: rest => digits 8 (c :: rest)
  | s => digits 10 s

/-- The parts of a host between its dots, but for an empty last one. -/
def parts (s : List Char) : List (List Char) :=
  let all := splitAt '.' s
  if 1 < all.length && all.getLast? == some [] then all.dropLast else all

def endsInNumber (s : List Char) : Bool :=
  match (parts s).getLast? with
  | none => false
  | some last => (!last.isEmpty && last.all Char.isDigit) || (number? last).isSome

/-- The numbers of the parts, none if one is no number or too large. -/
def numbers? (parts : List (List Char)) : Option (List Nat) :=
  parts.mapM fun p =>
    match number? p with
    | some (.value n) => some n
    | _ => none

/-- An address of up to four numbers, of which the last fills what the others leave. -/
def ipv4? (s : List Char) : Option Ipv4 := do
  let parts := parts s
  if 4 < parts.length then none
  let numbers ← numbers? parts
  let last ← numbers.getLast?
  let front := numbers.dropLast
  if Nat.pow 256 (4 - front.length) ≤ last || front.any (255 < ·) then none
  let high := front.zipIdx.foldl (fun sum (n, i) => sum + n * Nat.pow 256 (3 - i)) 0
  return .ofNat (high + last)

/-! ## reading -/

/-- An IPv6 address from behind its opening bracket. -/
def bracketed (s : List Char) : Except ParseError Host :=
  if s.getLast? == some ']' then
    match Ipv6.parse? s.dropLast with
    | some ip => .ok (.ipv6 ip)
    | none => .error .badIpv6
  else .error .badIpv6

/-- The host of a URL with a special scheme. -/
def special (s : List Char) : Except ParseError Host :=
  match s with
  | '[' :: rest => bracketed rest
  | _ =>
    match String.fromUTF8? ⟨(percentDecode s).toArray⟩ with
    | none => .error .badDomain
    | some decoded =>
      match Domain.toAscii? decoded.toList with
      | none => .error .badDomain
      | some name =>
        if name.isEmpty then .error .emptyHost
        else if endsInNumber name then
          match ipv4? name with
          | some ip => .ok (.ipv4 ip)
          | none => .error .badIpv4
        else .ok (.domain (.ofList name))

/-- Characters that no host may hold as they are. -/
def isForbidden (c : Char) : Bool := c = '\x00' || isIn "\t\n\r #/:<>?@[\\]^|" c

/-- The host of a URL with another scheme. -/
def opaqueHost (s : List Char) : Except ParseError Host :=
  match s with
  | '[' :: rest => bracketed rest
  | _ =>
    if s.any isForbidden then .error .badDomainCharacter
    else .ok (.domain (.ofList (percentEncode isControl s)))

end Host

end ProxyKeeper.Url
