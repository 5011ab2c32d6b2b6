/-!
Why a text is no URL.
-/

namespace ProxyKeeper.Url

inductive ParseError where
  | emptyHost
  /-- The host is no domain name that can be written in ASCII. -/
  | badDomain
  | badPort
  | badIpv4
  | badIpv6
  | badDomainCharacter
  /-- There is no scheme, and no other URL to which the text could be relative. -/
  | noScheme
  deriving Repr, DecidableEq

def ParseError.message : ParseError → String
  | .emptyHost => "empty host"
  | .badDomain => "invalid international domain name"
  | .badPort => "invalid port number"
  | .badIpv4 => "invalid IPv4 address"
  | .badIpv6 => "invalid IPv6 address"
  | .badDomainCharacter => "invalid domain character"
  | .noScheme => "relative URL without a base"

end ProxyKeeper.Url
