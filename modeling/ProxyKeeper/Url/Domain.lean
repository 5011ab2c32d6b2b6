import ProxyKeeper.Idna.Label

/-!
Domain names in URLs. A name may be in any script; it is mapped, composed and written in ASCII.
-/

namespace ProxyKeeper.Url.Domain

/-- The ASCII characters that no domain name holds. -/
def isDenied (c : Char) : Bool :=
  c.toNat ≤ 0x20 || c.toNat = 0x7F || "%#/:<>?@[\\]^|".toList.contains c

/-- The name in ASCII, if it is a name. -/
def toAscii? (s : List Char) : Option (List Char) := do
  let name := Idna.normalize (← Idna.map? s)
  if name.any isDenied then none
  let labels := Text.splitAt '.' name
  let readable ← labels.mapM Idna.readable?
  if readable.any Idna.isRightward && !readable.all Idna.checkDirection then none
  let written ← labels.mapM Idna.written?
  return ['.'].intercalate written

end ProxyKeeper.Url.Domain
