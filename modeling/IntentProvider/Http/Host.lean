import IntentProvider.DomainName.Basic
import IntentProvider.Http.Ipv4
import IntentProvider.Http.Ipv6
import IntentProvider.Text.Glyph
import IntentProvider.Text.Percent

/-!
Hosts of URLs. An address of IPv6 stands in brackets. What else names a host depends on the scheme:
where the scheme is made for hosts, it is a domain name or an address of IPv4, and percent signs are
resolved; elsewhere it is a text that stays as it is.
-/

namespace IntentProvider.Http

open IntentProvider.Text

/-- A host. -/
inductive Host where
  /-- A domain name, a text that names the host in another way, or none if it is empty. -/
  | name (text : List Char)
  | ipv4 (address : UInt32)
  | ipv6 (groups : List UInt16)
  deriving DecidableEq, Repr

namespace Host

/-- A character that no name of a host has. -/
def isForbidden (c : Char) : Bool :=
  [Char.ofNat 0, '\t', '\n', '\r', ' ', '#', '/', ':', '<', '>', '?', '@', '[', '\\', ']', '^',
    '|'].contains c

/-- A control character of ASCII but for the last one. -/
def isControl (c : Char) : Bool :=
  c.toNat < 0x20

/-- The host of a scheme that is made for hosts. -/
def ofDomain? (cs : List Char) : Option Host := do
  let name ← DomainName.toAscii? (← Glyph.text? (Glyph.ofBytes (Percent.decode cs)))
  if name.isEmpty then none
  else if Ipv4.endsInNumber name then (Ipv4.read? name).map ipv4
  else some (.name name)

/-- The host of another scheme. -/
def ofText? (cs : List Char) : Option Host :=
  if cs.any isForbidden then none else some (.name (Percent.encode isControl cs))

/-- The host that a text names, where the scheme is made for hosts or not. -/
def read? (isHosted : Bool) (cs : List Char) : Option Host :=
  match cs with
  | '[' :: inner =>
    if inner.getLast? = some ']' then (Ipv6.read? inner.dropLast).map ipv6 else none
  | _ => if isHosted then ofDomain? cs else ofText? cs

/-- The text of a host. -/
def text : Host → List Char
  | name cs => cs
  | ipv4 a => Ipv4.text a
  | ipv6 gs => '[' :: Ipv6.text gs ++ [']']

/-- Whether a host is none. -/
def isNone (h : Host) : Bool :=
  h == name []

end Host

end IntentProvider.Http
