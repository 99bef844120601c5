import CredentialStore.Text.Basic
import CredentialStore.Url.Domain
import CredentialStore.Url.Ipv4
import CredentialStore.Url.Ipv6
import CredentialStore.Url.Percent

/-!
# Hosts

The host of a URL of a well-known scheme is a domain name or an address; the host of any other URL
is text that is only percent-encoded.
-/

namespace CredentialStore.Host

open Url

/-- The text of a host in a URL. -/
def text : Host → List Char
  | .name cs => cs
  | .ipv4 address => Ipv4.write address
  | .ipv6 pieces => '[' :: Ipv6.write pieces ++ [']']

/-- Reads an address in brackets, the opening one taken off. -/
def readBracketed (cs : List Char) : Except Url.Error Host :=
  if cs.getLast? = some ']' then (Ipv6.read cs.dropLast).map .ipv6 else .error .invalidIpv6

/-- Reads the host of a URL of a well-known scheme. -/
def read : List Char → Except Url.Error Host
  | '[' :: rest => readBracketed rest
  | cs =>
    match (Text.ofUtf8? (Percent.decode cs)).bind Domain.toAscii? with
    | none => .error .invalidDomainName
    | some domain =>
      if domain.isEmpty then .error .emptyHost
      else if Ipv4.endsInNumber domain then (Ipv4.read domain).map .ipv4
      else .ok (.name domain)

/-- The characters that a host of another scheme cannot hold. -/
def isForbiddenOpaque (c : Char) : Bool :=
  ['\x00', '\t', '\n', '\r', ' ', '#', '/', ':', '<', '>', '?', '@', '[', '\\', ']', '^',
    '|'].contains c

/-- Reads the host of a URL of another scheme. -/
def readOpaque : List Char → Except Url.Error Host
  | '[' :: rest => readBracketed rest
  | cs =>
    if cs.any isForbiddenOpaque then .error .invalidHostCharacter
    else .ok (.name (Percent.encode Percent.isControl cs))

end CredentialStore.Host
