/-!
# URLs

What reading a URL yields: the scheme, the host, the port where it is not the scheme's own, and the
path of a hierarchical URL as a list of segments. User information, query and fragment are read and
dropped, since a server is the same server without them.
-/

namespace CredentialStore.Url

/-- Why a text is not a URL. -/
inductive Error where
  | relativeWithoutBase
  | emptyHost
  | invalidPort
  | invalidDomainName
  | invalidHostCharacter
  | invalidIpv4
  | invalidIpv6
  deriving DecidableEq, Repr

/-- The wording of a reading error. -/
def Error.message : Error → String
  | .relativeWithoutBase => "relative URL without a base"
  | .emptyHost => "empty host"
  | .invalidPort => "invalid port number"
  | .invalidDomainName => "invalid international domain name"
  | .invalidHostCharacter => "invalid domain character"
  | .invalidIpv4 => "invalid IPv4 address"
  | .invalidIpv6 => "invalid IPv6 address"

end CredentialStore.Url

namespace CredentialStore

/-- The host of a URL: a name in its ASCII form, or an address. -/
inductive Host where
  | name (text : List Char)
  | ipv4 (address : Nat)
  | ipv6 (pieces : List Nat)
  deriving DecidableEq, Repr

/-- A URL without user information, query and fragment. -/
structure Url where
  scheme : List Char
  host : Option Host
  /-- Absent when it is the default port of the scheme. -/
  port : Option Nat
  /-- The segments of a hierarchical path, percent-encoded; a path that is one opaque text has none.
  -/
  path : List (List Char)
  deriving DecidableEq, Repr

end CredentialStore
