import CredentialStore.Guid.Sha1
import CredentialStore.Text.Basic
import CredentialStore.Text.Digits

/-!
# Identifiers

The identifiers that the library makes: sixteen bytes, random ones or ones that a name determines,
written in five groups of hexadecimal digits. Stored identifiers may be any text.
-/

namespace CredentialStore.Guid

open Text

/-- Sixteen bytes with the version in the upper half of the seventh and the variant in the upper
bits of the ninth. -/
def stamp (version : Nat) (bytes : List UInt8) : List UInt8 :=
  (bytes.modify 6 fun b => UInt8.ofNat (version * 16 + b.toNat % 16)).modify 8 fun b =>
    UInt8.ofNat (128 + b.toNat % 64)

/-- Groups of eight, four, four, four and twelve digits with hyphens between them. -/
def write (bytes : List UInt8) : String :=
  let digits := bytes.flatMap fun b => lowerHex 2 b.toNat
  let group (start count : Nat) : List Char := (digits.drop start).take count
  String.ofList <| ['-'].intercalate [group 0 8, group 8 4, group 12 4, group 16 4, group 20 12]

/-- The identifier made from sixteen random bytes: `new_v4`. -/
def ofRandom (bytes : List UInt8) : String :=
  write (stamp 4 bytes)

/-- The name space of the identifiers that names determine: `NAMESPACE_OID`. -/
def nameSpace : List UInt8 :=
  [0x6B, 0xA7, 0xB8, 0x12, 0x9D, 0xAD, 0x11, 0xD1, 0x80, 0xB4, 0x00, 0xC0, 0x4F, 0xD4, 0x30, 0xC8]

/-- The identifier that a name determines: `new_v5`. -/
def ofName (name : String) : String :=
  write (stamp 5 ((Sha1.digest (nameSpace ++ utf8 name.toList)).take 16))

end CredentialStore.Guid
