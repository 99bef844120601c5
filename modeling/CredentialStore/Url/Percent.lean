import CredentialStore.Text.Basic
import CredentialStore.Text.Digits

/-!
# Percent-encoding

A byte is written as `%` and two hexadecimal digits. Writing leaves the `%` of an existing escape
alone, so an encoded path is its own encoding. Main statement: `encode_of_plain` (a text without
characters to escape is kept).
-/

namespace CredentialStore.Url.Percent

open Text

/-- Everything but the printable ASCII characters. -/
def isControl (c : Char) : Bool :=
  c.toNat < 0x20 || 0x7E < c.toNat

/-- The characters that a path segment cannot hold as they are. -/
def isPathSpecial (c : Char) : Bool :=
  isControl c || [' ', '"', '#', '<', '>', '?', '\x60', '\x7b', '\x7d'].contains c

/-- The escape of one byte. -/
def escapeByte (b : UInt8) : List Char :=
  '%' :: upperHex 2 b.toNat

/-- Writes a text with the characters of a class as escapes of their UTF-8 bytes. -/
def encode (special : Char → Bool) (cs : List Char) : List Char :=
  cs.flatMap fun c => if special c then (utf8 [c]).flatMap escapeByte else [c]

/-- Reads escapes into bytes; every other character gives its UTF-8 bytes, also a `%` that does not
start an escape. -/
def decode : List Char → List UInt8
  | [] => []
  | '%' :: a :: b :: rest =>
    if isDigitIn 16 a && isDigitIn 16 b then
      UInt8.ofNat (digitValue a * 16 + digitValue b) :: decode rest
    else utf8 ['%'] ++ decode (a :: b :: rest)
  | c :: rest => utf8 [c] ++ decode rest

/-- A text without characters to escape is kept. -/
theorem encode_of_plain {special : Char → Bool} {cs : List Char}
    (h : ∀ c ∈ cs, special c = false) : encode special cs = cs := by
  induction cs with
  | nil => rfl
  | cons c r ih =>
    have hc := h c (by simp)
    have hr := ih fun x hx => h x (by simp [hx])
    rw [encode] at hr ⊢
    rw [List.flatMap_cons, hr, hc]
    rfl

end CredentialStore.Url.Percent
