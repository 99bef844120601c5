import CredentialStore.Text.Digits
import CredentialStore.Url.Basic

/-!
# IPv4 addresses in host names

A host whose last label is a number is an address. A number may be decimal, octal (`0…`) or
hexadecimal (`0x…`), and the last one fills all the bytes that the others leave.
-/

namespace CredentialStore.Url.Ipv4

open Text

/-- The digits of a number in their base, or `none` where a character is no digit of it. -/
def digitsIn (base : Nat) (ds : List Char) : Option Nat :=
  if ds.all (isDigitIn base) then some (ofDigits base ds) else none

/-- One part of an address. -/
def number : List Char → Option Nat
  | [] => none
  | '0' :: 'x' :: ds | '0' :: 'X' :: ds => digitsIn 16 ds
  | ['0'] => some 0
  | '0' :: ds => digitsIn 8 ds
  | ds => digitsIn 10 ds

/-- The labels of a host name, without the empty one after a final dot. -/
def labels (host : List Char) : List (List Char) :=
  let parts := host.splitOn '.'
  if parts.getLast? = some [] then parts.dropLast else parts

/-- A host whose last label is all digits, or reads as a number, is meant as an address. -/
def endsInNumber (host : List Char) : Bool :=
  match (labels host).getLast? with
  | none => false
  | some last => (!last.isEmpty && last.all (isDigitIn 10)) || (number last).isSome

/-- The address that one to four numbers spell: each number but the last is one byte, and the last
one fills the bytes that are left. -/
def combine (numbers : List Nat) : Option Nat :=
  match numbers.reverse with
  | [] => none
  | last :: rest =>
    if rest.length ≤ 3 ∧ rest.all (· ≤ 255) ∧ last < Nat.pow 256 (4 - rest.length) then
      some (rest.reverse.foldl (fun acc n => acc * 256 + n) 0 * Nat.pow 256 (4 - rest.length) + last)
    else none

/-- Reads a host that is meant as an address. -/
def read (host : List Char) : Except Error Nat :=
  match (labels host).mapM number with
  | none => .error .invalidIpv4
  | some numbers =>
    match combine numbers with
    | none => .error .invalidIpv4
    | some a => .ok a

/-- Four decimal numbers with dots between them. -/
def write (address : Nat) : List Char :=
  ['.'].intercalate <| [16777216, 65536, 256, 1].map fun weight =>
    decimalDigits (address / weight % 256)

end CredentialStore.Url.Ipv4
