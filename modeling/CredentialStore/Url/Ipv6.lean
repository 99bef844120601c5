import CredentialStore.Text.Digits
import CredentialStore.Url.Basic

/-!
# IPv6 addresses

Eight pieces of sixteen bits. In writing, `::` stands once for one or more zero pieces, and the last
two pieces may be written as an IPv4 address. The written form has small letters, no leading zeros,
and `::` for the first of the longest runs of at least two zero pieces.
-/

namespace CredentialStore.Url.Ipv6

open Text

/-- One to four hexadecimal digits. -/
def piece (ds : List Char) : Option Nat :=
  if 1 ≤ ds.length ∧ ds.length ≤ 4 ∧ ds.all (isDigitIn 16) then some (ofDigits 16 ds) else none

/-- A decimal number up to 255 without leading zeros. -/
def byte (ds : List Char) : Option Nat :=
  if ds.all (isDigitIn 10) ∧ (ds.head? ≠ some '0' ∨ ds.length = 1) ∧ ds ≠ [] ∧ ds.length ≤ 3 ∧
      ofDigits 10 ds ≤ 255 then
    some (ofDigits 10 ds)
  else none

/-- The two pieces that an embedded IPv4 address gives. -/
def embeddedIpv4 (text : List Char) : Option (List Nat) :=
  match (text.splitOn '.').mapM byte with
  | some [a, b, c, d] => some [a * 256 + b, c * 256 + d]
  | _ => none

/-- Pieces separated by single colons; only the last may be an IPv4 address, where that is allowed.
-/
def pieces (allowIpv4 : Bool) : List (List Char) → Option (List Nat)
  | [] => some []
  | [last] =>
    if allowIpv4 ∧ last.contains '.' then embeddedIpv4 last else (piece last).map ([·])
  | ds :: rest => do
    let p ← piece ds
    let ps ← pieces allowIpv4 rest
    return p :: ps

/-- The text before and after the first `::`. -/
def splitGap : List Char → Option (List Char × List Char)
  | ':' :: ':' :: rest => some ([], rest)
  | c :: rest => (splitGap rest).map fun (before, after) => (c :: before, after)
  | [] => none

/-- The parts between single colons; an empty text has none. -/
def parts (text : List Char) : List (List Char) :=
  if text = [] then [] else text.splitOn ':'

/-- Reads the text between the brackets. -/
def read (text : List Char) : Except Error (List Nat) :=
  match splitGap text with
  | none =>
    match pieces true (parts text) with
    | some ps => if ps.length = 8 then .ok ps else .error .invalidIpv6
    | none => .error .invalidIpv6
  | some (before, after) =>
    match pieces false (parts before), pieces true (parts after) with
    | some ps, some qs =>
      if ps.length + qs.length ≤ 7 then
        .ok (ps ++ List.replicate (8 - ps.length - qs.length) 0 ++ qs)
      else .error .invalidIpv6
    | _, _ => .error .invalidIpv6

/-! ## Writing -/

/-- The number of zero pieces at the start. -/
def zeros (ps : List Nat) : Nat :=
  (ps.takeWhile (· == 0)).length

/-- Where the longest run of zero pieces starts and how long it is; the first one on a tie. -/
def longestZeros : List Nat → Nat × Nat
  | [] => (0, 0)
  | p :: ps =>
    let (start, len) := longestZeros ps
    let here := zeros (p :: ps)
    if len ≤ here then (0, here) else (start + 1, len)

/-- Pieces in hexadecimal with colons between them. -/
def writePieces (ps : List Nat) : List Char :=
  [':'].intercalate (ps.map hexDigits)

/-- The written form, without brackets. -/
def write (ps : List Nat) : List Char :=
  let (start, len) := longestZeros ps
  if 2 ≤ len then
    writePieces (ps.take start) ++ [':', ':'] ++ writePieces (ps.drop (start + len))
  else writePieces ps

end CredentialStore.Url.Ipv6
