import CredentialStore.Text.Digits

/-!
# Sets of code points

A property of characters is stored as runs of code points, written in rows of hexadecimal numbers:
`first-last` for a run and `code` for a single code point.
-/

namespace CredentialStore.Unicode

open Text

/-- The code points from `first` to `last`. -/
structure Run where
  first : Nat
  last : Nat
  deriving DecidableEq, Repr

/-- A run as it is written: one code point, or two with a hyphen between them. -/
def Run.read (item : List Char) : Run :=
  match item.splitOn '-' with
  | [a, b] => ⟨ofDigits 16 a, ofDigits 16 b⟩
  | _ => ⟨ofDigits 16 item, ofDigits 16 item⟩

/-- The items of rows, with one blank between two items. -/
def items (rows : List String) : List (List Char) :=
  rows.flatMap fun row => row.toList.splitOn ' '

/-- The set of code points that rows write. -/
def readRuns (rows : List String) : List Run :=
  (items rows).map Run.read

/-- Whether a character is in a set of runs. -/
def mem (runs : List Run) (c : Char) : Bool :=
  runs.any fun r => r.first ≤ c.toNat && c.toNat ≤ r.last

end CredentialStore.Unicode
