import CredentialStore.Text.Digits
import CredentialStore.Toml.Text

/-!
# Writing TOML

A document of strings and whole numbers: values at the front, then one table after the other, each
under a header and separated from what comes before by an empty line.
-/

namespace CredentialStore.Toml

/-- A value that is written. -/
inductive Leaf where
  | text (s : String)
  | number (n : Nat)
  deriving DecidableEq, Repr

/-- A value. -/
def Leaf.write : Leaf → List Char
  | .text s => writeString s.toList
  | .number n => Text.decimalDigits n

/-- A key and its value on a line. -/
def writeLine (entry : String × Leaf) : List Char :=
  writeKey entry.1.toList ++ " = ".toList ++ entry.2.write ++ ['\n']

/-- A header on a line. -/
def writeHeader (path : List String) : List Char :=
  '[' :: ['.'].intercalate (path.map fun key => writeKey key.toList) ++ [']', '\n']

/-- A table under its header. -/
def writeTable (path : List String) (entries : List (String × Leaf)) : List Char :=
  writeHeader path ++ entries.flatMap writeLine

/-- Parts with empty lines between them. -/
def writeParts (parts : List (List Char)) : String :=
  String.ofList (['\n'].intercalate parts)

end CredentialStore.Toml
