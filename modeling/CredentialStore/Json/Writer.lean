import CredentialStore.Json.Basic
import CredentialStore.Text.Digits

/-!
# Writing JSON

Values without blanks, or with one member or item a line and two blanks for each level.
-/

namespace CredentialStore.Json

open Text

/-- A character between the quotes. -/
def writeChar (c : Char) : List Char :=
  match c with
  | '"' => ['\\', '"']
  | '\\' => ['\\', '\\']
  | '\x08' => ['\\', 'b']
  | '\x0c' => ['\\', 'f']
  | '\n' => ['\\', 'n']
  | '\r' => ['\\', 'r']
  | '\t' => ['\\', 't']
  | c => if c.toNat < 0x20 then '\\' :: 'u' :: lowerHex 4 c.toNat else [c]

/-- A string in quotes. -/
def writeString (s : String) : List Char :=
  '"' :: s.toList.flatMap writeChar ++ ['"']

/-- A whole number. -/
def writeInteger (n : Int) : List Char :=
  if n < 0 then '-' :: decimalDigits n.natAbs else decimalDigits n.natAbs

/-- A value that holds no other. -/
def writeLeaf : Json → List Char
  | .bool true => "true".toList
  | .bool false => "false".toList
  | .integer n => writeInteger n
  | .decimal text => text
  | .string s => writeString s
  | _ => "null".toList

mutual

/-- A value without blanks. -/
def compactChars : Json → List Char
  | .array items => '[' :: compactItems items ++ [']']
  | .object members => '\x7b' :: compactMembers members ++ ['\x7d']
  | j => writeLeaf j

def compactItems : List Json → List Char
  | [] => []
  | [j] => compactChars j
  | j :: rest => compactChars j ++ ',' :: compactItems rest

def compactMembers : List (String × Json) → List Char
  | [] => []
  | [(name, j)] => writeString name ++ ':' :: compactChars j
  | (name, j) :: rest => writeString name ++ ':' :: compactChars j ++ ',' :: compactMembers rest

end

/-- A new line with the blanks of a level. -/
def newLine (level : Nat) : List Char :=
  '\n' :: List.replicate (2 * level) ' '

mutual

/-- A value with one member or item a line. -/
def prettyChars (level : Nat) : Json → List Char
  | .array [] => ['[', ']']
  | .array items => '[' :: prettyItems (level + 1) items ++ newLine level ++ [']']
  | .object [] => ['\x7b', '\x7d']
  | .object members => '\x7b' :: prettyMembers (level + 1) members ++ newLine level ++ ['\x7d']
  | j => writeLeaf j

def prettyItems (level : Nat) : List Json → List Char
  | [] => []
  | [j] => newLine level ++ prettyChars level j
  | j :: rest => newLine level ++ prettyChars level j ++ ',' :: prettyItems level rest

def prettyMembers (level : Nat) : List (String × Json) → List Char
  | [] => []
  | [(name, j)] => newLine level ++ writeString name ++ ':' :: ' ' :: prettyChars level j
  | (name, j) :: rest =>
    newLine level ++ writeString name ++ ':' :: ' ' :: prettyChars level j ++
      ',' :: prettyMembers level rest

end

/-- The text of a value without blanks. -/
def compact (j : Json) : String :=
  String.ofList (compactChars j)

/-- The text of a value with one member or item a line. -/
def pretty (j : Json) : String :=
  String.ofList (prettyChars 0 j)

end CredentialStore.Json
