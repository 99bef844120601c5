import CredentialStore.Text.Digits
import CredentialStore.Toml.Characters

/-!
# Strings of TOML

Four forms: in single or in triple quotes, with escapes (double quotes) or without (apostrophes). A
written string takes the plainest form that can hold it, and escapes only where there is no other
way.
-/

namespace CredentialStore.Toml

open Text

/-! ## Reading -/

/-- The character that an escape of one letter stands for. -/
def escaped? : Char → Option Char
  | 'b' => some '\x08'
  | 't' => some '\t'
  | 'n' => some '\n'
  | 'f' => some '\x0c'
  | 'r' => some '\r'
  | '"' => some '"'
  | '\\' => some '\\'
  | _ => none

/-- The character with a code in hexadecimal digits. -/
def ofCode? (digits : List Char) : Option Char :=
  let n := ofDigits 16 digits
  if digits.all (isDigitIn 16) ∧ n.isValidChar then some (Char.ofNat n) else none

/-- The character of an escape, and the text behind it. -/
def readEscape : List Char → Option (Char × List Char)
  | 'u' :: a :: b :: c :: d :: rest => (ofCode? [a, b, c, d]).map fun x => (x, rest)
  | 'U' :: a :: b :: c :: d :: e :: f :: g :: h :: rest =>
    (ofCode? [a, b, c, d, e, f, g, h]).map fun x => (x, rest)
  | e :: rest => (escaped? e).map fun x => (x, rest)
  | [] => none

theorem readEscape_length {cs rest : List Char} {c : Char} (h : readEscape cs = some (c, rest)) :
    rest.length < cs.length := by
  unfold readEscape at h
  split at h <;> simp only [Option.map_eq_some_iff, Prod.mk.injEq, reduceCtorEq] at h <;>
    (obtain ⟨_, -, -, rfl⟩ := h; simp only [List.length_cons]; omega)

/-- A string in double quotes, the opening one taken off. -/
def readBasic : List Char → Option (List Char × List Char)
  | [] => none
  | '"' :: rest => some ([], rest)
  | c :: rest =>
    if c = '\\' then
      match _h : readEscape rest with
      | some (x, rest') => (readBasic rest').map fun (s, rest) => (x :: s, rest)
      | none => none
    else if isText c then (readBasic rest).map fun (s, rest) => (c :: s, rest)
    else none
termination_by cs => cs.length
decreasing_by
  · have := readEscape_length ‹_›
    simp only [List.length_cons]
    omega
  · simp only [List.length_cons]
    omega

/-- A string in apostrophes, the opening one taken off. -/
def readLiteral : List Char → Option (List Char × List Char)
  | [] => none
  | '\'' :: rest => some ([], rest)
  | c :: rest => if isText c then (readLiteral rest).map fun (s, rest) => (c :: s, rest) else none

/-- Up to two more quotes behind three of them belong to the string. -/
def readLastQuotes (quote : Char) : List Char → List Char × List Char
  | a :: b :: rest =>
    if a = quote then
      if b = quote then ([a, b], rest) else ([a], b :: rest)
    else ([], a :: b :: rest)
  | [a] => if a = quote then ([a], []) else ([], [a])
  | [] => ([], [])

/-- The text behind a backslash at the end of a line: blanks, a line end, and all blanks and line
ends that follow. -/
def dropContinuation? (cs : List Char) : Option (List Char) :=
  let rest := dropBlanks cs
  match rest with
  | '\n' :: _ | '\r' :: '\n' :: _ => dropEnds rest
  | _ => none
where
  dropEnds : List Char → Option (List Char)
    | '\n' :: rest => dropEnds rest
    | '\r' :: '\n' :: rest => dropEnds rest
    | c :: rest => if isBlank c then dropEnds rest else some (c :: rest)
    | [] => some []

theorem dropBlanks_length (cs : List Char) : (dropBlanks cs).length ≤ cs.length :=
  (List.dropWhile_sublist isBlank).length_le

theorem dropEnds_length {cs rest : List Char} (h : dropContinuation?.dropEnds cs = some rest) :
    rest.length ≤ cs.length := by
  fun_induction dropContinuation?.dropEnds cs with
  | case1 cs ih | case2 cs ih | case3 c cs _ _ _ ih =>
    have := ih h
    simp only [List.length_cons]
    omega
  | case4 | case5 =>
    cases h
    exact Nat.le_refl _

/-- What follows a continued line is no longer than the text behind the backslash. -/
theorem dropContinuation?_length {cs rest : List Char} (h : dropContinuation? cs = some rest) :
    rest.length ≤ cs.length := by
  have hblanks := dropBlanks_length cs
  unfold dropContinuation? at h
  dsimp only at h
  split at h
  · have := dropEnds_length h
    omega
  · have := dropEnds_length h
    omega
  · cases h

/-- A string in triple quotes, the opening ones taken off. -/
def readLongBasic : List Char → Option (List Char × List Char)
  | [] => none
  | '"' :: '"' :: '"' :: rest => some (readLastQuotes '"' rest)
  | '\r' :: '\n' :: rest => (readLongBasic rest).map fun (s, rest) => ('\n' :: s, rest)
  | c :: rest =>
    if c = '\\' then
      match _h : dropContinuation? rest with
      | some rest' => readLongBasic rest'
      | none =>
        match _h : readEscape rest with
        | some (x, rest') => (readLongBasic rest').map fun (s, rest) => (x :: s, rest)
        | none => none
    else if c = '\n' ∨ isText c then (readLongBasic rest).map fun (s, rest) => (c :: s, rest)
    else none
termination_by cs => cs.length
decreasing_by
  · simp only [List.length_cons]
    omega
  · have := dropContinuation?_length ‹_›
    simp only [List.length_cons]
    omega
  · have := readEscape_length ‹_›
    simp only [List.length_cons]
    omega
  · simp only [List.length_cons]
    omega

/-- A string in triple apostrophes, the opening ones taken off. -/
def readLongLiteral : List Char → Option (List Char × List Char)
  | [] => none
  | '\'' :: '\'' :: '\'' :: rest => some (readLastQuotes '\'' rest)
  | '\r' :: '\n' :: rest => (readLongLiteral rest).map fun (s, rest) => ('\n' :: s, rest)
  | c :: rest =>
    if c = '\n' ∨ isText c then (readLongLiteral rest).map fun (s, rest) => (c :: s, rest)
    else none

/-- A line end right behind triple quotes does not belong to the string. -/
def dropFirstLineEnd : List Char → List Char
  | '\n' :: rest => rest
  | '\r' :: '\n' :: rest => rest
  | cs => cs

/-- A string in any of the four forms. -/
def readString : List Char → Option (List Char × List Char)
  | '"' :: '"' :: '"' :: rest => readLongBasic (dropFirstLineEnd rest)
  | '\'' :: '\'' :: '\'' :: rest => readLongLiteral (dropFirstLineEnd rest)
  | '"' :: rest => readBasic rest
  | '\'' :: rest => readLiteral rest
  | _ => none

/-! ## Writing -/

/-- A control character that only an escape can hold. -/
def needsEscape (c : Char) : Bool :=
  (c.toNat < 0x20 && c != '\t' && c != '\n') || c == '\x7f'

/-- The length of the longest run of a character. -/
def longestRun (quote : Char) (current : Nat) : List Char → Nat
  | [] => current
  | c :: rest =>
    if c = quote then longestRun quote (current + 1) rest
    else max current (longestRun quote 0 rest)

/-- The form of a string: the quote and whether it is tripled. -/
structure Form where
  quote : Char
  long : Bool
  deriving DecidableEq, Repr

/-- The plainest form that can hold a string. -/
def formOf (s : List Char) : Form :=
  let plain := !s.any needsEscape
  let hasLine := s.contains '\n'
  let noBackslash := !s.contains '\\'
  if plain && noBackslash && !s.contains '"' && !hasLine then ⟨'"', false⟩
  else if plain && !s.contains '\'' && !hasLine then ⟨'\'', false⟩
  else if plain && noBackslash && longestRun '"' 0 s ≤ 2 then ⟨'"', true⟩
  else if plain && longestRun '\'' 0 s ≤ 2 then ⟨'\'', true⟩
  else ⟨'"', hasLine⟩

/-- The form of a key. -/
def keyFormOf (s : List Char) : Form :=
  let plain := !s.any fun c => needsEscape c || c == '\n'
  if plain && !s.contains '\\' && !s.contains '"' then ⟨'"', false⟩
  else if plain && !s.contains '\'' then ⟨'\'', false⟩
  else ⟨'"', false⟩

/-- A character between double quotes; every third quote in a row is escaped between triple ones. -/
def writeChar (long : Bool) (quotes : Nat) (c : Char) : List Char :=
  match c with
  | '\x08' => ['\\', 'b']
  | '\t' => ['\\', 't']
  | '\n' => if long then ['\n'] else ['\\', 'n']
  | '\x0c' => ['\\', 'f']
  | '\r' => ['\\', 'r']
  | '\\' => ['\\', '\\']
  | '"' => if long && quotes < 2 then ['"'] else ['\\', '"']
  | c => if needsEscape c then '\\' :: 'u' :: upperHex 4 c.toNat else [c]

/-- The characters between double quotes; `quotes` counts the ones in a row that are not escaped. -/
def writeBasic (long : Bool) (quotes : Nat) : List Char → List Char
  | [] => []
  | c :: rest =>
    writeChar long quotes c ++
      writeBasic long (if c = '"' ∧ long ∧ quotes < 2 then quotes + 1 else 0) rest

/-- A string in a form. A string of several lines starts on a line of its own. -/
def writeIn (f : Form) (s : List Char) : List Char :=
  let quotes := if f.long then [f.quote, f.quote, f.quote] else [f.quote]
  let start := if f.long && s.contains '\n' then ['\n'] else []
  let body := if f.quote = '"' then writeBasic f.long 0 s else s
  quotes ++ start ++ body ++ quotes

/-- A string as a value. -/
def writeString (s : List Char) : List Char :=
  writeIn (formOf s) s

/-- A string as a key. -/
def writeKey (s : List Char) : List Char :=
  if !s.isEmpty && s.all isBare then s else writeIn (keyFormOf s) s

end CredentialStore.Toml
