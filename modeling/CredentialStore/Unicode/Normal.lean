import CredentialStore.Unicode.Composition

/-!
# Composed form

The canonical composition of a text: composites are taken apart, marks are brought into the order of
their combining classes, and what can be composed is composed. Main statement: `compose_of_ascii`
(a text of ASCII characters is its own composed form).
-/

namespace CredentialStore.Unicode

/-- The canonical combining class; zero for a character that starts a group. -/
def combiningClass (c : Char) : Nat :=
  if c.toNat < 0x300 then 0
  else match combiningClasses.find? fun (r, _) => r.first ≤ c.toNat && c.toNat ≤ r.last with
    | some (_, k) => k
    | none => 0

/-! ## Hangul syllables -/

/-- The parts of a syllable: a leading consonant, a vowel, and a trailing consonant unless it has
none. -/
def hangulParts (n : Nat) : List Char :=
  let i := n - 0xAC00
  let front := [Char.ofNat (0x1100 + i / 588), Char.ofNat (0x1161 + i % 588 / 28)]
  if i % 28 = 0 then front else front ++ [Char.ofNat (0x11A7 + i % 28)]

/-- The syllable of two parts, the first of which may be a syllable without a trailing consonant. -/
def hangulWhole (a b : Nat) : Option Char :=
  if 0x1100 ≤ a ∧ a < 0x1113 ∧ 0x1161 ≤ b ∧ b < 0x1176 then
    some (Char.ofNat (0xAC00 + ((a - 0x1100) * 21 + (b - 0x1161)) * 28))
  else if 0xAC00 ≤ a ∧ a < 0xD7A4 ∧ (a - 0xAC00) % 28 = 0 ∧ 0x11A7 < b ∧ b < 0x11C3 then
    some (Char.ofNat (a + (b - 0x11A7)))
  else none

/-! ## Taking apart and composing -/

/-- The characters that a character is composed of. The first part of a composite can be a composite
again; four levels reach the bottom of every one. -/
def decomposed : Nat → Char → List Char
  | 0, c => [c]
  | depth + 1, c =>
    if c.toNat < 0xC0 then [c]
    else if 0xAC00 ≤ c.toNat ∧ c.toNat < 0xD7A4 then hangulParts c.toNat
    else match composites.find? fun k => k.whole == c.toNat with
      | some k => decomposed depth (Char.ofNat k.first) ++ decomposed depth (Char.ofNat k.second)
      | none => [c]

/-- Puts a character before a text whose marks are in order, behind the marks of a lower class. -/
def insertMark (c : Char) : List Char → List Char
  | [] => [c]
  | d :: rest =>
    if combiningClass d ≠ 0 ∧ combiningClass d < combiningClass c then d :: insertMark c rest
    else c :: d :: rest

/-- The composite of two characters. -/
def whole (a b : Char) : Option Char :=
  match hangulWhole a.toNat b.toNat with
  | some c => some c
  | none =>
    (composites.find? fun k => k.first == a.toNat && k.second == b.toNat).map fun k =>
      Char.ofNat k.whole

/-- Composes a text whose marks are in order. `starter` is the last character that starts a group,
`marks` are the ones behind it that did not compose with it, the last one first. -/
def composeFrom (starter : Char) (marks : List Char) : List Char → List Char
  | [] => starter :: marks.reverse
  | c :: rest =>
    let blocked := match marks with
      | [] => false
      | m :: _ => combiningClass c ≤ combiningClass m
    match if blocked then none else whole starter c with
    | some k => composeFrom k marks rest
    | none =>
      if combiningClass c = 0 then starter :: marks.reverse ++ composeFrom c [] rest
      else composeFrom starter (c :: marks) rest

/-- Composes a text whose marks are in order; marks without a character before them are kept. -/
def composeMarks : List Char → List Char
  | [] => []
  | c :: rest => if combiningClass c = 0 then composeFrom c [] rest else c :: composeMarks rest

/-- The canonical composed form of a text. -/
def compose (cs : List Char) : List Char :=
  if cs.all fun c => c.toNat < 0x80 then cs
  else composeMarks ((cs.flatMap (decomposed 4)).foldr insertMark [])

/-- A text of ASCII characters is its own composed form. -/
theorem compose_of_ascii {cs : List Char} (h : ∀ c ∈ cs, c.toNat < 0x80) : compose cs = cs := by
  rw [compose, if_pos]
  simpa using h

end CredentialStore.Unicode
