import CredentialStore.Text.Digits

/-!
# Tokens of JSON

A JSON text is a sequence of tokens with blanks between them. Main statement: `next_length` (a token
takes at least one character, so that reading comes to an end).
-/

namespace CredentialStore.Json

open Text

/-- A token. A string or a number that stands for nothing is kept as such. -/
inductive Token where
  | openArray
  | closeArray
  | openObject
  | closeObject
  | colon
  | comma
  | null
  | bool (b : Bool)
  | string (s : List Char)
  | integer (n : Int)
  | decimal (text : List Char)
  | unrepresentableString
  | unrepresentableNumber
  deriving DecidableEq, Repr

/-! ## Strings -/

/-- A piece of a string: a character, or an escaped code unit of sixteen bits. -/
inductive Piece where
  | char (c : Char)
  | unit (n : Nat)
  deriving DecidableEq, Repr

/-- The character that an escape of one letter stands for. -/
def escaped? : Char → Option Char
  | '"' => some '"'
  | '\\' => some '\\'
  | '/' => some '/'
  | 'b' => some '\x08'
  | 'f' => some '\x0c'
  | 'n' => some '\n'
  | 'r' => some '\r'
  | 't' => some '\t'
  | _ => none

/-- The pieces up to the closing quote, and the text behind it. -/
def readString : List Char → Option (List Piece × List Char)
  | [] => none
  | '"' :: rest => some ([], rest)
  | '\\' :: 'u' :: a :: b :: c :: d :: rest =>
    if [a, b, c, d].all (isDigitIn 16) then
      (readString rest).map fun (ps, rest) => (.unit (ofDigits 16 [a, b, c, d]) :: ps, rest)
    else none
  | '\\' :: e :: rest =>
    match escaped? e with
    | some c => (readString rest).map fun (ps, rest) => (.char c :: ps, rest)
    | none => none
  | c :: rest =>
    if c.toNat < 0x20 then none
    else (readString rest).map fun (ps, rest) => (.char c :: ps, rest)

/-- The text of pieces; the halves of a surrogate pair have to stand together. -/
def joinPieces : List Piece → Option (List Char)
  | [] => some []
  | .char c :: rest => (joinPieces rest).map (c :: ·)
  | .unit high :: .unit low :: rest =>
    if 0xD800 ≤ high ∧ high < 0xDC00 then
      if 0xDC00 ≤ low ∧ low < 0xE000 then
        (joinPieces rest).map
          (Char.ofNat (0x10000 + (high - 0xD800) * 0x400 + (low - 0xDC00)) :: ·)
      else none
    else if 0xDC00 ≤ high ∧ high < 0xE000 then none
    else (joinPieces (.unit low :: rest)).map (Char.ofNat high :: ·)
  | .unit n :: rest =>
    if 0xD800 ≤ n ∧ n < 0xE000 then none else (joinPieces rest).map (Char.ofNat n :: ·)

theorem readString_length {cs : List Char} {ps : List Piece} {rest : List Char}
    (h : readString cs = some (ps, rest)) : rest.length < cs.length := by
  fun_induction readString cs generalizing ps rest <;>
    simp_all only [Option.map_eq_some_iff, Prod.mk.injEq, Prod.exists, Option.some.injEq,
      List.length_cons, reduceCtorEq]
  case case2 => obtain ⟨-, rfl⟩ := h; omega
  case case3 ih =>
    obtain ⟨ps', rest', h, -, rfl⟩ := h
    have := ih h
    omega
  case case5 ih =>
    obtain ⟨ps', rest', h, -, rfl⟩ := h
    have := ih h
    omega
  case case8 ih =>
    obtain ⟨ps', rest', h, -, rfl⟩ := h
    have := ih h
    omega

/-! ## Numbers -/

/-- Digits behind a mark, if there are any. -/
def readDigits (cs : List Char) : Option (List Char × List Char) :=
  let ds := cs.takeWhile (isDigitIn 10)
  if ds.isEmpty then none else some (ds, cs.dropWhile (isDigitIn 10))

/-- The digits of a fraction. -/
def readFraction : List Char → Option (List Char × List Char)
  | '.' :: rest => readDigits rest
  | cs => some ([], cs)

/-- The value of an exponent. -/
def readExponent : List Char → Option (Option Int × List Char)
  | e :: rest =>
    if e = 'e' ∨ e = 'E' then
      let (sign, digits) : Int × List Char := match rest with
        | '-' :: ds => (-1, ds)
        | '+' :: ds => (1, ds)
        | ds => (1, ds)
      (readDigits digits).map fun (ds, rest) => (some (sign * ofDigits 10 ds), rest)
    else some (none, e :: rest)
  | [] => some (none, [])

/-- A number without its sign: no digit follows a zero at its front. -/
def readMagnitude (negative : Bool) (cs : List Char) : Option (Token × List Char) := do
  let (whole, rest) ← readDigits cs
  if whole.head? = some '0' ∧ whole.length ≠ 1 then none
  else
    let (fraction, rest) ← readFraction rest
    let (exponent, rest) ← readExponent rest
    let significand := ofDigits 10 (whole ++ fraction)
    if exceedsDouble significand (exponent.getD 0 - fraction.length) then
      some (.unrepresentableNumber, rest)
    else if fraction.isEmpty ∧ exponent.isNone ∧ !(negative && significand == 0) then
      some (.integer (if negative then -significand else significand), rest)
    else
      let text := cs.take (cs.length - rest.length)
      some (.decimal (if negative then '-' :: text else text), rest)

/-- A number. -/
def readNumber : List Char → Option (Token × List Char)
  | '-' :: rest => readMagnitude true rest
  | cs => readMagnitude false cs

theorem readDigits_length {cs ds rest : List Char} (h : readDigits cs = some (ds, rest)) :
    rest.length < cs.length := by
  unfold readDigits at h
  dsimp only at h
  split at h
  · cases h
  · rename_i hne
    simp only [Option.some.injEq, Prod.mk.injEq] at h
    obtain ⟨rfl, rfl⟩ := h
    have happend : (cs.takeWhile (isDigitIn 10) ++ cs.dropWhile (isDigitIn 10)).length = cs.length := by
      rw [List.takeWhile_append_dropWhile]
    have hpos : 0 < (cs.takeWhile (isDigitIn 10)).length := by
      rw [List.length_pos_iff]
      simpa using hne
    simp only [List.length_append] at happend
    omega

theorem readFraction_length {cs ds rest : List Char} (h : readFraction cs = some (ds, rest)) :
    rest.length ≤ cs.length := by
  unfold readFraction at h
  split at h
  · have := readDigits_length h
    simp only [List.length_cons]
    omega
  · cases h
    exact Nat.le_refl _

theorem readExponent_length {cs rest : List Char} {e : Option Int}
    (h : readExponent cs = some (e, rest)) : rest.length ≤ cs.length := by
  unfold readExponent at h
  split at h
  · split at h
    · simp only [Option.map_eq_some_iff, Prod.mk.injEq, Prod.exists] at h
      obtain ⟨ds, rest', hds, -, rfl⟩ := h
      have hlen := readDigits_length hds
      revert hlen
      split <;> simp only [List.length_cons] <;> omega
    · cases h
      exact Nat.le_refl _
  · cases h
    exact Nat.le_refl _

theorem readMagnitude_length {negative : Bool} {cs rest : List Char} {t : Token}
    (h : readMagnitude negative cs = some (t, rest)) : rest.length < cs.length := by
  unfold readMagnitude at h
  simp only [Option.bind_eq_bind, Option.bind_eq_some_iff, Prod.exists] at h
  obtain ⟨whole, rest₁, hwhole, h⟩ := h
  have h₁ := readDigits_length hwhole
  split at h
  · cases h
  · simp only [Option.bind_eq_some_iff, Prod.exists] at h
    obtain ⟨fraction, rest₂, hfraction, exponent, rest₃, hexponent, h⟩ := h
    have h₂ := readFraction_length hfraction
    have h₃ := readExponent_length hexponent
    have hrest : rest = rest₃ := by
      split at h
      · cases h; rfl
      · split at h <;> cases h <;> rfl
    subst hrest
    omega

theorem readNumber_length {cs rest : List Char} {t : Token} (h : readNumber cs = some (t, rest)) :
    rest.length < cs.length := by
  unfold readNumber at h
  split at h
  · have := readMagnitude_length h
    simp only [List.length_cons]
    omega
  · exact readMagnitude_length h

/-! ## Sequences of tokens -/

/-- The blanks between tokens. -/
def isBlank (c : Char) : Bool :=
  c == ' ' || c == '\t' || c == '\n' || c == '\r'

/-- The token at the front. -/
def next : List Char → Option (Token × List Char)
  | '[' :: rest => some (.openArray, rest)
  | ']' :: rest => some (.closeArray, rest)
  | '\x7b' :: rest => some (.openObject, rest)
  | '\x7d' :: rest => some (.closeObject, rest)
  | ':' :: rest => some (.colon, rest)
  | ',' :: rest => some (.comma, rest)
  | 'n' :: 'u' :: 'l' :: 'l' :: rest => some (.null, rest)
  | 't' :: 'r' :: 'u' :: 'e' :: rest => some (.bool true, rest)
  | 'f' :: 'a' :: 'l' :: 's' :: 'e' :: rest => some (.bool false, rest)
  | '"' :: rest =>
    (readString rest).map fun (ps, rest) =>
      (match joinPieces ps with
        | some s => .string s
        | none => .unrepresentableString, rest)
  | cs => readNumber cs

/-- A token takes at least one character. -/
theorem next_length {cs rest : List Char} {t : Token} (h : next cs = some (t, rest)) :
    rest.length < cs.length := by
  unfold next at h
  split at h
  case h_10 =>
    simp only [Option.map_eq_some_iff, Prod.mk.injEq, Prod.exists] at h
    obtain ⟨ps, rest', hps, -, rfl⟩ := h
    have := readString_length hps
    simp only [List.length_cons]
    omega
  case h_11 => exact readNumber_length h
  all_goals
    cases h
    simp only [List.length_cons]
    omega

/-- The tokens of a text. -/
def tokens? : List Char → Option (List Token)
  | [] => some []
  | c :: cs =>
    if isBlank c then tokens? cs
    else match _h : next (c :: cs) with
      | none => none
      | some (t, rest) => (tokens? rest).map (t :: ·)
termination_by cs => cs.length
decreasing_by
  · simp only [List.length_cons]
    omega
  · exact next_length ‹_›

end CredentialStore.Json
