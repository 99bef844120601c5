import CredentialStore.Text.Digits
import CredentialStore.Toml.Basic
import CredentialStore.Toml.Text

/-!
# Values of TOML that hold no others

Strings, truth values, numbers and points in time. Digits of a number may be grouped with
underscores between two of them.
-/

namespace CredentialStore.Toml

open Text

/-! ## Numbers -/

/-- Digits and underscores behind a first digit; an underscore has a digit on both sides. -/
def moreDigits (base : Nat) : List Char → Option (List Char × List Char)
  | [] => some ([], [])
  | '_' :: c :: rest =>
    if isDigitIn base c then (moreDigits base rest).map fun (ds, rest) => (c :: ds, rest) else none
  | c :: rest =>
    if isDigitIn base c then (moreDigits base rest).map fun (ds, rest) => (c :: ds, rest)
    else if c = '_' then none
    else some ([], c :: rest)

/-- One digit or more, also with zeros at the front. -/
def readDigits (base : Nat) : List Char → Option (List Char × List Char)
  | c :: rest =>
    if isDigitIn base c then (moreDigits base rest).map fun (ds, rest) => (c :: ds, rest) else none
  | [] => none

/-- The digits of a whole number: a zero stands alone. -/
def readWhole : List Char → Option (List Char × List Char)
  | '0' :: rest => some (['0'], rest)
  | cs => readDigits 10 cs

/-- The digits behind the point, if there is one. -/
def readFraction : List Char → Option (List Char × List Char)
  | '.' :: rest => readDigits 10 rest
  | cs => some ([], cs)

/-- The sign in front of a number. -/
def readSign : List Char → Bool × List Char
  | '-' :: rest => (true, rest)
  | '+' :: rest => (false, rest)
  | cs => (false, cs)

/-- The value of the exponent, if there is one. -/
def readExponent : List Char → Option (Option Int × List Char)
  | e :: rest =>
    if e = 'e' ∨ e = 'E' then
      let (negative, digits) := readSign rest
      (readDigits 10 digits).map fun (ds, rest) =>
        (some (if negative then -(ofDigits 10 ds : Int) else ofDigits 10 ds), rest)
    else some (none, e :: rest)
  | [] => some (none, [])

/-- A whole number of sixty-four bits. -/
def integer? (n : Int) : Option Toml :=
  if -0x8000000000000000 ≤ n ∧ n < 0x8000000000000000 then some (.integer n) else none

/-- A number in a base other than ten, its mark taken off. -/
def readInBase (base : Nat) (cs : List Char) : Option (Toml × List Char) := do
  let (ds, rest) ← readDigits base cs
  return (← integer? (ofDigits base ds), rest)

/-- A number in base ten. -/
def readDecimal (cs : List Char) : Option (Toml × List Char) := do
  let (negative, magnitude) := readSign cs
  let (whole, rest) ← readWhole magnitude
  let (fraction, rest) ← readFraction rest
  let (exponent, rest) ← readExponent rest
  let significand := ofDigits 10 (whole ++ fraction)
  if fraction.isEmpty ∧ exponent.isNone then
    return (← integer? (if negative then -significand else significand), rest)
  else if !negative && exceedsDouble significand (exponent.getD 0 - fraction.length) then none
  else return (.float (cs.take (cs.length - rest.length)), rest)

/-- A number. -/
def readNumber : List Char → Option (Toml × List Char)
  | '0' :: 'x' :: rest => readInBase 16 rest
  | '0' :: 'o' :: rest => readInBase 8 rest
  | '0' :: 'b' :: rest => readInBase 2 rest
  | cs => readDecimal cs

/-! ## Points in time -/

/-- A number of a fixed count of digits within bounds. -/
def readField (count low high : Nat) (cs : List Char) : Option (Nat × List Char) :=
  let ds := cs.take count
  let n := ofDigits 10 ds
  if ds.length = count ∧ ds.all (isDigitIn 10) ∧ low ≤ n ∧ n ≤ high then some (n, cs.drop count)
  else none

/-- A character that has to be there. -/
def readMark (mark : Char) : List Char → Option (List Char)
  | c :: rest => if c = mark then some rest else none
  | [] => none

/-- The number of days of a month. -/
def daysOf (year month : Nat) : Nat :=
  if month = 2 then
    if year % 4 = 0 ∧ (year % 100 ≠ 0 ∨ year % 400 = 0) then 29 else 28
  else if [4, 6, 9, 11].contains month then 30
  else 31

/-- The text behind a date. -/
def readDate (cs : List Char) : Option (List Char) := do
  let (year, rest) ← readField 4 0 9999 cs
  let (month, rest) ← readField 2 1 12 (← readMark '-' rest)
  let (_, rest) ← readField 2 1 (daysOf year month) (← readMark '-' rest)
  return rest

/-- The text behind a fraction of a second, if there is one. -/
def dropSecondFraction : List Char → List Char
  | '.' :: c :: rest =>
    if isDigitIn 10 c then rest.dropWhile (isDigitIn 10) else '.' :: c :: rest
  | cs => cs

/-- The text behind a time of day. -/
def readTime (cs : List Char) : Option (List Char) := do
  let (_, rest) ← readField 2 0 23 cs
  let (_, rest) ← readField 2 0 59 (← readMark ':' rest)
  let (_, rest) ← readField 2 0 60 (← readMark ':' rest)
  return dropSecondFraction rest

/-- The text behind the offset of a time, if there is one. -/
def readOffset : List Char → Option (List Char)
  | [] => some []
  | c :: rest =>
    if c = 'Z' ∨ c = 'z' then some rest
    else if c = '+' ∨ c = '-' then do
      let (_, rest) ← readField 2 0 23 rest
      let (_, rest) ← readField 2 0 59 (← readMark ':' rest)
      return rest
    else some (c :: rest)

/-- The text behind the time that follows a date, if one does. -/
def readTimeOfDate (cs : List Char) : Option (List Char) :=
  match cs with
  | c :: rest =>
    if c = 'T' ∨ c = 't' ∨ c = ' ' then
      match readTime rest with
      | some rest => readOffset rest
      | none => some cs
    else some cs
  | [] => some []

/-- A point in time: a date, a date with a time, or a time. -/
def readDatetime (cs : List Char) : Option (Toml × List Char) := do
  let rest ← if (cs.drop 2).head? = some ':' then readTime cs else readTimeOfDate (← readDate cs)
  return (.datetime (cs.take (cs.length - rest.length)), rest)

/-- Whether a text that starts with a digit is meant as a point in time. -/
def startsDatetime (cs : List Char) : Bool :=
  ((cs.take 4).length == 4 && (cs.take 4).all (isDigitIn 10) && (cs.drop 4).head? == some '-') ||
    ((cs.take 2).length == 2 && (cs.take 2).all (isDigitIn 10) && (cs.drop 2).head? == some ':')

/-! ## Scalars -/

/-- Infinity or not a number, behind its sign. -/
def readSpecial (cs : List Char) : Option (Toml × List Char) :=
  match (readSign cs).2 with
  | 'i' :: 'n' :: 'f' :: rest | 'n' :: 'a' :: 'n' :: rest =>
    some (.float (cs.take (cs.length - rest.length)), rest)
  | _ => none

/-- A value that holds no other. -/
def readScalar (cs : List Char) : Option (Toml × List Char) :=
  match cs with
  | 't' :: 'r' :: 'u' :: 'e' :: rest => some (.boolean true, rest)
  | 'f' :: 'a' :: 'l' :: 's' :: 'e' :: rest => some (.boolean false, rest)
  | c :: _ =>
    if c = '"' ∨ c = '\'' then
      (readString cs).map fun (s, rest) => (.string (String.ofList s), rest)
    else match readSpecial cs with
      | some r => some r
      | none => if startsDatetime cs then readDatetime cs else readNumber cs
  | [] => none

end CredentialStore.Toml
