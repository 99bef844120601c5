import CredentialStore.Unicode.Direction
import CredentialStore.Unicode.DomainMapping
import CredentialStore.Unicode.Joining
import CredentialStore.Unicode.Normal
import CredentialStore.Url.Punycode

/-!
# Domain names

The ASCII form of a domain name. Characters are mapped first (letters to small ones, compatibility
characters to what they stand for), the text is composed, and each label with characters above ASCII
is written in Punycode behind the marker `xn--`. A label that is given in that form has to be the
written form of the label that it stands for, so an ASCII form is its own ASCII form.
-/

namespace CredentialStore.Url.Domain

open Unicode

/-- What a character becomes; `none` where it is refused. -/
def mapped (c : Char) : Option (List Char) :=
  if c.toNat < 0x80 then some [c.toLower]
  else if mem validRuns c then some [c]
  else match replacements.find? (·.covers c.toNat) with
    | some r => some (r.apply c.toNat)
    | none => if mem ignoredRuns c then some [] else none

/-- The ASCII characters that no mapped host name holds. -/
def isForbidden (c : Char) : Bool :=
  c.toNat ≤ 0x20 || c.toNat == 0x7F || c.isUpper ||
    ['#', '%', '/', ':', '<', '>', '?', '@', '[', '\\', ']', '^', '|'].contains c

/-! ## Labels -/

def zeroWidthNonJoiner : Char := '\u200c'

def zeroWidthJoiner : Char := '\u200d'

/-- Whether a character on the left, given the text before a place in reverse, joins across it. -/
def joinsFromLeft (before : List Char) : Bool :=
  match before.dropWhile (mem transparentRuns) with
  | c :: _ => mem leftJoiningRuns c || mem dualJoiningRuns c
  | [] => false

/-- Whether a character on the right, given the text after a place, joins across it. -/
def joinsFromRight (after : List Char) : Bool :=
  match after.dropWhile (mem transparentRuns) with
  | c :: _ => mem rightJoiningRuns c || mem dualJoiningRuns c
  | [] => false

/-- A joiner stands behind a virama; a non-joiner may also stand where two letters join across it.
The text before the place is given in reverse. -/
def joinersFit (before : List Char) : List Char → Bool
  | [] => true
  | c :: after =>
    let afterVirama := match before with
      | v :: _ => mem viramaRuns v
      | [] => false
    (if c = zeroWidthJoiner then afterVirama
      else if c = zeroWidthNonJoiner then
        afterVirama || (joinsFromLeft before && joinsFromRight after)
      else true) && joinersFit (c :: before) after

/-- The marker in front of a label in Punycode. -/
def marker : List Char := ['x', 'n', '-', '-']

/-- What a label with characters above ASCII has to be. -/
def isLabel (label : List Char) : Bool :=
  (label.all fun c => c.toNat < 0x80 || mem validRuns c) && compose label == label &&
    (match label with
      | c :: _ => !mem markRuns c
      | [] => true) &&
    joinersFit [] label && !marker.isPrefixOf label

/-- The label that a mapped label stands for: itself, or the one that its Punycode is the written
form of. -/
def labelOf (text : List Char) : Option (List Char) :=
  if marker.isPrefixOf text then
    match Punycode.decode? (text.drop marker.length) with
    | none => none
    | some label =>
      if label.all Punycode.isBasic then none
      else if marker ++ Punycode.encode label = text ∧ isLabel label then some label
      else none
  else if text.all Punycode.isBasic ∨ isLabel text then some text
  else none

/-- The ASCII form of a label. -/
def asciiLabel (label : List Char) : Option (List Char) :=
  if label.all Punycode.isBasic then some label
  else
    let written := Punycode.encode label
    if Punycode.decode? written = some label then some (marker ++ written) else none

/-! ## Writing direction -/

/-- How a character takes part in the writing direction. -/
inductive Direction where
  | left
  | right
  | arabicNumber
  | europeanNumber
  | mark
  | neutral
  deriving DecidableEq, Repr

/-- The part that a character takes. -/
def direction (c : Char) : Direction :=
  if c.toNat < 0x80 then
    if c.isAlpha then .left else if c.isDigit then .europeanNumber else .neutral
  else if mem rightToLeftRuns c || mem arabicLetterRuns c then .right
  else if mem arabicNumberRuns c then .arabicNumber
  else if mem europeanNumberRuns c then .europeanNumber
  else if mem nonspacingMarkRuns c then .mark
  else if mem europeanSeparatorRuns c || mem commonSeparatorRuns c ||
      mem europeanTerminatorRuns c || mem otherNeutralRuns c || mem boundaryNeutralRuns c then
    .neutral
  else .left

/-- The direction of the last character that is not a mark. -/
def lastDirection (ds : List Direction) : Option Direction :=
  (ds.reverse.dropWhile (· == .mark)).head?

/-- A label among labels written from right to left: its first character decides its direction, the
characters and the end have to agree with it, and the two kinds of numbers do not mix. -/
def directionFits (label : List Char) : Bool :=
  let ds := label.map direction
  match ds with
  | [] => true
  | .right :: _ =>
    !ds.contains .left && !(ds.contains .europeanNumber && ds.contains .arabicNumber) &&
      [some Direction.right, some .europeanNumber, some .arabicNumber].contains (lastDirection ds)
  | .left :: _ =>
    !ds.contains .right && !ds.contains .arabicNumber &&
      [some Direction.left, some .europeanNumber].contains (lastDirection ds)
  | _ => false

/-- Whether a label has characters that are written from right to left. -/
def hasRightToLeft (label : List Char) : Bool :=
  label.any fun c => direction c == .right || direction c == .arabicNumber

/-! ## Names -/

/-- The ASCII form of a domain name. -/
def toAscii? (name : List Char) : Option (List Char) := do
  let text := compose (← name.mapM mapped).flatten
  if text.any isForbidden then none
  else
    let labels ← (text.splitOn '.').mapM labelOf
    if labels.any hasRightToLeft && !labels.all directionFits then none
    else return ['.'].intercalate (← labels.mapM asciiLabel)

end CredentialStore.Url.Domain
