import CredentialStore.Text.Basic
import CredentialStore.Url.Host

/-!
# Reading URLs

Reads an absolute URL. The well-known schemes share one rule for the part behind the scheme (slashes
in either direction and in any number, a host, a port, a hierarchical path); files and all other
schemes have one of their own. Main statement: `resolve_of_plain` (a path without dot segments stays
as it is).
-/

namespace CredentialStore.Url

open Text

/-- How the part behind the scheme is read. -/
inductive SchemeKind where
  /-- A scheme with a host and a default port. -/
  | network (defaultPort : Nat)
  | file
  | other
  deriving DecidableEq, Repr

/-- The kind of a scheme in small letters. -/
def SchemeKind.of (scheme : List Char) : SchemeKind :=
  if scheme = "http".toList ∨ scheme = "ws".toList then .network 80
  else if scheme = "https".toList ∨ scheme = "wss".toList then .network 443
  else if scheme = "ftp".toList then .network 21
  else if scheme = "file".toList then .file
  else .other

/-- A backslash is a slash in URLs of the well-known schemes. -/
def SchemeKind.isSlash (k : SchemeKind) (c : Char) : Bool :=
  c == '/' || (c == '\\' && k != .other)

/-- The characters that end the authority. -/
def SchemeKind.endsAuthority (k : SchemeKind) (c : Char) : Bool :=
  k.isSlash c || c == '?' || c == '#'

/-! ## Scheme -/

/-- The characters of a scheme behind its first letter. -/
def isSchemeChar (c : Char) : Bool :=
  c.isAlpha || c.isDigit || c == '+' || c == '-' || c == '.'

/-- The scheme in small letters and the text behind its colon. -/
def splitScheme (cs : List Char) : Option (List Char × List Char) :=
  match cs with
  | [] => none
  | c :: _ =>
    let scheme := cs.takeWhile isSchemeChar
    match cs.dropWhile isSchemeChar with
    | ':' :: rest => if c.isAlpha then some (scheme.map Char.toLower, rest) else none
    | _ => none

/-! ## Authority -/

/-- The text before the last `@` and the text after it; without one there is no text before. -/
def splitUserInfo (authority : List Char) : Option (List Char) × List Char :=
  if authority.contains '@' then
    let host := (authority.reverse.takeWhile (· ≠ '@')).reverse
    (some (authority.take (authority.length - host.length - 1)), host)
  else (none, authority)

/-- The host and, behind the first colon outside brackets, the port. -/
def splitPort (inBrackets : Bool) : List Char → List Char × Option (List Char)
  | [] => ([], none)
  | c :: rest =>
    if c = ':' ∧ !inBrackets then ([], some rest)
    else
      let (host, port) :=
        splitPort (if c = '[' then true else if c = ']' then false else inBrackets) rest
      (c :: host, port)

/-- Reads a port; an empty one is no port. A backslash ends it even where it is no slash. -/
def readPort (text : List Char) : Except Error (Option Nat) :=
  let digits := text.takeWhile (· ≠ '\\')
  if digits.isEmpty then .ok none
  else if digits.all (isDigitIn 10) ∧ ofDigits 10 digits ≤ 65535 then
    .ok (some (ofDigits 10 digits))
  else .error .invalidPort

/-- A port that is not the scheme's own. -/
def SchemeKind.portOf (k : SchemeKind) (port : Option Nat) : Option Nat :=
  match k, port with
  | .network d, some p => if p = d then none else some p
  | _, p => p

/-- Reads a host and a port from the text between the slashes and the path; `more` tells whether any
text follows. -/
def readAuthority (k : SchemeKind) (authority : List Char) (more : Bool) :
    Except Error (Option Host × Option Nat) := do
  let (user, server) := splitUserInfo authority
  if user = some [] ∧ server = [] ∧ more then throw .emptyHost
  let (hostText, portText) := splitPort false server
  if k = .other then
    let host ← Host.readOpaque hostText
    if hostText.isEmpty then
      if portText.isSome then throw .emptyHost
      if user.isSome ∧ user ≠ some [] ∧ user ≠ some [':'] then throw .emptyHost
      return (none, none)
    let port ← readPort (portText.getD [])
    return (some host, port)
  else
    if hostText.isEmpty then throw .emptyHost
    let host ← Host.read hostText
    let port ← readPort (portText.getD [])
    return (some host, k.portOf port)

/-! ## Path -/

/-- A segment that stands for the place itself. -/
def isSingleDot (segment : List Char) : Bool :=
  [".", "%2e"].any fun s => s.toList == segment.map Char.toLower

/-- A segment that stands for the place above. -/
def isDoubleDot (segment : List Char) : Bool :=
  ["..", ".%2e", "%2e.", "%2e%2e"].any fun s => s.toList == segment.map Char.toLower

/-- A letter and a colon, or a bar for it: the name of a drive. -/
def isDrive : List Char → Bool
  | [letter, c] => letter.isAlpha && (c == ':' || c == '|')
  | _ => false

/-- The path above a path, given in reverse. There is nothing above a drive. -/
def parent : List (List Char) → List (List Char)
  | [] => []
  | s :: above => if isDrive s then s :: above else above

/-- Resolves the dot segments behind a path given in reverse; a dot segment at the end leaves an
empty segment. -/
def resolveFrom (above : List (List Char)) : List (List Char) → List (List Char)
  | [] => above.reverse
  | s :: rest =>
    if isSingleDot s then
      if rest.isEmpty then ([] :: above).reverse else resolveFrom above rest
    else if isDoubleDot s then
      if rest.isEmpty then ([] :: parent above).reverse else resolveFrom (parent above) rest
    else resolveFrom (s :: above) rest

/-- The segments of a path without dot segments. -/
def resolve (segments : List (List Char)) : List (List Char) :=
  resolveFrom [] segments

theorem resolveFrom_of_plain {segments : List (List Char)}
    (h : ∀ s ∈ segments, isSingleDot s = false ∧ isDoubleDot s = false) (above : List (List Char)) :
    resolveFrom above segments = above.reverse ++ segments := by
  induction segments generalizing above with
  | nil => simp [resolveFrom]
  | cons s rest ih =>
    obtain ⟨hs, hd⟩ := h s (by simp)
    rw [resolveFrom, hs, hd]
    simp [ih fun t ht => h t (by simp [ht])]

/-- A path without dot segments stays as it is. -/
theorem resolve_of_plain {segments : List (List Char)}
    (h : ∀ s ∈ segments, isSingleDot s = false ∧ isDoubleDot s = false) :
    resolve segments = segments := by
  simp [resolve, resolveFrom_of_plain h]

/-- Reads the path behind the authority: segments between slashes up to a query or a fragment. -/
def readPath (k : SchemeKind) (text : List Char) : List (List Char) :=
  let path := text.takeWhile fun c => c != '?' && c != '#'
  let path := match path with
    | c :: rest => if k.isSlash c then rest else c :: rest
    | [] => []
  resolve ((path.splitOnP k.isSlash).map (Percent.encode Percent.isPathSpecial))

/-! ## URLs -/

/-- Reads what follows the slashes in front of an authority. -/
def readHierarchy (scheme : List Char) (k : SchemeKind) (text : List Char) : Except Error Url := do
  let authority := text.takeWhile (!k.endsAuthority ·)
  let rest := text.dropWhile (!k.endsAuthority ·)
  let (host, port) ← readAuthority k authority (!rest.isEmpty)
  return { scheme, host, port, path := readPath k rest }

/-- Reads what follows the slashes of a file: a host without a port; the local host is no host, and
neither is one in front of a drive. -/
def readFileHierarchy (scheme text : List Char) : Except Error Url := do
  let hostText := text.takeWhile (!SchemeKind.file.endsAuthority ·)
  let rest := text.dropWhile (!SchemeKind.file.endsAuthority ·)
  if isDrive hostText then
    return { scheme, host := none, port := none, path := readPath .file text }
  let host ← if hostText.isEmpty then pure none else some <$> Host.read hostText
  let path := readPath .file rest
  let onDrive := match path with
    | root :: _ => isDrive root
    | [] => false
  let isLocal := host == some (.name "localhost".toList)
  return { scheme, host := if onDrive || isLocal then none else host, port := none, path }

/-- Reads what follows the colon of the scheme. -/
def readAfterScheme (scheme : List Char) (text : List Char) : Except Error Url :=
  match SchemeKind.of scheme, text with
  | .network p, _ =>
    readHierarchy scheme (.network p) (text.dropWhile (SchemeKind.network p).isSlash)
  | .file, a :: b :: rest =>
    if SchemeKind.file.isSlash a && SchemeKind.file.isSlash b then readFileHierarchy scheme rest
    else .ok { scheme, host := none, port := none, path := readPath .file text }
  | .file, _ => .ok { scheme, host := none, port := none, path := readPath .file text }
  | .other, '/' :: '/' :: rest => readHierarchy scheme .other rest
  | .other, '/' :: rest => .ok { scheme, host := none, port := none, path := readPath .other rest }
  | .other, _ => .ok { scheme, host := none, port := none, path := [] }

/-- The text of a URL without control characters and blanks at its ends and without line breaks and
tabs anywhere. -/
def cleaned (cs : List Char) : List Char :=
  (trimBy (·.toNat ≤ 0x20) cs).filter fun c => c != '\t' && c != '\n' && c != '\r'

/-- Reads an absolute URL. -/
def read (text : String) : Except Error Url :=
  match splitScheme (cleaned text.toList) with
  | none => .error .relativeWithoutBase
  | some (scheme, rest) => readAfterScheme scheme rest

end CredentialStore.Url
