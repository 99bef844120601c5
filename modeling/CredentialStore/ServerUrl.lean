import CredentialStore.Text.Description
import CredentialStore.Url.Reader

/-!
# Server URLs

A server is known by the origin and the non-empty path segments of its URL, so that different
spellings of one URL (letter case of the host, the default port, repeated or final slashes, dot
segments) name one server. Covered here: `normalize_server_url`, `possible_server_urls` and
`discover_server_url`. Main statements: `length_candidates` (a server has one root more than it has
segments) and `discover_of_unreadable` (a text that names no server is not probed).
-/

namespace CredentialStore

/-- The origin of a server and the path below it. -/
structure ServerUrl where
  scheme : List Char
  host : Host
  port : Option Nat
  segments : List (List Char)
  deriving DecidableEq, Repr

namespace ServerUrl

open Text

/-- Why a text does not name a server. -/
inductive Fault where
  | surroundingBlank
  | unreadable (cause : Url.Error)
  | unsupportedScheme (scheme : String)
  | missingHost
  deriving DecidableEq, Repr

/-- The wording of a fault of a text, as `InvalidUrl` reports it. -/
def Fault.message (raw : String) : Fault → String
  | .surroundingBlank => quoted raw ++ ": surrounding whitespace"
  | .unreadable cause => raw ++ ": " ++ cause.message
  | .unsupportedScheme scheme => raw ++ ": unsupported scheme " ++ scheme
  | .missingHost => raw ++ ": missing host"

/-- The server of a URL. -/
def ofUrl (u : Url) : Except Fault ServerUrl :=
  if u.scheme = "http".toList ∨ u.scheme = "https".toList then
    match u.host with
    | some host => .ok ⟨u.scheme, host, u.port, u.path.filter (!·.isEmpty)⟩
    | none => .error .missingHost
  else .error (.unsupportedScheme (String.ofList u.scheme))

/-- Reads the URL of a server: `parse_server_url`. -/
def read (raw : String) : Except Fault ServerUrl :=
  if trim raw ≠ raw then .error .surroundingBlank
  else match Url.read raw with
    | .error cause => .error (.unreadable cause)
    | .ok u => ofUrl u

/-- Scheme, host and port. -/
def origin (s : ServerUrl) : List Char :=
  s.scheme ++ "://".toList ++ s.host.text ++
    match s.port with
    | some p => ':' :: decimalDigits p
    | none => []

/-- The written form. -/
def text (s : ServerUrl) : String :=
  String.ofList (s.origin ++ s.segments.flatMap ('/' :: ·))

/-- The server at the first segments of the path. -/
def root (s : ServerUrl) (count : Nat) : ServerUrl :=
  { s with segments := s.segments.take count }

/-- The written forms of all roots, the shortest first. -/
def candidates (s : ServerUrl) : List String :=
  (List.range (s.segments.length + 1)).map fun count => (s.root count).text

/-- The written form of the server that a text names: `normalize_server_url`. -/
def normalize (raw : String) : Except Fault String :=
  (read raw).map text

/-- The written forms of all roots of the server that a text names: `possible_server_urls`. -/
def possible (raw : String) : Except Fault (List String) :=
  (read raw).map candidates

/-! ## Discovery -/

/-- Probes candidates in order up to the first that answers. The error is that of the last probe. -/
def firstAnswering {m : Type → Type} [Monad m] {ε : Type} (probe : String → m (Except ε Unit)) :
    List String → Option ε → m (Except (Option ε) String)
  | [], last => pure (.error last)
  | candidate :: rest, _ => do
    match ← probe candidate with
    | .ok () => pure (.ok candidate)
    | .error e => firstAnswering probe rest (some e)

/-- Finds the longest root that answers a probe: `discover_server_url`. Without one the text itself
is the result, together with the error of the last probe. -/
def discover {m : Type → Type} [Monad m] {ε : Type} (ofFault : Fault → ε)
    (probe : String → m (Except ε Unit)) (raw : String) : m (String × Option ε) :=
  match possible raw with
  | .error fault => pure (raw, some (ofFault fault))
  | .ok roots => do
    match ← firstAnswering probe roots.reverse none with
    | .ok found => pure (found, none)
    | .error e => pure (raw, e)

theorem length_candidates (s : ServerUrl) : s.candidates.length = s.segments.length + 1 := by
  simp [candidates]

/-- A text that names no server is not probed. -/
theorem discover_of_unreadable {m : Type → Type} [Monad m] {ε : Type} {ofFault : Fault → ε}
    {probe : String → m (Except ε Unit)} {raw : String} {fault : Fault}
    (h : possible raw = .error fault) :
    discover ofFault probe raw = pure (raw, some (ofFault fault)) := by
  simp [discover, h]

end ServerUrl

end CredentialStore
