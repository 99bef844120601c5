import CredentialStore.Json.Basic
import CredentialStore.Json.Token

/-!
# Reading JSON

The value of a sequence of tokens, read by a machine that keeps the arrays and objects that are
still open. Main statement: `run_append` (a run over two sequences is the run over the first, then
over the second), from which what follows a value never matters to it.
-/

namespace CredentialStore.Json

/-- An array or an object that is still open, with what it holds so far in reverse. -/
inductive Frame where
  | array (before : List Json)
  | object (before : List (Option (List Char) × Json)) (name : Option (List Char))

/-- What the machine has read: the open frames, the innermost first, and what has to follow. -/
inductive State where
  /-- A value; or the end of an array that has just been opened. -/
  | value (frames : List Frame) (mayEnd : Bool)
  /-- The name of a member; or the end of an object that has just been opened. -/
  | name (frames : List Frame) (before : List (Option (List Char) × Json)) (mayEnd : Bool)
  | colon (frames : List Frame) (before : List (Option (List Char) × Json))
      (name : Option (List Char))
  /-- A comma or the end of the innermost frame. -/
  | more (frame : Frame) (frames : List Frame)
  | done (result : Json)

/-- An object of members in reverse; a name that stands for nothing spoils it. -/
def objectOf (before : List (Option (List Char) × Json)) : Json :=
  match before.reverse.mapM fun (name, j) => name.map fun n => (String.ofList n, j) with
  | some members => .object members
  | none => .unrepresentable

/-- Puts a value into the innermost frame. -/
def State.put (j : Json) : List Frame → State
  | [] => .done j
  | .array before :: frames => .more (.array (j :: before)) frames
  | .object before key :: frames => .more (.object ((key, j) :: before) key) frames

/-- Takes a token as the beginning of a value. -/
def State.startValue (frames : List Frame) : Token → Option State
  | .openArray => some (.value (.array [] :: frames) true)
  | .openObject => some (.name frames [] true)
  | .null => some (.put .null frames)
  | .bool b => some (.put (.bool b) frames)
  | .string s => some (.put (.string (String.ofList s)) frames)
  | .integer n => some (.put (.integer n) frames)
  | .decimal text => some (.put (.decimal text) frames)
  | .unrepresentableString | .unrepresentableNumber => some (.put .unrepresentable frames)
  | .closeArray | .closeObject | .colon | .comma => none

/-- Takes a token. -/
def State.step : State → Token → Option State
  | .value frames mayEnd, t =>
    match t, frames with
    | .closeArray, .array [] :: outer => if mayEnd then some (.put (.array []) outer) else none
    | _, _ => State.startValue frames t
  | .name frames before mayEnd, t =>
    match t with
    | .string s => some (.colon frames before (some s))
    | .unrepresentableString => some (.colon frames before none)
    | .closeObject => if mayEnd then some (.put (objectOf before) frames) else none
    | _ => none
  | .colon frames before key, t =>
    if t = .colon then some (.value (.object before key :: frames) false) else none
  | .more (.array before) frames, t =>
    match t with
    | .comma => some (.value (.array before :: frames) false)
    | .closeArray => some (.put (.array before.reverse) frames)
    | _ => none
  | .more (.object before _) frames, t =>
    match t with
    | .comma => some (.name frames before false)
    | .closeObject => some (.put (objectOf before) frames)
    | _ => none
  | .done _, _ => none

/-- Takes a sequence of tokens. -/
def State.run (s : State) (ts : List Token) : Option State :=
  ts.foldlM State.step s

/-- A run over two sequences is the run over the first, then over the second. -/
theorem State.run_append (s : State) (ts us : List Token) :
    s.run (ts ++ us) = (s.run ts).bind (·.run us) := by
  simp [State.run, List.foldlM_append, Option.bind_eq_bind]

/-- Reads a JSON text. -/
def read? (text : String) : Option Json :=
  match (tokens? text.toList).bind (State.run (.value [] false)) with
  | some (.done j) => some j
  | _ => none

end CredentialStore.Json
