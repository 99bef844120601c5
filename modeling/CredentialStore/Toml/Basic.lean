/-!
# TOML values

What a TOML text holds. Floating-point numbers and points in time are kept as they are written. A
structure is a table with entries of known names, or an array with its values in order; entries of
other names are passed over, and so is a point in time, which has none of them.
-/

namespace CredentialStore

/-- A TOML value. The entries of a table are in the order of the text. -/
inductive Toml where
  | string (s : String)
  | integer (n : Int)
  | float (text : List Char)
  | boolean (b : Bool)
  | datetime (text : List Char)
  | array (items : List Toml)
  | table (entries : List (String × Toml))
  deriving Repr, Inhabited

namespace Toml

/-- The values of a structure by the names of its fields. -/
def fields? (names : List String) : Toml → Option (List (String × Toml))
  | .table entries => some entries
  | .array items => some (names.zip items)
  | .datetime _ => some []
  | _ => none

/-- The value of a field. -/
def field? (fields : List (String × Toml)) (name : String) : Option Toml :=
  (fields.find? (·.1 == name)).map Prod.snd

/-- A string. -/
def string? : Toml → Option String
  | .string s => some s
  | _ => none

/-- The name of a choice: a string, or a table whose only entry has that name and an empty value. -/
def choice? : Toml → Option String
  | .string s => some s
  | .table [(name, .table [])] | .table [(name, .array [])] => some name
  | _ => none

/-- A string field that is empty where it is absent. -/
def text? (fields : List (String × Toml)) (name : String) : Option String :=
  match field? fields name with
  | some v => v.string?
  | none => some ""

/-- A choice that may be absent. -/
def optionalChoice? {α : Type} (ofText? : String → Option α) (fields : List (String × Toml))
    (name : String) : Option (Option α) :=
  match field? fields name with
  | some v => (v.choice?.bind ofText?).map some
  | none => some none

/-- A whole number from zero to the greatest of thirty-two bits; zero where it is absent. -/
def number? (fields : List (String × Toml)) (name : String) : Option Nat :=
  match field? fields name with
  | none => some 0
  | some (.integer (.ofNat n)) => if n < 0x100000000 then some n else none
  | some _ => none

end Toml

end CredentialStore
