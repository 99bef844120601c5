import CredentialStore.Json.Basic

/-!
# Structures in JSON

A structure is an object with members of known names, or an array with its values in order. Members
of other names are passed over; a known name stands only once.
-/

namespace CredentialStore.Json

/-- The values of a structure by the names of its fields. -/
def fields? (names : List String) : Json → Option (List (String × Json))
  | .object members =>
    let known := members.filter fun m => names.contains m.1
    if (known.map Prod.fst).Nodup then some known else none
  | .array items => if items.length ≤ names.length then some (names.zip items) else none
  | _ => none

/-- The value of a field. -/
def field? (fields : List (String × Json)) (name : String) : Option Json :=
  (fields.find? (·.1 == name)).map Prod.snd

/-- A string. -/
def string? : Json → Option String
  | .string s => some s
  | _ => none

/-- The name of a choice: a string, or an object whose only member has that name and no value. -/
def choice? : Json → Option String
  | .string s => some s
  | .object [(name, .null)] => some name
  | _ => none

/-- A string field that is empty where it is absent. -/
def text? (fields : List (String × Json)) (name : String) : Option String :=
  match field? fields name with
  | some j => j.string?
  | none => some ""

/-- A choice; absent where there is no value. -/
def optionalChoice? {α : Type} (ofText? : String → Option α) (fields : List (String × Json))
    (name : String) : Option (Option α) :=
  match field? fields name with
  | none | some .null => some none
  | some j => (j.choice?.bind ofText?).map some

/-- A whole number from zero to the greatest of thirty-two bits; zero where it is absent. -/
def number? (fields : List (String × Json)) (name : String) : Option Nat :=
  match field? fields name with
  | none => some 0
  | some (.integer (.ofNat n)) => if n < 0x100000000 then some n else none
  | some _ => none

end CredentialStore.Json
