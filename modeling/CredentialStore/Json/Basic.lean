/-!
# JSON values

Values as they are read: objects keep all their members in order, also repeated ones. A string with
half of a surrogate pair and a number beyond all floating-point numbers are well-formed but stand
for nothing; they are read as `unrepresentable`, which is harmless only where nobody looks.
-/

namespace CredentialStore

/-- A JSON value. -/
inductive Json where
  | null
  | bool (b : Bool)
  | integer (n : Int)
  /-- A number with a fraction, an exponent or a negative zero, as it is written. -/
  | decimal (text : List Char)
  | string (s : String)
  | array (items : List Json)
  | object (members : List (String × Json))
  | unrepresentable
  deriving Repr, Inhabited

namespace Json

mutual

/-- Whether every part of a value stands for something. -/
def isRepresentable : Json → Bool
  | .array items => allRepresentable items
  | .object members => allMembersRepresentable members
  | .unrepresentable => false
  | _ => true

def allRepresentable : List Json → Bool
  | [] => true
  | j :: rest => isRepresentable j && allRepresentable rest

def allMembersRepresentable : List (String × Json) → Bool
  | [] => true
  | (_, j) :: rest => isRepresentable j && allMembersRepresentable rest

end

mutual

/-- How deep arrays and objects nest. -/
def nesting : Json → Nat
  | .array items => nestingOfItems items + 1
  | .object members => nestingOfMembers members + 1
  | _ => 0

def nestingOfItems : List Json → Nat
  | [] => 0
  | j :: rest => max (nesting j) (nestingOfItems rest)

def nestingOfMembers : List (String × Json) → Nat
  | [] => 0
  | (_, j) :: rest => max (nesting j) (nestingOfMembers rest)

end

mutual

/-- The value with only the last of several members of one name, in every object. -/
def distinct : Json → Json
  | .array items => .array (distinctItems items)
  | .object members => .object (distinctMembers members)
  | j => j

def distinctItems : List Json → List Json
  | [] => []
  | j :: rest => distinct j :: distinctItems rest

def distinctMembers : List (String × Json) → List (String × Json)
  | [] => []
  | (name, j) :: rest =>
    let rest := distinctMembers rest
    if rest.any fun m => m.1 == name then rest else (name, distinct j) :: rest

end

end Json

end CredentialStore
