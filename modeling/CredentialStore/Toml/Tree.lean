import CredentialStore.Toml.Basic

/-!
# Tables under construction

A TOML text names its tables by headers and by keys with dots. A table can be named before its own
header comes, but it is written down in one place only: a header gives a table once, and a dotted
key reaches only tables that dotted keys have made.
-/

namespace CredentialStore.Toml

/-- A value, a table, or an array of tables that headers extend. -/
inductive Node where
  | value (v : Toml)
  /-- A table is implicit as long as only the way to another one has named it, and dotted if that
  way was a key. -/
  | table (implicit dotted : Bool) (entries : List (String × Node))
  | tables (items : List (List (String × Node)))
  deriving Repr, Inhabited

namespace Node

/-- The entries of a table. -/
abbrev Entries := List (String × Node)

def find? (key : String) (es : Entries) : Option Node :=
  (es.find? (·.1 == key)).map Prod.snd

/-- Replaces the node of a key where it is. -/
def replace (key : String) (node : Node) (es : Entries) : Entries :=
  es.map fun e => if e.1 == key then (key, node) else e

/-- Changes the table at the end of a path, and makes the tables on the way that are not there. The
change is told whether the table was made by dotted keys. A dotted path enters no table that stands
in its own place. -/
def update (dotted : Bool) (change : Bool → Entries → Option Entries) (isDotted : Bool) :
    List String → Entries → Option Entries
  | [], es => change isDotted es
  | key :: path, es =>
    match find? key es with
    | none => do
      let sub ← update dotted change dotted path []
      return es ++ [(key, .table true dotted sub)]
    | some (.value _) => none
    | some (.tables items) =>
      match items.getLast? with
      | none => none
      | some last => do
        let last ← update dotted change false path last
        return replace key (.tables (items.dropLast ++ [last])) es
    | some (.table implicit wasDotted sub) =>
      if dotted && !implicit then none
      else do
        let sub ← update dotted change wasDotted path sub
        return replace key (.table implicit wasDotted sub) es

/-- Adds a value under a new key. A path and a table made by dotted keys belong together. -/
def putNew (direct : Bool) (key : String) (v : Toml) (isDotted : Bool) (es : Entries) :
    Option Entries :=
  if isDotted == direct then none
  else match find? key es with
    | some _ => none
    | none => some (es ++ [(key, .value v)])

/-- Adds a value under a dotted key to a table. -/
def assign (path : List String) (v : Toml) (es : Entries) : Option Entries :=
  match path.getLast? with
  | none => none
  | some key => update true (putNew path.dropLast.isEmpty key v) false path.dropLast es

/-- Adds a value under a dotted key to the table of a header. -/
def assignUnder (header path : List String) (v : Toml) (root : Entries) : Option Entries :=
  update false (fun _ es => assign path v es) false header root

/-- Takes the header of a table. A table that was only on the way to another one moves to the end.
-/
def openTable (header : List String) (root : Entries) : Option Entries :=
  match header.getLast? with
  | none => none
  | some key =>
    let change (_ : Bool) (es : Entries) : Option Entries :=
      match find? key es with
      | none => some (es ++ [(key, .table false false [])])
      | some (.table true false sub) =>
        some (es.filter (·.1 != key) ++ [(key, .table false false sub)])
      | some _ => none
    update false change false header.dropLast root

/-- Takes the header of one more table of an array. -/
def openItem (header : List String) (root : Entries) : Option Entries :=
  match header.getLast? with
  | none => none
  | some key =>
    let change (_ : Bool) (es : Entries) : Option Entries :=
      match find? key es with
      | none => some (es ++ [(key, .tables [[]])])
      | some (.tables items) => some (replace key (.tables (items ++ [[]])) es)
      | some _ => none
    update false change false header.dropLast root

mutual

/-- The value that a node has become. -/
def toToml : Node → Toml
  | .value v => v
  | .table _ _ es => .table (entriesToToml es)
  | .tables items => .array (itemsToToml items)

def entriesToToml : List (String × Node) → List (String × Toml)
  | [] => []
  | (key, node) :: rest => (key, toToml node) :: entriesToToml rest

def itemsToToml : List (List (String × Node)) → List Toml
  | [] => []
  | es :: rest => .table (entriesToToml es) :: itemsToToml rest

end

end Node

end CredentialStore.Toml
