import CredentialStore.Toml.Scalar
import CredentialStore.Toml.Tree

/-!
# Reading TOML

A text is read into statements, one a line (values may take several): headers of tables, and values
under keys. The statements then build the table that the text stands for.
-/

namespace CredentialStore.Toml

/-- Keys with dots between them and arrays or tables inside each other go no deeper than this. -/
def depthLimit : Nat := 80

/-! ## Keys -/

/-- A key without dots. -/
def readKey : List Char → Option (String × List Char)
  | '"' :: rest => (readBasic rest).map fun (s, rest) => (String.ofList s, rest)
  | '\'' :: rest => (readLiteral rest).map fun (s, rest) => (String.ofList s, rest)
  | cs =>
    let key := cs.takeWhile isBare
    if key.isEmpty then none else some (String.ofList key, cs.dropWhile isBare)

/-- Keys with dots between them, of any number. -/
def readKeys (cs : List Char) : Option (List String × List Char) :=
  match readKey (dropBlanks cs) with
  | none => none
  | some (key, rest) =>
    match dropBlanks rest with
    | '.' :: rest =>
      if rest.length < cs.length then
        (readKeys rest).map fun (keys, rest) => (key :: keys, rest)
      else none
    | rest => some ([key], rest)
termination_by cs.length

/-- A key, with dots or without, and the blanks around it. -/
def readPath (cs : List Char) : Option (List String × List Char) :=
  match readKeys cs with
  | some (keys, rest) => if keys.length < depthLimit then some (keys, rest) else none
  | none => none

/-! ## Values -/

/-- The items of an array, its bracket taken off. -/
def readItems (readItem : List Char → Option (Toml × List Char)) (cs : List Char) :
    Option (List Toml × List Char) :=
  match dropLines? false cs with
  | none => none
  | some (']' :: rest) => some ([], rest)
  | some start =>
    match readItem start with
    | none => none
    | some (item, rest) =>
      match dropLines? false rest with
      | some (',' :: rest) =>
        if rest.length < cs.length then
          (readItems readItem rest).map fun (items, rest) => (item :: items, rest)
        else none
      | some (']' :: rest) => some ([item], rest)
      | _ => none
termination_by cs.length

/-- A key and its value, and the blanks around them. -/
def readPair (readItem : List Char → Option (Toml × List Char)) (cs : List Char) :
    Option ((List String × Toml) × List Char) := do
  let (path, rest) ← readPath cs
  match rest with
  | '=' :: rest =>
    let (v, rest) ← readItem (dropBlanks rest)
    return ((path, v), dropBlanks rest)
  | _ => none

/-- The keys and values of a table on one line, from the first one on. -/
def readPairs (readItem : List Char → Option (Toml × List Char)) (cs : List Char) :
    Option (List (List String × Toml) × List Char) :=
  match readPair readItem cs with
  | none => none
  | some (pair, rest) =>
    match rest with
    | ',' :: rest =>
      if rest.length < cs.length then
        (readPairs readItem rest).map fun (pairs, rest) => (pair :: pairs, rest)
      else none
    | '\x7d' :: rest => some ([pair], rest)
    | _ => none
termination_by cs.length

/-- The table of keys and values on one line. -/
def tableOf (pairs : List (List String × Toml)) : Option Toml :=
  (pairs.foldlM (fun es (path, v) => Node.assign path v es) []).map fun es =>
    .table (Node.entriesToToml es)

/-- A value; arrays and tables nest as often as the number says. -/
def readValue : Nat → List Char → Option (Toml × List Char)
  | 0, cs => readScalar cs
  | depth + 1, cs =>
    match cs with
    | '[' :: rest =>
      (readItems (readValue depth) rest).map fun (items, rest) => (.array items, rest)
    | '\x7b' :: rest =>
      match dropBlanks rest with
      | '\x7d' :: rest => some (.table [], rest)
      | rest =>
        match readPairs (readValue depth) rest with
        | some (pairs, rest) => (tableOf pairs).map fun t => (t, rest)
        | none => none
    | _ => readScalar cs

/-! ## Statements -/

/-- A line of a text that says something. -/
inductive Statement where
  | table (header : List String)
  | item (header : List String)
  | value (path : List String) (v : Toml)
  deriving Repr

/-- The statement at the front, and the lines behind it. -/
def readStatement (cs : List Char) : Option (Statement × List Char) := do
  match cs with
  | '[' :: '[' :: rest =>
    let (header, rest) ← readPath rest
    match rest with
    | ']' :: ']' :: rest => return (.item header, ← restOfLine? rest)
    | _ => none
  | '[' :: rest =>
    let (header, rest) ← readPath rest
    match rest with
    | ']' :: rest => return (.table header, ← restOfLine? rest)
    | _ => none
  | _ =>
    let ((path, v), rest) ← readPair (readValue (depthLimit - 1)) cs
    return (.value path v, ← restOfLine? rest)

/-- Whether a line says nothing. -/
def startsEmptyLine : List Char → Bool
  | c :: _ => c == '#' || c == '\n' || c == '\r'
  | [] => true

/-- The statements of a text. -/
def readStatements (cs : List Char) : Option (List Statement) :=
  match dropBlanks cs with
  | [] => some []
  | start =>
    if startsEmptyLine start then
      match restOfLine? start with
      | some rest => if rest.length < cs.length then readStatements rest else none
      | none => none
    else match readStatement start with
      | some (s, rest) =>
        if rest.length < cs.length then (readStatements rest).map (s :: ·) else none
      | none => none
termination_by cs.length

/-- The root and the header that is in force. -/
structure Builder where
  root : Node.Entries
  header : List String

/-- Takes a statement. -/
def Builder.step (b : Builder) : Statement → Option Builder
  | .table header => (Node.openTable header b.root).map fun root => ⟨root, header⟩
  | .item header => (Node.openItem header b.root).map fun root => ⟨root, header⟩
  | .value path v => (Node.assignUnder b.header path v b.root).map fun root => ⟨root, b.header⟩

/-- Reads the entries of a text. A mark of the byte order at its front is passed over. -/
def read? (text : String) : Option (List (String × Toml)) := do
  let cs := match text.toList with
    | '\ufeff' :: rest => rest
    | cs => cs
  let b ← (← readStatements cs).foldlM Builder.step ⟨[], []⟩
  return Node.entriesToToml b.root

end CredentialStore.Toml
