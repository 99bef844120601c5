/-!
# Paths

Paths are kept as they are written; only what is done with them looks at their components. Empty
components and single dots name nothing. Every path is a text; names that are not text in UTF-8 are
left out.
-/

namespace CredentialStore.Path

/-- The components of a path that name something. -/
def components (path : String) : List String :=
  ((path.toList.splitOn '/').map String.ofList).filter fun c => c != "" && c != "."

/-- Whether a path starts at the root. -/
def isAbsolute (path : String) : Bool :=
  path.toList.head? == some '/'

/-- Whether a path can only name a directory. -/
def namesDirectory (path : String) : Bool :=
  match (path.toList.splitOn '/').getLast? with
  | some last => last == [] || last == ['.']
  | none => true

/-- Whether a path ends in a dot that names nothing, perhaps with slashes behind it. -/
def endsInDot (path : String) : Bool :=
  ((path.toList.splitOn '/').filter (· ≠ [])).getLast? == some ['.']

/-- Drops what names nothing from the end of a reversed path; the root stays. -/
def dropEnd : List Char → List Char
  | ['/'] => ['/']
  | '/' :: rest => dropEnd rest
  | '.' :: '/' :: rest => dropEnd ('/' :: rest)
  | cs => cs
termination_by cs => cs.length

/-- The name at the end of a path; `..` is no name. -/
def fileName? (path : String) : Option String :=
  match (components path).getLast? with
  | some name => if name = ".." then none else some name
  | none => none

/-- The path of the directory around a path. -/
def parent? (path : String) : Option String :=
  match dropEnd path.toList.reverse with
  | [] | ['/'] => none
  | cs => some (String.ofList (dropEnd (cs.dropWhile (· ≠ '/'))).reverse)

/-- A path with one more component. -/
def join (directory name : String) : String :=
  if directory.isEmpty || directory.endsWith "/" then directory ++ name
  else directory ++ "/" ++ name

/-- The path of another name in the same directory. -/
def withFileName (path name : String) : String :=
  match fileName? path with
  | some _ => join ((parent? path).getD "") name
  | none => join path name

/-- The name without its extension and the extension behind its last dot; a dot at the front starts
no extension. -/
def splitExtension (name : String) : String × Option String :=
  let cs := name.toList
  let ext := (cs.reverse.takeWhile (· ≠ '.')).reverse
  let stem := cs.take (cs.length - ext.length - 1)
  if cs.contains '.' && !stem.isEmpty && name != ".." then
    (String.ofList stem, some (String.ofList ext))
  else (name, none)

/-- The path with another extension. At the very end of a path, a name of two dots and an extension
leaves two dots, which are no name, and those get none. -/
def withExtension (path extension : String) : String :=
  match fileName? path with
  | none => path
  | some name =>
    let (stem, _) := splitExtension name
    if stem = "." && path.endsWith name then withFileName path ".."
    else withFileName path (stem ++ "." ++ extension)

end CredentialStore.Path
