/-!
# Characters of TOML

Blanks, line ends and comments, and the characters that may stand in them.
-/

namespace CredentialStore.Toml

/-- A blank inside a line. -/
def isBlank (c : Char) : Bool :=
  c == ' ' || c == '\t'

/-- A character that may stand in a string or a comment: no control character but the tab. -/
def isText (c : Char) : Bool :=
  c == '\t' || (0x20 ≤ c.toNat && c != '\x7f')

/-- A character of a key without quotes. -/
def isBare (c : Char) : Bool :=
  c.isAlphanum || c == '_' || c == '-'

def dropBlanks (cs : List Char) : List Char :=
  cs.dropWhile isBlank

/-- The text behind the end of a line. -/
def endOfLine? : List Char → Option (List Char)
  | [] => some []
  | '\n' :: rest => some rest
  | '\r' :: '\n' :: rest => some rest
  | _ => none

/-- The text behind the end of a line that may have a comment. -/
def restOfLine? (cs : List Char) : Option (List Char) :=
  match dropBlanks cs with
  | '#' :: rest => endOfLine? (rest.dropWhile isText)
  | rest => endOfLine? rest

/-- The text behind blanks, line ends and comments; a comment reaches to the end of its line. -/
def dropLines? (inComment : Bool) : List Char → Option (List Char)
  | [] => if inComment then none else some []
  | '\n' :: rest => dropLines? false rest
  | '\r' :: '\n' :: rest => dropLines? false rest
  | c :: rest =>
    if inComment then if isText c then dropLines? true rest else none
    else if isBlank c then dropLines? false rest
    else if c = '#' then dropLines? true rest
    else some (c :: rest)

end CredentialStore.Toml
