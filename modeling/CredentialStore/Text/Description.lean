import CredentialStore.Text.Digits
import CredentialStore.Unicode.Extender
import CredentialStore.Unicode.Unprintable

/-!
# Descriptions

The form in which values are shown to a developer. A text stands in double quotes, and quotes,
backslashes and whatever cannot be printed on its own are escaped in it; a value shows its name, and
its fields with their names in braces or without them in parentheses.
-/

namespace CredentialStore.Text

/-! ## Quoted texts -/

/-- A character between the quotes. -/
def quotedChar (c : Char) : List Char :=
  match c with
  | '\x00' => ['\\', '0']
  | '\t' => ['\\', 't']
  | '\r' => ['\\', 'r']
  | '\n' => ['\\', 'n']
  | '"' => ['\\', '"']
  | '\\' => ['\\', '\\']
  | c =>
    if Unicode.isExtender c || Unicode.isUnprintable c then
      "\\u\x7b".toList ++ hexDigits c.toNat ++ ['\x7d']
    else [c]

/-- A text in quotes. -/
def quoted (s : String) : String :=
  String.ofList ('"' :: s.toList.flatMap quotedChar ++ ['"'])

/-! ## Values -/

/-- A value with named fields on one line. -/
def describeFields (name : String) (fields : List (String × String)) : String :=
  name ++ " \x7b " ++ ", ".intercalate (fields.map fun (f, v) => f ++ ": " ++ v) ++ " \x7d"

/-- A value with named fields, one field a line. -/
def describeLines (name : String) (fields : List (String × String)) : String :=
  name ++ " \x7b\n" ++ String.join (fields.map fun (f, v) => "    " ++ f ++ ": " ++ v ++ ",\n") ++
    "\x7d"

/-- A value around one other value. -/
def describeWrapped (name value : String) : String :=
  name ++ "(" ++ value ++ ")"

/-- A text that may be absent. -/
def describeOption : Option String → String
  | none => "None"
  | some s => describeWrapped "Some" (quoted s)

end CredentialStore.Text
