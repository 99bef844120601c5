import CredentialStore.Text.Description
import CredentialStore.Text.Digits

/-!
# Failures of the disk

Why an access to files fails, with the number, the kind and the wording of each cause.
-/

namespace CredentialStore

/-- Why an access to files fails. -/
inductive IoError where
  | notFound
  | alreadyExists
  | notADirectory
  | isADirectory
  | nameTooLong
  | noSpace
  | busy
  /-- Only a regular file can be copied. -/
  | notRegularFile
  /-- A file that is read as text is not well-formed UTF-8. -/
  | notText
  | custom (text : String)
  deriving DecidableEq, Repr, Inhabited

namespace IoError

open Text

/-- Number, kind and wording of the causes that the system reports. -/
def systemCause : IoError → Option (Nat × String × String)
  | .notFound => some (2, "NotFound", "No such file or directory")
  | .alreadyExists => some (17, "AlreadyExists", "File exists")
  | .notADirectory => some (20, "NotADirectory", "Not a directory")
  | .isADirectory => some (21, "IsADirectory", "Is a directory")
  | .nameTooLong => some (36, "InvalidFilename", "File name too long")
  | .busy => some (16, "ResourceBusy", "Device or resource busy")
  | .noSpace => some (28, "StorageFull", "No space left on device")
  | .notRegularFile | .notText | .custom _ => none

/-- Kind and wording of the causes that the system does not report. -/
def ownCause : IoError → String × String
  | .notRegularFile =>
    ("InvalidInput", "the source path is neither a regular file nor a symlink to a regular file")
  | .notText => ("InvalidData", "stream did not contain valid UTF-8")
  | .custom text => ("Other", text)
  | _ => ("Other", "")

/-- The wording of a failure. -/
def message (e : IoError) : String :=
  match e.systemCause with
  | some (code, _, text) => text ++ " (os error " ++ decimal code ++ ")"
  | none => e.ownCause.2

/-- The description of a failure. -/
def describe (e : IoError) : String :=
  match e, e.systemCause with
  | .custom text, _ => describeFields "Custom" [("kind", "Other"), ("error", quoted text)]
  | _, some (code, kind, text) =>
    describeFields "Os" [("code", decimal code), ("kind", kind), ("message", quoted text)]
  | _, none =>
    describeFields "Error" [("kind", e.ownCause.1), ("message", quoted e.ownCause.2)]

end IoError

end CredentialStore
