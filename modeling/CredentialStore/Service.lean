import CredentialStore.Credential.Basic
import CredentialStore.Op

/-!
# Services

What every credential store does, whatever it keeps credentials in: `CredentialsService`. Each
operation reads the data anew. An operation that stores a credential is given the identifier that a
new credential gets.
-/

namespace CredentialStore

/-- What a reset leaves behind: a copy of the old data, or the reason why there is none. -/
structure ResetOutcome where
  backup : Option String := none
  backupError : Option CredentialError := none
  deriving DecidableEq, Repr

/-- The path of the copy for display, `backup_file_display`; empty where there is none. -/
def ResetOutcome.display (r : ResetOutcome) : String :=
  r.backup.getD ""

/-- A credential store over data of a type: `CredentialsService`. -/
structure Service (σ : Type) where
  name : String
  /-- All credentials. -/
  list : Op σ (List Credential)
  /-- The credential with an identifier. -/
  get : String → Op σ Credential
  /-- Stores a new credential unless it conflicts with another one. -/
  set : (fresh : String) → Details → Op σ Credential
  /-- Stores a credential in the place of the one of the same name, whose identifier it takes:
  `force_set`. -/
  forceSet : (fresh : String) → Details → Op σ Credential
  /-- Removes the credential with an identifier. -/
  delete : String → Op σ Unit
  /-- Removes everything, also what cannot be read. -/
  reset : Op σ ResetOutcome
  /-- The preferred credential: `default_server`. -/
  defaultServer : Op σ (Option Credential)
  /-- Prefers the credential with an identifier. -/
  setDefaultServer : String → Op σ Unit
  clearDefaultServer : Op σ Unit

/-- A service over a part of the data. -/
def Service.zoom {σ τ : Type} (part : σ → τ) (put : σ → τ → σ) (s : Service τ) : Service σ where
  name := s.name
  list := Op.zoom part put s.list
  get guid := Op.zoom part put (s.get guid)
  set fresh details := Op.zoom part put (s.set fresh details)
  forceSet fresh details := Op.zoom part put (s.forceSet fresh details)
  delete guid := Op.zoom part put (s.delete guid)
  reset := Op.zoom part put s.reset
  defaultServer := Op.zoom part put s.defaultServer
  setDefaultServer guid := Op.zoom part put (s.setDefaultServer guid)
  clearDefaultServer := Op.zoom part put s.clearDefaultServer

end CredentialStore
