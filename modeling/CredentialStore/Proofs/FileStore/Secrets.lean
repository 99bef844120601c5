import CredentialStore.Proofs.Credential.Secrets
import CredentialStore.Proofs.FileStore.Documents

/-!
# Documents that are equal up to secrets

What a document answers and what it becomes depends on its secrets only where they are shown: other
secrets in the same fields make a document of the same shape, also after every change. Its text
reads back, so two files that tell such documents go on telling such documents.

Main statements: `Document.EqUpToSecrets.put`, `Document.EqUpToSecrets.find?` and
`tellAlike_of_write`.
-/

namespace CredentialStore.FileStore

open Op (AnswersBy optionRel_cases)

/-! ## Entries -/

namespace Entry

/-- The value of a secret. -/
def secret (e : Entry) : Secret → String
  | .apiKey => e.apiKey
  | .privateKey => e.privateKey
  | .refreshToken => e.refreshToken
  | .accessToken => e.accessToken

/-- The entry with other secrets. -/
def withSecrets (e : Entry) (secrets : Secret → String) : Entry :=
  { e with
    apiKey := secrets .apiKey
    privateKey := secrets .privateKey
    refreshToken := secrets .refreshToken
    accessToken := secrets .accessToken }

/-- The entries differ in their secrets at most, and no secret is empty in one of them alone. -/
structure EqUpToSecrets (e f : Entry) : Prop where
  eq_withSecrets : f = e.withSecrets f.secret
  empty_iff : ∀ s, e.secret s = "" ↔ f.secret s = ""

theorem secret_ofCredential (c : Credential) : (ofCredential c).secret = c.toAttributes.secret := by
  funext s
  cases s <;> rfl

theorem secret_toCredential (e : Entry) (name : String) :
    (e.toCredential name).toAttributes.secret = e.secret := by
  funext s
  cases s <;> rfl

theorem secret_normalized (e : Entry) : e.normalized.secret = e.secret := by
  rw [normalized]
  split
  · split <;> rfl
  · rfl

theorem eqUpToSecrets_ofCredential {c d : Credential} (h : c.EqUpToSecrets d) :
    (ofCredential c).EqUpToSecrets (ofCredential d) := by
  refine ⟨?_, ?_⟩
  · rw [ofCredential, ofCredential, ← h.guid_eq, ← h.url_eq, ← h.serverType_eq, ← h.token_eq,
      ← h.snowflakeConnection_eq, ← h.accountId_eq, ← h.accountName_eq, ← h.cloudEnvironment_eq]
    rfl
  · rw [secret_ofCredential, secret_ofCredential]
    exact h.empty_iff

namespace EqUpToSecrets

variable {e f : Entry}

theorem refl (e : Entry) : e.EqUpToSecrets e :=
  ⟨rfl, fun _ => .rfl⟩

variable (h : e.EqUpToSecrets f)

include h

theorem guid_eq : e.guid = f.guid :=
  (congrArg guid h.eq_withSecrets).symm

theorem url_eq : e.url = f.url :=
  (congrArg url h.eq_withSecrets).symm

theorem version_eq : e.version = f.version :=
  (congrArg version h.eq_withSecrets).symm

theorem toCredential (name : String) :
    (e.toCredential name).EqUpToSecrets (f.toCredential name) := by
  refine ⟨⟨congrArg (fun x => (x.toCredential name).toAttributes) h.eq_withSecrets, ?_⟩, h.guid_eq⟩
  rw [secret_toCredential, secret_toCredential]
  exact h.empty_iff

theorem isComplete_eq : e.isComplete = f.isComplete := by
  have htoken : e.token = f.token := (congrArg token h.eq_withSecrets).symm
  have hsnowflake : e.snowflakeConnection = f.snowflakeConnection :=
    (congrArg snowflakeConnection h.eq_withSecrets).symm
  have hkey : (e.apiKey != "") = (f.apiKey != "") := bne_empty_congr (h.empty_iff .apiKey)
  have haccess : (e.accessToken != "") = (f.accessToken != "") :=
    bne_empty_congr (h.empty_iff .accessToken)
  rw [isComplete, isComplete, h.url_eq, htoken, hsnowflake, hkey, haccess]

/-- Whether a URL is brought into its normal form does not depend on secrets either. -/
theorem normalized : e.normalized.EqUpToSecrets f.normalized := by
  refine ⟨?_, ?_⟩
  · rw [Entry.normalized, Entry.normalized, h.isComplete_eq, h.url_eq]
    split
    · cases ServerUrl.normalize f.url with
      | error fault => exact h.eq_withSecrets
      | ok url => exact congrArg (fun x : Entry => { x with url }) h.eq_withSecrets
    · exact h.eq_withSecrets
  · rw [secret_normalized, secret_normalized]
    exact h.empty_iff

end EqUpToSecrets

end Entry

/-! ## Documents -/

namespace Document

/-- Two entries under one name, equal up to their secrets. -/
def EntriesAlike (x y : String × Entry) : Prop :=
  x.1 = y.1 ∧ x.2.EqUpToSecrets y.2

section Entries

variable {es fs : List (String × Entry)} {c d : Credential}

theorem valueOf?_alike (h : List.Forall₂ EntriesAlike es fs) (name : String) :
    Option.Rel Entry.EqUpToSecrets (OrderedTable.valueOf? name es)
      (OrderedTable.valueOf? name fs) := by
  induction h with
  | nil => exact .none
  | cons hhead _ ih =>
    rw [OrderedTable.valueOf?, OrderedTable.valueOf?, hhead.1]
    split
    · exact .some hhead.2
    · exact ih

/-- Both credentials go to the place of the entry of their name, or to the end. -/
theorem insertEntry_alike (h : List.Forall₂ EntriesAlike es fs) (hc : c.EqUpToSecrets d) :
    List.Forall₂ EntriesAlike (OrderedTable.insertEntry c.name (Entry.ofCredential c) es)
      (OrderedTable.insertEntry d.name (Entry.ofCredential d) fs) := by
  have hnew : EntriesAlike (c.name, Entry.ofCredential c) (d.name, Entry.ofCredential d) :=
    ⟨hc.name_eq, Entry.eqUpToSecrets_ofCredential hc⟩
  induction h with
  | nil => exact .cons hnew .nil
  | @cons x y _ _ hhead hrest ih =>
    rw [OrderedTable.insertEntry, OrderedTable.insertEntry]
    by_cases hname : x.1 = c.name
    · rw [if_pos hname, if_pos (hhead.1.symm.trans (hname.trans hc.name_eq))]
      exact .cons hnew hrest
    · rw [if_neg hname, if_neg fun hy => hname (hhead.1.trans (hy.trans hc.name_eq.symm))]
      exact .cons hhead ih

theorem filter_alike (h : List.Forall₂ EntriesAlike es fs) (name : String) :
    List.Forall₂ EntriesAlike (es.filter (·.1 ≠ name)) (fs.filter (·.1 ≠ name)) := by
  induction h with
  | nil => exact .nil
  | cons hhead _ ih =>
    rw [List.filter_cons, List.filter_cons, hhead.1]
    split
    · exact .cons hhead ih
    · exact ih

theorem checkVersions_alike (h : List.Forall₂ EntriesAlike es fs) :
    (es.forM fun e => checkVersion e.2.version) = fs.forM fun e => checkVersion e.2.version := by
  induction h with
  | nil => rfl
  | @cons x y xs ys hhead _ ih =>
    show (do checkVersion x.2.version; xs.forM fun e => checkVersion e.2.version) = do
      checkVersion y.2.version
      ys.forM fun e => checkVersion e.2.version
    rw [hhead.2.version_eq, ih]

end Entries

/-- The documents have the same preference, and entries that are equal up to their secrets, in the
same order. -/
structure EqUpToSecrets (D E : Document) : Prop where
  defaultServer_eq : D.defaultServer = E.defaultServer
  entries_alike : List.Forall₂ EntriesAlike D.credentials.entries E.credentials.entries

namespace EqUpToSecrets

variable {D E : Document} {c d : Credential}

theorem refl (D : Document) : D.EqUpToSecrets D :=
  ⟨rfl, List.forall₂_same.2 fun _ _ => ⟨rfl, .refl _⟩⟩

variable (h : D.EqUpToSecrets E)

include h

theorem list : List.Forall₂ Credential.EqUpToSecrets D.list E.list := by
  rw [Document.list, Document.list, List.forall₂_map_left_iff, List.forall₂_map_right_iff]
  refine h.entries_alike.imp fun x y hxy => ?_
  obtain ⟨hname, hentry⟩ := hxy
  show (x.2.toCredential x.1).EqUpToSecrets (y.2.toCredential y.1)
  rw [← hname]
  exact hentry.toCredential x.1

theorem find? (guid : String) :
    Option.Rel Credential.EqUpToSecrets (D.find? guid) (E.find? guid) := by
  rw [find?_eq_list, find?_eq_list]
  exact Credential.find?_guid h.list guid

/-- The entries that a name has. -/
theorem find?_name (name : String) :
    Option.Rel Entry.EqUpToSecrets (D.credentials.find? name) (E.credentials.find? name) :=
  valueOf?_alike h.entries_alike name

theorem put (hc : c.EqUpToSecrets d) : (D.put c).EqUpToSecrets (E.put d) :=
  ⟨h.defaultServer_eq, insertEntry_alike h.entries_alike hc⟩

theorem erase (name : String) (preferred : Option String) :
    EqUpToSecrets ⟨preferred, D.credentials.erase name⟩ ⟨preferred, E.credentials.erase name⟩ :=
  ⟨rfl, filter_alike h.entries_alike name⟩

/-- The credentials that take the places of the entries of their name. -/
theorem successor (hc : c.EqUpToSecrets d) : (D.successor c).EqUpToSecrets (E.successor d) := by
  rw [Document.successor, Document.successor, ← hc.name_eq]
  rcases optionRel_cases (h.find?_name c.name) with ⟨hD, hE⟩ | ⟨e, f, hD, hE, hentry⟩
  · rw [hD, hE]
    exact hc
  · rw [hD, hE]
    dsimp only
    rw [hentry.guid_eq]
    split
    · exact hc
    · exact ⟨hc.toEqUpToSecrets, rfl⟩

theorem prefer (preferred : Option String) :
    EqUpToSecrets { D with defaultServer := preferred } { E with defaultServer := preferred } :=
  ⟨rfl, h.entries_alike⟩

theorem checkVersions_eq : D.checkVersions = E.checkVersions :=
  checkVersions_alike h.entries_alike

theorem normalized : D.normalized.EqUpToSecrets E.normalized := by
  refine ⟨h.defaultServer_eq, ?_⟩
  show List.Forall₂ EntriesAlike (D.credentials.entries.map fun e => (e.1, e.2.normalized))
    (E.credentials.entries.map fun e => (e.1, e.2.normalized))
  rw [List.forall₂_map_left_iff, List.forall₂_map_right_iff]
  exact h.entries_alike.imp fun _ _ hxy => ⟨hxy.1, hxy.2.normalized⟩

end EqUpToSecrets

/-- The documents are equal up to their secrets, and both read back from their texts. -/
structure WrittenAlike (D E : Document) : Prop extends D.EqUpToSecrets E where
  fits : D.Fits
  fits' : E.Fits

namespace WrittenAlike

variable {D E : Document} {c d : Credential}

theorem refl (h : D.Fits) : D.WrittenAlike D :=
  ⟨.refl D, h, h⟩

theorem put (h : D.WrittenAlike E) (hc : c.EqUpToSecrets d) : (D.put c).WrittenAlike (E.put d) := by
  have hversion : currentVersion < 0x100000000 := by decide
  have hput : ∀ {F : Document} {c : Credential}, F.Fits → (F.put c).Fits :=
    fun hF => forall_put (P := fun e => e.version < 0x100000000) hF hversion
  exact ⟨h.toEqUpToSecrets.put hc, hput h.fits, hput h.fits'⟩

theorem erase (h : D.WrittenAlike E) (name : String) (preferred : Option String) :
    WrittenAlike ⟨preferred, D.credentials.erase name⟩ ⟨preferred, E.credentials.erase name⟩ :=
  ⟨h.toEqUpToSecrets.erase name preferred, fun e he => h.fits e (List.mem_filter.1 he).1,
    fun e he => h.fits' e (List.mem_filter.1 he).1⟩

theorem prefer (h : D.WrittenAlike E) (preferred : Option String) :
    WrittenAlike { D with defaultServer := preferred } { E with defaultServer := preferred } :=
  ⟨h.toEqUpToSecrets.prefer preferred, h.fits, h.fits'⟩

end WrittenAlike

/-- What is loaded of texts that tell documents alike. -/
theorem load_alike {path text text' : String} {D E : Document} (hD : parse? text = some D)
    (hE : parse? text' = some E) (h : D.EqUpToSecrets E) :
    AnswersBy WrittenAlike (load path text) (load path text') := by
  -- both are refused for the same version, or neither is
  have hload : load path text = (do D.checkVersions; return D.normalized) := by rw [load, hD]
  have hload' : load path text' = (do E.checkVersions; return E.normalized) := by rw [load, hE]
  rw [h.checkVersions_eq] at hload
  cases hversions : E.checkVersions with
  | error e =>
    rw [hversions] at hload hload'
    rw [hload, hload']
    exact Eq.refl e
  | ok u =>
    rw [hversions] at hload hload'
    rw [hload, hload']
    exact ⟨h.normalized, (isSettled_of_load hload).fits, (isSettled_of_load hload').fits⟩

end Document

/-! ## Bytes -/

/-- The document of the bytes of a file. -/
def documentOf? (bytes : List UInt8) : Option Document :=
  (Text.ofUtf8? bytes).bind fun cs => Document.parse? (String.ofList cs)

/-- The bytes are the same, or they tell documents that are equal up to their secrets. -/
def TellAlike (bytes bytes' : List UInt8) : Prop :=
  bytes = bytes' ∨ ∃ D E, documentOf? bytes = some D ∧ documentOf? bytes' = some E ∧
    D.EqUpToSecrets E

theorem documentOf?_write {D : Document} (h : D.Fits) :
    documentOf? (Text.utf8 D.write.toList) = some D := by
  rw [documentOf?, Text.ofUtf8?_utf8, Option.bind_some, String.ofList_toList,
    Document.parse?_write h]

theorem tellAlike_of_write {D E : Document} (h : D.WrittenAlike E) :
    TellAlike (Text.utf8 D.write.toList) (Text.utf8 E.write.toList) :=
  .inr ⟨D, E, documentOf?_write h.fits, documentOf?_write h.fits', h.toEqUpToSecrets⟩

end CredentialStore.FileStore
