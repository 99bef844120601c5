import CredentialStore.Proofs.Credential.Validation
import CredentialStore.Proofs.FileStore.Documents

/-!
# Credentials in the file

A credential that validation let through comes out of the file as it went in, next to whatever else
the document holds. Its table leaves out what is empty and what the URL tells. The URL is brought
into its normal form when the file is read, and what is left out is told by that form: this agrees
with what was left out, since the URL was stored in its normal form already.

Main statements:

* `Entry.writesFields_values` — which keys the table of a credential has;
* `Document.find?_normalized_put` — what is loaded under the name of a credential that was put;
* `Document.put_loses_nothing` — the text, what is loaded of it, and the file after a save.
-/

namespace CredentialStore.FileStore

open Op Toml

/-! ## The table of a credential -/

/-- The texts of a credential that are written where they are not empty, by their keys. -/
def optionalTexts (c : Credential) : List (String × String) :=
  [("api_key", c.apiKey), ("token", c.token), ("private_key", c.privateKey),
    ("snowflake_connection", c.snowflakeConnection), ("account_id", c.accountId),
    ("account_name", c.accountName), ("refresh_token", c.refreshToken),
    ("access_token", c.accessToken)]

/-- The keys of the table of a credential: the kind of server is told where the URL does not tell
it, the deployment for the hosted product, and any other field where it is not empty. -/
structure WritesFields (c : Credential) (keys : List String) : Prop where
  known : ∀ key ∈ keys, key ∈ Entry.fieldNames
  always : ∀ key ∈ ["guid", "version", "url"], key ∈ keys
  serverType_iff : "server_type" ∈ keys ↔ ServerType.ofUrl c.url ≠ c.serverType
  cloudEnvironment_iff : "cloud_environment" ∈ keys ↔ c.serverType = .connectCloud
  text_iff : ∀ field ∈ optionalTexts c, field.1 ∈ keys ↔ field.2 ≠ ""

namespace Entry

theorem map_fst_values (e : Entry) : e.values.map Prod.fst = e.toLines.map Prod.fst := by
  rw [values, List.map_map]
  rfl

/-- A text has a key where it is not empty. -/
theorem mem_keys_values_iff (e : Entry) (name : String) :
    ∀ field ∈ optionalTexts (e.toCredential name),
      field.1 ∈ e.values.map Prod.fst ↔ field.2 ≠ "" := by
  intro field hfield
  rw [mem_keys_iff]
  simp only [optionalTexts, toCredential, List.mem_cons, List.not_mem_nil, or_false] at hfield
  rcases hfield with rfl | rfl | rfl | rfl | rfl | rfl | rfl | rfl <;> simp [values, toLines]

/-- The table of the entry that a credential is written as. -/
theorem writesFields_values (c : Credential) :
    WritesFields c ((ofCredential c).values.map Prod.fst) where
  known := by
    intro key hkey
    rw [map_fst_values] at hkey
    exact (ofCredential c).sublist_toLines.subset hkey
  always := by
    intro key hkey
    rw [mem_keys_iff]
    simp only [List.mem_cons, List.not_mem_nil, or_false] at hkey
    rcases hkey with rfl | rfl | rfl <;> simp [values, toLines]
  serverType_iff := by
    have hfield : field? (ofCredential c).values "server_type" =
        (ofCredential c).serverType.map fun t => .string t.text := by simp [values, toLines]
    rw [mem_keys_iff, hfield, Option.isSome_map, ofCredential]
    by_cases htype : ServerType.ofUrl c.url = c.serverType <;> simp [htype]
  cloudEnvironment_iff := by
    have hfield : field? (ofCredential c).values "cloud_environment" =
        (ofCredential c).cloudEnvironment.map fun e => .string e.text := by simp [values, toLines]
    rw [mem_keys_iff, hfield, Option.isSome_map, ofCredential]
    cases c.serverType <;> simp [ServerType.isCloud]
  text_iff := (ofCredential c).mem_keys_values_iff c.name

end Entry

/-! ## Documents with a new credential -/

namespace Document

variable {d : Details} {fresh : String} {c : Credential} {D : Document}

/-- A document whose versions are known can be read back. -/
theorem fits_of_checkVersions (h : D.checkVersions = .ok ()) : D.Fits := by
  intro e he
  have hversion : e.2.version ≤ currentVersion := checkVersion_eq_ok_iff.1 (forall_of_forM h he)
  rw [currentVersion] at hversion
  omega

theorem checkVersions_put (h : D.checkVersions = .ok ()) (c : Credential) :
    (D.put c).checkVersions = .ok () := by
  -- the new entry has the version that is written
  have hall : ∀ e ∈ (D.put c).credentials.entries, e.2.version ≤ currentVersion :=
    forall_put (P := fun e => e.version ≤ currentVersion)
      (fun e he => checkVersion_eq_ok_iff.1 (forall_of_forM h he)) (Nat.le_refl _)
  exact forM_of_forall fun e he => checkVersion_eq_ok_iff.2 (hall e he)

/-- What is read of a document with a new credential. -/
theorem load_write_put (h : D.checkVersions = .ok ()) (c : Credential) (path : String) :
    load path (D.put c).write = .ok (D.put c).normalized := by
  have hversions := checkVersions_put h c
  rw [load_write (fits_of_checkVersions hversions), hversions]
  rfl

/-- The table of a new credential in the written document. -/
theorem field?_write_put (h : D.checkVersions = .ok ()) (c : Credential) :
    ∃ fields tables, Toml.read? (D.put c).write = some fields ∧
      field? fields credentialsKey = some (.table tables) ∧
      field? tables c.name = some (.table (Entry.ofCredential c).values) := by
  refine ⟨_, _, read?_write (fits_of_checkVersions (checkVersions_put h c)),
    field?_values_credentials _, ?_⟩
  have hname : OrderedTable.valueOf? c.name (D.put c).credentials.entries =
      some (Entry.ofCredential c) :=
    (D.credentials.find?_insert c.name c.name _).trans (if_pos rfl)
  rw [field?_map_table fun e : Entry => .table e.values, hname]
  rfl

/-- The normal forms of URLs change nothing about a credential that was put: its URL is one. -/
theorem find?_normalized_put (h : c.ReadsBack) (D : Document) :
    (D.put c).normalized.credentials.find? c.name = some (Entry.ofCredential c) := by
  have hput : (D.put c).credentials.find? c.name = some (Entry.ofCredential c) :=
    (D.credentials.find?_insert c.name c.name _).trans (if_pos rfl)
  rw [normalized, OrderedTable.find?_mapValues, hput, Option.map_some,
    (Entry.isSettled_ofCredential h).normalized_eq]

/-- The file keeps a credential that validation let through, whatever else it holds: the text has a
table for it with the keys that it needs and no others; that text is loaded as the document with the
credential in it, whose URL is left as it is; and saving fails at the disk or leaves a file that
tells that document. -/
theorem put_loses_nothing (hc : d.toCredential fresh = .ok c) (hD : D.checkVersions = .ok ()) :
    (∃ fields tables written, Toml.read? (D.put c).write = some fields ∧
      field? fields credentialsKey = some (.table tables) ∧
      field? tables c.name = some (.table written) ∧ WritesFields c (written.map Prod.fst)) ∧
    (∀ path, load path (D.put c).write = .ok (D.put c).normalized) ∧
    ((D.put c).normalized.credentials.find? c.name).map (·.toCredential c.name) = some c ∧
    ∀ path s, Leaves path (save path (D.put c)) s (.ok (), (D.put c).normalized) := by
  have hback := Details.readsBack_of_toCredential hc
  refine ⟨?_, load_write_put hD c, ?_, fun path s => ?_⟩
  · obtain ⟨fields, tables, hread, htables, htable⟩ := field?_write_put hD c
    exact ⟨fields, tables, _, hread, htables, htable, Entry.writesFields_values c⟩
  · rw [find?_normalized_put hback, Option.map_some,
      Entry.toCredential_ofCredential hback.cloudEnvironment_eq]
  · rcases save_cases path (D.put c) s with hio | ⟨t, hok, htext⟩
    · exact .inl hio
    · -- a save that did not fail has left the text
      have hloads : Loads path t (D.put c).normalized := by
        rw [loads_iff, htext]
        exact load_write_put hD c path
      exact .inr ⟨t, hok, hloads, nofun⟩

/-- A server that is reached at a host of another product, under a name that has to be quoted. -/
def displaced : Details :=
  Details.connectWithToken "\"a\".'b'\n" "HTTPS://Acme.SnowflakeComputing.app:443//x/" "T" "key\n"

/-- A document with one entry, without a version and with a URL in another form. -/
def unversioned : Document where
  credentials := ⟨[("old", { guid := "1", url := "http://Old.example.com/", apiKey := "k" })],
    by simp⟩

theorem put_loses_nothing_displaced :
    ∃ c, displaced.toCredential "2" = .ok c ∧ unversioned.checkVersions = .ok () ∧
      ServerType.ofUrl c.url = .snowflake ∧ c.serverType = .connect ∧
      (∃ fields tables written, Toml.read? (unversioned.put c).write = some fields ∧
        field? fields credentialsKey = some (.table tables) ∧
        field? tables c.name = some (.table written) ∧ "server_type" ∈ written.map Prod.fst ∧
        "cloud_environment" ∉ written.map Prod.fst) ∧
      ∃ E, load "credentials" (unversioned.put c).write = .ok E ∧
        (E.credentials.find? c.name).map (·.toCredential c.name) = some c := by
  have hok : ∃ c, displaced.toCredential "2" = .ok c ∧ ServerType.ofUrl c.url = .snowflake ∧
      c.serverType = .connect := by
    refine ⟨displaced.storedAt "https://acme.snowflakecomputing.app/x" "2", ?_, ?_, rfl⟩
    · decide +kernel
    · decide +kernel
  obtain ⟨c, hc, hurl, htype⟩ := hok
  have hversions : unversioned.checkVersions = .ok () := rfl
  obtain ⟨⟨fields, tables, written, hread, htables, htable, hkeys⟩, hload, hfind, -⟩ :=
    put_loses_nothing hc hversions
  refine ⟨c, hc, hversions, hurl, htype, ⟨fields, tables, written, hread, htables, htable, ?_, ?_⟩,
    _, hload _, hfind⟩
  · rw [hkeys.serverType_iff, hurl, htype]
    decide
  · rw [hkeys.cloudEnvironment_iff, htype]
    decide

end Document

end CredentialStore.FileStore
