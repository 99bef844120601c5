import CredentialStore.KeyringStore.Basic
import CredentialStore.Proofs.Credential.Data
import CredentialStore.Proofs.Json.RoundTrip

/-!
# What a keyring keeps reads back

The record of a credential and the index of names are JSON texts. Both read back as what was
written, whatever texts a credential or an index is made of.

Main statements:

* `KeyringStore.decode_write` — the record of a credential decodes to that credential;
* `KeyringStore.Index.read?_write` — the text of an index reads back as that index.
-/

namespace CredentialStore

/-! ## Records -/

namespace Credential

theorem isPlain_toData (c : Credential) : c.toData.IsPlain := by
  simp [toData, Json.IsPlain, Json.ArePlainMembers]

/-- Stored data is already free of repeated members. -/
theorem distinct_toData (c : Credential) : c.toData.distinct = c.toData := by
  simp [toData, Json.distinct, Json.distinctMembers]

end Credential

namespace Record

theorem isPlain_ofCredential (c : Credential) :
    (Json.object [("guid", .string (ofCredential c).guid),
      ("version", .integer (ofCredential c).version), ("data", (ofCredential c).data)]).IsPlain := by
  refine ⟨trivial, ?_, c.isPlain_toData, trivial⟩
  -- the version is the only number
  show (currentVersion : Int).natAbs < Text.doubleLimit
  decide +kernel

theorem read?_write (c : Credential) :
    read? (ofCredential c).write = some (ofCredential c) := by
  have hrepresentable : (ofCredential c).data.isRepresentable = true := by
    simp [ofCredential, Credential.toData, Json.isRepresentable, Json.allMembersRepresentable]
  have hnesting : (ofCredential c).data.nesting ≤ maxNesting := by
    simp [ofCredential, Credential.toData, Json.nesting, Json.nestingOfMembers, maxNesting]
  have henvelope : ofJson? (.object [("guid", .string (ofCredential c).guid),
      ("version", .integer (ofCredential c).version), ("data", (ofCredential c).data)]) =
      some (ofCredential c) := by
    have hversion : Json.number? [("guid", .string c.guid), ("version", .integer currentVersion),
        ("data", c.toData)] "version" = some currentVersion := rfl
    simp [ofJson?, memberNames, Json.fields?, Json.text?, Json.field?, Json.string?, hversion,
      ofCredential]
  rw [read?, write, Json.read?_compact (isPlain_ofCredential c)]
  simp only [Option.bind_eq_bind, Option.bind_some, henvelope]
  rw [if_pos ⟨hrepresentable, hnesting⟩, ofCredential, c.distinct_toData]

theorem toCredential_ofCredential (c : Credential) : (ofCredential c).toCredential = .ok c := by
  have hversion : checkVersion (ofCredential c).version = .ok () :=
    checkVersion_eq_ok_iff.2 (Nat.le_refl _)
  have hdata : Credential.ofData? (ofCredential c).data = some c := c.ofData?_toData
  have hguid : ¬ (c.guid ≠ "" ∧ (ofCredential c).guid ≠ "" ∧ c.guid ≠ (ofCredential c).guid) :=
    fun h => h.2.2 rfl
  simp only [toCredential, hversion, hdata]
  rw [if_neg hguid]
  by_cases hempty : c.guid = ""
  · rw [if_pos hempty]
    rfl
  · rw [if_neg hempty]

end Record

namespace KeyringStore

/-- The record of a credential decodes to that credential. -/
theorem decode_write (c : Credential) :
    decode c.guid (Record.ofCredential c).write = .ok c := by
  rw [decode, Record.read?_write]
  exact (if_pos rfl).trans (Record.toCredential_ofCredential c)

/-! ## The index -/

namespace Index

theorem isPlain_object (entries : List (String × String)) :
    (Json.object (entries.map fun (guid, n) => (guid, .string n))).IsPlain := by
  show Json.ArePlainMembers _
  induction entries with
  | nil => trivial
  | cons e rest ih => exact ⟨trivial, ih⟩

/-- The text of an index reads back as that index. -/
theorem read?_write (index : Index) : read? index.write = some index := by
  rw [read?, write, Json.read?_compact (isPlain_object index.entries)]
  simp only [Option.bind_eq_bind, Option.bind_some]
  rw [mapM_map_of_forall fun e _ => ?_, Option.bind_some, SortedTable.ofList_entries]
  · rfl
  · rfl

end Index

end KeyringStore

end CredentialStore
