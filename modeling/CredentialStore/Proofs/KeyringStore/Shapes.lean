import CredentialStore.Proofs.KeyringStore.Legacy
import CredentialStore.Proofs.KeyringStore.Records

/-!
# The two shapes of a value in one entry

In the legacy entry, a value is the data of a credential itself or a record around it. Which of the
two it is decides how it is read (`decode_entry`): the data alone goes through no check of a version
and has no envelope to take an identifier from. Both ways tell the same credential all the same,
whether the envelope has the identifier of the data or none: where the data has none either, the
name under which the value stands determines it.

Main statements:

* `Record.ofJson?_of_perm` — an envelope is read whatever the order of its members is;
* `LegacyStore.shapes_decode_alike` — data and the records around it are decoded alike.
-/

namespace CredentialStore

/-! ## Records around data -/

namespace Record

/-- The members of an envelope, with an identifier or without. -/
def members (guid? : Option String) (version : Nat) (data : Json) : List (String × Json) :=
  (guid?.map fun guid => ("guid", Json.string guid)).toList ++
    [("version", .integer version), ("data", data)]

variable {envelope : List (String × Json)} {guid? : Option String} {version : Nat} {data : Json}

theorem nodup_members : ((members guid? version data).map Prod.fst).Nodup := by
  cases guid? with
  | none =>
    show ["version", "data"].Nodup
    decide
  | some guid =>
    show ["guid", "version", "data"].Nodup
    decide

theorem field?_of_perm (h : envelope.Perm (members guid? version data)) {name : String} {j : Json}
    (hj : (name, j) ∈ members guid? version data) : Json.field? envelope name = some j := by
  rw [Json.field?_of_part (fun m hm _ => h.mem_iff.1 hm) nodup_members hj, if_pos]
  exact List.mem_map_of_mem (f := Prod.fst) (h.mem_iff.2 hj)

/-- An envelope without an identifier has an empty one. -/
theorem text?_guid_of_perm (h : envelope.Perm (members guid? version data)) :
    Json.text? envelope "guid" = some (guid?.getD "") := by
  unfold Json.text?
  cases guid? with
  | some guid =>
    rw [field?_of_perm h (List.mem_cons_self ..)]
    rfl
  | none =>
    have hother : ∀ m ∈ envelope, ¬ (m.1 == "guid") = true := by
      intro m hm
      have hm := h.mem_iff.1 hm
      simp only [members, Option.map_none, Option.toList_none, List.nil_append, List.mem_cons,
        List.not_mem_nil, or_false] at hm
      rcases hm with rfl | rfl <;> simp
    rw [Json.field?, List.find?_eq_none.2 hother]
    rfl

/-- An envelope is read whatever the order of its members is. -/
theorem ofJson?_of_perm (h : envelope.Perm (members guid? version data))
    (hversion : version ≤ currentVersion) :
    ofJson? (.object envelope) = some ⟨guid?.getD "", version, data⟩ := by
  have hnodup : (envelope.map Prod.fst).Nodup := (h.map Prod.fst).nodup_iff.2 nodup_members
  have hfields : (Json.object envelope).fields? memberNames =
      some (envelope.filter fun m => memberNames.contains m.1) :=
    if_pos (hnodup.sublist (List.filter_sublist.map Prod.fst))
  have hfield : Json.field? envelope "version" = some (.integer version) :=
    field?_of_perm h (by simp [members])
  have hnumber : Json.number? (envelope.filter fun m => memberNames.contains m.1) "version" =
      some version := by
    unfold Json.number?
    rw [Json.field?_filter (by decide), hfield]
    -- the versions that are known have thirty-two bits
    have hlt : version < 0x100000000 := by
      unfold currentVersion at hversion
      omega
    exact if_pos hlt
  have hguid : Json.text? (envelope.filter fun m => memberNames.contains m.1) "guid" =
      some (guid?.getD "") := by
    unfold Json.text?
    rw [Json.field?_filter (by decide)]
    exact text?_guid_of_perm h
  have hdata : Json.field? (envelope.filter fun m => memberNames.contains m.1) "data" =
      some data := by
    rw [Json.field?_filter (by decide)]
    exact field?_of_perm h (by simp [members])
  unfold ofJson?
  refine Option.bind_eq_some_iff.2 ⟨_, hfields, ?_⟩
  refine Option.bind_eq_some_iff.2 ⟨_, hguid, ?_⟩
  refine Option.bind_eq_some_iff.2 ⟨_, hnumber, ?_⟩
  exact Option.bind_eq_some_iff.2 ⟨_, hdata, rfl⟩

/-- A record tells the credential of its data, if its envelope has the identifier of the data or
none. -/
theorem toCredential_of_ofData? {r : Record} {c : Credential} (hversion : r.version ≤ currentVersion)
    (hdata : Credential.ofData? r.data = some c) (hguid : r.guid = c.guid ∨ r.guid = "") :
    r.toCredential = .ok c := by
  have hcheck : checkVersion r.version = .ok () := checkVersion_eq_ok_iff.2 hversion
  have hagree : ¬ (c.guid ≠ "" ∧ r.guid ≠ "" ∧ c.guid ≠ r.guid) := by
    rintro ⟨-, hr, hother⟩
    exact hguid.elim (fun he => hother he.symm) hr
  simp only [toCredential, hcheck, hdata]
  rw [if_neg hagree]
  by_cases hempty : c.guid = ""
  · have hr : r.guid = c.guid := hguid.elim id fun hr => hr.trans hempty.symm
    rw [if_pos hempty, hr]
  · rw [if_neg hempty]

end Record

/-! ## Values -/

namespace LegacyStore

open Json (field?)

variable {members : List (String × Json)} {c : Credential}

theorem isRecord_of_perm {envelope : List (String × Json)} {guid? : Option String} {version : Nat}
    (h : envelope.Perm (Record.members guid? version (.object members))) :
    isRecord (.object envelope) = true := by
  have hfield : field? envelope "data" = some (.object members) :=
    Record.field?_of_perm h (by simp [Record.members])
  simp only [isRecord, hfield]

/-- Data without a member of the name that records have for theirs is read as it is. -/
theorem decodeValue_data (key : String) (hdata : field? members "data" = none)
    (hc : Credential.ofData? (.object members) = some c) :
    decodeValue key (.object members) = .ok c := by
  have hflat : isRecord (.object members) = false := by
    simp only [isRecord, hdata]
  unfold decodeValue
  rw [hflat, hc]
  rfl

/-- A record around data is read as the data, whether it has the identifier of the data or none. -/
theorem decodeValue_record (key : String) (hc : Credential.ofData? (.object members) = some c)
    {envelope : List (String × Json)} {guid? : Option String} {version : Nat}
    (hversion : version ≤ currentVersion) (hguid : guid? = some c.guid ∨ guid? = none)
    (h : envelope.Perm (Record.members guid? version (.object members))) :
    decodeValue key (.object envelope) = .ok c := by
  unfold decodeValue
  rw [isRecord_of_perm h, if_pos rfl, Record.ofJson?_of_perm h hversion]
  refine Record.toCredential_of_ofData? hversion hc ?_
  rcases hguid with rfl | rfl
  · exact .inl rfl
  · exact .inr rfl

/-- Data without a member `data`, and the records of a known version around it, with its identifier
in the envelope or with none, in any order of the members, are decoded to one credential. It has the
name and the identifier of the data, or the name under which the value stands and the identifier
which that name determines, and it is otherwise what the members of the data tell. -/
theorem shapes_decode_alike (key : String) (hdata : field? members "data" = none)
    (hc : Credential.ofData? (.object members) = some c) :
    ∃ decoded : Credential, decode key (.object members) = .ok decoded ∧
      (∀ version ≤ currentVersion, ∀ guid?, guid? = some c.guid ∨ guid? = none →
        ∀ envelope, envelope.Perm (Record.members guid? version (.object members)) →
          decode key (.object envelope) = .ok decoded) ∧
      decoded.guid = (if c.guid = "" then Guid.ofName key else c.guid) ∧ decoded.guid ≠ "" ∧
      decoded.toAttributes =
        { c.toAttributes with name := if c.name = "" then key else c.name } ∧
      c.IsToldBy members := by
  have hflat := decode_of_decodeValue (decodeValue_data key hdata hc)
  refine ⟨_, hflat, fun version hversion guid? hguid envelope henvelope => ?_, rfl,
    guid_ne_empty_of_decode hflat, rfl, Credential.isToldBy_of_ofData? hc⟩
  exact decode_of_decodeValue (decodeValue_record key hc hversion hguid henvelope)

/-- The members of data without a name, an identifier and a kind of server. -/
def bareMembers : List (String × Json) :=
  [("url", .string "https://acme.snowflakecomputing.app"),
    ("snowflakeConnection", .string "main")]

/-- What they tell. -/
def bareCredential : Credential :=
  { url := "https://acme.snowflakecomputing.app", serverType := .snowflake
    snowflakeConnection := "main" }

theorem shapes_decode_alike_bare :
    field? bareMembers "data" = none ∧
      Credential.ofData? (.object bareMembers) = some bareCredential ∧
      ∃ decoded, decode "work" (.object bareMembers) = .ok decoded ∧
        decode "work" (.object [("version", .integer 1), ("data", .object bareMembers)]) =
          .ok decoded ∧
        decode "work" (.object [("data", .object bareMembers), ("guid", .string ""),
          ("version", .integer 0)]) = .ok decoded ∧
        decoded.name = "work" ∧ decoded.guid = Guid.ofName "work" ∧
        decoded.serverType = .snowflake := by
  have hdata : field? bareMembers "data" = none := by decide
  have hc : Credential.ofData? (.object bareMembers) = some bareCredential := by decide +kernel
  obtain ⟨decoded, hflat, hrecord, hguid, -, hrest, -⟩ := shapes_decode_alike "work" hdata hc
  refine ⟨hdata, hc, decoded, hflat, ?_, ?_, ?_, hguid, ?_⟩
  · exact hrecord 1 (by decide) none (.inr rfl) _ (List.Perm.refl _)
  · -- the members stand in another order here
    have horder : ([("data", Json.object bareMembers)] ++
        [("guid", Json.string ""), ("version", Json.integer 0)]).Perm
          (Record.members (some "") 0 (.object bareMembers)) :=
      List.perm_append_comm
    exact hrecord 0 (by decide) (some "") (.inl rfl) _ horder
  · exact congrArg Attributes.name hrest
  · exact congrArg Attributes.serverType hrest

end LegacyStore

end CredentialStore
