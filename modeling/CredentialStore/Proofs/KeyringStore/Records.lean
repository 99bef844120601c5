import Mathlib.Data.List.Nodup
import CredentialStore.Proofs.KeyringStore.Codec

/-!
# Records of all kinds

The text of a record tells the credential that it was made of, whatever its thirteen members are. A
record that somebody else wrote may lack members, in the envelope as well as in the data; it tells
the credential without them. Reading such a record and writing its credential adds what was missing,
once: the new text tells the same credential, and reading and writing it again leaves it as it is.

Main statements:

* `Credential.ofData?_of_hasPart` — what is told by data in which members are missing;
* `Record.toCredential_of_isPartOf` — what is told by a record in which members are missing;
* `Record.codec_loses_nothing` — records of credentials, records that are rewritten, and records in
  which members are missing.
-/

namespace CredentialStore

/-! ## Members -/

namespace Json

/-- No two members of a value that was freed of repeated members have one name. -/
theorem nodup_distinctMembers (members : List (String × Json)) :
    ((distinctMembers members).map Prod.fst).Nodup := by
  induction members with
  | nil => exact List.nodup_nil
  | cons m rest ih =>
    rw [distinctMembers]
    split
    · exact ih
    · -- the new name is none of the later ones
      rename_i hnew
      refine List.nodup_cons.2 ⟨fun hmem => hnew ?_, ih⟩
      obtain ⟨x, hx, hname⟩ := List.mem_map.1 hmem
      exact List.any_eq_true.2 ⟨x, hx, beq_iff_eq.2 hname⟩

/-- What is found among some of the members is what all of them have under that name. -/
theorem field?_of_part {part all : List (String × Json)} {name : String} {j : Json}
    (hpart : ∀ m ∈ part, m.1 = name → m ∈ all) (hnodup : (all.map Prod.fst).Nodup)
    (hj : (name, j) ∈ all) :
    field? part name = if name ∈ part.map Prod.fst then some j else none := by
  rw [field?]
  cases hfind : part.find? (·.1 == name) with
  | none =>
    have hnone : name ∉ part.map Prod.fst := by
      intro hname
      obtain ⟨m, hm, rfl⟩ := List.mem_map.1 hname
      exact List.find?_eq_none.1 hfind m hm (beq_self_eq_true m.1)
    rw [if_neg hnone]
    rfl
  | some m =>
    have hmem : m ∈ part := List.mem_of_find?_eq_some hfind
    have hname : m.1 = name := by simpa using List.find?_some hfind
    -- there is one member of the name
    have hm : m = (name, j) :=
      List.inj_on_of_nodup_map hnodup (hpart m hmem hname) hj hname
    rw [if_pos (hname ▸ List.mem_map_of_mem hmem), hm]
    rfl

end Json

/-! ## Data in which members are missing -/

namespace Credential

theorem nodup_members (c : Credential) : (c.members.map Prod.fst).Nodup := by
  have hnames : c.members.map Prod.fst = memberNames := rfl
  rw [hnames]
  decide

/-- What the members of some names tell of a credential: a text that is absent is empty, a kind of
server that is absent is recognised by the URL, and a deployment that is absent is the usual one. -/
def only (c : Credential) (names : List String) : Credential :=
  let text (name value : String) : String := if name ∈ names then value else ""
  { guid := text "guid" c.guid
    name := text "name" c.name
    url := text "url" c.url
    serverType :=
      if "serverType" ∈ names then c.serverType else ServerType.ofUrl (text "url" c.url)
    apiKey := text "apiKey" c.apiKey
    token := text "token" c.token
    privateKey := text "privateKey" c.privateKey
    snowflakeConnection := text "snowflakeConnection" c.snowflakeConnection
    accountId := text "accountId" c.accountId
    accountName := text "accountName" c.accountName
    refreshToken := text "refreshToken" c.refreshToken
    accessToken := text "accessToken" c.accessToken
    cloudEnvironment := if "cloudEnvironment" ∈ names then c.cloudEnvironment else .production }

theorem texts_only (c : Credential) (names : List String) :
    (c.only names).texts = c.texts.map fun m => (m.1, if m.1 ∈ names then m.2 else "") := rfl

/-- The members of known names are members of the credential. -/
def HasPart (c : Credential) (members : List (String × Json)) : Prop :=
  ∀ m ∈ members, m.1 ∈ memberNames → m ∈ c.members

section Part

variable {c : Credential} {members : List (String × Json)} (h : c.HasPart members)

include h

theorem field?_of_hasPart {name : String} {j : Json} (hj : (name, j) ∈ c.members) :
    Json.field? (members.filter fun m => memberNames.contains m.1) name =
      if name ∈ members.map Prod.fst then some j else none := by
  have hname : name ∈ memberNames := List.mem_map_of_mem (f := Prod.fst) hj
  rw [Json.field?_filter hname]
  exact Json.field?_of_part (fun m hm he => h m hm (he ▸ hname)) c.nodup_members hj

theorem text?_of_hasPart {name value : String} (hmem : (name, .string value) ∈ c.members) :
    Json.text? (members.filter fun m => memberNames.contains m.1) name =
      some (if name ∈ members.map Prod.fst then value else "") := by
  rw [Json.text?, field?_of_hasPart h hmem]
  by_cases hname : name ∈ members.map Prod.fst
  · rw [if_pos hname, if_pos hname]
    rfl
  · rw [if_neg hname, if_neg hname]

theorem optionalChoice?_of_hasPart {α : Type} {ofText? : String → Option α} {text : α → String}
    (hround : ∀ a, ofText? (text a) = some a) (name : String) (a : α)
    (hmem : (name, .string (text a)) ∈ c.members) :
    Json.optionalChoice? ofText? (members.filter fun m => memberNames.contains m.1) name =
      some (if name ∈ members.map Prod.fst then some a else none) := by
  rw [Json.optionalChoice?, field?_of_hasPart h hmem]
  by_cases hname : name ∈ members.map Prod.fst
  · rw [if_pos hname, if_pos hname]
    exact congrArg (Option.map some) (hround a)
  · rw [if_neg hname, if_neg hname]

/-- Data in which members are missing tells the credential without them. -/
theorem ofData?_of_hasPart (hnodup : (members.map Prod.fst).Nodup) :
    ofData? (.object members) = some (c.only (members.map Prod.fst)) := by
  have hfields : (Json.object members).fields? memberNames =
      some (members.filter fun m => memberNames.contains m.1) :=
    if_pos (hnodup.sublist (List.filter_sublist.map Prod.fst))
  have htype := optionalChoice?_of_hasPart h ServerType.ofText?_text "serverType" c.serverType
    (by simp [Credential.members])
  have hcloud := optionalChoice?_of_hasPart h CloudEnvironment.ofText?_text "cloudEnvironment"
    c.cloudEnvironment (by simp [Credential.members])
  refine (ofData?_eq_some_iff hfields).2 (.of_texts ?_ htype ?_ hcloud ?_)
  · rw [texts_only, List.forall_mem_map]
    exact fun m hm => text?_of_hasPart h (mem_texts_iff.1 hm).1
  · -- a choice that is absent is the default
    show (if _ then _ else _) = _
    split <;> rfl
  · show (if _ then _ else _) = _
    split <;> rfl

end Part

end Credential

/-! ## Records -/

namespace Record

/-- What the text of a record tells; nothing where the text is no record. -/
def told? (text : String) : Option (Except CredentialError Credential) :=
  (read? text).map toCredential

/-- The text of the credential that the text of a record tells. -/
def rewritten? (text : String) : Option String := do
  let r ← read? text
  let c ← r.toCredential.toOption
  return (ofCredential c).write

theorem told?_write (c : Credential) : told? (ofCredential c).write = some (.ok c) := by
  rw [told?, read?_write, Option.map_some, toCredential_ofCredential]

/-- Reading and writing a text that tells a credential makes it the text of that credential. -/
theorem rewritten?_of_told? {text : String} {c : Credential} (h : told? text = some (.ok c)) :
    rewritten? text = some (ofCredential c).write := by
  obtain ⟨r, hread, hr⟩ := Option.map_eq_some_iff.1 h
  rw [rewritten?, hread]
  simp only [Option.bind_eq_bind, Option.bind_some, hr, Except.toOption, Option.pure_def]

/-- The members of the data of a record that was read have different names. -/
theorem nodup_of_read? {text : String} {r : Record} {members : List (String × Json)}
    (h : read? text = some r) (hdata : r.data = .object members) :
    (members.map Prod.fst).Nodup := by
  rw [read?] at h
  simp only [Option.bind_eq_bind, Option.bind_eq_some_iff] at h
  obtain ⟨j, -, raw, -, h⟩ := h
  split at h
  · cases h
    -- only an object is freed of repeated members to an object
    cases hraw : raw.data with
    | object all =>
      have hall : Json.distinctMembers all = members := by
        simpa [hraw, Json.distinct] using hdata
      exact hall ▸ Json.nodup_distinctMembers all
    | _ => simp [hraw, Json.distinct] at hdata
  · cases h

/-- A record of a credential in which members are missing: its version may be an old one, the
identifier may be missing from the envelope, and any members may be missing from the data. -/
structure IsPartOf (r : Record) (c : Credential) (members : List (String × Json)) : Prop where
  version_le : r.version ≤ currentVersion
  guid_eq : r.guid = "" ∨ r.guid = c.guid
  data_eq : r.data = .object members
  hasPart : c.HasPart members

/-- An identifier that is missing in the data is taken from the envelope. -/
theorem toCredential_of_isPartOf {r : Record} {c : Credential} {members : List (String × Json)}
    (h : r.IsPartOf c members) (hnodup : (members.map Prod.fst).Nodup) :
    r.toCredential = .ok { c.only (members.map Prod.fst) with
      guid := if "guid" ∈ members.map Prod.fst then c.guid else r.guid } := by
  have hversion : checkVersion r.version = .ok () := checkVersion_eq_ok_iff.2 h.version_le
  have hdata : Credential.ofData? r.data = some (c.only (members.map Prod.fst)) := by
    rw [h.data_eq]
    exact Credential.ofData?_of_hasPart h.hasPart hnodup
  have hguid : (c.only (members.map Prod.fst)).guid =
      if "guid" ∈ members.map Prod.fst then c.guid else "" := rfl
  -- the two identifiers are the same or one of them is missing
  have hagree : ¬ ((c.only (members.map Prod.fst)).guid ≠ "" ∧ r.guid ≠ "" ∧
      (c.only (members.map Prod.fst)).guid ≠ r.guid) := by
    rintro ⟨hne, hr, hother⟩
    by_cases hname : "guid" ∈ members.map Prod.fst
    · rw [hguid, if_pos hname] at hother
      exact hother (h.guid_eq.resolve_left hr).symm
    · exact hne (hguid.trans (if_neg hname))
  simp only [toCredential, hversion, hdata]
  rw [if_neg hagree]
  by_cases hname : "guid" ∈ members.map Prod.fst
  · rw [if_pos hname] at hguid ⊢
    by_cases hempty : c.guid = ""
    · have hr : r.guid = c.guid := h.guid_eq.elim (fun hr => hr.trans hempty.symm) id
      rw [if_pos (hguid.trans hempty), hr]
    · rw [if_neg (fun he => hempty (hguid.symm.trans he)), ← hguid]
  · rw [if_neg hname] at hguid ⊢
    rw [if_pos hguid]

/-- A record loses nothing as a text: the text of a credential tells that credential; a text that
tells a credential, however it came about, is rewritten to one that tells the same credential and
that rewriting leaves as it is; and a record in which members are missing tells the credential
without them. -/
theorem codec_loses_nothing :
    (∀ c, told? (ofCredential c).write = some (.ok c)) ∧
    (∀ text c, told? text = some (.ok c) → ∃ text', rewritten? text = some text' ∧
      told? text' = some (.ok c) ∧ rewritten? text' = some text') ∧
    ∀ text r c members, read? text = some r → r.IsPartOf c members →
      told? text = some (.ok { c.only (members.map Prod.fst) with
        guid := if "guid" ∈ members.map Prod.fst then c.guid else r.guid }) := by
  refine ⟨told?_write, fun text c htold => ?_, fun text r c members hread hpart => ?_⟩
  · exact ⟨_, rewritten?_of_told? htold, told?_write c, rewritten?_of_told? (told?_write c)⟩
  · rw [told?, hread, Option.map_some,
      toCredential_of_isPartOf hpart (nodup_of_read? hread hpart.data_eq)]

/-- The members of a credential that was stored before there were kinds of servers. -/
def earlyMembers : List (String × Json) :=
  [("name", .string "work"), ("url", .string "https://acme.snowflakecomputing.app"),
    ("snowflakeConnection", .string "main")]

/-- Its record, without a version and with an identifier in the envelope alone. -/
def earlyText : String :=
  (Json.object [("guid", .string "g"), ("data", .object earlyMembers)]).compact

/-- The credential that it tells. -/
def earlyCredential : Credential :=
  { guid := "g", name := "work", url := "https://acme.snowflakecomputing.app"
    serverType := .snowflake, snowflakeConnection := "main" }

theorem codec_loses_nothing_early :
    read? earlyText = some ⟨"g", 0, .object earlyMembers⟩ ∧
      told? earlyText = some (.ok earlyCredential) ∧
      ∃ text', rewritten? earlyText = some text' ∧ text' ≠ earlyText ∧
        told? text' = some (.ok earlyCredential) ∧ rewritten? text' = some text' := by
  have hread : read? earlyText = some ⟨"g", 0, .object earlyMembers⟩ := by
    rw [read?, earlyText, Json.read?_compact (by
      simp [earlyMembers, Json.IsPlain, Json.ArePlainMembers])]
    rfl
  have hpart : Record.IsPartOf ⟨"g", 0, .object earlyMembers⟩ earlyCredential earlyMembers :=
    ⟨by decide, .inr rfl, rfl,
      by simp [Credential.HasPart, Credential.members, earlyMembers, earlyCredential]⟩
  have hsame : { earlyCredential.only (earlyMembers.map Prod.fst) with
      guid := if "guid" ∈ earlyMembers.map Prod.fst then "g" else "g" } = earlyCredential := by
    decide +kernel
  obtain ⟨-, hrewrite, hmissing⟩ := codec_loses_nothing
  have htold : told? earlyText = some (.ok earlyCredential) := by
    rw [← hsame]
    exact hmissing _ _ _ _ hread hpart
  obtain ⟨text', hnew, htold', hagain⟩ := hrewrite _ _ htold
  have hother : (ofCredential earlyCredential).write ≠ earlyText := by decide +kernel
  rw [rewritten?_of_told? htold] at hnew
  cases hnew
  exact ⟨hread, htold, _, rewritten?_of_told? htold, hother, htold', hagain⟩

end Record

end CredentialStore
