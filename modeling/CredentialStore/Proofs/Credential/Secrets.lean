import CredentialStore.Credential.Conflict
import CredentialStore.Credential.Validation
import CredentialStore.Proofs.Op.Corresponds
import Mathlib.Data.List.Forall2

/-!
# Equal up to secrets

Credentials are equal up to their secrets if they agree in everything that is shown: all fields but
four, and of those four whether they are empty. Validation, the checks for conflicts and the form
that is shown look at nothing else.

Main statements: `Credential.EqUpToSecrets.redacted_eq`, `Details.EqUpToSecrets.toCredential` and
`Credential.checkAll_eq`.
-/

namespace CredentialStore

open Op (AnswersBy)

/-- The fields whose values are not shown. -/
inductive Secret where
  | apiKey
  | privateKey
  | refreshToken
  | accessToken

/-- What is shown of a secret depends on whether there is one. -/
theorem redact_congr {secret secret' : String} (h : secret = "" ↔ secret' = "") :
    redact secret = redact secret' := by
  simp only [redact, h]

theorem bne_empty_congr {text text' : String} (h : text = "" ↔ text' = "") :
    (text != "") = (text' != "") := by
  rw [Bool.eq_iff_iff, bne_iff_ne, bne_iff_ne, ne_eq, ne_eq, h]

/-! ## Attributes -/

namespace Attributes

/-- The value of a secret. -/
def secret (a : Attributes) : Secret → String
  | .apiKey => a.apiKey
  | .privateKey => a.privateKey
  | .refreshToken => a.refreshToken
  | .accessToken => a.accessToken

/-- The attributes with other secrets. -/
def withSecrets (a : Attributes) (secrets : Secret → String) : Attributes :=
  { a with
    apiKey := secrets .apiKey
    privateKey := secrets .privateKey
    refreshToken := secrets .refreshToken
    accessToken := secrets .accessToken }

/-- The attributes differ in their secrets at most, and no secret is empty in one of them alone. -/
structure EqUpToSecrets (a b : Attributes) : Prop where
  eq_withSecrets : b = a.withSecrets b.secret
  empty_iff : ∀ s, a.secret s = "" ↔ b.secret s = ""

namespace EqUpToSecrets

variable {a b : Attributes}

theorem refl (a : Attributes) : a.EqUpToSecrets a :=
  ⟨rfl, fun _ => .rfl⟩

variable (h : a.EqUpToSecrets b)

include h

theorem name_eq : a.name = b.name :=
  (congrArg name h.eq_withSecrets).symm

theorem url_eq : a.url = b.url :=
  (congrArg url h.eq_withSecrets).symm

theorem serverType_eq : a.serverType = b.serverType :=
  (congrArg serverType h.eq_withSecrets).symm

theorem token_eq : a.token = b.token :=
  (congrArg token h.eq_withSecrets).symm

theorem snowflakeConnection_eq : a.snowflakeConnection = b.snowflakeConnection :=
  (congrArg snowflakeConnection h.eq_withSecrets).symm

theorem accountId_eq : a.accountId = b.accountId :=
  (congrArg accountId h.eq_withSecrets).symm

theorem accountName_eq : a.accountName = b.accountName :=
  (congrArg accountName h.eq_withSecrets).symm

theorem cloudEnvironment_eq : a.cloudEnvironment = b.cloudEnvironment :=
  (congrArg cloudEnvironment h.eq_withSecrets).symm

theorem redacted_eq : a.redacted = b.redacted := by
  have hshown : b.redacted = (a.withSecrets b.secret).redacted := congrArg redacted h.eq_withSecrets
  have hkey : redact a.apiKey = redact b.apiKey := redact_congr (h.empty_iff .apiKey)
  have hprivate : redact a.privateKey = redact b.privateKey := redact_congr (h.empty_iff .privateKey)
  have hrefresh : redact a.refreshToken = redact b.refreshToken :=
    redact_congr (h.empty_iff .refreshToken)
  have haccess : redact a.accessToken = redact b.accessToken :=
    redact_congr (h.empty_iff .accessToken)
  rw [hshown, redacted, hkey, hprivate, hrefresh, haccess]
  rfl

end EqUpToSecrets

end Attributes

/-! ## Credentials -/

namespace Credential

/-- The credentials have one identifier, and attributes that are equal up to their secrets. -/
structure EqUpToSecrets (c d : Credential) : Prop extends
    c.toAttributes.EqUpToSecrets d.toAttributes where
  guid_eq : c.guid = d.guid

variable {c d : Credential} {cs ds : List Credential}

theorem EqUpToSecrets.redacted_eq (h : c.EqUpToSecrets d) : c.redacted = d.redacted := by
  rw [redacted, redacted, h.toEqUpToSecrets.redacted_eq, h.guid_eq]

theorem sameIdentity_eq {c' d' : Credential} (h : c.EqUpToSecrets d) (h' : c'.EqUpToSecrets d') :
    c.sameIdentity c' = d.sameIdentity d' := by
  rw [sameIdentity, sameIdentity, h.url_eq, h.accountName_eq, h'.url_eq, h'.accountName_eq]

theorem conflict?_eq {c' d' : Credential} (h : c.EqUpToSecrets d) (h' : c'.EqUpToSecrets d') :
    c.conflict? c' = d.conflict? d' := by
  rw [conflict?, conflict?, sameIdentity_eq h h', h.name_eq, h.url_eq, h.accountName_eq, h'.name_eq]

/-- Conflicts are the same, also in what is told of them. -/
theorem checkAll_eq (hcs : List.Forall₂ EqUpToSecrets cs ds) (h : c.EqUpToSecrets d) :
    checkAll cs c = checkAll ds d := by
  have hfirst : cs.findSome? (·.conflict? c) = ds.findSome? (·.conflict? d) := by
    induction hcs with
    | nil => rfl
    | cons hhead _ ih => rw [List.findSome?_cons, List.findSome?_cons, conflict?_eq hhead h, ih]
  rw [checkAll, checkAll, hfirst]

theorem any_guid_eq (hcs : List.Forall₂ EqUpToSecrets cs ds) (guid : String) :
    cs.any (·.guid == guid) = ds.any (·.guid == guid) := by
  induction hcs with
  | nil => rfl
  | cons hhead _ ih => rw [List.any_cons, List.any_cons, hhead.guid_eq, ih]

/-- Both lists have an identifier in the same place. -/
theorem find?_guid (hcs : List.Forall₂ EqUpToSecrets cs ds) (guid : String) :
    Option.Rel EqUpToSecrets (cs.find? (·.guid == guid)) (ds.find? (·.guid == guid)) := by
  induction hcs with
  | nil => exact .none
  | cons hhead _ ih =>
    rw [List.find?_cons, List.find?_cons, hhead.guid_eq]
    split
    · exact .some hhead
    · exact ih

end Credential

/-! ## Validation -/

namespace Details

/-- The details carry one identifier or none, and attributes that are equal up to their secrets. -/
structure EqUpToSecrets (d e : Details) : Prop extends
    d.toAttributes.EqUpToSecrets e.toAttributes where
  guid_eq : d.guid = e.guid

namespace EqUpToSecrets

variable {d e : Details}

theorem refl (d : Details) : d.EqUpToSecrets d :=
  ⟨.refl _, rfl⟩

variable (h : d.EqUpToSecrets e)

include h

theorem missingCloudFields_eq : d.missingCloudFields = e.missingCloudFields := by
  have hrefresh : (d.refreshToken == "") = (e.refreshToken == "") := by
    rw [Bool.eq_iff_iff, beq_iff_eq, beq_iff_eq]
    exact h.empty_iff .refreshToken
  have haccess : (d.accessToken == "") = (e.accessToken == "") := by
    rw [Bool.eq_iff_iff, beq_iff_eq, beq_iff_eq]
    exact h.empty_iff .accessToken
  simp only [missingCloudFields, List.filter_cons, h.accountId_eq, h.accountName_eq, hrefresh,
    haccess]
  split <;> split <;> split <;> split <;> rfl

theorem effectiveUrl_eq : d.effectiveUrl = e.effectiveUrl := by
  rw [effectiveUrl, effectiveUrl, h.url_eq, h.serverType_eq, h.cloudEnvironment_eq]

/-- The fields of a way to sign in are complete in both or lacking in both. -/
theorem signIn : AnswersBy Attributes.EqUpToSecrets d.signIn e.signIn := by
  rw [Details.signIn, Details.signIn, h.serverType_eq]
  cases e.serverType with
  | connect =>
    -- a key or a token pair: of the key and the second half of the pair, only whether they are there
    have hkey : (d.apiKey != "") = (e.apiKey != "") := bne_empty_congr (h.empty_iff .apiKey)
    have hprivate : d.privateKey = "" ↔ e.privateKey = "" := h.empty_iff .privateKey
    dsimp only
    rw [hkey, h.token_eq, bne_empty_congr hprivate]
    split
    · exact Eq.refl _
    · split
      · refine ⟨rfl, ?_⟩
        rintro (_ | _ | _ | _)
        exacts [h.empty_iff .apiKey, .rfl, .rfl, .rfl]
      · split
        · exact Eq.refl _
        · simp only [hprivate]
          split
          · exact Eq.refl _
          · refine ⟨rfl, ?_⟩
            rintro (_ | _ | _ | _)
            exacts [.rfl, hprivate, .rfl, .rfl]
  | snowflake =>
    dsimp only
    rw [h.snowflakeConnection_eq]
    exact .refl .refl _
  | connectCloud =>
    dsimp only
    rw [h.missingCloudFields_eq, h.accountId_eq, h.accountName_eq, h.cloudEnvironment_eq]
    split
    · refine ⟨rfl, ?_⟩
      rintro (_ | _ | _ | _)
      exacts [.rfl, .rfl, h.empty_iff .refreshToken, h.empty_iff .accessToken]
    · exact Eq.refl _

/-- Both stand for credentials that are equal up to their secrets, or are refused alike. -/
theorem toCredential (fresh : String) :
    AnswersBy Credential.EqUpToSecrets (d.toCredential fresh) (e.toCredential fresh) := by
  have hguid : d.effectiveGuid fresh = e.effectiveGuid fresh := by
    rw [effectiveGuid, effectiveGuid, h.guid_eq]
  -- the checks, in the order in which they are made
  rw [Details.toCredential, Details.toCredential, h.name_eq, h.effectiveUrl_eq, hguid]
  split
  · exact Eq.refl _
  · dsimp only
    split
    · exact Eq.refl _
    · cases ServerUrl.normalize e.effectiveUrl with
      | error fault => exact Eq.refl _
      | ok normal =>
        dsimp only
        rcases h.signIn.cases with ⟨fault, hd, he⟩ | ⟨a, b, hd, he, hab⟩
        · rw [hd, he]
          exact Eq.refl fault
        · rw [hd, he]
          refine ⟨⟨?_, hab.empty_iff⟩, rfl⟩
          exact congrArg (fun x : Attributes => { x with name := e.name, url := normal })
            hab.eq_withSecrets

end EqUpToSecrets

end Details

end CredentialStore
