import CredentialStore.Proofs.KeyringStore.Carries
import CredentialStore.Proofs.KeyringStore.Listing
import CredentialStore.Proofs.Migration.Cases

/-!
# A migration within one secret store

The legacy entry lies in the same secret store as the keyring that its credentials are
copied into, and any call of it may fail. A write that fails may leave its record behind, and an
index may name a record that is not there, so that even a failed write can make a credential appear;
none that was listed disappears.

Main statements:

* `KeyringStore.adds_of_set` — a write that answers adds one credential to those that are listed,
  and one that fails takes none away;
* `Migration.adds_of_copyAll` — the copies of a list add up;
* `Migration.adds_of_run` — a migration adds as many credentials as it reports, and one that fails
  leaves the legacy entry.
-/

namespace CredentialStore

open Op SecretStore

namespace KeyringStore

variable {s t u : SecretStore} {c : Credential} {xs ys : List Credential}

/-- Where the first store lists credentials, the second one lists them and the others beside them;
what it has of the legacy entry is the same. -/
structure Adds (added : List Credential) (s t : SecretStore) : Prop where
  exists_list : ∀ ds, listed s = .ok ds → ∃ es, listed t = .ok es ∧ es.Perm (ds ++ added)
  keepsLegacy : KeepsLegacy s t

theorem Adds.of_listed_eq (hlisted : listed t = listed s) (hkeeps : KeepsLegacy s t) :
    Adds [] s t :=
  ⟨fun ds hds => ⟨ds, hlisted.trans hds, by rw [List.append_nil]⟩, hkeeps⟩

theorem Adds.trans (h : Adds xs s t) (h' : Adds ys t u) : Adds (xs ++ ys) s u where
  exists_list := by
    intro ds hds
    obtain ⟨es, hes, hperm⟩ := h.exists_list ds hds
    obtain ⟨fs, hfs, hperm'⟩ := h'.exists_list es hes
    refine ⟨fs, hfs, ?_⟩
    rw [← List.append_assoc]
    exact hperm'.trans (hperm.append_right ys)
  keepsLegacy := h.keepsLegacy.trans h'.keepsLegacy

theorem listed_of_keeps (h : s.Keeps t) : listed t = listed s :=
  listed_eq_of_find?_eq h.listing_eq (fun _ => by rw [h.entries_eq]) (by rw [h.entries_eq])

theorem Adds.of_keeps (h : s.Keeps t) : Adds [] s t :=
  .of_listed_eq (listed_of_keeps h) (.of_keeps h)

/-- Whatever fails, a list that was loaded is what is listed. -/
theorem listed_of_loadAll (h : loadAll.Yields s (.ok xs) t) : listed s = .ok xs := by
  rw [← listed_of_keeps (keeps_restored s)]
  exact ((yields_listed (responds_restored s)).unique (yields_loadAll_restored h)).1

/-! ## Records that are left behind -/

/-- Where keys cannot be listed, only the index tells what is enumerated. -/
theorem enumerated_congr_of_index (hs : s.listing = false) (hlisting : t.listing = s.listing)
    (hindex : storedIndex t.entries = storedIndex s.entries) : enumerated t = enumerated s := by
  have hne : ∀ {b : Bool}, b = false → ¬ b = true := fun hb => by rw [hb]; decide
  rw [enumerated, enumerated, if_neg (hne hs), if_neg (hne (hlisting.trans hs)), hindex]

section Records

variable (hlisted : listed s = .ok xs) (hguid : c.guid ≠ "") (hunused : ∀ x ∈ xs, x.guid ≠ c.guid)

include hlisted hguid hunused

/-- A record without a new place in the index adds its credential if the index names it already. -/
theorem exists_adds_withRecord (hlisting : s.listing = false) :
    ∃ added, Adds added s (withRecord s c) := by
  obtain ⟨gs, hgs, -⟩ := listed_eq_ok_iff.1 hlisted
  have henumerated : enumerated (withRecord s c) = enumerated s :=
    enumerated_congr_of_index hlisting rfl (storedIndex_withRecord s c)
  have hkeeps := keepsLegacy_withRecord s c
  by_cases hc : c.guid ∈ gs
  · -- no record was there, so one credential appears
    refine ⟨[c], fun ds hds => ?_, hkeeps⟩
    cases hlisted.symm.trans hds
    refine listed_of_record hlisted hgs hguid hunused (henumerated.trans hgs) (fun guid => ?_)
      fun _ => rfl
    exact ⟨.inl, fun hor => hor.elim id fun heq => heq ▸ hc⟩
  · refine ⟨[], .of_listed_eq (listed_congr henumerated fun gs' hgs' guid hg => ?_) hkeeps⟩
    cases hgs.symm.trans hgs'
    rw [find?_withRecord, if_neg]
    exact fun hkey => hc (credentialKey_inj.1 hkey ▸ hg)

/-- Nothing is added by a record that was put and removed again. -/
theorem adds_takenBack (hlisting : s.listing = false) : Adds [] s (takenBack s c none) := by
  obtain ⟨gs, hgs, -⟩ := listed_eq_ok_iff.1 hlisted
  have hkeeps : KeepsLegacy s (takenBack s c none) :=
    (keepsLegacy_withRecord s c).trans (keepsLegacy_withoutRecord _ c.guid)
  have henumerated : enumerated (takenBack s c none) = enumerated s :=
    enumerated_congr_of_index hlisting rfl
      ((storedIndex_withoutRecord _ _).trans (storedIndex_withRecord s c))
  refine .of_listed_eq (listed_congr henumerated fun gs' hgs' guid hg => ?_) hkeeps
  rw [takenBack, find?_withoutRecord, find?_withRecord]
  by_cases hkey : credentialKey guid = credentialKey c.guid
  · rw [if_pos hkey, hkey]
    rw [credentialKey_inj.1 hkey] at hg
    exact (find?_eq_none_of_unlisted hlisted hgs' hguid hunused hg).symm
  · rw [if_neg hkey, if_neg (Ne.symm hkey)]

end Records

/-! ## Writes -/

/-- A write of a new credential adds it if it answers. -/
theorem adds_of_persist {r : Except CredentialError Unit} (hlisted : listed s = .ok xs)
    (hguid : c.guid ≠ "") (hunused : ∀ x ∈ xs, x.guid ≠ c.guid)
    (h : (persist c none).Yields s r t) :
    (r = .ok () ∧ Adds [c] s t) ∨ (∃ e, r = .error e) ∧ ∃ added, Adds added s t := by
  cases r with
  | ok a =>
    refine .inl ⟨rfl, fun ds hds => ?_, ?_⟩
    · cases hlisted.symm.trans hds
      exact listed_of_enters hlisted (enters_of_persist h) hguid hunused
    · exact (keepsLegacy_withRecord s c).trans (enters_of_persist h).keepsLegacy
  | error e =>
    refine .inr ⟨⟨e, rfl⟩, ?_⟩
    rcases persist_steps h with ⟨e', hsave, -⟩ | ⟨s₁, -, hkeeps, hrest⟩
    · rcases put_cases hsave with ⟨he, -⟩ | ⟨-, hkeeps⟩
      · cases he
      · exact ⟨[], .of_keeps hkeeps⟩
    rcases hrest with ⟨-, he⟩ | ⟨e', s₂, q, henter, hback, -⟩
    · cases he
    rcases enter_leaves henter with ⟨he, -⟩ | ⟨-, hlisting, hkeeps'⟩
    · cases he
    -- the record is there without a new place in the index, and is taken back or not
    have hput := hkeeps.trans hkeeps'
    have hlisting' : s.listing = false := hkeeps.listing_eq.symm.trans hlisting
    rcases discard_remove_cases hback with ⟨-, hremoved⟩ | ⟨-, hremoved⟩
    · have htaken : (takenBack s c none).Keeps t := (keeps_withoutRecord hput c.guid).trans hremoved
      exact ⟨_, (adds_takenBack hlisted hguid hunused hlisting').trans (.of_keeps htaken)⟩
    · obtain ⟨added, hadds⟩ := exists_adds_withRecord hlisted hguid hunused hlisting'
      exact ⟨_, hadds.trans (.of_keeps (hput.trans hremoved))⟩

/-- A write adds one credential if it answers, and takes none away if it fails. -/
theorem adds_of_set {fresh : String} {details : Details} (hguid : details.effectiveGuid fresh ≠ "")
    {r : Except CredentialError Credential} (h : (set fresh details).Yields s r t) :
    (∃ c, r = .ok c ∧ Adds [c] s t) ∨ (∃ e, r = .error e) ∧ ∃ added, Adds added s t := by
  rcases set_steps h with ⟨hkeeps, he⟩ | ⟨existing, c, u, q, hload, hvalid, hunused, hpersist, rfl⟩
  · exact .inr ⟨he, [], .of_keeps hkeeps⟩
  have hkeeps := (loadAll_cases hload).1
  have hlisted : listed u = .ok existing := by
    rw [listed_of_keeps hkeeps, listed_of_loadAll hload]
  have hc : c.guid ≠ "" := by rwa [Details.toCredential_guid hvalid]
  rcases adds_of_persist hlisted hc hunused hpersist with ⟨rfl, hadds⟩ | ⟨⟨e, rfl⟩, added, hadds⟩
  · exact .inl ⟨c, rfl, (Adds.of_keeps hkeeps).trans hadds⟩
  · exact .inr ⟨⟨e, rfl⟩, _, (Adds.of_keeps hkeeps).trans hadds⟩

end KeyringStore

namespace Migration

open KeyringStore (Adds listed legacyKey)

variable {s t : SecretStore} {fresh : Nat → String}

/-- The copies of a list add as many credentials as are reported, and those that were made before a
failure stay. -/
theorem adds_of_copyAll {present : List String} {i : Nat} {cs : List Credential}
    {report : MigrationReport} {r : Except CredentialError MigrationReport}
    (hguids : ∀ c ∈ cs, c.guid ≠ "")
    (h : (copyAll KeyringStore.service fresh present i cs report).Yields s r t) :
    ∃ added, Adds added s t ∧ ∀ report', r = .ok report' →
      report'.migrated.length = report.migrated.length + added.length := by
  -- on the credentials that are left; what the first one adds stands before what the others add
  induction cs generalizing s i report with
  | nil =>
    obtain ⟨rfl, rfl⟩ := (yields_pure report s).unique h
    refine ⟨[], .of_keeps (.refl s), ?_⟩
    rintro report' ⟨⟩
    rfl
  | cons c cs ih =>
    have hrest := fun x hx => hguids x (List.mem_cons_of_mem c hx)
    rcases copyAll_cons_cases h with ⟨-, hnext⟩ | ⟨-, hcopied⟩
    · obtain ⟨added, hadds, hlength⟩ := ih hrest hnext
      exact ⟨added, hadds, hlength⟩
    have hc := hguids c List.mem_cons_self
    have hguid : ∀ fresh, (Details.preserving c).effectiveGuid fresh ≠ "" := fun fresh => by
      rwa [show (Details.preserving c).effectiveGuid fresh = c.guid from if_neg hc]
    rcases hcopied with ⟨e, hfirst, rfl⟩ | ⟨s₁, hfirst, hnext⟩
    · obtain ⟨q, hset, -⟩ := copy_cases hfirst
      rcases KeyringStore.adds_of_set (hguid _) hset with ⟨d, -, hadds⟩ | ⟨-, added, hadds⟩
      · exact ⟨[d], hadds, nofun⟩
      · exact ⟨added, hadds, nofun⟩
    · obtain ⟨q, hset, ⟨d, rfl, -⟩ | ⟨e, -, he⟩⟩ := copy_cases hfirst
      · rcases KeyringStore.adds_of_set (hguid _) hset with ⟨d', -, hadds⟩ | ⟨⟨e, he⟩, -⟩
        · obtain ⟨added, hadds', hlength⟩ := ih hrest hnext
          refine ⟨d' :: added, hadds.trans hadds', fun report' hr => ?_⟩
          rw [hlength report' hr, List.length_append, List.length_singleton, List.length_cons]
          omega
        · cases he
      · cases he

/-- A migration adds as many credentials as it reports, whatever fails; if it fails itself, the
legacy entry is as it was, and what was listed still is. -/
theorem adds_of_run {r : Except CredentialError MigrationReport}
    (h : (run LegacyStore.service KeyringStore.service fresh).Yields s r t) :
    (∃ report ds added es, r = .ok report ∧ listed s = .ok ds ∧ listed t = .ok es ∧
      es.Perm (ds ++ added) ∧ added.length = report.migrated.length) ∨
    (∃ e, r = .error e) ∧ ∃ added, Adds added s t := by
  rcases run_cases h with ⟨e, hlegacy, rfl⟩ | ⟨cs, s₁, hlegacy, hrest⟩
  · exact .inr ⟨⟨e, rfl⟩, [], .of_keeps (LegacyStore.list_cases hlegacy).1⟩
  obtain ⟨hkeeps, -, hcs | ⟨e, he⟩⟩ := LegacyStore.list_cases hlegacy
  · rcases hrest with ⟨e, htarget, rfl⟩ | ⟨ds, s₂, htarget, hrest⟩
    · exact .inr ⟨⟨e, rfl⟩, [], .of_keeps (hkeeps.trans (KeyringStore.loadAll_cases htarget).1)⟩
    have hkeeps₂ := hkeeps.trans (KeyringStore.loadAll_cases htarget).1
    have hguids := fun c hc => LegacyStore.guid_ne_empty hcs.symm (c := c) hc
    rcases hrest with ⟨e, hcopies, rfl⟩ | ⟨report, s₃, q, hcopies, hreset, rfl⟩
    · obtain ⟨added, hadds, -⟩ := adds_of_copyAll hguids hcopies
      exact .inr ⟨⟨e, rfl⟩, _, (Adds.of_keeps hkeeps₂).trans hadds⟩
    · obtain ⟨added, hadds, hlength⟩ := adds_of_copyAll hguids hcopies
      have hlisted : listed s₂ = .ok ds := by
        rw [KeyringStore.listed_of_keeps (KeyringStore.loadAll_cases htarget).1,
          KeyringStore.listed_of_loadAll htarget]
      have hlisted' : listed s = .ok ds := by rw [← hlisted, KeyringStore.listed_of_keeps hkeeps₂]
      obtain ⟨es, hes, hperm⟩ := hadds.exists_list ds hlisted
      refine .inl ⟨report, ds, added, es, rfl, hlisted', ?_, hperm, by
        simpa using (hlength report rfl).symm⟩
      -- the removal of the legacy entry is not noticed
      have hspares := LegacyStore.spares_of_reset hreset
      rw [← hes]
      exact KeyringStore.listed_eq_of_find?_eq hspares.listing_eq
        (fun guid => hspares.find?_eq (KeyringStore.credentialKey_ne_legacyKey guid))
        (hspares.find?_eq (by decide))
  · cases he

end Migration

end CredentialStore
