import CredentialStore.Proofs.FileStore.Edits
import CredentialStore.Proofs.KeyringStore.Listing
import CredentialStore.Proofs.Migration.Cases
import CredentialStore.Proofs.Migration.World

/-!
# What one migration comes to

A migration in which no call fails, from any legacy text into any target. The
target may list anything, also what no write of its own would have left, or fail to list. What a
single copy adds is known from what the target lists; the copies of a list add up.

Main statements: `Backend.set_gains` (one copy), `Backend.copyAll_gains` (the copies of a list) and
`Backend.outcome_of_run` (the migration).
-/

namespace CredentialStore

open Op

/-- No call of the secret stores fails. -/
structure World.Responds (w : World) : Prop where
  store : w.store.Responds
  other : w.other.Responds

/-- What is stored for a credential that carries its identifier. -/
def Credential.IsStoredAs (c d : Credential) : Prop :=
  ∀ fresh, (Details.preserving c).toCredential fresh = .ok d

namespace LegacyStore

open KeyringStore (legacyKey)

theorem isUnreadable_of_decode {key : String} {j : Json} {e : CredentialError}
    (h : decode key j = .error e) : e.isUnreadable = true := by
  rw [decode] at h
  split at h
  · rename_i e' hvalue
    cases h
    -- a record is read as one, and anything else is read or not
    rw [decodeValue] at hvalue
    split at hvalue
    · split at hvalue
      · exact Record.isUnreadable_of_toCredential hvalue
      · cases hvalue
        rfl
    · split at hvalue
      · cases hvalue
      · cases hvalue
        rfl
  · cases h

theorem isUnreadable_of_credentialsOf {text? : Option String} {e : CredentialError}
    (h : credentialsOf text? = .error e) : e.isUnreadable = true := by
  cases htable : tableOf text? with
  | error e' =>
    rw [credentialsOf, htable] at h
    cases h
    rw [tableOf.eq_def] at htable
    split at htable
    · cases htable
    · split at htable
      · cases htable
      · cases htable
        rfl
  | ok table =>
    rw [credentialsOf, htable] at h
    obtain ⟨⟨key, j⟩, -, hdecode⟩ := exists_of_mapM_error h
    exact isUnreadable_of_decode hdecode

/-- In a store that responds, the entry is listed by its text. -/
theorem yields_list {s : SecretStore} (hs : s.Responds) :
    list.Yields s (credentialsOf (s.entries.find? legacyKey)) s := by
  have hself := yields_self list s
  have hload : load.Yields s (tableOf (s.entries.find? legacyKey)) s := by
    refine (SecretStore.yields_retrieve hs legacyKey).attempt.bind ?_
    cases htext : s.entries.find? legacyKey with
    | none => exact yields_pure _ s
    | some text =>
      rw [tableOf]
      dsimp only
      cases read? text with
      | none => exact yields_throw _ s
      | some table => exact yields_pure table s
  rw [credentialsOf]
  cases htable : tableOf (s.entries.find? legacyKey) with
  | error e =>
    rw [htable] at hload
    exact hload.bind_error
  | ok table =>
    rw [htable] at hload
    exact hload.bind (yields_ofExcept _ s)

end LegacyStore

namespace Backend

variable {b : Backend} {w w' w'' : World}

/-! ## What a target gains -/

/-- The identifier that is kept as the preferred one, as it is kept. -/
def preference (w : World) : Backend → Option String
  | .file path =>
    match (FileStore.load path w.disk).answer with
    | .ok D => D.defaultServer
    | .error _ => none
  | .keyring => w.store.entries.find? KeyringStore.defaultKey

/-- The target lists credentials beside all that it listed before, and nothing else has changed: the
preference and the legacy texts are the same. -/
structure Gains (b : Backend) (w w' : World) (added : List Credential) : Prop where
  exists_list : ∀ ds, (b.service.list w).answer = .ok ds →
    ∃ es, (b.service.list w').answer = .ok es ∧ es.Perm (ds ++ added)
  preference_eq : b.preference w' = b.preference w
  text_eq : ∀ shelf : Shelf, shelf.text w' = shelf.text w
  responds : w'.Responds

theorem Gains.refl (hw : w.Responds) : b.Gains w w [] :=
  ⟨fun ds hds => ⟨ds, hds, by rw [List.append_nil]⟩, rfl, fun _ => rfl, hw⟩

theorem Gains.trans {xs ys : List Credential} (h : b.Gains w w' xs) (h' : b.Gains w' w'' ys) :
    b.Gains w w'' (xs ++ ys) where
  exists_list := by
    intro ds hds
    obtain ⟨es, hes, hperm⟩ := h.exists_list ds hds
    obtain ⟨fs, hfs, hperm'⟩ := h'.exists_list es hes
    refine ⟨fs, hfs, ?_⟩
    rw [← List.append_assoc]
    exact hperm'.trans (hperm.append_right ys)
  preference_eq := h'.preference_eq.trans h.preference_eq
  text_eq shelf := (h'.text_eq shelf).trans (h.text_eq shelf)
  responds := h'.responds

/-- Listing changes nothing. -/
theorem eq_of_list (hw : w.Responds) {r : Except CredentialError (List Credential)}
    (h : b.service.list.Yields w r w') : w' = w := by
  cases b with
  | file path =>
    obtain ⟨d, hpart, rfl⟩ := h.of_zoom
    obtain ⟨-, rfl⟩ := (FileStore.yields_list_told path w.disk).unique hpart
    rfl
  | keyring =>
    obtain ⟨s, hpart, rfl⟩ := h.of_zoom
    obtain ⟨-, rfl⟩ := (KeyringStore.yields_listed hw.store).unique hpart
    rfl

theorem isUnreadable_of_list (hw : w.Responds) {e : CredentialError}
    (h : (b.service.list w).answer = .error e) : e.isUnreadable = true := by
  cases b with
  | file path =>
    have hlist : (FileStore.list path w.disk).answer = .error e := h
    rw [(FileStore.yields_list_told path w.disk).1] at hlist
    cases htold : FileStore.told path (w.disk.readText path) with
    | error e' =>
      rw [htold] at hlist
      cases hlist
      exact FileStore.isUnreadable_of_told htold
    | ok D =>
      rw [htold] at hlist
      cases hlist
  | keyring =>
    have hlist : (KeyringStore.loadAll w.store).answer = .error e := h
    rw [(KeyringStore.yields_listed hw.store).1] at hlist
    exact KeyringStore.isUnreadable_of_listed hlist

variable {c : Credential}

/-- A credential of a new name stands at the end of the file. -/
theorem gains_of_put (hw : w.Responds) {path : String} {d : Disk} {D : FileStore.Document}
    (h : FileStore.Loads path w.disk D) (h' : FileStore.Loads path d (D.put c))
    (hc : c.ReadsBack) (hnames : ∀ x ∈ D.list, x.name ≠ c.name) :
    (file path).Gains w { w with disk := d } [c] := by
  refine ⟨fun ds hds => ⟨ds ++ [c], ?_, .refl _⟩, ?_, fun shelf => by cases shelf <;> rfl,
    hw.store, hw.other⟩
  · cases (FileStore.yields_list_of_loads h).1.symm.trans hds
    have hafter := FileStore.yields_list_of_loads h'
    rw [D.list_put hc, Ledger.put_of_forall_ne hnames] at hafter
    exact hafter.1
  · have hbefore : (FileStore.load path w.disk).answer = .ok D := h.1
    have hafter : (FileStore.load path d).answer = .ok (D.put c) := h'.1
    simp only [preference, hbefore, hafter]
    rfl

/-- A credential that was entered under a new identifier joins the list, and the keys that are none
of a credential keep their texts. -/
theorem gains_of_enters (hw : w.Responds) {t : SecretStore} (ht : t.Responds)
    {cs : List Credential} (hlisted : KeyringStore.listed w.store = .ok cs)
    (henters : KeyringStore.Enters c (KeyringStore.withRecord w.store c) t) (hguid : c.guid ≠ "")
    (hunused : ∀ x ∈ cs, x.guid ≠ c.guid) : keyring.Gains w { w with store := t } [c] := by
  have hother : ∀ {key}, key ≠ KeyringStore.indexKey →
      (∀ guid, KeyringStore.credentialKey guid ≠ key) →
      t.entries.find? key = w.store.entries.find? key := fun hkey hrecord => by
    rw [henters.find?_eq hkey, KeyringStore.find?_withRecord, if_neg (hrecord c.guid)]
  refine ⟨fun ds hds => ?_, ?_, fun shelf => ?_, ht, hw.other⟩
  · have hlist : (KeyringStore.loadAll w.store).answer = .ok ds := hds
    rw [(KeyringStore.yields_listed hw.store).1, hlisted] at hlist
    cases hlist
    obtain ⟨es, hes, hperm⟩ :=
      KeyringStore.listed_of_enters hlisted henters hguid hunused
    exact ⟨es, by rw [← hes]; exact (KeyringStore.yields_listed ht).1, hperm⟩
  · exact hother (by decide) KeyringStore.credentialKey_ne_defaultKey
  · cases shelf with
    | store => exact hother (by decide) KeyringStore.credentialKey_ne_legacyKey
    | other => rfl

/-- A write of a credential under an identifier fails and changes nothing, or adds just one. -/
theorem set_gains (hw : w.Responds) {fresh : String} {details : Details}
    (hguid : details.effectiveGuid fresh ≠ "") {r : Except CredentialError Credential}
    (hset : (b.service.set fresh details).Yields w r w') :
    FailedAtDisk r ∨ (∃ e, r = .error e ∧ w' = w) ∨
      ∃ c, r = .ok c ∧ details.toCredential fresh = .ok c ∧ b.Gains w w' [c] := by
  cases b with
  | file path =>
    obtain ⟨d, hpart, rfl⟩ := hset.of_zoom
    have hload := FileStore.yields_load path w.disk
    cases htold : FileStore.told path (w.disk.readText path) with
    | error e =>
      -- without a document nothing is written
      rw [htold] at hload
      obtain ⟨rfl, rfl⟩ := hpart.unique (show (FileStore.set path fresh details).Yields _ _ _ from
        hload.bind_error)
      exact .inr (.inl ⟨e, rfl, rfl⟩)
    | ok D =>
      rw [htold] at hload
      rcases FileStore.leaves_set hload fresh details with
        ⟨e, d', hio⟩ | ⟨d', hexact, hloads, herror⟩
      · obtain ⟨rfl, -⟩ := hpart.unique hio
        exact .inl rfl
      obtain ⟨rfl, rfl⟩ := hpart.unique hexact
      rcases D.set_cases fresh details with ⟨e, heq⟩ | ⟨c, hd, hnames, -, heq⟩
      · rw [heq] at herror ⊢
        rw [herror e rfl]
        exact .inr (.inl ⟨e, rfl, rfl⟩)
      · rw [heq] at hloads ⊢
        have hc := Details.readsBack_of_toCredential hd
        exact .inr (.inr ⟨c, rfl, hd, gains_of_put hw hload hloads hc hnames⟩)
  | keyring =>
    obtain ⟨t, hpart, rfl⟩ := hset.of_zoom
    obtain ⟨t', hexact, hwrote⟩ := KeyringStore.exists_set hw.store fresh details
    obtain ⟨rfl, rfl⟩ := hpart.unique hexact
    rcases hwrote.set_cases with ⟨e, he, rfl⟩ | ⟨cs, c, hc, hlisted, hd, hunused, henters⟩
    · exact .inr (.inl ⟨e, he, rfl⟩)
    · have hne : c.guid ≠ "" := by rwa [Details.toCredential_guid hd]
      exact .inr (.inr ⟨c, hc, hd, gains_of_enters hw hwrote.1 hlisted henters hne hunused⟩)

/-! ## Copies -/

section Copies

variable {fresh : Nat → String} {present : List String}

/-- The copies of a list are made up to its end, or up to the first one that fails. -/
theorem copyAll_gains (hw : w.Responds) {cs : List Credential} (hguids : ∀ c ∈ cs, c.guid ≠ "")
    {i : Nat} {report : MigrationReport} {r : Except CredentialError MigrationReport}
    (hcopy : (Migration.copyAll b.service fresh present i cs report).Yields w r w') :
    FailedAtDisk r ∨
    (∃ added, r = .ok {
        migrated := report.migrated ++ (cs.filter (·.guid ∉ present)).map (·.guid)
        skipped := report.skipped ++ (cs.filter (·.guid ∈ present)).map (·.guid) } ∧
      List.Forall₂ Credential.IsStoredAs (cs.filter (·.guid ∉ present)) added ∧
      b.Gains w w' added) ∨
    ∃ before c after source added, cs = before ++ c :: after ∧ c.guid ∉ present ∧
      r = .error (.migration c.name source) ∧
      (b.service.set (fresh (i + before.length)) (.preserving c)).Yields w' (.error source) w' ∧
      List.Forall₂ Credential.IsStoredAs (before.filter (·.guid ∉ present)) added ∧
      b.Gains w w' added := by
  -- on the credentials that are left; what the first one adds stands in front of what the rest adds
  induction cs generalizing w i report with
  | nil =>
    obtain ⟨rfl, rfl⟩ := (yields_pure report w).unique hcopy
    refine .inr (.inl ⟨[], ?_, .nil, .refl hw⟩)
    simp
  | cons c cs ih =>
    have hrest := fun x hx => hguids x (List.mem_cons_of_mem c hx)
    rcases Migration.copyAll_cons_cases hcopy with ⟨hpresent, hnext⟩ | ⟨hpresent, hcopied⟩
    · -- a credential that is passed over adds nothing
      rcases ih hw hrest hnext with hdisk | ⟨added, rfl, hadded, hgains⟩ |
        ⟨before, x, after, source, added, rfl, hx, hr, hset, hadded, hgains⟩
      · exact .inl hdisk
      · refine .inr (.inl ⟨added, ?_, ?_, hgains⟩)
        · simp [hpresent]
        · simpa [List.filter_cons, hpresent] using hadded
      · refine .inr (.inr ⟨c :: before, x, after, source, added, rfl, hx, hr, ?_, ?_, hgains⟩)
        · rwa [List.length_cons, Nat.add_comm before.length, ← Nat.add_assoc]
        · simpa [List.filter_cons, hpresent] using hadded
    · have hguid : (Details.preserving c).effectiveGuid (fresh i) ≠ "" := by
        rw [show (Details.preserving c).effectiveGuid (fresh i) = c.guid from
          if_neg (hguids c List.mem_cons_self)]
        exact hguids c List.mem_cons_self
      rcases hcopied with ⟨e, hfirst, rfl⟩ | ⟨w₁, hfirst, hnext⟩
      · obtain ⟨q, hset, ⟨d, -, hr⟩ | ⟨source, rfl, hr⟩⟩ := Migration.copy_cases hfirst
        · cases hr
        · cases hr
          rcases set_gains hw hguid hset with hdisk | ⟨e', -, rfl⟩ | ⟨d, hd, -⟩
          · exact .inl hdisk
          · exact .inr (.inr ⟨[], c, cs, source, [], rfl, hpresent, rfl, hset, .nil, .refl hw⟩)
          · cases hd
      · obtain ⟨q, hset, ⟨d, rfl, -⟩ | ⟨source, -, hr⟩⟩ := Migration.copy_cases hfirst
        · rcases set_gains hw hguid hset with hdisk | ⟨e', he', -⟩ | ⟨x, hx, hd, hgains₁⟩
          · exact hdisk.elim
          · cases he'
          cases hx
          have hstored : c.IsStoredAs d := fun fresh' => by
            rw [← hd]
            exact Details.toCredential_preserving (hguids c List.mem_cons_self) _ _
          rcases ih hgains₁.responds hrest hnext with hdisk | ⟨added, rfl, hadded, hgains⟩ |
            ⟨before, x, after, source, added, rfl, hx, hr, hset', hadded, hgains⟩
          · exact .inl hdisk
          · refine .inr (.inl ⟨d :: added, ?_, ?_, hgains₁.trans hgains⟩)
            · simp [hpresent]
            · simpa [List.filter_cons, hpresent] using List.Forall₂.cons hstored hadded
          · refine .inr (.inr ⟨c :: before, x, after, source, d :: added, rfl, hx, hr, ?_, ?_,
              hgains₁.trans hgains⟩)
            · rwa [List.length_cons, Nat.add_comm before.length, ← Nat.add_assoc]
            · simpa [List.filter_cons, hpresent] using List.Forall₂.cons hstored hadded
        · cases hr

end Copies

/-! ## The migration -/

/-- All legacy credentials `cs` have made it into a target that listed `ds`. -/
structure Finished (b : Backend) (shelf : Shelf) (w w' : World) (cs ds : List Credential)
    (report : MigrationReport) : Prop where
  migrated_eq : report.migrated = (cs.filter (·.guid ∉ ds.map (·.guid))).map (·.guid)
  skipped_eq : report.skipped = (cs.filter (·.guid ∈ ds.map (·.guid))).map (·.guid)
  exists_list : ∃ added es,
    List.Forall₂ Credential.IsStoredAs (cs.filter (·.guid ∉ ds.map (·.guid))) added ∧
      (b.service.list w').answer = .ok es ∧ es.Perm (ds ++ added)
  preference_eq : b.preference w' = b.preference w
  text_eq : shelf.text w' = none

/-- A credential of the name could not be stored: those before it have made it into the target. -/
structure Stopped (b : Backend) (shelf : Shelf) (fresh : Nat → String) (w w' : World)
    (cs ds : List Credential) (name : String) (source : CredentialError) : Prop where
  exists_first : ∃ before c after added es, cs = before ++ c :: after ∧ c.name = name ∧
    c.guid ∉ ds.map (·.guid) ∧
    (b.service.set (fresh before.length) (.preserving c)).Yields w' (.error source) w' ∧
    List.Forall₂ Credential.IsStoredAs (before.filter (·.guid ∉ ds.map (·.guid))) added ∧
    (b.service.list w').answer = .ok es ∧ es.Perm (ds ++ added)
  preference_eq : b.preference w' = b.preference w
  text_eq : shelf.text w' = shelf.text w

/-- Listing the legacy credentials changes nothing. -/
theorem eq_of_legacyList (hw : w.Responds) {shelf : Shelf}
    {r : Except CredentialError (List Credential)} (h : shelf.legacy.list.Yields w r w') :
    w' = w := by
  obtain ⟨s, hpart, rfl⟩ := h.of_zoom
  cases shelf with
  | store =>
    obtain ⟨-, rfl⟩ := (LegacyStore.yields_list hw.store).unique hpart
    rfl
  | other =>
    obtain ⟨-, rfl⟩ := (LegacyStore.yields_list hw.other).unique hpart
    rfl

theorem answer_legacyList (hw : w.Responds) (shelf : Shelf) :
    (shelf.legacy.list w).answer = LegacyStore.credentialsOf (shelf.text w) := by
  cases shelf with
  | store => exact (LegacyStore.yields_list hw.store).1
  | other => exact (LegacyStore.yields_list hw.other).1

/-- Removing the legacy entry leaves what is listed and preferred. -/
theorem reset_cases (hw : w.Responds) {shelf : Shelf} {r : Except CredentialError ResetOutcome}
    (h : shelf.legacy.reset.Yields w r w') :
    (b.service.list w').answer = (b.service.list w).answer ∧
      b.preference w' = b.preference w ∧ shelf.text w' = none := by
  obtain ⟨s, hpart, rfl⟩ := h.of_zoom
  have hs : (shelf.part w).Responds := by
    cases shelf with
    | store => exact hw.store
    | other => exact hw.other
  have hexact : LegacyStore.reset.Yields (shelf.part w) (.ok {})
      { shelf.part w with entries := (shelf.part w).entries.erase KeyringStore.legacyKey } :=
    (SecretStore.yields_remove hs KeyringStore.legacyKey).discard.bind (yields_pure _ _)
  obtain ⟨-, rfl⟩ := hpart.unique hexact
  have hkept : ∀ {key}, key ≠ KeyringStore.legacyKey →
      ((shelf.part w).entries.erase KeyringStore.legacyKey).find? key =
        (shelf.part w).entries.find? key := fun hkey => by
    rw [SortedTable.find?_erase, if_neg hkey]
  refine ⟨?_, ?_, ?_⟩
  · cases b with
    | file path => cases shelf <;> rfl
    | keyring =>
      cases shelf with
      | store =>
        have hlisted := KeyringStore.listed_eq_of_find?_eq (s := w.store) (t := { w.store with
          entries := w.store.entries.erase KeyringStore.legacyKey }) rfl
          (fun guid => hkept (KeyringStore.credentialKey_ne_legacyKey guid)) (hkept (by decide))
        exact (KeyringStore.yields_listed (hw.store.with_entries _)).1.trans
          (hlisted.trans (KeyringStore.yields_listed hw.store).1.symm)
      | other => rfl
  · cases b with
    | file path => cases shelf <;> rfl
    | keyring =>
      cases shelf with
      | store => exact hkept (by decide)
      | other => rfl
  · rw [Shelf.text, Shelf.part_put]
    show ((shelf.part w).entries.erase KeyringStore.legacyKey).find? _ = none
    rw [SortedTable.find?_erase, if_pos rfl]

/-- What a migration in which no call fails comes to. If it answers, the target lists what it listed
and, for each credential whose identifier was not there, what is stored for it; the report tells
which ones were and which were not, in the order of the list, and the legacy entry is gone.
If a credential cannot be stored, those before it have been copied and the legacy entry is
as it was. If either list fails, nothing has changed. -/
theorem outcome_of_run {shelf : Shelf} {fresh : Nat → String} (hw : w.Responds)
    (hdisk : ¬ FailedAtDisk (Migration.run shelf.legacy b.service fresh w).answer) :
    (∀ report, (Migration.run shelf.legacy b.service fresh w).answer = .ok report →
      ∃ cs ds, (shelf.legacy.list w).answer = .ok cs ∧ (b.service.list w).answer = .ok ds ∧
        b.Finished shelf w (Migration.run shelf.legacy b.service fresh w).state cs ds report) ∧
    (∀ name source,
      (Migration.run shelf.legacy b.service fresh w).answer = .error (.migration name source) →
      ∃ cs ds, (shelf.legacy.list w).answer = .ok cs ∧ (b.service.list w).answer = .ok ds ∧
        b.Stopped shelf fresh w (Migration.run shelf.legacy b.service fresh w).state cs ds name
          source) ∧
    ((∃ e, (shelf.legacy.list w).answer = .error e) ∨ (∃ e, (b.service.list w).answer = .error e) →
      (∃ e, (Migration.run shelf.legacy b.service fresh w).answer = .error e) ∧
        (Migration.run shelf.legacy b.service fresh w).state = w) := by
  have hrun := yields_self (Migration.run shelf.legacy b.service fresh) w
  generalize (Migration.run shelf.legacy b.service fresh w).answer = r at hrun hdisk ⊢
  generalize (Migration.run shelf.legacy b.service fresh w).state = w' at hrun ⊢
  rcases Migration.run_cases hrun with ⟨e, hlegacy, rfl⟩ | ⟨cs, w₁, hlegacy, hrest⟩
  · -- the legacy entry cannot be listed
    obtain rfl := (eq_of_legacyList hw hlegacy).symm
    refine ⟨nofun, fun name source he => ?_, fun _ => ⟨⟨e, rfl⟩, rfl⟩⟩
    cases he
    rw [Yields, answer_legacyList hw] at hlegacy
    cases LegacyStore.isUnreadable_of_credentialsOf hlegacy.1
  obtain rfl := (eq_of_legacyList hw hlegacy).symm
  rcases hrest with ⟨e, htarget, rfl⟩ | ⟨ds, w₂, htarget, hrest⟩
  · -- the target cannot be listed
    obtain rfl := (eq_of_list hw htarget).symm
    refine ⟨nofun, fun name source he => ?_, fun _ => ⟨⟨e, rfl⟩, rfl⟩⟩
    cases he
    cases isUnreadable_of_list hw htarget.1
  obtain rfl := (eq_of_list hw htarget).symm
  have hguids : ∀ c ∈ cs, c.guid ≠ "" := by
    rw [Yields, answer_legacyList hw] at hlegacy
    exact fun c hc => LegacyStore.guid_ne_empty hlegacy.1 hc
  -- both lists have answered, so it is about the copies
  have hlists : ¬ ((∃ e, (shelf.legacy.list w).answer = .error e) ∨
      ∃ e, (b.service.list w).answer = .error e) := by
    rw [hlegacy.1, htarget.1]
    rintro (⟨e, he⟩ | ⟨e, he⟩)
    · cases he
    · cases he
  refine ⟨?_, ?_, fun h => absurd h hlists⟩
  · rintro report rfl
    refine ⟨cs, ds, hlegacy.1, htarget.1, ?_⟩
    rcases hrest with ⟨e, -, he⟩ | ⟨report', w₃, q, hcopies, hreset, hr⟩
    · cases he
    cases hr
    rcases copyAll_gains hw hguids hcopies with h | ⟨added, hreport, hadded, hgains⟩ |
      ⟨before, c, after, source, added, -, -, hr, -⟩
    · exact h.elim
    · cases hreport
      obtain ⟨es, hes, hperm⟩ := hgains.exists_list ds htarget.1
      obtain ⟨hlist, hpreference, htext⟩ := reset_cases (b := b) hgains.responds hreset
      exact ⟨by simp, by simp, ⟨added, es, hadded, hlist.trans hes, hperm⟩,
        hpreference.trans hgains.preference_eq, htext⟩
    · cases hr
  · rintro name source rfl
    refine ⟨cs, ds, hlegacy.1, htarget.1, ?_⟩
    rcases hrest with ⟨e, hcopies, he⟩ | ⟨report', w₃, q, -, -, hr⟩
    · cases he
      rcases copyAll_gains hw hguids hcopies with h | ⟨added, hreport, -⟩ |
        ⟨before, c, after, source', added, hcs, hc, hr, hset, hadded, hgains⟩
      · exact absurd h hdisk
      · cases hreport
      · cases hr
        obtain ⟨es, hes, hperm⟩ := hgains.exists_list ds htarget.1
        rw [Nat.zero_add] at hset
        exact ⟨⟨before, c, after, added, es, hcs, rfl, hc, hset, hadded, hes, hperm⟩,
          hgains.preference_eq, hgains.text_eq shelf⟩
    · cases hr

/-- A keyring that has the first of two credentials which the legacy entry holds beside it
in the same secret store. -/
def halfMigrated : World where
  store := KeyringStore.withRecord
    { entries := SortedTable.empty.insert KeyringStore.legacyKey
        ("\x7b\"home\": \x7b\"guid\": \"g\", \"url\": \"https://a.b\", \"apiKey\": \"k\"\x7d, " ++
          "\"work\": \x7b\"guid\": \"h\", \"url\": \"https://c.d/\", \"apiKey\": \"l\"\x7d\x7d") }
    { name := "home", url := "https://a.b", apiKey := "k", guid := "g" }

theorem outcome_of_run_halfMigrated :
    ∃ w', (Migration.run Shelf.store.legacy keyring.service fun _ => "").Yields halfMigrated
        (.ok { migrated := ["h"], skipped := ["g"] }) w' ∧
      ∃ cs ds, keyring.Finished .store halfMigrated w' cs ds
        { migrated := ["h"], skipped := ["g"] } := by
  have hanswer : (Migration.run Shelf.store.legacy keyring.service (fun _ => "")
      halfMigrated).answer = .ok { migrated := ["h"], skipped := ["g"] } := by decide +kernel
  have hdisk : ¬ FailedAtDisk (Migration.run Shelf.store.legacy keyring.service (fun _ => "")
      halfMigrated).answer := by
    rw [hanswer]
    exact id
  have hw : halfMigrated.Responds := ⟨⟨rfl, rfl⟩, rfl, rfl⟩
  obtain ⟨cs, ds, -, -, hfinished⟩ := (outcome_of_run hw hdisk).1 _ hanswer
  exact ⟨_, ⟨hanswer, rfl⟩, cs, ds, hfinished⟩

end Backend

end CredentialStore
