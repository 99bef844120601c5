import CredentialStore.Proofs.KeyringStore.Atomic
import CredentialStore.Proofs.KeyringStore.Legacy

/-!
# Records of a newer version

A record of a newer version closes a keyring for writes: all records are loaded before one is
written, and this one cannot be. Single credentials are still found and removed beside it. Removing
another one rewrites the index, which has to keep the place of this one, or else it would not be
looked at any more and the next write might take its key.

Main statements, whatever calls fail:

* `HoldsNewer.set` and `HoldsNewer.forceSet` — a write fails and leaves all texts;
* `HoldsNewer.take` — a turn leaves the record unless it removes it;
* `HoldsNewer.of_reachedWithout` — so does every run of such turns.
-/

namespace CredentialStore.KeyringStore

open Op SecretStore

/-- The record with an identifier can be enumerated, and its text is of a newer version than the one
that is written. -/
structure HoldsNewer (guid text : String) (s : SecretStore) : Prop where
  isListed : IsListed s guid
  find?_eq : s.entries.find? (credentialKey guid) = some text
  newer : ∃ r, Record.read? text = some r ∧ currentVersion < r.version

/-- A text of a newer version is never decoded, under whatever identifier it stands. -/
theorem exists_decode_error (guid : String) {text : String} {r : Record}
    (hread : Record.read? text = some r) (hversion : currentVersion < r.version) :
    ∃ e, decode guid text = .error e := by
  unfold decode
  rw [hread]
  dsimp only
  split
  · unfold Record.toCredential checkVersion
    rw [if_neg (Nat.not_le.2 hversion)]
    exact ⟨_, rfl⟩
  · exact ⟨_, rfl⟩

namespace HoldsNewer

variable {guid text : String} {s t : SecretStore}

theorem recordOf?_eq_none (h : HoldsNewer guid text s) : recordOf? s.entries guid = none := by
  obtain ⟨r, hread, hversion⟩ := h.newer
  obtain ⟨e, he⟩ := exists_decode_error guid hread hversion
  rw [recordOf?, h.find?_eq, Option.bind_some, he]
  rfl

/-! ## What leaves the record -/

/-- Texts under other keys do not count, as long as the index is the same. -/
theorem of_keepsBut (h : HoldsNewer guid text s) {key : String} (hrecord : key ≠ credentialKey guid)
    (hindex : key ≠ indexKey) (hkeeps : KeepsBut key s t) : HoldsNewer guid text t := by
  have hfind := (hkeeps.find?_eq hrecord.symm).trans h.find?_eq
  refine ⟨⟨?_, fun hlisting => ?_⟩, hfind, h.newer⟩
  · rw [hfind]
    exact Option.some_ne_none text
  · rw [hkeeps.listing_eq] at hlisting
    rw [storedIndex_congr (hkeeps.find?_eq hindex.symm)]
    exact h.isListed.mem_index hlisting

theorem of_keeps (h : HoldsNewer guid text s) (hkeeps : s.Keeps t) : HoldsNewer guid text t :=
  h.of_keepsBut (credentialKey_ne_defaultKey guid).symm (by decide) (hkeeps.keepsBut defaultKey)

/-- An index that names the record may take the place of the one that is stored. -/
theorem saveIndex (h : HoldsNewer guid text s) {index : Index} (hguid : guid ∈ index.keys)
    {r : Except CredentialError Unit} (hsave : (saveIndex index).Yields s r t) :
    HoldsNewer guid text t := by
  rcases put_cases hsave with ⟨-, hkeeps⟩ | ⟨-, hkeeps⟩
  · refine of_keeps ⟨⟨?_, fun _ => ⟨index, storedIndex_insert _ _, hguid⟩⟩, ?_, h.newer⟩ hkeeps
    · show (s.entries.insert indexKey index.write).find? (credentialKey guid) ≠ none
      rw [SortedTable.find?_insert, if_neg (credentialKey_ne_indexKey guid).symm, h.find?_eq]
      exact Option.some_ne_none text
    · show (s.entries.insert indexKey index.write).find? (credentialKey guid) = some text
      rw [SortedTable.find?_insert, if_neg (credentialKey_ne_indexKey guid).symm, h.find?_eq]
  · exact h.of_keeps hkeeps

/-! ## Writes -/

/-- The record cannot be loaded, so not all of them can. -/
theorem loadAll (h : HoldsNewer guid text s) {r : Except CredentialError (List Credential)}
    (hload : loadAll.Yields s r t) : s.Keeps t ∧ ∃ e, r = .error e := by
  obtain ⟨hkeeps, hloaded⟩ := loadAll_cases hload
  refine ⟨hkeeps, ?_⟩
  cases r with
  | error e => exact ⟨e, rfl⟩
  | ok cs => exact absurd h.recordOf?_eq_none ((hloaded cs rfl).2 guid h.isListed)

theorem set (h : HoldsNewer guid text s) {fresh : String} {details : Details}
    {r : Except CredentialError Credential} (hset : (set fresh details).Yields s r t) :
    s.Keeps t ∧ ∃ e, r = .error e := by
  rcases set_steps hset with hfailed | ⟨existing, c, u, q, hload, -⟩
  · exact hfailed
  · obtain ⟨-, e, he⟩ := h.loadAll hload
    cases he

theorem forceSet (h : HoldsNewer guid text s) {fresh : String} {details : Details}
    {r : Except CredentialError Credential} (hset : (forceSet fresh details).Yields s r t) :
    s.Keeps t ∧ ∃ e, r = .error e := by
  rcases forceSet_steps hset with hfailed | ⟨existing, candidate, c, previous, u, q, hload, -⟩
  · exact hfailed
  · obtain ⟨-, e, he⟩ := h.loadAll hload
    cases he

/-! ## Removals of other credentials -/

/-- A record beside it is removed; whatever fails on the way, the index goes on to name this one. -/
theorem removeEntry (h : HoldsNewer guid text s) {guid' text' : String} (hne : guid' ≠ guid)
    {r : Except CredentialError Unit} (hremove : (removeEntry guid' text').Yields s r t) :
    HoldsNewer guid text t := by
  have hkey : credentialKey guid' ≠ credentialKey guid := fun heq => hne (credentialKey_inj.1 heq)
  have hindex := credentialKey_ne_indexKey guid'
  rcases removeEntry_steps hremove with ⟨-, hremoved⟩ | ⟨hlisting, hrest⟩
  · exact h.of_keepsBut hkey hindex (keepsBut_of_remove hremoved)
  rcases hrest with ⟨e, hload, -⟩ | ⟨index, s₁, hload, hrest⟩
  · exact h.of_keeps (loadIndex_cases hload).1
  obtain ⟨hkeeps, ⟨index', hstored, hok⟩ | ⟨e, he⟩⟩ := loadIndex_cases hload
  · cases hok
    have h₁ := h.of_keeps hkeeps
    rcases hrest with ⟨e, hremoved, -⟩ | ⟨s₂, hremoved, hrest⟩
    · exact h₁.of_keepsBut hkey hindex (keepsBut_of_remove hremoved)
    have h₂ := h₁.of_keepsBut hkey hindex (keepsBut_of_remove hremoved)
    -- the index that was loaded is the stored one, which names the record
    obtain ⟨index', hstored', hmem⟩ := h.isListed.mem_index hlisting
    rw [hstored] at hstored'
    cases hstored'
    have hguid : guid ∈ (index.erase guid').keys := by
      obtain ⟨name, hname⟩ := SortedTable.mem_keys_iff.1 hmem
      refine SortedTable.mem_keys_iff.2 ⟨name, ?_⟩
      rw [SortedTable.find?_erase, if_neg hne.symm, hname]
    rcases hrest with ⟨hsave, -⟩ | ⟨e, s₃, q, hsave, hput, -⟩
    · exact h₂.saveIndex hguid hsave
    · exact (h₂.saveIndex hguid hsave).of_keepsBut hkey hindex (keepsBut_of_put hput)
  · cases he

theorem removeRecord (h : HoldsNewer guid text s) {guid' : String} (hne : guid' ≠ guid)
    {r : Except CredentialError Unit} (hremove : (removeRecord guid').Yields s r t) :
    HoldsNewer guid text t := by
  rcases hremove.bind_cases with ⟨e, hread, -⟩ | ⟨text?, u, hread, hrest⟩
  · exact h.of_keeps (read_cases hread).1
  have hu := h.of_keeps (read_cases hread).1
  cases text? with
  | none =>
    obtain ⟨-, rfl⟩ := (yields_throw _ u).unique hrest
    exact hu
  | some text' => exact hu.removeEntry hne hrest

theorem delete (h : HoldsNewer guid text s) {guid' : String} (hne : guid' ≠ guid)
    {r : Except CredentialError Unit} (hdelete : (delete guid').Yields s r t) :
    HoldsNewer guid text t := by
  rw [delete_eq] at hdelete
  rcases hdelete.bind_cases with ⟨e, hremove, -⟩ | ⟨_, u, hremove, hforget⟩
  · exact h.removeRecord hne hremove
  · exact (h.removeRecord hne hremove).of_keepsBut (credentialKey_ne_defaultKey guid).symm
      (by decide) (keepsBut_of_forget hforget)

end HoldsNewer

/-! ## Turns -/

/-- Whether a turn is to remove the credential with an identifier. -/
def Turn.Removes (guid : String) : Turn → Prop
  | .request (.delete guid') => guid' = guid
  | .request .reset => True
  | _ => False

section Turns

variable {guid text : String} {s t : SecretStore}

theorem admitsReads_holdsNewer : AdmitsReads (Both (HoldsNewer guid text)) where
  guids := preserves_iff.2 fun _ _ _ hguids h => h.of_keeps (guids_cases hguids).1
  load _ := preserves_iff.2 fun _ _ _ hload h => h.of_keeps (load_cases hload).1
  defaultGuid := preserves_iff.2 fun _ _ _ hdefault h => by
    obtain ⟨q, hread, -⟩ := hdefault.of_map
    exact h.of_keeps (read_cases hread).1

theorem admitsCopies_holdsNewer : AdmitsCopies (Both (HoldsNewer guid text)) where
  loadAll := admitsReads_holdsNewer.loadAll
  set _ _ := preserves_iff.2 fun _ _ _ hset h => h.of_keeps (h.set hset).1
  legacyList := preserves_iff.2 fun _ _ _ hlist h => h.of_keeps (LegacyStore.list_cases hlist).1
  legacyReset := preserves_iff.2 fun _ _ _ hreset h => by
    have hspares := LegacyStore.spares_of_reset hreset
    exact h.of_keepsBut (credentialKey_ne_legacyKey guid).symm (by decide)
      ⟨hspares.listing_eq, hspares.find?_eq⟩

/-- The preference is a text of its own. -/
theorem preserves_of_keepsBut_defaultKey {α : Type} {x : Op SecretStore α}
    (h : ∀ {s r t}, x.Yields s r t → KeepsBut defaultKey s t) :
    x.Preserves (HoldsNewer guid text) :=
  preserves_iff.2 fun _ _ _ hx hs =>
    hs.of_keepsBut (credentialKey_ne_defaultKey guid).symm (by decide) (h hx)

/-- A turn leaves the record unless it is to remove it. -/
theorem HoldsNewer.take (h : HoldsNewer guid text s) {x : Turn} (hx : ¬ x.Removes guid)
    {r : Except CredentialError Answer} (htake : x.take.Yields s r t) : HoldsNewer guid text t := by
  have hforced : ∀ fresh details, (KeyringStore.forceSet fresh details).Preserves
      (HoldsNewer guid text) := fun fresh details =>
    preserves_iff.2 fun _ _ _ hset h => h.of_keeps (h.forceSet hset).1
  refine Preserves.of_yields ?_ htake h
  -- one case for each turn; the two that may remove the record are apart
  cases x with
  | set random details => exact (admitsCopies_holdsNewer.set _ details).map _
  | forceSet random details => exact (hforced _ details).map _
  | migrate random => exact (admitsCopies_holdsNewer.migrate _).map _
  | copy random c => exact (admitsCopies_holdsNewer.copy _ c).map _
  | request request =>
    cases request with
    | list => exact (admitsReads_holdsNewer.loadAll.map _).map _
    | get guid' => exact ((admitsReads_holdsNewer.get guid').map _).map _
    | set random a => exact ((admitsCopies_holdsNewer.set _ _).map _).map _
    | forceSet random a => exact ((hforced _ _).map _).map _
    | delete guid' =>
      have hdelete : (KeyringStore.delete guid').Preserves (HoldsNewer guid text) :=
        preserves_iff.2 fun _ _ _ hdelete h => h.delete hx hdelete
      exact (hdelete.map _).map _
    | reset => exact absurd trivial hx
    | defaultServer => exact (admitsReads_holdsNewer.defaultServer.map _).map _
    | setDefaultServer guid' =>
      exact ((admitsReads_holdsNewer.setDefaultServer
        (preserves_of_keepsBut_defaultKey keepsBut_of_put)).map _).map _
    | clearDefaultServer =>
      exact ((preserves_of_keepsBut_defaultKey keepsBut_of_remove).map _).map _

/-- What a secret store comes to by turns none of which is to remove one credential. Between two of
them other keys change, and other calls fail. -/
inductive ReachedWithout (guid : String) (s : SecretStore) : SecretStore → Prop where
  | start : ReachedWithout guid s s
  | turn {t : SecretStore} (h : ReachedWithout guid s t) (x : Turn) (hx : ¬ x.Removes guid) :
    ReachedWithout guid s (x.take t).state
  | between {t u : SecretStore} (h : ReachedWithout guid s t) (hlisting : u.listing = t.listing)
    (hkeys : ∀ key, IsKeyringKey key → u.entries.find? key = t.entries.find? key) :
    ReachedWithout guid s u

/-- However many turns are taken, the record stays what it is and goes on to be enumerated. -/
theorem HoldsNewer.of_reachedWithout (h : HoldsNewer guid text s)
    (hreached : ReachedWithout guid s t) : HoldsNewer guid text t := by
  induction hreached with
  | start => exact h
  | turn _ x hx ih => exact ih.take hx (yields_self _ _)
  | between _ hlisting hkeys ih =>
    refine ⟨ih.isListed.congr hlisting (fun guid => hkeys _ (.inl ⟨guid, rfl⟩))
      (hkeys _ (.inr (.inl rfl))), ?_, ih.newer⟩
    rw [hkeys _ (.inl ⟨guid, rfl⟩), ih.find?_eq]

end Turns

end CredentialStore.KeyringStore
