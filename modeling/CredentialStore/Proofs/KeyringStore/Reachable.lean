import CredentialStore.Proofs.KeyringStore.Reads
import CredentialStore.Proofs.KeyringStore.Turns
import CredentialStore.Proofs.SecretStore.Faults

/-!
# What a keyring comes to hold

A keyring starts with none of its keys in use and takes one turn after the other. Between the turns
the other keys of its secret store change, and so does which calls fail. Whatever has failed so far,
a record is one of its own identifier, since nothing but the record of a credential is ever put
under the key of that credential.

Main statements: `stable_of_pass` and `stable_allFit` (two ways for a property to be preserved by
every turn) and `ReachableBy.ownsRecords`.
-/

namespace CredentialStore.KeyringStore

open Op SecretStore

variable {s t : SecretStore}

/-! ## Properties of the calls alone -/

/-- A property that the rules for failing calls decide, and not the texts, is preserved by every
turn. -/
theorem stable_of_pass {P : SecretStore → Prop} (hpass : ∀ call key, (pass call key).Preserves P)
    (hentries : ∀ {s : SecretStore} entries, P s → P { s with entries }) :
    Stable P fun _ _ => True := by
  -- after the call reached the store, only texts are changed
  have hrest : ∀ {α : Type} {x : Op SecretStore α},
      (∀ {s r t}, x.Yields s r t → ∃ entries, t = { s with entries }) → x.Preserves P := by
    intro α x hx
    refine preserves_iff.2 fun s r t hyields hs => ?_
    obtain ⟨entries, rfl⟩ := hx hyields
    exact hentries entries hs
  have hwrite : ∀ call key, (passWrite call key).Preserves P := fun call key =>
    (hpass call key).bind fun _ => hrest fun {s r t} h => by
      obtain ⟨-, rfl⟩ := h
      rw [bind_state]
      split <;> exact ⟨s.entries, rfl⟩
  constructor
  case retrieve =>
    intro key
    refine (hpass _ _).bind fun _ => hrest fun {s r t} h => ?_
    obtain ⟨-, rfl⟩ := (yields_pure _ s).unique (h.of_bind (yields_state s))
    exact ⟨s.entries, rfl⟩
  case keysFrom =>
    intro start
    refine (hpass _ _).bind fun _ => hrest fun {s r t} h => ?_
    obtain ⟨-, rfl⟩ := h
    rw [bind_state]
    split <;> exact ⟨s.entries, rfl⟩
  case remove =>
    intro key
    refine (hwrite _ _).bind fun _ => hrest fun {s r t} h => ?_
    obtain ⟨-, rfl⟩ := (yields_pure _ _).unique
      ((h.of_bind (yields_state s)).of_bind (yields_setState s _))
    exact ⟨s.entries.erase key, rfl⟩
  case put =>
    intro key text _
    refine (hwrite _ _).bind fun _ => hrest fun {s r t} h => ?_
    obtain ⟨-, rfl⟩ := (yields_setState s _).unique (h.of_bind (yields_state s))
    exact ⟨s.entries.insert key text, rfl⟩
  all_goals intros; trivial

/-- No turn makes more calls fail. -/
theorem stable_failsAtMost (n : Nat) : Stable (FailsAtMost · n) fun _ _ => True :=
  stable_of_pass (fun _ _ => preserves_iff.2 fun _ _ _ h hs => (pass_spends hs h).failsAtMost)
    fun _ hs => ⟨hs.faults, hs.rejected_eq⟩

theorem stable_responds : Stable Responds fun _ _ => True :=
  stable_of_pass (fun call key => preserves_iff.2 fun s r t hpass hs => by
    obtain ⟨-, rfl⟩ := (yields_pass hs call key).unique hpass
    exact hs) fun entries hs => hs.with_entries entries

/-! ## Properties of the texts -/

/-- Every text fits its key. -/
def AllFit (Fits : String → String → Prop) (s : SecretStore) : Prop :=
  ∀ ⦃key text⦄, s.entries.find? key = some text → Fits key text

section AllFit

variable {Fits : String → String → Prop}

theorem AllFit.of_keeps (h : AllFit Fits s) (hkeeps : s.Keeps t) : AllFit Fits t := by
  intro key text
  rw [hkeeps.entries_eq]
  exact fun htext => h htext

/-- If what a turn writes fits, then every text goes on to fit. -/
theorem stable_allFit (hrecord : ∀ c, Fits (credentialKey c.guid) (Record.ofCredential c).write)
    (hindex : ∀ index : Index, Fits indexKey index.write) (hpreferred : ∀ guid, Fits defaultKey guid) :
    Stable (AllFit Fits) Fits where
  retrieve _ := preserves_iff.2 fun _ _ _ h hs => hs.of_keeps (retrieve_cases h).1
  keysFrom _ := preserves_iff.2 fun _ _ _ h hs => hs.of_keeps (keysFrom_cases h).1
  remove key := by
    refine preserves_iff.2 fun s r t h hs => ?_
    rcases remove_cases h with ⟨-, hkeeps⟩ | ⟨-, hkeeps⟩
    · refine AllFit.of_keeps (fun {key' text} htext => ?_) hkeeps
      rw [SortedTable.find?_erase] at htext
      split at htext
      · cases htext
      · exact hs htext
    · exact hs.of_keeps hkeeps
  put {key text} hfits := by
    refine preserves_iff.2 fun s r t h hs => ?_
    rcases put_cases h with ⟨-, hkeeps⟩ | ⟨-, hkeeps⟩
    · refine AllFit.of_keeps (fun {key' text'} htext => ?_) hkeeps
      rw [SortedTable.find?_insert] at htext
      split at htext
      · rename_i hkey
        cases htext
        rwa [← hkey]
      · exact hs htext
    · exact hs.of_keeps hkeeps
  fits_found hs htext := hs htext
  fits_record := hrecord
  fits_index := hindex
  fits_preferred := hpreferred

end AllFit

/-- Under the key of a credential, a text that can be decoded is of that credential. -/
def IsOwn (key text : String) : Prop :=
  ∀ {guid c}, key = credentialKey guid → decode guid text = .ok c → c.guid = guid

theorem isOwn_record (c : Credential) :
    IsOwn (credentialKey c.guid) (Record.ofCredential c).write := by
  intro guid d hkey hdecode
  obtain rfl := credentialKey_inj.1 hkey
  rw [decode_write] at hdecode
  cases hdecode
  rfl

theorem isOwn_of_guidOf? {key : String} (h : guidOf? key = none) (text : String) :
    IsOwn key text :=
  fun hkey _ => absurd hkey.symm (credentialKey_ne h _)

/-- Every record that can be decoded is one of its own identifier. -/
abbrev OwnsRecords : SecretStore → Prop :=
  AllFit IsOwn

theorem OwnsRecords.guid_eq (h : OwnsRecords s) {guid : String} {c : Credential}
    (hrecord : recordOf? s.entries guid = some c) : c.guid = guid := by
  obtain ⟨text, htext, hdecode⟩ := recordOf?_eq_some_iff.1 hrecord
  exact h htext rfl hdecode

theorem stable_ownsRecords : Stable OwnsRecords IsOwn :=
  stable_allFit isOwn_record (fun _ => isOwn_of_guidOf? (by decide) _)
    fun _ => isOwn_of_guidOf? (by decide) _

/-! ## States that are reached -/

/-- The keys that a keyring uses: those of credentials, of the index and of the preference. -/
def IsKeyringKey (key : String) : Prop :=
  (∃ guid, key = credentialKey guid) ∨ key = indexKey ∨ key = defaultKey

/-- What a secret store is like after turns of the keyring in it, each of which may be taken in the
state that the ones before have left. -/
inductive ReachableBy (May : SecretStore → Turn → Prop) : SecretStore → Prop where
  | unused {s : SecretStore} (h : ∀ key, IsKeyringKey key → s.entries.find? key = none) :
    ReachableBy May s
  | turn {s : SecretStore} (h : ReachableBy May s) (x : Turn) (hmay : May s x) :
    ReachableBy May (x.take s).state
  /-- Between two turns other keys change, and other calls fail. -/
  | between {s t : SecretStore} (h : ReachableBy May s) (hlisting : t.listing = s.listing)
    (hkeys : ∀ key, IsKeyringKey key → t.entries.find? key = s.entries.find? key) :
    ReachableBy May t

/-- The same after any turns, whatever calls have failed. -/
abbrev Reachable : SecretStore → Prop :=
  ReachableBy fun _ _ => True

theorem ReachableBy.ownsRecords {May : SecretStore → Turn → Prop} (h : ReachableBy May s) :
    OwnsRecords s := by
  -- on the way to the state; only texts under the keys of credentials count
  induction h with
  | unused h =>
    rintro key text htext guid c rfl
    rw [h _ (.inl ⟨guid, rfl⟩)] at htext
    cases htext
  | turn h x _ ih =>
    exact Preserves.of_yields (stable_ownsRecords.admits.take x) (yields_self _ _) ih
  | between h hlisting hkeys ih =>
    rintro key text htext guid c rfl
    rw [hkeys _ (.inl ⟨guid, rfl⟩)] at htext
    exact ih htext rfl

end CredentialStore.KeyringStore
