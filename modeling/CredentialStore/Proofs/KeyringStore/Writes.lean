import CredentialStore.Proofs.KeyringStore.Reachable

/-!
# What writes to a keyring leave

A record and its place in the index are two texts, so a write (`persist`, and the removal in
`delete`) that fails at the second one has to take the first one back. Where one call may fail at
most, taking back succeeds.

Main statements:

* `enter_leaves` and `persist_steps` — what a write goes through, whatever fails;
* `persist_leaves` and `removeEntry_leaves` — where one call fails at most, the write is done or has
  been taken back;
* `persist_spends` and `removeEntry_spends` — a write fails only because a call does;
* `persist_of_responds` and `removeEntry_of_responds` — where no call fails, it is done.
-/

namespace CredentialStore.KeyringStore

open Op SecretStore

variable {s t u : SecretStore} {c : Credential} {n : Nat}

/-! ## Stores with one text changed -/

/-- A store with the record of a credential put. -/
def withRecord (s : SecretStore) (c : Credential) : SecretStore :=
  { s with entries := s.entries.insert (credentialKey c.guid) (Record.ofCredential c).write }

theorem find?_withRecord (s : SecretStore) (c : Credential) (key : String) :
    (withRecord s c).entries.find? key =
      if credentialKey c.guid = key then some (Record.ofCredential c).write
      else s.entries.find? key :=
  SortedTable.find?_insert ..

theorem keeps_withRecord (h : s.Keeps t) (c : Credential) :
    (withRecord s c).Keeps (withRecord t c) :=
  ⟨congrArg (SortedTable.insert · _ _) h.entries_eq, h.listing_eq⟩

theorem keepsBut_withRecord (s : SecretStore) (c : Credential) :
    KeepsBut (credentialKey c.guid) s (withRecord s c) :=
  keepsBut_insert s _ _

theorem recordOf?_withRecord (s : SecretStore) (c : Credential) (guid : String) :
    recordOf? (withRecord s c).entries guid =
      if c.guid = guid then some c else recordOf? s.entries guid := by
  rw [recordOf?, find?_withRecord]
  split
  · rename_i hkey
    obtain rfl := credentialKey_inj.1 hkey
    rw [if_pos rfl, Option.bind_some, decode_write]
    rfl
  · rename_i hkey
    rw [if_neg fun hguid => hkey (by rw [hguid])]
    rfl

theorem storedIndex_withRecord (s : SecretStore) (c : Credential) :
    storedIndex (withRecord s c).entries = storedIndex s.entries :=
  storedIndex_congr ((find?_withRecord s c indexKey).trans
    (if_neg (credentialKey_ne_indexKey c.guid)))

/-- A store with a record removed. -/
def withoutRecord (s : SecretStore) (guid : String) : SecretStore :=
  { s with entries := s.entries.erase (credentialKey guid) }

theorem find?_withoutRecord (s : SecretStore) (guid key : String) :
    (withoutRecord s guid).entries.find? key =
      if key = credentialKey guid then none else s.entries.find? key :=
  SortedTable.find?_erase ..

theorem keeps_withoutRecord (h : s.Keeps t) (guid : String) :
    (withoutRecord s guid).Keeps (withoutRecord t guid) :=
  ⟨congrArg (SortedTable.erase · _) h.entries_eq, h.listing_eq⟩

theorem storedIndex_withoutRecord (s : SecretStore) (guid : String) :
    storedIndex (withoutRecord s guid).entries = storedIndex s.entries :=
  storedIndex_congr ((find?_withoutRecord s guid indexKey).trans
    (if_neg (Ne.symm (credentialKey_ne_indexKey guid))))

/-- A store with the record of a credential put and taken back. -/
def takenBack (s : SecretStore) (c : Credential) : Option Credential → SecretStore
  | some p => withRecord (withRecord s c) p
  | none => withoutRecord (withRecord s c) c.guid

/-- Nothing is left of a record that was put and taken back. -/
theorem takenBack_none (h : s.entries.find? (credentialKey c.guid) = none) :
    takenBack s c none = s := by
  have hentries : (takenBack s c none).entries = s.entries := by
    refine SortedTable.ext_find? fun key => ?_
    rw [takenBack, find?_withoutRecord, find?_withRecord]
    split
    · rename_i hkey
      rw [hkey, h]
    · rename_i hkey
      rw [if_neg (Ne.symm hkey)]
  cases s
  exact congrArg (SecretStore.mk _ _ · _ _) hentries

/-- A record that was replaced and put back is the one of the credential that was replaced. -/
theorem takenBack_some {p : Credential} (h : p.guid = c.guid) :
    takenBack s c (some p) = withRecord s p := by
  refine congrArg (SecretStore.mk s.kind s.listing · s.faults s.rejected)
    (SortedTable.ext_find? fun key => ?_)
  show (withRecord (withRecord s c) p).entries.find? key = (withRecord s p).entries.find? key
  rw [find?_withRecord, find?_withRecord, find?_withRecord, h]
  split <;> rfl

/-! ## Entering a credential -/

/-- The index can be read, where there is one to keep. -/
def IsIndexReadable (s : SecretStore) : Prop :=
  s.listing = false → ∃ index, storedIndex s.entries = some index

theorem isIndexReadable_of_guids {gs : List String} (h : guids.Yields s (.ok gs) t) :
    IsIndexReadable s := by
  intro hlisting
  obtain ⟨-, ⟨htrue, -⟩ | ⟨-, index, hstored, -⟩ | ⟨e, he⟩⟩ := guids_cases h
  · rw [htrue] at hlisting
    cases hlisting
  · exact ⟨index, hstored⟩
  · cases he

theorem isIndexReadable_of_loadAll {cs : List Credential} (h : loadAll.Yields s (.ok cs) t) :
    IsIndexReadable s := by
  obtain ⟨gs, u, hguids, -⟩ := h.bind_ok
  exact isIndexReadable_of_guids hguids

theorem IsIndexReadable.of_keeps (h : IsIndexReadable s) (hkeeps : s.Keeps t) :
    IsIndexReadable t := by
  intro hlisting
  rw [hkeeps.listing_eq] at hlisting
  rw [hkeeps.entries_eq]
  exact h hlisting

theorem IsIndexReadable.withRecord (h : IsIndexReadable s) : IsIndexReadable (withRecord s c) := by
  intro hlisting
  rw [storedIndex_withRecord]
  exact h hlisting

/-- The second store has what the first has, and the credential in the index, where there is one. -/
structure Enters (c : Credential) (s t : SecretStore) : Prop where
  listing_eq : t.listing = s.listing
  find?_eq : ∀ {key}, key ≠ indexKey → t.entries.find? key = s.entries.find? key
  exists_index : s.listing = false → ∃ index index', storedIndex s.entries = some index ∧
    storedIndex t.entries = some index' ∧
    ∀ guid, index'.find? guid = if c.guid = guid then some c.name else index.find? guid

theorem Enters.of_keeps_left (hkeeps : s.Keeps t) (h : Enters c t u) : Enters c s u := by
  refine ⟨h.listing_eq.trans hkeeps.listing_eq, fun hkey => ?_, fun hlisting => ?_⟩
  · rw [h.find?_eq hkey, hkeeps.entries_eq]
  · rw [← hkeeps.listing_eq] at hlisting
    rw [← hkeeps.entries_eq]
    exact h.exists_index hlisting

/-- A credential is entered, or its entry fails and leaves all texts; it cannot fail where there is
no index to keep. -/
theorem enter_leaves {r : Except CredentialError Unit} (henter : (enter c).Yields s r t) :
    (r = .ok () ∧ Enters c s t) ∨ (∃ e, r = .error e) ∧ s.listing = false ∧ s.Keeps t := by
  have hrest := henter.of_bind (yields_canList s)
  by_cases hlisting : s.listing = true
  · rw [if_pos hlisting] at hrest
    obtain ⟨rfl, rfl⟩ := (yields_pure () s).unique hrest
    refine .inl ⟨rfl, rfl, fun _ => rfl, fun hfalse => ?_⟩
    rw [hlisting] at hfalse
    cases hfalse
  rw [if_neg hlisting] at hrest
  have hlisting : s.listing = false := by simpa using hlisting
  rcases hrest.bind_cases with ⟨e, hload, rfl⟩ | ⟨index, s₁, hload, hrest⟩
  · exact .inr ⟨⟨e, rfl⟩, hlisting, (loadIndex_cases hload).1⟩
  obtain ⟨hkeeps, ⟨index', hstored, hok⟩ | ⟨e, he⟩⟩ := loadIndex_cases hload
  · cases hok
    by_cases hentered : index.find? c.guid = some c.name
    · -- the credential has its place already
      rw [if_pos hentered] at hrest
      obtain ⟨rfl, rfl⟩ := (yields_pure () s₁).unique hrest
      refine .inl ⟨rfl, hkeeps.listing_eq, fun _ => by rw [hkeeps.entries_eq], fun _ =>
        ⟨index, index, hstored, by rw [hkeeps.entries_eq, hstored], fun guid => ?_⟩⟩
      split
      · rename_i hguid
        rw [← hguid, hentered]
      · rfl
    · rw [if_neg hentered] at hrest
      -- the new index is written, or the old one stays
      rcases put_cases hrest with ⟨rfl, hput⟩ | ⟨he, hput⟩
      · refine .inl ⟨rfl, hput.listing_eq.trans hkeeps.listing_eq, fun {key} hkey => ?_, fun _ =>
          ⟨index, index.insert c.guid c.name, hstored, ?_, fun guid =>
            SortedTable.find?_insert ..⟩⟩
        · rw [hput.entries_eq, SortedTable.find?_insert, if_neg (Ne.symm hkey), hkeeps.entries_eq]
        · rw [hput.entries_eq]
          exact storedIndex_insert _ _
      · exact .inr ⟨he, hlisting, hkeeps.trans hput⟩
  · cases he

/-! ## Writing a credential -/

/-- After a failed write, the record is taken back, and the write fails whatever becomes of that. -/
theorem takeBack_cases {previous : Option Credential} {e : CredentialError}
    {r : Except CredentialError Unit}
    (h : (do
      match ← Op.attempt (takeBack c previous) with
      | .ok () => throw e
      | .error cause =>
        Op.warn (.rollbackFailed c.guid cause)
        throw e : Op SecretStore Unit).Yields s r t) :
    ∃ q, (takeBack c previous).Yields s q t ∧ r = .error e := by
  obtain ⟨q, s₁, hback, hrest⟩ := h.of_bind_attempt
  cases q with
  | ok u =>
    obtain ⟨rfl, rfl⟩ := (yields_throw e s₁).unique hrest
    exact ⟨_, hback, rfl⟩
  | error cause =>
    obtain ⟨rfl, rfl⟩ := (yields_throw e s₁).unique (hrest.of_bind (yields_warn _ s₁))
    exact ⟨_, hback, rfl⟩

/-- A write ends with the record, with the entry, or by taking the record back. -/
theorem persist_steps {previous : Option Credential} {r : Except CredentialError Unit}
    (h : (persist c previous).Yields s r t) :
    (∃ e, (save c).Yields s (.error e) t ∧ r = .error e) ∨
    ∃ s₁, (save c).Yields s (.ok ()) s₁ ∧ (withRecord s c).Keeps s₁ ∧
      (((enter c).Yields s₁ (.ok ()) t ∧ r = .ok ()) ∨
      ∃ e s₂ q, (enter c).Yields s₁ (.error e) s₂ ∧ (takeBack c previous).Yields s₂ q t ∧
        r = .error e) := by
  rcases h.bind_cases with hfailed | ⟨u, s₁, hsave, hrest⟩
  · exact .inl hfailed
  have hkeeps : (withRecord s c).Keeps s₁ := by
    rcases put_cases hsave with ⟨-, hkeeps⟩ | ⟨⟨e, he⟩, -⟩
    · exact hkeeps
    · cases he
  refine .inr ⟨s₁, hsave, hkeeps, ?_⟩
  obtain ⟨q, s₂, henter, hrest⟩ := hrest.of_bind_attempt
  cases q with
  | ok u =>
    obtain ⟨rfl, rfl⟩ := (yields_pure () s₂).unique hrest
    exact .inl ⟨henter, rfl⟩
  | error e =>
    obtain ⟨q, hback, rfl⟩ := takeBack_cases hrest
    exact .inr ⟨e, s₂, q, henter, hback, rfl⟩

/-- A write that answers has put the record and entered the credential. -/
theorem enters_of_persist {previous : Option Credential}
    (h : (persist c previous).Yields s (.ok ()) t) : Enters c (withRecord s c) t := by
  rcases persist_steps h with ⟨e, -, he⟩ | ⟨s₁, -, hkeeps, ⟨henter, -⟩ | ⟨e, s₂, q, -, -, he⟩⟩
  · cases he
  · rcases enter_leaves henter with ⟨-, henters⟩ | ⟨⟨e, he⟩, -⟩
    · exact .of_keeps_left hkeeps henters
    · cases he
  · cases he

/-- A credential is stored if everything could be loaded, the details stand for one that conflicts
with none, and it is written. -/
theorem set_steps {fresh : String} {details : Details} {r : Except CredentialError Credential}
    (h : (set fresh details).Yields s r t) :
    (s.Keeps t ∧ ∃ e, r = .error e) ∨
    ∃ existing c u q, loadAll.Yields s (.ok existing) u ∧ details.toCredential fresh = .ok c ∧
      (∀ x ∈ existing, x.guid ≠ c.guid) ∧ (persist c none).Yields u q t ∧
      r = q.map fun _ => c := by
  rcases h.bind_cases with ⟨e, hload, rfl⟩ | ⟨existing, u, hload, hrest⟩
  · exact .inl ⟨(loadAll_cases hload).1, e, rfl⟩
  have hkeeps := (loadAll_cases hload).1
  rcases hrest.bind_cases with ⟨e, hof, rfl⟩ | ⟨c, u', hof, hrest⟩
  · obtain ⟨-, rfl⟩ := hof
    exact .inl ⟨hkeeps, e, rfl⟩
  obtain ⟨hvalid, rfl⟩ := (yields_ofExcept (details.toCredential fresh) u).unique hof
  rcases hrest.bind_cases with ⟨e, hcheck, rfl⟩ | ⟨a, u', hcheck, hrest⟩
  · obtain ⟨-, rfl⟩ := hcheck
    exact .inl ⟨hkeeps, e, rfl⟩
  obtain ⟨-, rfl⟩ := (yields_ofExcept (Credential.checkAll existing c) u).unique hcheck
  by_cases hused : existing.any (·.guid == c.guid) = true
  · rw [if_pos hused] at hrest
    obtain ⟨rfl, rfl⟩ := (yields_throw _ u).unique hrest
    exact .inl ⟨hkeeps, _, rfl⟩
  · rw [if_neg hused] at hrest
    refine .inr ⟨existing, c, u, ?_⟩
    have hunused : ∀ x ∈ existing, x.guid ≠ c.guid := by simpa using hused
    rcases hrest.bind_cases with ⟨e, hpersist, rfl⟩ | ⟨a, u', hpersist, hrest⟩
    · exact ⟨.error e, hload, hvalid, hunused, hpersist, rfl⟩
    · obtain ⟨rfl, rfl⟩ := (yields_pure c u').unique hrest
      exact ⟨.ok (), hload, hvalid, hunused, hpersist, rfl⟩

/-- What a forced write stores for a candidate, and in the place of which credential. -/
inductive Replaces (existing : List Credential) (candidate : Credential) :
    Credential → Option Credential → Prop where
  | new (h : existing.find? (·.name == candidate.name) = none) :
    Replaces existing candidate candidate none
  | named {p : Credential} (h : existing.find? (·.name == candidate.name) = some p) :
    Replaces existing candidate { candidate with guid := p.guid } (some p)

/-- The same for a forced write, which replaces the credential of the same name. -/
theorem forceSet_steps {fresh : String} {details : Details} {r : Except CredentialError Credential}
    (h : (forceSet fresh details).Yields s r t) :
    (s.Keeps t ∧ ∃ e, r = .error e) ∨
    ∃ existing candidate c previous u q, loadAll.Yields s (.ok existing) u ∧
      details.toCredential fresh = .ok candidate ∧ Replaces existing candidate c previous ∧
      (persist c previous).Yields u q t ∧ r = q.map fun _ => c := by
  rcases h.bind_cases with ⟨e, hload, rfl⟩ | ⟨existing, u, hload, hrest⟩
  · exact .inl ⟨(loadAll_cases hload).1, e, rfl⟩
  rcases hrest.bind_cases with ⟨e, hof, rfl⟩ | ⟨candidate, u', hof, hrest⟩
  · obtain ⟨-, rfl⟩ := hof
    exact .inl ⟨(loadAll_cases hload).1, e, rfl⟩
  obtain ⟨hvalid, rfl⟩ := (yields_ofExcept (details.toCredential fresh) u).unique hof
  have hrest := hrest.of_bind (yields_forM_warn _ u)
  -- whichever credential is written, that is also the answer
  have hwritten : ∀ {c previous}, (persist c previous >>= fun _ => pure c).Yields u r t →
      ∃ q, (persist c previous).Yields u q t ∧ r = q.map fun _ => c :=
    fun hwrite => Yields.of_map hwrite
  refine .inr ⟨existing, candidate, ?_⟩
  cases hfind : existing.find? (·.name == candidate.name) with
  | none =>
    rw [hfind] at hrest
    obtain ⟨q, hpersist, hr⟩ := hwritten hrest
    exact ⟨_, _, u, q, hload, hvalid, .new hfind, hpersist, hr⟩
  | some p =>
    rw [hfind] at hrest
    obtain ⟨q, hpersist, hr⟩ := hwritten hrest
    exact ⟨_, _, u, q, hload, hvalid, .named hfind, hpersist, hr⟩

section Spending

variable (h : s.FailsAtMost n)

include h

theorem read_spends {key : String} {r : Except CredentialError (Option String)}
    (hread : (read key).Yields s r t) : Spends n r t := by
  obtain ⟨q, hretrieve, rfl⟩ := hread.of_mapError
  exact (retrieve_spends h hretrieve).mapError

/-- An index that can be read is read, unless a call fails. -/
theorem loadIndex_spends {index : Index} (hindex : storedIndex s.entries = some index)
    {r : Except CredentialError Index} (hload : loadIndex.Yields s r t) : Spends n r t := by
  refine Spends.bind hload (read_spends h) fun {text? u} hread hu hrest => ?_
  obtain ⟨-, htext | ⟨e, he⟩⟩ := read_cases hread
  · cases htext
    rw [storedIndex] at hindex
    cases hfind : s.entries.find? indexKey with
    | none =>
      rw [hfind] at hrest
      obtain ⟨rfl, rfl⟩ := (yields_pure _ u).unique hrest
      exact hu
    | some text =>
      rw [hfind] at hrest hindex
      dsimp only at hrest hindex
      rw [hindex] at hrest
      obtain ⟨rfl, rfl⟩ := (yields_pure _ u).unique hrest
      exact hu
  · cases he

theorem enter_spends (hindex : IsIndexReadable s) {r : Except CredentialError Unit}
    (henter : (enter c).Yields s r t) : Spends n r t := by
  have hrest := henter.of_bind (yields_canList s)
  by_cases hlisting : s.listing = true
  · rw [if_pos hlisting] at hrest
    obtain ⟨rfl, rfl⟩ := (yields_pure () s).unique hrest
    exact h
  · rw [if_neg hlisting] at hrest
    obtain ⟨index, hstored⟩ := hindex (by simpa using hlisting)
    refine Spends.bind hrest (loadIndex_spends h hstored) fun {index u} _ hu hrest => ?_
    by_cases hentered : index.find? c.guid = some c.name
    · rw [if_pos hentered] at hrest
      obtain ⟨rfl, rfl⟩ := (yields_pure () u).unique hrest
      exact hu
    · rw [if_neg hentered] at hrest
      exact put_spends hu hrest

theorem takeBack_spends {previous : Option Credential} {r : Except CredentialError Unit}
    (hback : (takeBack c previous).Yields s r t) : Spends n r t := by
  cases previous with
  | some p => exact put_spends h hback
  | none =>
    obtain ⟨q, hremove, rfl⟩ := hback.of_map
    exact (remove_spends h hremove).map

theorem persist_spends (hindex : IsIndexReadable s) {previous : Option Credential}
    {r : Except CredentialError Unit} (hpersist : (persist c previous).Yields s r t) :
    Spends n r t := by
  rcases persist_steps hpersist with ⟨e, hsave, rfl⟩ | ⟨s₁, hsave, hkeeps, hrest⟩
  · exact put_spends h hsave
  have h₁ : s₁.FailsAtMost n := put_spends h hsave
  have hindex₁ := hindex.withRecord.of_keeps hkeeps
  rcases hrest with ⟨henter, rfl⟩ | ⟨e, s₂, q, henter, hback, rfl⟩
  · exact enter_spends h₁ hindex₁ henter
  · -- the entry has failed, and taking the record back may fail as well
    obtain ⟨m, hm, h₂⟩ := enter_spends h₁ hindex₁ henter
    exact ⟨m, hm, (takeBack_spends h₂ hback).failsAtMost⟩

end Spending

/-- Where one call fails at most, a credential is written, or nothing is, or the record has been
taken back. -/
theorem persist_leaves (honce : s.FailsAtMost 1) (hindex : IsIndexReadable s)
    {previous : Option Credential} {r : Except CredentialError Unit}
    (h : (persist c previous).Yields s r t) :
    (r = .ok () ∧ Enters c (withRecord s c) t) ∨
      (∃ e, r = .error e) ∧ (s.Keeps t ∨ (takenBack s c previous).Keeps t) := by
  cases r with
  | ok u => exact .inl ⟨rfl, enters_of_persist h⟩
  | error e =>
    refine .inr ⟨⟨e, rfl⟩, ?_⟩
    rcases persist_steps h with ⟨e, hsave, -⟩ | ⟨s₁, hsave, hkeeps, hrest⟩
    · rcases put_cases hsave with ⟨he, -⟩ | ⟨-, hkeeps⟩
      · cases he
      · exact .inl hkeeps
    rcases hrest with ⟨-, he⟩ | ⟨e', s₂, q, henter, hback, -⟩
    · cases he
    have h₁ : s₁.FailsAtMost 1 := put_spends honce hsave
    have hindex₁ := hindex.withRecord.of_keeps hkeeps
    -- the one call that may fail has failed, so the record is taken back
    have h₂ := (enter_spends h₁ hindex₁ henter).of_error
    obtain ⟨a, rfl⟩ := (takeBack_spends h₂ hback).exists_ok
    have hkeeps₂ : (withRecord s c).Keeps s₂ := by
      rcases enter_leaves henter with ⟨he, -⟩ | ⟨-, -, hkeeps'⟩
      · cases he
      · exact hkeeps.trans hkeeps'
    refine .inr ?_
    cases previous with
    | some p =>
      rcases put_cases hback with ⟨-, hput⟩ | ⟨⟨e, he⟩, -⟩
      · exact ⟨hput.entries_eq.trans (by rw [hkeeps₂.entries_eq]; rfl),
          hput.listing_eq.trans hkeeps₂.listing_eq⟩
      · cases he
    | none =>
      obtain ⟨q, hremove, hq⟩ := hback.of_map
      rcases remove_cases hremove with ⟨-, hput⟩ | ⟨⟨e, rfl⟩, -⟩
      · exact ⟨hput.entries_eq.trans (by rw [hkeeps₂.entries_eq]; rfl),
          hput.listing_eq.trans hkeeps₂.listing_eq⟩
      · cases hq

/-! ## Removing a credential -/

/-- The second store has what the first has but the record of an identifier, and no place for it in
the index, where there is one. -/
structure Removes (guid : String) (s t : SecretStore) : Prop where
  listing_eq : t.listing = s.listing
  find?_eq : ∀ {key}, key ≠ indexKey →
    t.entries.find? key = if key = credentialKey guid then none else s.entries.find? key
  exists_index : s.listing = false → ∃ index index', storedIndex s.entries = some index ∧
    storedIndex t.entries = some index' ∧
    ∀ g, index'.find? g = if g = guid then none else index.find? g

theorem Removes.of_keeps_left {guid : String} (hkeeps : s.Keeps t) (h : Removes guid t u) :
    Removes guid s u := by
  refine ⟨h.listing_eq.trans hkeeps.listing_eq, fun hkey => ?_, fun hlisting => ?_⟩
  · rw [h.find?_eq hkey, hkeeps.entries_eq]
  · rw [← hkeeps.listing_eq] at hlisting
    rw [← hkeeps.entries_eq]
    exact h.exists_index hlisting

/-- After the index was read, a removal takes the record out and writes the index; if that fails,
the record is put back, and the removal fails whatever becomes of that. -/
theorem removeEntry_steps {guid text : String} {r : Except CredentialError Unit}
    (h : (removeEntry guid text).Yields s r t) :
    (s.listing = true ∧ (Functor.discard (remove (credentialKey guid))).Yields s r t) ∨
    s.listing = false ∧
      ((∃ e, loadIndex.Yields s (.error e) t ∧ r = .error e) ∨
      ∃ index s₁, loadIndex.Yields s (.ok index) s₁ ∧
        ((∃ e, (Functor.discard (remove (credentialKey guid))).Yields s₁ (.error e) t ∧
          r = .error e) ∨
        ∃ s₂, (Functor.discard (remove (credentialKey guid))).Yields s₁ (.ok ()) s₂ ∧
          (((saveIndex (index.erase guid)).Yields s₂ (.ok ()) t ∧ r = .ok ()) ∨
          ∃ e s₃ q, (saveIndex (index.erase guid)).Yields s₂ (.error e) s₃ ∧
            (put (credentialKey guid) text).Yields s₃ q t ∧ r = .error e))) := by
  have hrest := h.of_bind (yields_canList s)
  by_cases hlisting : s.listing = true
  · rw [if_pos hlisting] at hrest
    refine .inl ⟨hlisting, ?_⟩
    rcases (hrest.of_bind (yields_pure none s)).bind_cases with
      ⟨e, hremove, rfl⟩ | ⟨a, s₂, hremove, hrest⟩
    · exact hremove
    · obtain ⟨rfl, rfl⟩ := (yields_pure () s₂).unique hrest
      exact hremove
  rw [if_neg hlisting] at hrest
  refine .inr ⟨by simpa using hlisting, ?_⟩
  rcases hrest.bind_cases with ⟨e, hload, rfl⟩ | ⟨index?, s₁, hload, hrest⟩
  · obtain ⟨q, hload, hq⟩ := hload.of_map
    cases q with
    | ok index => cases hq
    | error e' =>
      cases hq
      exact .inl ⟨e, hload, rfl⟩
  obtain ⟨q, hloaded, hq⟩ := hload.of_map
  cases q with
  | error e' => cases hq
  | ok index =>
    cases hq
    refine .inr ⟨index, s₁, hloaded, ?_⟩
    rcases hrest.bind_cases with hfailed | ⟨a, s₂, hremove, hrest⟩
    · exact .inl hfailed
    refine .inr ⟨s₂, hremove, ?_⟩
    obtain ⟨q, s₃, hsave, hrest⟩ := hrest.of_bind_attempt
    cases q with
    | ok u =>
      obtain ⟨rfl, rfl⟩ := (yields_pure () s₃).unique hrest
      exact .inl ⟨hsave, rfl⟩
    | error e =>
      obtain ⟨q, s₄, hput, hrest⟩ := hrest.of_bind_attempt
      refine .inr ⟨e, s₃, q, hsave, ?_⟩
      cases q with
      | ok u =>
        obtain ⟨rfl, rfl⟩ := (yields_throw e s₄).unique hrest
        exact ⟨hput, rfl⟩
      | error cause =>
        obtain ⟨rfl, rfl⟩ := (yields_throw e s₄).unique (hrest.of_bind (yields_warn _ s₄))
        exact ⟨hput, rfl⟩

theorem removeEntry_spends (h : s.FailsAtMost n) (hindex : IsIndexReadable s) {guid text : String}
    {r : Except CredentialError Unit} (hentry : (removeEntry guid text).Yields s r t) :
    Spends n r t := by
  rcases removeEntry_steps hentry with ⟨-, hremove⟩ | ⟨hlisting, hrest⟩
  · exact discard_remove_spends h hremove
  obtain ⟨index, hstored⟩ := hindex hlisting
  rcases hrest with ⟨e, hload, rfl⟩ | ⟨index', s₁, hload, hrest⟩
  · exact loadIndex_spends h hstored hload
  have h₁ : s₁.FailsAtMost n := loadIndex_spends h hstored hload
  rcases hrest with ⟨e, hremove, rfl⟩ | ⟨s₂, hremove, hrest⟩
  · exact discard_remove_spends h₁ hremove
  have h₂ : s₂.FailsAtMost n := discard_remove_spends h₁ hremove
  rcases hrest with ⟨hsave, rfl⟩ | ⟨e, s₃, q, hsave, hput, rfl⟩
  · exact put_spends h₂ hsave
  · -- the index has not been written, and putting the record back may fail as well
    obtain ⟨m, hm, h₃⟩ := put_spends h₂ hsave
    exact ⟨m, hm, (put_spends h₃ hput).failsAtMost⟩

/-- A removal that answers has removed the record and its place in the index. -/
theorem removes_of_removeEntry {guid text : String} (h : (removeEntry guid text).Yields s (.ok ()) t) :
    Removes guid s t := by
  rcases removeEntry_steps h with ⟨hlisting, hremove⟩ | ⟨hlisting, hrest⟩
  · have hkeeps := keeps_of_removed hremove
    refine ⟨hkeeps.listing_eq, fun {key} _ => ?_, fun hfalse => ?_⟩
    · rw [hkeeps.entries_eq, SortedTable.find?_erase]
    · rw [hlisting] at hfalse
      cases hfalse
  rcases hrest with ⟨e, -, he⟩ | ⟨index, s₁, hload, ⟨e, -, he⟩ | ⟨s₂, hremove, hrest⟩⟩
  · cases he
  · cases he
  obtain ⟨hkeeps, ⟨index', hstored, hok⟩ | ⟨e, he⟩⟩ := loadIndex_cases hload
  · cases hok
    rcases hrest with ⟨hsave, -⟩ | ⟨e, s₃, q, -, -, he⟩
    · rcases put_cases hsave with ⟨-, hkeeps₃⟩ | ⟨⟨e, he⟩, -⟩
      · have hkeeps₂ := (keeps_withoutRecord hkeeps guid).trans (keeps_of_removed hremove)
        refine ⟨hkeeps₃.listing_eq.trans hkeeps₂.listing_eq, fun {key} hkey => ?_,
          fun _ => ⟨index, index.erase guid, hstored, ?_, fun g => SortedTable.find?_erase ..⟩⟩
        · rw [hkeeps₃.entries_eq, SortedTable.find?_insert, if_neg (Ne.symm hkey),
            hkeeps₂.entries_eq, find?_withoutRecord]
        · rw [hkeeps₃.entries_eq]
          exact storedIndex_insert _ _
      · cases he
    · cases he
  · cases he

/-- Where one call fails at most, a credential is removed, or the removal fails and leaves all
texts. -/
theorem removeEntry_leaves (honce : s.FailsAtMost 1) {guid text : String}
    (htext : s.entries.find? (credentialKey guid) = some text) {r : Except CredentialError Unit}
    (h : (removeEntry guid text).Yields s r t) :
    (r = .ok () ∧ Removes guid s t) ∨ (∃ e, r = .error e) ∧ s.Keeps t := by
  cases r with
  | ok u => exact .inl ⟨rfl, removes_of_removeEntry h⟩
  | error e =>
    refine .inr ⟨⟨e, rfl⟩, ?_⟩
    -- a call that fails leaves all texts
    have hfailed : ∀ {s t e}, (Functor.discard (remove (credentialKey guid))).Yields s (.error e) t →
        s.Keeps t := fun hremove => by
      rcases discard_remove_cases hremove with ⟨he, -⟩ | ⟨-, hkeeps⟩
      · cases he
      · exact hkeeps
    rcases removeEntry_steps h with ⟨-, hremove⟩ | ⟨hlisting, hrest⟩
    · exact hfailed hremove
    rcases hrest with ⟨e, hload, -⟩ | ⟨index, s₁, hload, hrest⟩
    · exact (loadIndex_cases hload).1
    obtain ⟨hkeeps, ⟨index', hstored, hok⟩ | ⟨e, he⟩⟩ := loadIndex_cases hload
    · cases hok
      rcases hrest with ⟨e, hremove, -⟩ | ⟨s₂, hremove, ⟨-, he⟩ | ⟨e, s₃, q, hsave, hput, -⟩⟩
      · exact hkeeps.trans (hfailed hremove)
      · cases he
      -- the one call that may fail has failed, so the text that was there is there again
      have h₁ : s₁.FailsAtMost 1 := loadIndex_spends honce hstored hload
      have h₂ : s₂.FailsAtMost 1 := discard_remove_spends h₁ hremove
      have h₃ := (put_spends h₂ hsave).of_error
      obtain ⟨a, rfl⟩ := (put_spends h₃ hput).exists_ok
      have hkeeps₂ := (keeps_withoutRecord hkeeps guid).trans (keeps_of_removed hremove)
      have hkeeps₃ : (withoutRecord s guid).Keeps s₃ := by
        rcases put_cases hsave with ⟨he, -⟩ | ⟨-, hkeeps'⟩
        · cases he
        · exact hkeeps₂.trans hkeeps'
      rcases put_cases hput with ⟨-, hkeeps₄⟩ | ⟨⟨e, he⟩, -⟩
      · refine ⟨SortedTable.ext_find? fun key => ?_, hkeeps₄.listing_eq.trans hkeeps₃.listing_eq⟩
        rw [hkeeps₄.entries_eq, SortedTable.find?_insert, hkeeps₃.entries_eq, find?_withoutRecord]
        split
        · rename_i hkey
          rw [← hkey, htext]
        · rename_i hkey
          rw [if_neg (Ne.symm hkey)]
      · cases he
    · cases he

/-! ## Where no call fails -/

section Responds

variable (hs : s.Responds) (hindex : IsIndexReadable s)

include hs hindex

/-- A credential is written. -/
theorem persist_of_responds (c : Credential) (previous : Option Credential) :
    ∃ t, (persist c previous).Yields s (.ok ()) t ∧ t.Responds ∧ Enters c (withRecord s c) t := by
  have hpersist := yields_self (persist c previous) s
  obtain ⟨a, ha⟩ := (persist_spends (hs.failsAtMost 0) hindex hpersist).exists_ok
  rw [ha] at hpersist
  exact ⟨_, hpersist, Preserves.of_yields (stable_responds.persist c previous) hpersist hs,
    enters_of_persist hpersist⟩

/-- A record and its place in the index are removed. -/
theorem removeEntry_of_responds (guid text : String) :
    ∃ t, (removeEntry guid text).Yields s (.ok ()) t ∧ t.Responds ∧ Removes guid s t := by
  have hremove := yields_self (removeEntry guid text) s
  obtain ⟨a, ha⟩ := (removeEntry_spends (hs.failsAtMost 0) hindex hremove).exists_ok
  rw [ha] at hremove
  exact ⟨_, hremove, Preserves.of_yields (stable_responds.removeEntry trivial) hremove hs,
    removes_of_removeEntry hremove⟩

end Responds

end CredentialStore.KeyringStore
