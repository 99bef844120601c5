import CredentialStore.Proofs.FileStore.Documents
import CredentialStore.Proofs.Service.Ledger

/-!
# The file store follows the ledger

Where the file at a path holds what a ledger holds, every operation answers exactly as the ledger
does and leaves what the ledger leaves, unless it fails at the disk. The function on documents that
an operation is and the operation on the ledger are held against each other; the file keeps the
order of the ledger. Main statement: `follows_perform`.
-/

namespace CredentialStore.FileStore

open Op

/-- A document with the credentials of a ledger, in its order. -/
structure Document.Records (document : Document) (l : Ledger) : Prop where
  defaultServer_eq : document.defaultServer = l.preferred
  entries_eq : document.credentials.entries =
    l.credentials.map fun c => (c.name, Entry.ofCredential c)

/-- The file at a path holds what a ledger holds. -/
def Holds (path : String) (d : Disk) (l : Ledger) : Prop :=
  ∃ document : Document, (load path).Yields d (.ok document) d ∧ document.Records l

/-- An operation fails at the disk, or answers and leaves what is told. -/
def Follows {α : Type} (path : String) (x : Op Disk α) (d : Disk)
    (outcome : Except CredentialError α × Ledger) : Prop :=
  (∃ e d', x.Yields d (.error (.io e)) d') ∨
    ∃ d', x.Yields d outcome.1 d' ∧ Holds path d' outcome.2

/-! ## Documents -/

namespace Document.Records

variable {document : Document} {l : Ledger}

theorem list_eq (h : document.Records l) (hv : Ledger.Valid l.credentials) :
    document.list = l.credentials := by
  rw [Document.list, h.entries_eq, List.map_map]
  refine (List.map_congr_left fun c hc => ?_).trans (List.map_id _)
  exact Entry.toCredential_ofCredential (hv.isWellFormed c hc).readsBack.cloudEnvironment_eq

theorem find?_eq (h : document.Records l) (hv : Ledger.Valid l.credentials) (guid : String) :
    document.find? guid = l.find? guid := by
  rw [find?_eq_list, h.list_eq hv, Ledger.find?]

/-- What is found under a name. -/
theorem find?_name (h : document.Records l) (name : String) :
    document.credentials.find? name =
      (l.credentials.find? (·.name == name)).map Entry.ofCredential := by
  have haux : ∀ cs : List Credential,
      OrderedTable.valueOf? name (cs.map fun c => (c.name, Entry.ofCredential c)) =
        (cs.find? (·.name == name)).map Entry.ofCredential := by
    -- table and list are searched side by side
    intro cs
    induction cs with
    | nil => rfl
    | cons c cs ih =>
      rw [List.map_cons, OrderedTable.valueOf?, List.find?_cons]
      by_cases hname : c.name = name
      · simp [hname]
      · rw [if_neg hname, beq_eq_false_iff_ne.2 hname, ih]
  rw [OrderedTable.find?, h.entries_eq, haux]

theorem put (h : document.Records l) (c : Credential) :
    (document.put c).Records { l with credentials := Ledger.put c l.credentials } := by
  have haux : ∀ cs : List Credential,
      OrderedTable.insertEntry c.name (Entry.ofCredential c)
        (cs.map fun c => (c.name, Entry.ofCredential c)) =
        (Ledger.put c cs).map fun c => (c.name, Entry.ofCredential c) := by
    -- the table and the list put a credential at the same place
    intro cs
    induction cs with
    | nil => rfl
    | cons x cs ih =>
      rw [List.map_cons, OrderedTable.insertEntry, Ledger.put]
      by_cases hname : x.name = c.name
      · simp [hname]
      · simp [hname, ih]
  refine ⟨h.defaultServer_eq, ?_⟩
  show OrderedTable.insertEntry c.name (Entry.ofCredential c) document.credentials.entries = _
  rw [h.entries_eq, haux]

end Document.Records

/-! ## Operations -/

/-- A document and a ledger have answered alike and left alike. -/
def Document.Matches {α : Type} (o : Except CredentialError α × Document)
    (o' : Except CredentialError α × Ledger) : Prop :=
  o.1 = o'.1 ∧ o.2.Records o'.2

/-- The answers, changed alike. -/
theorem Document.Matches.map {α β : Type} {o : Except CredentialError α × Document}
    {o' : Except CredentialError α × Ledger} (h : Matches o o') (f : α → β) :
    Matches (o.map (·.map f) id) (o'.map (·.map f) id) :=
  ⟨congrArg (·.map f) h.1, h.2⟩

namespace Document.Records

variable {document : Document} {l : Ledger}

theorem get_eq (h : document.Records l) (hv : Ledger.Valid l.credentials) (guid : String) :
    document.get guid = l.get guid := by
  rw [get, h.find?_eq hv]
  rfl

theorem preferred_eq (h : document.Records l) (hv : Ledger.Valid l.credentials) :
    document.preferred = l.defaultServer := by
  have hfind : document.find? = l.find? := funext (h.find?_eq hv)
  rw [preferred, Ledger.defaultServer, h.defaultServer_eq, hfind]

theorem set (h : document.Records l) (hv : Ledger.Valid l.credentials) (fresh : String)
    (details : Details) : Matches (document.set fresh details) (l.set fresh details) := by
  rw [Document.set, Ledger.set, h.list_eq hv]
  -- each check is made against the list, which is that of the ledger
  cases details.toCredential fresh with
  | error e => exact ⟨rfl, h⟩
  | ok c =>
    dsimp only
    cases hcheck : Credential.checkAll l.credentials c with
    | error e => exact ⟨rfl, h⟩
    | ok u =>
      dsimp only
      split
      · exact ⟨rfl, h⟩
      · -- the name is new, so table and ledger put the credential at the end
        have hname : ∀ x ∈ l.credentials, x.name ≠ c.name := fun x hx =>
          (Credential.checkAll_eq_ok_iff.1 hcheck x hx).1
        have hput := h.put c
        rw [Ledger.put_of_forall_ne hname] at hput
        exact ⟨rfl, hput⟩

theorem successor_eq (h : document.Records l) (hv : Ledger.Valid l.credentials)
    (candidate : Credential) :
    document.successor candidate = Ledger.successor l.credentials candidate := by
  rw [successor, Ledger.successor, h.find?_name]
  cases hfind : l.credentials.find? (·.name == candidate.name) with
  | none => rfl
  | some p =>
    -- the identifier of the entry is kept, since it is not empty
    have hguid := (hv.isWellFormed p (List.mem_of_find?_eq_some hfind)).guid_ne_empty
    dsimp only [Option.map_some]
    rw [if_neg (show (Entry.ofCredential p).guid ≠ "" from hguid)]
    rfl

theorem forceSet (h : document.Records l) (hv : Ledger.Valid l.credentials) (fresh : String)
    (details : Details) :
    Matches (document.forceSet fresh details) (l.forceSet fresh details) := by
  rw [Document.forceSet, Ledger.forceSet]
  cases details.toCredential fresh with
  | error e => exact ⟨rfl, h⟩
  | ok candidate =>
    dsimp only
    rw [h.successor_eq hv]
    exact ⟨rfl, h.put _⟩

theorem delete (h : document.Records l) (hv : Ledger.Valid l.credentials) (guid : String) :
    Matches (document.delete guid) (l.delete guid) := by
  rw [Document.delete, Ledger.delete, h.find?_eq hv]
  cases hfind : l.find? guid with
  | none => exact ⟨rfl, h⟩
  | some c =>
    obtain ⟨hc, rfl⟩ := (Ledger.find?_eq_some_iff hv).1 hfind
    refine ⟨rfl, by rw [h.defaultServer_eq], ?_⟩
    show document.credentials.entries.filter _ = _
    rw [h.entries_eq, List.filter_map, ← Ledger.filter_name_eq hv.names_nodup hv.guids_nodup hc]
    -- the file removes by name and the ledger by identifier
    refine congrArg _ (List.filter_congr fun x _ => ?_)
    by_cases hname : x.name = c.name <;> simp [hname]

theorem setDefaultServer (h : document.Records l) (hv : Ledger.Valid l.credentials)
    (guid : String) :
    Matches (document.setDefaultServer guid) (l.setDefaultServer id guid) := by
  rw [Document.setDefaultServer, Ledger.setDefaultServer, h.find?_eq hv]
  cases l.find? guid with
  | none => exact ⟨rfl, h⟩
  | some c => exact ⟨rfl, rfl, h.entries_eq⟩

/-- Every request is answered as by the ledger. -/
theorem perform (h : document.Records l) (hv : Ledger.Valid l.credentials) (r : Request) :
    Matches (document.perform r) (l.perform id r) := by
  cases r with
  | list => exact ⟨congrArg (Except.ok ∘ Reply.credentials) (h.list_eq hv), h⟩
  | get guid => exact ⟨congrArg (·.map Reply.credential) (h.get_eq hv guid), h⟩
  | set random a => exact (h.set hv _ _).map _
  | forceSet random a => exact (h.forceSet hv _ _).map _
  | delete guid => exact (h.delete hv guid).map _
  | reset => exact ⟨rfl, rfl, rfl⟩
  | defaultServer => exact ⟨congrArg (Except.ok ∘ Reply.preferred) (h.preferred_eq hv), h⟩
  | setDefaultServer guid => exact (h.setDefaultServer hv guid).map _
  | clearDefaultServer => exact ⟨rfl, rfl, h.entries_eq⟩

end Document.Records

/-! ## On the disk -/

variable {path : String} {d : Disk} {l : Ledger}

/-- A file that is not there holds nothing. -/
theorem holds_of_notFound (h : d.readText path = .error .notFound) : Holds path d {} :=
  ⟨{}, loads_of_notFound h, rfl, rfl⟩

/-- What is told by a function on documents follows the ledger that it matches. -/
theorem Leaves.follows {α : Type} {x : Op Disk α} {o : Except CredentialError α × Document}
    {o' : Except CredentialError α × Ledger} (hx : Leaves path x d o)
    (h : Document.Matches o o') : Follows path x d o' := by
  rcases hx with hio | ⟨d', hok, hloads, -⟩
  · exact .inl hio
  · exact .inr ⟨d', h.1 ▸ hok, o.2, hloads, h.2⟩

section Operations

variable (h : Holds path d l) (hv : Ledger.Valid l.credentials)

include h hv

theorem yields_list : (list path).Yields d (.ok l.credentials) d := by
  obtain ⟨document, hload, hrecords⟩ := h
  rw [← hrecords.list_eq hv]
  exact yields_list_of_loads hload

theorem yields_get (guid : String) : (get path guid).Yields d (l.get guid) d := by
  obtain ⟨document, hload, hrecords⟩ := h
  rw [← hrecords.get_eq hv]
  exact yields_get_of_loads hload guid

theorem yields_defaultServer : (defaultServer path).Yields d (.ok l.defaultServer) d := by
  obtain ⟨document, hload, hrecords⟩ := h
  rw [← hrecords.preferred_eq hv]
  exact yields_defaultServer_of_loads hload

theorem follows_set (fresh : String) (details : Details) :
    Follows path (set path fresh details) d (l.set fresh details) := by
  obtain ⟨document, hload, hrecords⟩ := h
  exact (leaves_set hload fresh details).follows (hrecords.set hv fresh details)

/-- Every request is answered as by the ledger. -/
theorem follows_perform (r : Request) :
    Follows path ((service path).perform r) d (l.perform id r) := by
  obtain ⟨document, hload, hrecords⟩ := h
  exact (leaves_perform hload r).follows (hrecords.perform hv r)

end Operations

end CredentialStore.FileStore
