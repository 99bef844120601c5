import CredentialStore.Proofs.FileStore.Calls
import CredentialStore.Proofs.FileStore.Recovery

/-!
# Files of a newer version

One entry of a newer version closes the whole file: whatever else the file holds, nothing is told of
it, and every call but a reset fails before it writes anything. It is enough that the entry can be
read by itself; the entries beside it may be broken.

Main statements: `HoldsNewer.exists_told_error` and `HoldsNewer.refused`.
-/

namespace CredentialStore

namespace OrderedTable

variable {α β : Type}

/-- Two tables that are related by what is made of their values stay so while the entries of a list
go into the one and what is made of these into the other. -/
theorem find?_foldl_of_mapM {f : α → Option β} {es : List (String × α)} {fs : List (String × β)}
    (h : es.mapM (fun (name, v) => (f v).map fun b => (name, b)) = some fs) {key : String}
    {s : OrderedTable α} {t : OrderedTable β}
    (hst : ∀ v, s.find? key = some v → ∃ b, f v = some b ∧ t.find? key = some b) {v : α}
    (hv : (es.foldl (fun t e => t.insert e.1 e.2) s).find? key = some v) :
    ∃ b, f v = some b ∧ (fs.foldl (fun t e => t.insert e.1 e.2) t).find? key = some b := by
  induction es generalizing fs s t with
  | nil =>
    cases h
    exact hst v hv
  | cons e rest ih =>
    rw [List.mapM_cons] at h
    simp only [Option.bind_eq_bind, Option.bind_eq_some_iff, Option.map_eq_some_iff] at h
    obtain ⟨_, ⟨b, hb, rfl⟩, fs', hrest, hfs⟩ := h
    cases hfs
    refine ih hrest (fun v hv => ?_) hv
    -- under the key of this entry both have it, under others what they had
    rw [find?_insert] at hv ⊢
    split at hv
    · rename_i hkey
      cases hv
      exact ⟨b, hb, if_pos hkey⟩
    · rename_i hkey
      rw [if_neg hkey]
      exact hst v hv

/-- What is found in the table of a list is made into what is found in the table of all that is made
of the list. -/
theorem find?_ofList_of_mapM {f : α → Option β} {es : List (String × α)} {fs : List (String × β)}
    (h : es.mapM (fun (name, v) => (f v).map fun b => (name, b)) = some fs) {key : String} {v : α}
    (hv : (ofList es).find? key = some v) :
    ∃ b, f v = some b ∧ (ofList fs).find? key = some b :=
  find?_foldl_of_mapM (s := .empty) (t := .empty) h (fun _ hnone => nomatch hnone) hv

end OrderedTable

namespace FileStore

open Op

/-! ## Entries by themselves -/

namespace Document

/-- The values that a text has for the entries of its table, none of which has been read yet. -/
def enumerated (text : String) : OrderedTable Toml :=
  match (Toml.read? text).bind (Toml.field? · credentialsKey) with
  | some (.table entries) => .ofList entries
  | _ => .empty

/-- A document that is read has the credentials of the table in the text, whatever it prefers. -/
theorem entriesOf?_of_parse? {text : String} {D : Document} {fields : List (String × Toml)}
    {table : Toml} (hparse : parse? text = some D) (hread : Toml.read? text = some fields)
    (hfield : Toml.field? fields credentialsKey = some table) :
    entriesOf? table = some D.credentials := by
  unfold parse? at hparse
  rw [hread] at hparse
  simp only [Option.bind_eq_bind, Option.bind_some, hfield] at hparse
  split at hparse
  · obtain ⟨preferred, -, hparse⟩ := Option.bind_eq_some_iff.1 hparse
    obtain ⟨credentials, hcredentials, hD⟩ := Option.bind_eq_some_iff.1 hparse
    cases hD
    exact hcredentials
  · obtain ⟨credentials, hcredentials, hD⟩ := Option.bind_eq_some_iff.1 hparse
    cases hD
    exact hcredentials

/-- Where a whole text can be read, its values have been read one by one. -/
theorem find?_of_parse? {text name : String} {D : Document} {v : Toml}
    (hparse : parse? text = some D) (hv : (enumerated text).find? name = some v) :
    ∃ e, Entry.ofToml? v = some e ∧ D.credentials.find? name = some e := by
  unfold enumerated at hv
  -- there is a value only in a table
  split at hv
  · rename_i entries htable
    obtain ⟨fields, hread, hfield⟩ := Option.bind_eq_some_iff.1 htable
    have hentries := entriesOf?_of_parse? hparse hread hfield
    obtain ⟨es, hes, hcredentials⟩ := Option.bind_eq_some_iff.1 hentries
    rw [← Option.some.inj hcredentials]
    exact OrderedTable.find?_ofList_of_mapM hes hv
  · cases hv

end Document

/-- A file has an entry that can be read by itself and is of a newer version than the one that is
written. -/
def HoldsNewer (path : String) (d : Disk) : Prop :=
  ∃ text name v e, d.readText path = .ok text ∧
    (Document.enumerated text).find? name = some v ∧ Entry.ofToml? v = some e ∧
    currentVersion < e.version

namespace HoldsNewer

variable {path : String} {d : Disk}

/-- Nothing is told of the file, be it that another entry is broken or that this one is refused. -/
theorem exists_told_error (h : HoldsNewer path d) :
    ∃ e, told path (d.readText path) = .error e := by
  obtain ⟨text, name, v, e, htext, hfind, hentry, hversion⟩ := h
  rw [htext]
  show ∃ e, Document.load path text = .error e
  unfold Document.load
  cases hparse : Document.parse? text with
  | none => exact ⟨_, rfl⟩
  | some D =>
    cases hcheck : D.checkVersions with
    | error e' =>
      dsimp only
      rw [hcheck]
      exact ⟨e', rfl⟩
    | ok u =>
      obtain ⟨e', hentry', hfind'⟩ := Document.find?_of_parse? hparse hfind
      rw [hentry] at hentry'
      cases hentry'
      have hle := checkVersion_eq_ok_iff.1
        (forall_of_forM hcheck (OrderedTable.mem_of_find? hfind'))
      dsimp only at hle
      omega

/-- What starts by reading the file stops there. -/
theorem exists_yields_load (h : HoldsNewer path d) {α : Type} (f : Document → Op Disk α) :
    ∃ e, (load path >>= f).Yields d (.error e) d := by
  obtain ⟨e, htold⟩ := h.exists_told_error
  have hload := yields_load path d
  rw [htold] at hload
  exact ⟨e, hload.bind_error⟩

/-- The file cannot be opened. -/
theorem exists_setUp (h : HoldsNewer path d) : ∃ e, (setUp path).Yields d (.error e) d := by
  obtain ⟨e, htold⟩ := h.exists_told_error
  obtain ⟨text, -, -, -, htext, -⟩ := h
  have hexists := Disk.pathExists_of_readText htext
  have hload := yields_load path d
  rw [htold] at hload
  obtain ⟨q, hq⟩ := exists_setUp_of_pathExists hexists
  cases q with
  | error e' => exact ⟨e', hq⟩
  | ok u =>
    -- only a file that loads is opened
    have hopen := hq.of_bind (yields_state d)
    rw [if_pos hexists] at hopen
    obtain ⟨q, d₁, hload', hend⟩ := hopen.of_bind_attempt
    obtain ⟨rfl, rfl⟩ := hload.unique hload'
    split at hend
    · rename_i hok
      cases hok
    · cases ((yields_throw _ d).unique hend).1
    · cases ((yields_throw _ d).unique hend).1

/-- Every call but a reset fails and leaves the disk as it is. -/
theorem refused (h : HoldsNewer path d) {c : Call} (hc : c ≠ .write .reset) :
    ∃ e, (c.run path).Yields d (.error e) d := by
  have hdiscard : ∀ {α : Type} (f : Document → Op Disk α),
      ∃ e, (discard (load path >>= f)).Yields d (.error e) d := by
    intro α f
    obtain ⟨e, he⟩ := h.exists_yields_load f
    exact ⟨e, he.map_error _⟩
  cases c with
  | setUp => exact h.exists_setUp
  | list => exact hdiscard _
  | get guid => exact hdiscard _
  | defaultServer => exact hdiscard _
  | write w =>
    cases w with
    | set fresh details => exact hdiscard _
    | forceSet fresh details => exact hdiscard _
    | delete guid => exact h.exists_yields_load _
    | setDefaultServer guid => exact h.exists_yields_load _
    | clearDefaultServer => exact h.exists_yields_load _
    | reset => exact absurd rfl hc

end HoldsNewer

end FileStore

end CredentialStore
