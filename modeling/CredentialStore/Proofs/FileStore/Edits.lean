import CredentialStore.Proofs.FileStore.Documents
import CredentialStore.Proofs.Service.Ledger

/-!
# Edits of a file

Whatever file loads, also an old one that another version wrote or that has been edited by hand: the
list of credentials that it tells is edited as a list is, and the entries that an edit does not
touch stay as they are, with the versions they had. The document is edited first, as a table by
names; identifiers come in through the list.

Main statement: `relists_edits`.
-/

namespace CredentialStore.FileStore

open Op

/-! ## The list of a document -/

namespace Document

variable {D : Document} {c : Credential}

theorem exists_find?_of_mem (h : c ∈ D.list) :
    ∃ e, D.credentials.find? c.name = some e ∧ e.toCredential c.name = c := by
  obtain ⟨x, hx, rfl⟩ := List.mem_map.1 h
  exact ⟨x.2, D.credentials.find?_of_mem hx, rfl⟩

theorem exists_mem_of_find? {name : String} {e : Entry} (h : D.credentials.find? name = some e) :
    e.toCredential name ∈ D.list :=
  List.mem_map_of_mem (OrderedTable.mem_of_find? h)

/-- A credential takes the same place in the list as its entry in the table. -/
theorem list_put (D : Document) (hc : c.ReadsBack) : (D.put c).list = Ledger.put c D.list := by
  have haux : ∀ es : List (String × Entry),
      (OrderedTable.insertEntry c.name (Entry.ofCredential c) es).map
        (fun x => x.2.toCredential x.1) = Ledger.put c (es.map fun x => x.2.toCredential x.1) := by
    intro es
    have hback := Entry.toCredential_ofCredential hc.cloudEnvironment_eq
    induction es with
    | nil => exact congrArg (fun c => [c]) hback
    | cons x rest ih =>
      rw [List.map_cons, OrderedTable.insertEntry, Ledger.put]
      by_cases hname : x.1 = c.name
      · rw [if_pos hname, if_pos (show (x.2.toCredential x.1).name = c.name from hname)]
        exact congrArg (· :: rest.map fun x => x.2.toCredential x.1) hback
      · rw [if_neg hname, if_neg (show (x.2.toCredential x.1).name ≠ c.name from hname),
          List.map_cons, ih]
  exact haux D.credentials.entries

theorem list_erase (D : Document) (name : String) (preferred : Option String) :
    (⟨preferred, D.credentials.erase name⟩ : Document).list = D.list.filter (·.name != name) := by
  show (D.credentials.entries.filter _).map _ = (D.credentials.entries.map _).filter _
  rw [List.filter_map]
  congr 1
  refine List.filter_congr fun e _ => ?_
  by_cases hname : e.1 = name <;> simp [Entry.toCredential, hname]

/-- What takes the place of an entry. -/
theorem successor_guid (D : Document) {candidate p : Credential} (hp : p ∈ D.list)
    (hname : p.name = candidate.name) :
    (D.successor candidate).guid = if p.guid = "" then candidate.guid else p.guid := by
  obtain ⟨e, hfind, heq⟩ := exists_find?_of_mem hp
  have hguid : e.guid = p.guid := by rw [← heq]; rfl
  rw [hname] at hfind
  rw [successor, hfind]
  dsimp only
  rw [hguid]
  split <;> rfl

theorem successor_name (D : Document) (candidate : Credential) :
    (D.successor candidate).name = candidate.name := by
  rw [successor]
  split
  · split <;> rfl
  · rfl

/-- The identifier of a successor is that of no other credential, if the drawn one is not. -/
theorem successor_guid_ne (hguids : (D.list.map (·.guid)).Nodup) {candidate : Credential}
    (hunused : ∀ x ∈ D.list, x.guid ≠ candidate.guid) {x : Credential} (hx : x ∈ D.list)
    (hname : x.name ≠ candidate.name) : x.guid ≠ (D.successor candidate).guid := by
  rw [successor]
  split
  · rename_i previous hfind
    split
    · exact hunused x hx
    · -- two credentials of one identifier would be one
      intro heq
      have hprevious := exists_mem_of_find? hfind
      have hsame := List.inj_on_of_nodup_map hguids hx hprevious heq
      exact hname (by rw [hsame]; rfl)
  · exact hunused x hx

end Document

/-! ## Edits -/

/-- The entry that a file tells under a name. -/
def entryAt? (path name : String) (d : Disk) : Option Entry :=
  match (load path d).answer with
  | .ok D => D.credentials.find? name
  | .error _ => none

/-- After an edit a file lists `cs`, and each of them is found by its identifier. What the edit has
not touched is told by the entry that told it before, in every field and in its version. -/
structure Relists (path : String) (d d' : Disk) (cs untouched : List Credential) : Prop where
  list_eq : (list path d').answer = .ok cs
  get_eq : ∀ c ∈ cs, (get path c.guid d').answer = .ok c
  entry_eq : ∀ c ∈ untouched, ∃ e, entryAt? path c.name d = some e ∧
    entryAt? path c.name d' = some e ∧ e.toCredential c.name = c

variable {path : String} {d d' : Disk} {D D' : Document}

theorem entryAt?_of_loads (h : Loads path d D) (name : String) :
    entryAt? path name d = D.credentials.find? name := by
  rw [entryAt?, h.1]

theorem loads_of_list {cs : List Credential} (h : (list path d).answer = .ok cs) :
    ∃ D, Loads path d D ∧ D.list = cs := by
  obtain ⟨D, d₁, hload, hlist⟩ := Yields.bind_ok (x := load path) (⟨h, rfl⟩ :
    (list path).Yields d (.ok cs) (list path d).state)
  obtain ⟨-, rfl⟩ := (yields_load path d).unique hload
  cases (Yields.unique hlist (yields_pure _ _)).1
  exact ⟨D, hload, rfl⟩

theorem relists_of_loads (h : Loads path d D) (h' : Loads path d' D')
    (hguids : (D'.list.map (·.guid)).Nodup) {untouched : List Credential}
    (hmem : ∀ c ∈ untouched, c ∈ D.list)
    (hkept : ∀ c ∈ untouched, D'.credentials.find? c.name = D.credentials.find? c.name) :
    Relists path d d' D'.list untouched where
  list_eq := (yields_list_of_loads h').1
  get_eq := by
    intro c hc
    rw [(yields_get_of_loads h' c.guid).1, Document.get, Document.find?_eq_list,
      Ledger.find?_of_mem hguids hc]
  entry_eq := by
    intro c hc
    obtain ⟨e, hfind, hback⟩ := Document.exists_find?_of_mem (hmem c hc)
    refine ⟨e, ?_, ?_, hback⟩
    · rw [entryAt?_of_loads h, hfind]
    · rw [entryAt?_of_loads h', hkept c hc, hfind]

/-- A put touches the entry of its name only. -/
theorem relists_put (h : Loads path d D) {c : Credential} (hc : c.ReadsBack)
    (h' : Loads path d' (D.put c)) (hguids : (D.list.map (·.guid)).Nodup)
    (hother : ∀ x ∈ D.list, x.name ≠ c.name → x.guid ≠ c.guid) {untouched : List Credential}
    (hmem : ∀ x ∈ untouched, x ∈ D.list ∧ x.name ≠ c.name) :
    Relists path d d' (Ledger.put c D.list) untouched := by
  rw [← D.list_put hc]
  refine relists_of_loads h h' ?_ (fun x hx => (hmem x hx).1) fun x hx => ?_
  · rw [D.list_put hc]
    exact Ledger.nodup_guids_put D.names_nodup hguids hother
  · show (D.credentials.insert c.name _).find? x.name = _
    rw [OrderedTable.find?_insert, if_neg (hmem x hx).2.symm]

section Edits

variable (h : Loads path d D) (hguids : (D.list.map (·.guid)).Nodup)

include h hguids

theorem relists_set {fresh : String} {details : Details} {c : Credential}
    (hset : (set path fresh details).Yields d (.ok c) d') :
    Relists path d d' (D.list ++ [c]) D.list := by
  obtain ⟨hanswer, h', -⟩ := (leaves_set h fresh details).of_yields hset fun e he => nomatch he
  rcases D.set_cases fresh details with ⟨e, heq⟩ | ⟨candidate, hd, hnames, hguid, heq⟩
  · rw [heq] at hanswer
    cases hanswer
  · rw [heq] at hanswer h'
    cases hanswer
    rw [← Ledger.put_of_forall_ne hnames]
    exact relists_put h (Details.readsBack_of_toCredential hd) h' hguids
      (fun x hx _ => hguid x hx) fun x hx => ⟨hx, hnames x hx⟩

theorem relists_forceSet {fresh : String} {details : Details} {c : Credential}
    (hforce : (forceSet path fresh details).Yields d (.ok c) d')
    (hunused : ∀ x ∈ D.list, x.guid ≠ details.effectiveGuid fresh) :
    Relists path d d' (Ledger.put c D.list) (D.list.filter (·.name != c.name)) ∧
      ∀ p ∈ D.list, p.name = c.name →
        c.guid = if p.guid = "" then details.effectiveGuid fresh else p.guid := by
  obtain ⟨hanswer, h', -⟩ := (leaves_forceSet h fresh details).of_yields hforce fun e he => nomatch he
  rw [Document.forceSet] at hanswer h'
  cases hd : details.toCredential fresh with
  | error e =>
    rw [hd] at hanswer
    cases hanswer
  | ok candidate =>
    rw [hd] at hanswer h'
    cases hanswer
    have hname := D.successor_name candidate
    have hguid := Details.toCredential_guid hd
    rw [← hguid] at hunused ⊢
    refine ⟨relists_put h (D.readsBack_successor (Details.readsBack_of_toCredential hd)) h' hguids
      (fun x hx hne => Document.successor_guid_ne hguids hunused hx (hname ▸ hne)) fun x hx => ?_,
      fun p hp heq => D.successor_guid hp (heq.trans hname)⟩
    simpa using List.mem_filter.1 hx

theorem relists_delete {guid : String} (hdelete : (delete path guid).Yields d (.ok ()) d') :
    Relists path d d' (D.list.filter (·.guid != guid)) (D.list.filter (·.guid != guid)) := by
  obtain ⟨hanswer, h', -⟩ := (leaves_delete h guid).of_yields hdelete fun e he => nomatch he
  rw [Document.delete] at hanswer h'
  cases hfind : D.find? guid with
  | none =>
    rw [hfind] at hanswer
    cases hanswer
  | some c =>
    rw [hfind] at h'
    rw [Document.find?_eq_list] at hfind
    have hc := List.mem_of_find?_eq_some hfind
    have hguid : c.guid = guid := by simpa using List.find?_some hfind
    subst hguid
    have hlist := D.list_erase c.name (if D.defaultServer = some c.guid then none
      else D.defaultServer)
    rw [Ledger.filter_name_eq D.names_nodup hguids hc] at hlist
    rw [← hlist]
    have hmem : ∀ x ∈ D.list.filter (·.guid != c.guid), x ∈ D.list ∧ x.name ≠ c.name := by
      intro x hx
      rw [← Ledger.filter_name_eq D.names_nodup hguids hc] at hx
      simpa using List.mem_filter.1 hx
    refine relists_of_loads h h' ?_ (fun x hx => (hmem x (hlist ▸ hx)).1) fun x hx => ?_
    · rw [hlist]
      exact hguids.sublist (List.filter_sublist.map _)
    · show (D.credentials.erase c.name).find? x.name = _
      rw [OrderedTable.find?_erase, if_neg (hmem x (hlist ▸ hx)).2]

theorem relists_setDefaultServer {guid : String}
    (hset : (setDefaultServer path guid).Yields d (.ok ()) d') :
    Relists path d d' D.list D.list := by
  obtain ⟨hanswer, h', -⟩ := (leaves_setDefaultServer h guid).of_yields hset fun e he => nomatch he
  rw [Document.setDefaultServer] at hanswer h'
  cases hfind : D.find? guid with
  | none =>
    rw [hfind] at hanswer
    cases hanswer
  | some c =>
    rw [hfind] at h'
    exact relists_of_loads h h' hguids (fun x hx => hx) fun x _ => rfl

theorem relists_clearDefaultServer (hclear : (clearDefaultServer path).Yields d (.ok ()) d') :
    Relists path d d' D.list D.list := by
  obtain ⟨-, h', -⟩ := (leaves_clearDefaultServer h).of_yields hclear fun e he => nomatch he
  exact relists_of_loads h h' hguids (fun x hx => hx) fun x _ => rfl

end Edits

/-- The file is edited as the ordered list of its credentials: a new credential comes last, a forced
one takes the place of the one of its name and its identifier, if that has any, a removed one leaves
the others in their order, and preferring one or none leaves the list. Every credential is found
under its identifier afterwards, and every entry that was not meant stays as it was. -/
theorem relists_edits {cs : List Credential} (hlist : (list path d).answer = .ok cs)
    (hguids : (cs.map (·.guid)).Nodup) :
    (∀ fresh details c, (set path fresh details d).answer = .ok c →
      Relists path d (set path fresh details d).state (cs ++ [c]) cs) ∧
    (∀ fresh details c, (forceSet path fresh details d).answer = .ok c →
      (∀ x ∈ cs, x.guid ≠ details.effectiveGuid fresh) →
      (∃ before p after, cs = before ++ p :: after ∧ p.name = c.name ∧
        (c.guid = if p.guid = "" then details.effectiveGuid fresh else p.guid) ∧
        Relists path d (forceSet path fresh details d).state (before ++ c :: after)
          (before ++ after)) ∨
      (∀ x ∈ cs, x.name ≠ c.name) ∧
        Relists path d (forceSet path fresh details d).state (cs ++ [c]) cs) ∧
    (∀ guid, (delete path guid d).answer = .ok () →
      Relists path d (delete path guid d).state (cs.filter (·.guid != guid))
        (cs.filter (·.guid != guid))) ∧
    (∀ guid, (setDefaultServer path guid d).answer = .ok () →
      Relists path d (setDefaultServer path guid d).state cs cs) ∧
    ((clearDefaultServer path d).answer = .ok () →
      Relists path d (clearDefaultServer path d).state cs cs) := by
  obtain ⟨D, h, rfl⟩ := loads_of_list hlist
  refine ⟨fun fresh details c hset => relists_set h hguids ⟨hset, rfl⟩, ?_,
    fun guid hdelete => relists_delete h hguids ⟨hdelete, rfl⟩,
    fun guid hset => relists_setDefaultServer h hguids ⟨hset, rfl⟩,
    fun hclear => relists_clearDefaultServer h hguids ⟨hclear, rfl⟩⟩
  intro fresh details c hforce hunused
  obtain ⟨hrelists, hguid⟩ := relists_forceSet h hguids ⟨hforce, rfl⟩ hunused
  -- the place of the credential tells what is left untouched
  rcases Ledger.put_cases c D.list with ⟨before, p, after, hcs, hname, hput⟩ | ⟨hnone, hput⟩
  · have hnames := D.names_nodup
    rw [hcs] at hnames
    rw [hput, hcs, ← hname, Ledger.filter_name_of_split hnames] at hrelists
    exact .inl ⟨before, p, after, hcs, hname, hguid p (by simp [hcs]) hname, hrelists⟩
  · rw [hput, List.filter_eq_self.2 fun x hx => bne_iff_ne.2 (hnone x hx)] at hrelists
    exact .inr ⟨hnone, hrelists⟩

/-- A file that was edited by hand: without a version, without a kind of server, and with a URL that
is no normal form. -/
def handWritten : Disk :=
  ({} : Disk).setNode ["credentials"] (.file (Text.utf8
    "[credentials.work]\nguid = \"g\"\nurl = \"https://A.b/\"\napi_key = \"k\"\n".toList)
    privateMode)

/-- What that file lists. -/
def workCredential : Credential :=
  { name := "work", url := "https://a.b", apiKey := "k", guid := "g" }

theorem relists_edits_handWritten :
    (list "/credentials" handWritten).answer = .ok [workCredential] ∧
    (∃ d c, (set "/credentials" "h" (.connect "home" "https://c.d" "l")).Yields handWritten
        (.ok c) d ∧
      Relists "/credentials" handWritten d [workCredential, c] [workCredential]) ∧
    (∃ d c, (forceSet "/credentials" "h" (.connect "work" "https://c.d" "l")).Yields handWritten
        (.ok c) d ∧ c.guid = "g" ∧ Relists "/credentials" handWritten d [c] []) ∧
    ∃ d, (delete "/credentials" "g").Yields handWritten (.ok ()) d ∧
      Relists "/credentials" handWritten d [] [] := by
  have hlist : (list "/credentials" handWritten).answer = .ok [workCredential] := by decide +kernel
  have hset : (set "/credentials" "h" (.connect "home" "https://c.d" "l") handWritten).answer =
      .ok { name := "home", url := "https://c.d", apiKey := "l", guid := "h" } := by decide +kernel
  have hforce : (forceSet "/credentials" "h" (.connect "work" "https://c.d" "l")
      handWritten).answer = .ok { name := "work", url := "https://c.d", apiKey := "l", guid := "g" } :=
    by decide +kernel
  have hdelete : (delete "/credentials" "g" handWritten).answer = .ok () := by decide +kernel
  obtain ⟨hsets, hforces, hdeletes, -⟩ := relists_edits hlist (List.nodup_singleton _)
  refine ⟨hlist, ⟨_, _, ⟨hset, rfl⟩, hsets _ _ _ hset⟩, ?_, _, ⟨hdelete, rfl⟩, hdeletes _ hdelete⟩
  refine ⟨_, _, ⟨hforce, rfl⟩, rfl, ?_⟩
  -- the only credential has the name, so it is the one that is replaced
  rcases hforces _ _ _ hforce (by decide) with ⟨before, p, after, hcs, -, -, hrelists⟩ | ⟨hnone, -⟩
  · cases before with
    | nil =>
      cases hcs
      exact hrelists
    | cons x before => simp at hcs
  · exact absurd rfl (hnone workCredential List.mem_cons_self)

end CredentialStore.FileStore
