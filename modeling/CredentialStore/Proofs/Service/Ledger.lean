import CredentialStore.Credential.Conflict
import CredentialStore.Proofs.Credential.WellFormed
import CredentialStore.Proofs.Guid
import CredentialStore.Proofs.Service.Run
import Mathlib.Data.List.Nodup

/-!
# The ledger

What a credential store is meant to be, whatever it keeps credentials in: a list of credentials and
the identifier of the preferred one. Each operation answers and leaves a ledger. A backend keeps the
preferred identifier in a text, so what it reads back is a function of what was written.

Main statements: `Valid.perform` (names and identifiers stay distinct, credentials well formed) and
`Apart.perform` (so do servers with accounts, where nothing is forced). Both go by `perform_cases`,
what a request can leave.
-/

namespace CredentialStore

/-- What a store holds. -/
structure Ledger where
  credentials : List Credential := []
  preferred : Option String := none

namespace Ledger

/-- The credential with an identifier. -/
def find? (l : Ledger) (guid : String) : Option Credential :=
  l.credentials.find? (·.guid == guid)

/-- Puts a credential in the place of the one of the same name, or at the end. -/
def put (c : Credential) : List Credential → List Credential
  | [] => [c]
  | x :: rest => if x.name = c.name then c :: rest else x :: put c rest

/-! ## Operations -/

def get (l : Ledger) (guid : String) : Except CredentialError Credential :=
  match l.find? guid with
  | some c => .ok c
  | none => .error (.notFound guid)

def set (l : Ledger) (fresh : String) (details : Details) :
    Except CredentialError Credential × Ledger :=
  match details.toCredential fresh with
  | .error e => (.error e, l)
  | .ok c =>
    match Credential.checkAll l.credentials c with
    | .error e => (.error e, l)
    | .ok () =>
      if l.credentials.any (·.guid == c.guid) then
        (.error (.storage ("credential guid " ++ c.guid ++ " is already in use")), l)
      else (.ok c, { l with credentials := l.credentials ++ [c] })

/-- The credential that takes the place of the one of the same name. -/
def successor (cs : List Credential) (candidate : Credential) : Credential :=
  match cs.find? (·.name == candidate.name) with
  | some previous => { candidate with guid := previous.guid }
  | none => candidate

def forceSet (l : Ledger) (fresh : String) (details : Details) :
    Except CredentialError Credential × Ledger :=
  match details.toCredential fresh with
  | .error e => (.error e, l)
  | .ok candidate =>
    let c := successor l.credentials candidate
    (.ok c, { l with credentials := put c l.credentials })

def delete (l : Ledger) (guid : String) : Except CredentialError Unit × Ledger :=
  match l.find? guid with
  | none => (.error (.notFound guid), l)
  | some _ =>
    (.ok (), {
      credentials := l.credentials.filter (·.guid != guid)
      preferred := if l.preferred = some guid then none else l.preferred })

def defaultServer (l : Ledger) : Option Credential :=
  l.preferred.bind l.find?

/-- `readBack` tells what is read of an identifier that was written as the preferred one. -/
def setDefaultServer (readBack : String → String) (l : Ledger) (guid : String) :
    Except CredentialError Unit × Ledger :=
  match l.find? guid with
  | none => (.error (.notFound guid), l)
  | some _ => (.ok (), { l with preferred := some (readBack guid) })

/-- Answers one request. -/
def perform (readBack : String → String) (l : Ledger) :
    Request → Except CredentialError Reply × Ledger
  | .list => (.ok (.credentials l.credentials), l)
  | .get guid => ((l.get guid).map .credential, l)
  | .set random a => (l.set (Guid.ofRandom random) { toAttributes := a }).map (·.map .credential) id
  | .forceSet random a =>
    (l.forceSet (Guid.ofRandom random) { toAttributes := a }).map (·.map .credential) id
  | .delete guid => (l.delete guid).map (·.map fun _ => .done) id
  | .reset => (.ok .done, {})
  | .defaultServer => (.ok (.preferred l.defaultServer), l)
  | .setDefaultServer guid => (l.setDefaultServer readBack guid).map (·.map fun _ => .done) id
  | .clearDefaultServer => (.ok .done, { l with preferred := none })

/-! ## What a write comes to -/

section Writes

variable {l : Ledger} {fresh : String} {details : Details} {c : Credential} {e : CredentialError}

theorem set_of_invalid (hd : details.toCredential fresh = .error e) :
    l.set fresh details = (.error e, l) := by
  rw [set, hd]

theorem set_of_conflict (hd : details.toCredential fresh = .ok c)
    (hcheck : Credential.checkAll l.credentials c = .error e) :
    l.set fresh details = (.error e, l) := by
  rw [set, hd]
  dsimp only
  rw [hcheck]

theorem set_of_used (hd : details.toCredential fresh = .ok c)
    (hcheck : Credential.checkAll l.credentials c = .ok ())
    (hused : l.credentials.any (·.guid == c.guid) = true) :
    l.set fresh details =
      (.error (.storage ("credential guid " ++ c.guid ++ " is already in use")), l) := by
  rw [set, hd]
  dsimp only
  rw [hcheck]
  exact if_pos hused

theorem set_of_unused (hd : details.toCredential fresh = .ok c)
    (hcheck : Credential.checkAll l.credentials c = .ok ())
    (hunused : ¬ l.credentials.any (·.guid == c.guid) = true) :
    l.set fresh details = (.ok c, { l with credentials := l.credentials ++ [c] }) := by
  rw [set, hd]
  dsimp only
  rw [hcheck]
  exact if_neg hunused

theorem forceSet_of_invalid (hd : details.toCredential fresh = .error e) :
    l.forceSet fresh details = (.error e, l) := by
  rw [forceSet, hd]

theorem forceSet_of_valid (hd : details.toCredential fresh = .ok c) :
    l.forceSet fresh details = (.ok (successor l.credentials c),
      { l with credentials := put (successor l.credentials c) l.credentials }) := by
  rw [forceSet, hd]

end Writes

/-! ## Putting a credential -/

variable {cs : List Credential} {c : Credential}

theorem put_of_forall_ne (h : ∀ x ∈ cs, x.name ≠ c.name) : put c cs = cs ++ [c] := by
  -- the induction goes past every credential, since none has the name
  induction cs with
  | nil => rfl
  | cons x rest ih =>
    rw [put, if_neg (h x (by simp)), ih fun y hy => h y (by simp [hy]), List.cons_append]

theorem mem_put (hnames : (cs.map (·.name)).Nodup) {x : Credential} :
    x ∈ put c cs ↔ x = c ∨ x ∈ cs ∧ x.name ≠ c.name := by
  -- the induction follows the search for the name; where it is found, distinct names say that
  -- none of the rest has it
  induction cs with
  | nil => simp [put]
  | cons y rest ih =>
    rw [List.map_cons, List.nodup_cons] at hnames
    obtain ⟨hy, hrest⟩ := hnames
    rw [put]
    split
    · rename_i hname
      have hother : ∀ z ∈ rest, z.name ≠ c.name := fun z hz heq =>
        hy (by rw [hname, ← heq]; exact List.mem_map_of_mem hz)
      constructor
      · intro hx
        rcases List.mem_cons.1 hx with rfl | hx
        · exact .inl rfl
        · exact .inr ⟨List.mem_cons_of_mem y hx, hother x hx⟩
      · rintro (rfl | ⟨hx, hne⟩)
        · exact List.mem_cons_self
        · rcases List.mem_cons.1 hx with rfl | hx
          · exact absurd hname hne
          · exact List.mem_cons_of_mem c hx
    · rename_i hname
      rw [List.mem_cons, ih hrest, List.mem_cons]
      constructor
      · rintro (rfl | rfl | ⟨hx, hne⟩)
        · exact .inr ⟨.inl rfl, hname⟩
        · exact .inl rfl
        · exact .inr ⟨.inr hx, hne⟩
      · rintro (rfl | ⟨rfl | hx, hne⟩)
        · exact .inr (.inl rfl)
        · exact .inl rfl
        · exact .inr (.inr ⟨hx, hne⟩)

/-- Where a credential is put: in the place of the one of its name, or at the end. -/
theorem put_cases (c : Credential) (cs : List Credential) :
    (∃ before p after, cs = before ++ p :: after ∧ p.name = c.name ∧
      put c cs = before ++ c :: after) ∨
    (∀ x ∈ cs, x.name ≠ c.name) ∧ put c cs = cs ++ [c] := by
  -- the induction follows the search for the name
  induction cs with
  | nil => exact .inr ⟨fun x hx => (List.not_mem_nil hx).elim, rfl⟩
  | cons y rest ih =>
    rw [put]
    by_cases hname : y.name = c.name
    · rw [if_pos hname]
      exact .inl ⟨[], y, rest, rfl, hname, rfl⟩
    · rw [if_neg hname]
      rcases ih with ⟨before, p, after, rfl, hp, hput⟩ | ⟨hnone, hput⟩
      · exact .inl ⟨y :: before, p, after, rfl, hp, by rw [hput, List.cons_append]⟩
      · refine .inr ⟨fun x hx => ?_, by rw [hput, List.cons_append]⟩
        rcases List.mem_cons.1 hx with rfl | hx
        · exact hname
        · exact hnone x hx

/-- What is left of a list without the one credential of a name. -/
theorem filter_name_of_split {before after : List Credential} {p : Credential}
    (h : ((before ++ p :: after).map (·.name)).Nodup) :
    (before ++ p :: after).filter (·.name != p.name) = before ++ after := by
  rw [List.map_append, List.map_cons, List.nodup_append, List.nodup_cons] at h
  obtain ⟨-, ⟨hafter, -⟩, hbefore⟩ := h
  rw [List.filter_append, List.filter_cons_of_neg (by simp)]
  congr 1
  · refine List.filter_eq_self.2 fun x hx => bne_iff_ne.2 fun heq => ?_
    exact hbefore _ (List.mem_map_of_mem hx) _ List.mem_cons_self heq
  · refine List.filter_eq_self.2 fun x hx => bne_iff_ne.2 fun heq => hafter ?_
    rw [← heq]
    exact List.mem_map_of_mem hx

/-- Where both are distinct, what is left without a name is left without its identifier. -/
theorem filter_name_eq (hnames : (cs.map (·.name)).Nodup) (hguids : (cs.map (·.guid)).Nodup)
    (hc : c ∈ cs) : cs.filter (·.name != c.name) = cs.filter (·.guid != c.guid) := by
  refine List.filter_congr fun x hx => ?_
  have hsame : x.name = c.name ↔ x.guid = c.guid :=
    ⟨fun heq => by rw [List.inj_on_of_nodup_map hnames hx hc heq],
      fun heq => by rw [List.inj_on_of_nodup_map hguids hx hc heq]⟩
  by_cases heq : x.guid = c.guid
  · rw [heq, hsame.2 heq, bne_self_eq_false, bne_self_eq_false]
  · rw [bne_iff_ne.2 heq, bne_iff_ne.2 (mt hsame.1 heq)]

/-- Identifiers stay distinct where a credential is put that no credential of another name shares
its identifier with. -/
theorem nodup_guids_put (hnames : (cs.map (·.name)).Nodup) (hguids : (cs.map (·.guid)).Nodup)
    (hother : ∀ x ∈ cs, x.name ≠ c.name → x.guid ≠ c.guid) :
    ((put c cs).map (·.guid)).Nodup := by
  induction cs with
  | nil => simp [put]
  | cons y rest ih =>
    rw [List.map_cons, List.nodup_cons] at hnames hguids
    rw [put]
    split
    · rename_i hname
      -- none of the rest has the name, so none has the identifier
      refine List.nodup_cons.2 ⟨fun hmem => ?_, hguids.2⟩
      obtain ⟨x, hx, heq⟩ := List.mem_map.1 hmem
      refine hother x (List.mem_cons_of_mem y hx) (fun hxname => hnames.1 ?_) heq
      rw [hname, ← hxname]
      exact List.mem_map_of_mem hx
    · rename_i hname
      refine List.nodup_cons.2 ⟨fun hmem => ?_, ih hnames.2 hguids.2 fun x hx =>
        hother x (List.mem_cons_of_mem y hx)⟩
      obtain ⟨x, hx, heq⟩ := List.mem_map.1 hmem
      rcases (mem_put hnames.2).1 hx with rfl | ⟨hx, -⟩
      · exact hother y List.mem_cons_self hname heq.symm
      · have hmem : x.guid ∈ rest.map (·.guid) := List.mem_map_of_mem hx
        rw [show x.guid = y.guid from heq] at hmem
        exact hguids.1 hmem

/-- What a credential has in common with the one whose place it takes does not change. -/
theorem map_put_of_exists {α : Type} (f : Credential → α)
    (hf : ∀ x ∈ cs, x.name = c.name → f x = f c) (h : ∃ x ∈ cs, x.name = c.name) :
    (put c cs).map f = cs.map f := by
  -- either the first one has the name, or one of the rest
  induction cs with
  | nil => simp at h
  | cons y rest ih =>
    rw [put]
    split
    · rename_i hname
      rw [List.map_cons, List.map_cons, hf y (by simp) hname]
    · rename_i hname
      obtain ⟨x, hx, heq⟩ := h
      rcases List.mem_cons.1 hx with rfl | hx
      · exact absurd heq hname
      · rw [List.map_cons, List.map_cons, ih (fun z hz => hf z (by simp [hz])) ⟨x, hx, heq⟩]

/-! ## The invariant -/

/-- Names and identifiers are distinct, and every credential is well formed. -/
structure Valid (cs : List Credential) : Prop where
  names_nodup : (cs.map (·.name)).Nodup
  guids_nodup : (cs.map (·.guid)).Nodup
  isWellFormed : ∀ c ∈ cs, c.IsWellFormed

/-- A list stays without repetitions where one is added that is none of the others. -/
theorem nodup_map_append {α : Type} {f : Credential → α} (h : (cs.map f).Nodup)
    (hne : ∀ x ∈ cs, f x ≠ f c) : ((cs ++ [c]).map f).Nodup := by
  rw [List.map_append, List.map_singleton]
  refine List.nodup_append.2 ⟨h, List.nodup_singleton _, ?_⟩
  intro a ha b hb
  obtain ⟨x, hx, rfl⟩ := List.mem_map.1 ha
  rw [List.mem_singleton.1 hb]
  exact hne x hx

theorem valid_nil : Valid [] :=
  ⟨List.nodup_nil, List.nodup_nil, fun _ hc => (List.not_mem_nil hc).elim⟩

theorem Valid.perm {ds : List Credential} (h : Valid cs) (hp : cs.Perm ds) : Valid ds :=
  ⟨(hp.map _).nodup_iff.1 h.names_nodup, (hp.map _).nodup_iff.1 h.guids_nodup,
    fun c hc => h.isWellFormed c (hp.mem_iff.2 hc)⟩

theorem Valid.filter (h : Valid cs) (p : Credential → Bool) : Valid (cs.filter p) :=
  ⟨h.names_nodup.sublist (List.filter_sublist.map _),
    h.guids_nodup.sublist (List.filter_sublist.map _),
    fun c hc => h.isWellFormed c ((List.mem_filter.1 hc).1)⟩

/-- A credential may be put where it has its name and its identifier from one and the same
credential, or both from none. -/
def Fits (cs : List Credential) (c : Credential) : Prop :=
  ∀ x ∈ cs, x.name = c.name ↔ x.guid = c.guid

theorem Valid.put (h : Valid cs) (hc : c.IsWellFormed) (hfits : Fits cs c) : Valid (put c cs) := by
  have hwell : ∀ x ∈ Ledger.put c cs, x.IsWellFormed := by
    intro x hx
    rcases (mem_put h.names_nodup).1 hx with rfl | ⟨hx, -⟩
    · exact hc
    · exact h.isWellFormed x hx
  by_cases hexists : ∃ x ∈ cs, x.name = c.name
  · -- the credential takes a place, and with it a name and an identifier
    refine ⟨?_, ?_, hwell⟩
    · rw [map_put_of_exists _ (fun x _ hx => hx) hexists]
      exact h.names_nodup
    · rw [map_put_of_exists _ (fun x hx hname => (hfits x hx).1 hname) hexists]
      exact h.guids_nodup
  · have hne : ∀ x ∈ cs, x.name ≠ c.name := fun x hx heq => hexists ⟨x, hx, heq⟩
    -- a new name comes with a new identifier
    have hother : ∀ x ∈ cs, x.guid ≠ c.guid := fun x hx heq => hne x hx ((hfits x hx).2 heq)
    rw [put_of_forall_ne hne] at hwell ⊢
    exact ⟨nodup_map_append h.names_nodup hne, nodup_map_append h.guids_nodup hother, hwell⟩

/-! ## Finding a credential -/

theorem find?_of_mem {f : Credential → String} (h : (cs.map f).Nodup) (hc : c ∈ cs) :
    cs.find? (f · == f c) = some c := by
  cases hfind : cs.find? (f · == f c) with
  | none =>
    rw [List.find?_eq_none] at hfind
    exact absurd BEq.rfl (hfind c hc)
  | some d =>
    have hkey : f d = f c := by simpa using List.find?_some hfind
    rw [List.inj_on_of_nodup_map h (List.mem_of_find?_eq_some hfind) hc hkey]

theorem find?_eq_some_iff {l : Ledger} (h : Valid l.credentials) {guid : String} :
    l.find? guid = some c ↔ c ∈ l.credentials ∧ c.guid = guid := by
  constructor
  · intro hfind
    have hguid := List.find?_some hfind
    exact ⟨List.mem_of_find?_eq_some hfind, by simpa using hguid⟩
  · rintro ⟨hmem, rfl⟩
    exact find?_of_mem h.guids_nodup hmem

theorem find?_eq_none_iff {l : Ledger} {guid : String} :
    l.find? guid = none ↔ ∀ c ∈ l.credentials, c.guid ≠ guid := by
  simp [find?]

/-! ## In another order -/

theorem find?_perm {ds : List Credential} {f : Credential → String} (h : (cs.map f).Nodup)
    (hp : ds.Perm cs) (key : String) : ds.find? (f · == key) = cs.find? (f · == key) := by
  -- a key that is distinct is found at one credential at most, wherever that stands
  cases hcs : cs.find? (f · == key) with
  | none =>
    rw [List.find?_eq_none] at hcs ⊢
    exact fun x hx => hcs x (hp.mem_iff.1 hx)
  | some c =>
    have hc := List.mem_of_find?_eq_some hcs
    have hkey := List.find?_some hcs
    cases hds : ds.find? (f · == key) with
    | none =>
      rw [List.find?_eq_none] at hds
      exact absurd hkey (hds c (hp.mem_iff.2 hc))
    | some d =>
      have hd := hp.mem_iff.1 (List.mem_of_find?_eq_some hds)
      have hkey' := List.find?_some hds
      rw [beq_iff_eq] at hkey hkey'
      rw [List.inj_on_of_nodup_map h hd hc (hkey'.trans hkey.symm)]

theorem successor_perm {ds : List Credential} (h : Valid cs) (hp : ds.Perm cs)
    (candidate : Credential) : successor ds candidate = successor cs candidate := by
  rw [successor, successor, find?_perm (f := (·.name)) h.names_nodup hp]

theorem status_of_checkAll {e : CredentialError} (h : Credential.checkAll cs c = .error e) :
    e.status = 409 := by
  obtain ⟨x, -, rfl | rfl⟩ := Credential.checkAll_error_cases h
  · rfl
  · rfl

/-- Whether a candidate fits does not depend on the order, and neither does the status. -/
theorem agreeBy_checkAll {ds : List Credential} (hp : ds.Perm cs) (c : Credential) :
    AgreeBy Eq (Credential.checkAll ds c) (Credential.checkAll cs c) := by
  have hiff : Credential.checkAll ds c = .ok () ↔ Credential.checkAll cs c = .ok () := by
    rw [Credential.checkAll_eq_ok_iff, Credential.checkAll_eq_ok_iff]
    exact ⟨fun h x hx => h x (hp.mem_iff.2 hx), fun h x hx => h x (hp.mem_iff.1 hx)⟩
  -- the order decides which conflict is found, but all conflicts have one status
  cases hds : Credential.checkAll ds c with
  | ok u =>
    rw [hiff.1 hds]
    rfl
  | error e =>
    cases hcs : Credential.checkAll cs c with
    | ok u =>
      rw [hiff.2 hcs] at hds
      cases hds
    | error f => exact (status_of_checkAll hds).trans (status_of_checkAll hcs).symm

/-! ## What the operations keep -/

/-- What a successor has its name and its identifier from. -/
theorem successor_cases (cs : List Credential) (candidate : Credential) :
    (∃ p ∈ cs, p.name = candidate.name ∧
      successor cs candidate = { candidate with guid := p.guid }) ∨
    (∀ x ∈ cs, x.name ≠ candidate.name) ∧ successor cs candidate = candidate := by
  rw [successor]
  cases hfind : cs.find? (·.name == candidate.name) with
  | some p =>
    have hname := List.find?_some hfind
    rw [beq_iff_eq] at hname
    exact .inl ⟨p, List.mem_of_find?_eq_some hfind, hname, rfl⟩
  | none =>
    rw [List.find?_eq_none] at hfind
    exact .inr ⟨fun x hx => by simpa using hfind x hx, rfl⟩

/-- A successor may be put in its place, unless its identifier is one of another credential. -/
theorem fits_successor (h : Valid cs) {candidate : Credential}
    (hunused : ∀ x ∈ cs, x.guid ≠ candidate.guid) : Fits cs (successor cs candidate) := by
  intro x hx
  -- a successor has both from the credential that it replaces, or both are new
  rcases successor_cases cs candidate with ⟨p, hp, hname, hsucc⟩ | ⟨hnone, hsucc⟩
  · rw [hsucc]
    constructor
    · intro heq
      rw [List.inj_on_of_nodup_map h.names_nodup hx hp (heq.trans hname.symm)]
    · intro heq
      rw [List.inj_on_of_nodup_map h.guids_nodup hx hp heq, hname]
  · rw [hsucc]
    exact ⟨fun heq => absurd heq (hnone x hx), fun heq => absurd heq (hunused x hx)⟩

theorem isWellFormed_successor (h : Valid cs) {candidate : Credential}
    (hc : candidate.IsWellFormed) : (successor cs candidate).IsWellFormed := by
  rcases successor_cases cs candidate with ⟨p, hp, -, hsucc⟩ | ⟨-, hsucc⟩
  · rw [hsucc]
    exact hc.with_guid (h.isWellFormed p hp).guid_ne_empty
  · rw [hsucc]
    exact hc

/-- What a new credential is held against. -/
theorem set_cases (l : Ledger) (fresh : String) (details : Details) :
    (∃ e, l.set fresh details = (.error e, l)) ∨
      ∃ c, details.toCredential fresh = .ok c ∧ Credential.checkAll l.credentials c = .ok () ∧
        (∀ x ∈ l.credentials, x.guid ≠ c.guid) ∧
        l.set fresh details = (.ok c, { l with credentials := l.credentials ++ [c] }) := by
  -- the checks, in the order in which they are made
  cases hd : details.toCredential fresh with
  | error e => exact .inl ⟨e, set_of_invalid hd⟩
  | ok c =>
    cases hcheck : Credential.checkAll l.credentials c with
    | error e => exact .inl ⟨e, set_of_conflict hd hcheck⟩
    | ok u =>
      by_cases hany : l.credentials.any (·.guid == c.guid) = true
      · exact .inl ⟨_, set_of_used hd hcheck hany⟩
      · exact .inr ⟨c, rfl, hcheck, by simpa using hany, set_of_unused hd hcheck hany⟩

theorem Valid.set {l : Ledger} (h : Valid l.credentials) {fresh : String} (details : Details)
    (hfresh : fresh ≠ "") : Valid (l.set fresh details).2.credentials := by
  rcases set_cases l fresh details with ⟨e, heq⟩ | ⟨c, hd, hcheck, hguid, heq⟩
  · rw [heq]
    exact h
  · -- a name that no other credential has is put at the end
    have hname : ∀ x ∈ l.credentials, x.name ≠ c.name := fun x hx =>
      (Credential.checkAll_eq_ok_iff.1 hcheck x hx).1
    rw [heq, ← put_of_forall_ne hname]
    exact h.put (Details.isWellFormed_of_toCredential hd (details.effectiveGuid_ne_empty hfresh))
      fun x hx => ⟨fun heq => absurd heq (hname x hx), fun heq => absurd heq (hguid x hx)⟩

theorem Valid.forceSet {l : Ledger} (h : Valid l.credentials) {fresh : String} (details : Details)
    (hfresh : fresh ≠ "") (hunused : ∀ x ∈ l.credentials, x.guid ≠ details.effectiveGuid fresh) :
    Valid (l.forceSet fresh details).2.credentials := by
  cases hd : details.toCredential fresh with
  | error e =>
    rw [forceSet_of_invalid hd]
    exact h
  | ok candidate =>
    rw [forceSet_of_valid hd]
    rw [← Details.toCredential_guid hd] at hunused
    exact h.put (isWellFormed_successor h
      (Details.isWellFormed_of_toCredential hd (details.effectiveGuid_ne_empty hfresh)))
      (fits_successor h hunused)

/-- What is stored after a request: what was stored less what it removes, or what a write leaves. -/
theorem perform_cases (l : Ledger) (readBack : String → String) (r : Request) :
    (∃ p : Credential → Bool, (l.perform readBack r).2.credentials = l.credentials.filter p) ∨
    (∃ random a, r = .set random a ∧
      l.perform readBack r = (l.set (Guid.ofRandom random) { toAttributes := a }).map
        (·.map .credential) id) ∨
    ∃ random a, r = .forceSet random a ∧
      l.perform readBack r = (l.forceSet (Guid.ofRandom random) { toAttributes := a }).map
        (·.map .credential) id := by
  -- most requests remove nothing
  have hsame : l.credentials = l.credentials.filter fun _ => true := (List.filter_true _).symm
  cases r with
  | set random a => exact .inr (.inl ⟨random, a, rfl, rfl⟩)
  | forceSet random a => exact .inr (.inr ⟨random, a, rfl, rfl⟩)
  | delete guid =>
    refine .inl ?_
    show ∃ p, (l.delete guid).2.credentials = _
    rw [delete]
    split
    · exact ⟨_, hsame⟩
    · exact ⟨_, rfl⟩
  | reset => exact .inl ⟨fun _ => false, (List.filter_false _).symm⟩
  | setDefaultServer guid =>
    refine .inl ⟨fun _ => true, ?_⟩
    show (l.setDefaultServer readBack guid).2.credentials = _
    rw [setDefaultServer]
    split <;> exact hsame
  | _ => exact .inl ⟨_, hsame⟩

/-- Every request keeps the invariant. -/
theorem Valid.perform {l : Ledger} (h : Valid l.credentials) (readBack : String → String)
    {r : Request} (hr : r.DrawsUnused l.credentials) :
    Valid (l.perform readBack r).2.credentials := by
  rcases perform_cases l readBack r with ⟨p, heq⟩ | ⟨random, a, -, heq⟩ | ⟨random, a, rfl, heq⟩
  · rw [heq]
    exact h.filter p
  · rw [heq]
    exact h.set _ (Guid.ofRandom_ne_empty random)
  · rw [heq]
    exact h.forceSet _ (Guid.ofRandom_ne_empty random) hr

/-! ## Servers and accounts -/

/-- No two credentials sign in to one server with one account. -/
def Apart (cs : List Credential) : Prop :=
  (cs.map fun c => (c.url, c.accountName)).Nodup

theorem Apart.perm {ds : List Credential} (h : Apart cs) (hp : cs.Perm ds) : Apart ds :=
  (hp.map _).nodup_iff.1 h

theorem Apart.set {l : Ledger} (h : Apart l.credentials) (fresh : String) (details : Details) :
    Apart (l.set fresh details).2.credentials := by
  rcases set_cases l fresh details with ⟨e, heq⟩ | ⟨c, -, hcheck, -, heq⟩
  · rw [heq]
    exact h
  · rw [heq]
    refine nodup_map_append h fun x hx hab => ?_
    have hidentity := (Credential.checkAll_eq_ok_iff.1 hcheck x hx).2
    rw [Prod.mk.injEq] at hab
    simp [Credential.sameIdentity, hab.1, hab.2] at hidentity

/-- Where nothing is forced, servers with accounts stay distinct. -/
theorem Apart.perform {l : Ledger} (h : Apart l.credentials) (readBack : String → String)
    {r : Request} (hr : ¬ r.IsForced) : Apart (l.perform readBack r).2.credentials := by
  rcases perform_cases l readBack r with ⟨p, heq⟩ | ⟨random, a, -, heq⟩ | ⟨random, a, rfl, -⟩
  · rw [heq]
    exact List.Nodup.sublist (List.filter_sublist.map _) h
  · rw [heq]
    exact h.set _ _
  · exact absurd trivial hr

/-! ## Ledgers that grow -/

/-- What a ledger becomes by writes of new credentials, whatever they are answered. -/
inductive Grows (l : Ledger) : Ledger → Prop where
  | refl : Grows l l
  | set {l' : Ledger} (h : Grows l l') {fresh : String} (hfresh : fresh ≠ "") (details : Details) :
    Grows l (l'.set fresh details).2

namespace Grows

variable {l l' l'' : Ledger}

theorem trans (h : Grows l l') (h' : Grows l' l'') : Grows l l'' := by
  induction h' with
  | refl => exact h
  | set _ hfresh details ih => exact ih.set hfresh details

theorem valid (h : Grows l l') (hv : Valid l.credentials) : Valid l'.credentials := by
  induction h with
  | refl => exact hv
  | set _ hfresh details ih => exact ih.set details hfresh

theorem apart (h : Grows l l') (hapart : Apart l.credentials) : Apart l'.credentials := by
  induction h with
  | refl => exact hapart
  | set _ _ details ih => exact ih.set _ details

/-- No credential is lost, and the preference stays. -/
theorem keeps (h : Grows l l') :
    l'.preferred = l.preferred ∧ ∀ c ∈ l.credentials, c ∈ l'.credentials := by
  induction h with
  | refl => exact ⟨rfl, fun _ hc => hc⟩
  | @set l' h fresh _ details ih =>
    rcases set_cases l' fresh details with ⟨e, heq⟩ | ⟨c, -, -, -, heq⟩
    · rw [heq]
      exact ih
    · rw [heq]
      exact ⟨ih.1, fun x hx => List.mem_append_left [c] (ih.2 x hx)⟩

end Grows

end Ledger

end CredentialStore
