/-!
# Tables in order of their keys

A table maps keys to values and lists its entries in ascending order of the keys. Main statements:
`find?_insert`, `find?_erase` (what a change does to what is found) and `ext_find?` (a table is
determined by what is found in it).
-/

namespace CredentialStore

/-- A table in order of its keys. -/
structure SortedTable (α : Type) where
  entries : List (String × α)
  ascending : entries.Pairwise fun a b => a.1 < b.1

namespace SortedTable

variable {α : Type}

/-! ## Lists of entries -/

/-- Replaces the value of a key, or adds an entry where it belongs. -/
def insertEntry (key : String) (value : α) : List (String × α) → List (String × α)
  | [] => [(key, value)]
  | e :: rest =>
    if key < e.1 then (key, value) :: e :: rest
    else if key = e.1 then (key, value) :: rest
    else e :: insertEntry key value rest

/-- The value of the first entry with a key. -/
def valueOf? (key : String) : List (String × α) → Option α
  | [] => none
  | e :: rest => if e.1 = key then some e.2 else valueOf? key rest

theorem lt_of_not_lt_of_ne {a b : String} (h : ¬ a < b) (hne : a ≠ b) : b < a :=
  Std.lt_of_le_of_ne (String.not_lt.1 h) fun hba => hne hba.symm

theorem mem_insertEntry {key : String} {value : α} {es : List (String × α)} {e : String × α}
    (h : e ∈ insertEntry key value es) : e = (key, value) ∨ e ∈ es := by
  induction es with
  | nil => simpa [insertEntry] using h
  | cons d rest ih =>
    rw [insertEntry] at h
    split at h
    · simpa using h
    · split at h
      · rcases List.mem_cons.1 h with h | h
        · exact .inl h
        · exact .inr (List.mem_cons_of_mem _ h)
      · rcases List.mem_cons.1 h with h | h
        · exact .inr (h ▸ List.mem_cons_self)
        · exact (ih h).imp id (List.mem_cons_of_mem _)

theorem pairwise_insertEntry {key : String} {value : α} {es : List (String × α)}
    (h : es.Pairwise fun a b => a.1 < b.1) :
    (insertEntry key value es).Pairwise fun a b => a.1 < b.1 := by
  induction es with
  | nil => simp [insertEntry]
  | cons d rest ih =>
    obtain ⟨hd, hrest⟩ := List.pairwise_cons.1 h
    rw [insertEntry]
    split
    · rename_i hlt
      refine List.pairwise_cons.2 ⟨fun e he => ?_, h⟩
      rcases List.mem_cons.1 he with rfl | he
      · exact hlt
      · exact String.lt_trans hlt (hd e he)
    · split
      · rename_i heq
        exact List.pairwise_cons.2 ⟨fun e he => heq ▸ hd e he, hrest⟩
      · rename_i hlt hne
        refine List.pairwise_cons.2 ⟨fun e he => ?_, ih hrest⟩
        rcases mem_insertEntry he with rfl | he
        · exact lt_of_not_lt_of_ne hlt hne
        · exact hd e he

theorem valueOf?_insertEntry (key key' : String) (value : α) (es : List (String × α)) :
    valueOf? key' (insertEntry key value es) =
      if key = key' then some value else valueOf? key' es := by
  induction es with
  | nil => simp [insertEntry, valueOf?]
  | cons e rest ih =>
    rw [insertEntry]
    split
    · simp [valueOf?]
    · split
      · rename_i heq
        by_cases hk : key = key'
        · simp [valueOf?, hk]
        · simp [valueOf?, hk, ← heq]
      · rename_i hne
        by_cases hk : e.1 = key'
        · have : ¬ key = key' := fun h => hne (h.trans hk.symm)
          simp [valueOf?, hk, this]
        · simp [valueOf?, hk, ih]

theorem valueOf?_of_lt {key : String} {es : List (String × α)} (h : ∀ e ∈ es, key < e.1) :
    valueOf? key es = none := by
  induction es with
  | nil => rfl
  | cons e rest ih =>
    have he : ¬ e.1 = key := fun hk => String.lt_irrefl key (hk ▸ h e (by simp))
    rw [valueOf?, if_neg he, ih fun x hx => h x (by simp [hx])]

theorem entries_eq_of_valueOf? {es fs : List (String × α)}
    (hes : es.Pairwise fun a b => a.1 < b.1) (hfs : fs.Pairwise fun a b => a.1 < b.1)
    (h : ∀ key, valueOf? key es = valueOf? key fs) : es = fs := by
  induction es generalizing fs with
  | nil =>
    cases fs with
    | nil => rfl
    | cons f _ => simpa [valueOf?] using h f.1
  | cons e es ih =>
    cases fs with
    | nil => simpa [valueOf?] using h e.1
    | cons f fs =>
      obtain ⟨he, hes⟩ := List.pairwise_cons.1 hes
      obtain ⟨hf, hfs⟩ := List.pairwise_cons.1 hfs
      have hkey : e.1 = f.1 := by
        refine Classical.byContradiction fun hne => ?_
        by_cases hlt : e.1 < f.1
        · have hnone : valueOf? e.1 (f :: fs) = none := valueOf?_of_lt fun x hx => by
            rcases List.mem_cons.1 hx with rfl | hx
            · exact hlt
            · exact String.lt_trans hlt (hf x hx)
          have := h e.1
          rw [hnone] at this
          simp [valueOf?] at this
        · have hgt := lt_of_not_lt_of_ne hlt hne
          have hnone : valueOf? f.1 (e :: es) = none := valueOf?_of_lt fun x hx => by
            rcases List.mem_cons.1 hx with rfl | hx
            · exact hgt
            · exact String.lt_trans hgt (he x hx)
          have := h f.1
          rw [hnone] at this
          simp [valueOf?] at this
      have hvalue : e.2 = f.2 := by simpa [valueOf?, hkey] using h e.1
      have htail : ∀ key, valueOf? key es = valueOf? key fs := fun key => by
        by_cases hk : e.1 = key
        · subst hk
          rw [valueOf?_of_lt he, hkey, valueOf?_of_lt hf]
        · have hk' : ¬ f.1 = key := fun hh => hk (hkey.trans hh)
          simpa [valueOf?, hk, hk'] using h key
      rw [ih hes hfs htail, Prod.ext hkey hvalue]

theorem valueOf?_filter (p : String → Bool) (key : String) (es : List (String × α)) :
    valueOf? key (es.filter fun e => p e.1) = if p key then valueOf? key es else none := by
  induction es with
  | nil => simp [valueOf?]
  | cons e rest ih =>
    by_cases hp : p e.1 = true
    · by_cases h : e.1 = key
      · subst h
        simp [valueOf?, hp]
      · simp [valueOf?, hp, h, ih]
    · by_cases h : e.1 = key
      · subst h
        simp [hp, ih]
      · simp [valueOf?, hp, h, ih]

theorem valueOf?_eq_some_iff {key : String} {value : α} {es : List (String × α)}
    (h : es.Pairwise fun a b => a.1 < b.1) :
    valueOf? key es = some value ↔ (key, value) ∈ es := by
  induction es with
  | nil => simp [valueOf?]
  | cons e rest ih =>
    obtain ⟨he, hrest⟩ := List.pairwise_cons.1 h
    by_cases hk : e.1 = key
    · have hnot : (key, value) ∉ rest := fun hm => String.lt_irrefl _ (hk ▸ he _ hm)
      have heq : e.2 = value ↔ (key, value) = e := by
        constructor
        · rintro rfl
          exact Prod.ext hk.symm rfl
        · intro h
          exact (congrArg Prod.snd h).symm
      simp [valueOf?, hk, hnot, heq]
    · have : ¬ (key, value) = e := fun h => hk (congrArg Prod.fst h).symm
      simp [valueOf?, hk, ih hrest, this]

/-- A key above all others comes last. -/
theorem insertEntry_of_forall_lt {key : String} {value : α} {es : List (String × α)}
    (h : ∀ e ∈ es, e.1 < key) : insertEntry key value es = es ++ [(key, value)] := by
  induction es with
  | nil => rfl
  | cons e rest ih =>
    have he := h e (by simp)
    have hlt : ¬ key < e.1 := fun hk => String.lt_irrefl _ (String.lt_trans hk he)
    have hne : ¬ key = e.1 := fun hk => String.lt_irrefl _ (hk ▸ he)
    rw [insertEntry, if_neg hlt, if_neg hne, ih fun x hx => h x (by simp [hx])]
    rfl

/-! ## Tables -/

@[ext] theorem ext {s t : SortedTable α} (h : s.entries = t.entries) : s = t := by
  cases s; cases t; simp_all

instance [DecidableEq α] : DecidableEq (SortedTable α) := fun s t =>
  if h : s.entries = t.entries then .isTrue (ext h) else .isFalse fun hst => h (by rw [hst])

/-- The table without entries. -/
def empty : SortedTable α :=
  ⟨[], .nil⟩

instance : Inhabited (SortedTable α) := ⟨empty⟩

/-- The keys, ascending. -/
def keys (t : SortedTable α) : List String :=
  t.entries.map Prod.fst

/-- The value of a key. -/
def find? (t : SortedTable α) (key : String) : Option α :=
  valueOf? key t.entries

/-- Sets the value of a key. -/
def insert (t : SortedTable α) (key : String) (value : α) : SortedTable α :=
  ⟨insertEntry key value t.entries, pairwise_insertEntry t.ascending⟩

/-- Removes a key. -/
def erase (t : SortedTable α) (key : String) : SortedTable α :=
  ⟨t.entries.filter (·.1 ≠ key), t.ascending.sublist List.filter_sublist⟩

/-- The table of a list of entries; of several values for a key the last one counts. -/
def ofList (es : List (String × α)) : SortedTable α :=
  es.foldl (fun t e => t.insert e.1 e.2) empty

theorem find?_insert (t : SortedTable α) (key key' : String) (value : α) :
    (t.insert key value).find? key' = if key = key' then some value else t.find? key' :=
  valueOf?_insertEntry key key' value t.entries

theorem find?_erase (t : SortedTable α) (key key' : String) :
    (t.erase key).find? key' = if key' = key then none else t.find? key' := by
  have h := valueOf?_filter (fun k => decide (k ≠ key)) key' t.entries
  by_cases hk : key' = key
  · simpa [find?, erase, hk] using h
  · simpa [find?, erase, hk] using h

/-- A table is determined by what is found in it. -/
theorem ext_find? {s t : SortedTable α} (h : ∀ key, s.find? key = t.find? key) : s = t :=
  ext (entries_eq_of_valueOf? s.ascending t.ascending h)

/-- The table of its own entries. -/
theorem ofList_entries (t : SortedTable α) : ofList t.entries = t := by
  have haux : ∀ (es : List (String × α)) (s : SortedTable α),
      (s.entries ++ es).Pairwise (fun a b => a.1 < b.1) →
      (es.foldl (fun t e => t.insert e.1 e.2) s).entries = s.entries ++ es := by
    intro es
    induction es with
    | nil => intro s _; simp
    | cons e rest ih =>
      intro s hs
      have hlt : ∀ x ∈ s.entries, x.1 < e.1 := fun x hx =>
        (List.pairwise_append.1 hs).2.2 x hx e (by simp)
      have hinsert : (s.insert e.1 e.2).entries = s.entries ++ [e] :=
        insertEntry_of_forall_lt hlt
      rw [List.foldl_cons, ih _ (by rw [hinsert]; simpa using hs), hinsert]
      simp
  exact ext (haux t.entries empty (by simpa [empty] using t.ascending))

theorem find?_eq_some_iff {t : SortedTable α} {key : String} {value : α} :
    t.find? key = some value ↔ (key, value) ∈ t.entries :=
  valueOf?_eq_some_iff t.ascending

end SortedTable

end CredentialStore
