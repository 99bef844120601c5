/-!
# Tables in order of insertion

A table maps keys to values and remembers the order in which its keys came. A value for a key that
is present takes the place of the old one. Main statements: `find?_insert`, `find?_erase` (what a
change does to what is found) and `entries_insert_of_not_mem` (a new key goes to the end).
-/

namespace CredentialStore

/-- A table in order of insertion. -/
structure OrderedTable (α : Type) where
  entries : List (String × α)
  keys_nodup : (entries.map Prod.fst).Nodup

namespace OrderedTable

variable {α : Type}

/-! ## Lists of entries -/

/-- Replaces the value of a key where it is, or adds an entry at the end. -/
def insertEntry (key : String) (value : α) : List (String × α) → List (String × α)
  | [] => [(key, value)]
  | e :: rest => if e.1 = key then (key, value) :: rest else e :: insertEntry key value rest

/-- The value of the first entry with a key. -/
def valueOf? (key : String) : List (String × α) → Option α
  | [] => none
  | e :: rest => if e.1 = key then some e.2 else valueOf? key rest

theorem map_fst_insertEntry (key : String) (value : α) (es : List (String × α)) :
    (insertEntry key value es).map Prod.fst =
      if key ∈ es.map Prod.fst then es.map Prod.fst else es.map Prod.fst ++ [key] := by
  induction es with
  | nil => simp [insertEntry]
  | cons e rest ih =>
    by_cases h : e.1 = key
    · simp [insertEntry, h]
    · have h' : ¬ key = e.1 := fun hk => h hk.symm
      simp only [insertEntry, h, if_false, List.map_cons, ih, List.mem_cons, h', false_or]
      split <;> simp

theorem nodup_insertEntry {key : String} {value : α} {es : List (String × α)}
    (h : (es.map Prod.fst).Nodup) : ((insertEntry key value es).map Prod.fst).Nodup := by
  rw [map_fst_insertEntry]
  split
  · exact h
  · rename_i hk
    rw [List.nodup_append]
    refine ⟨h, by simp, fun a ha b hb => ?_⟩
    simp only [List.mem_singleton] at hb
    subst hb
    rintro rfl
    exact hk ha

theorem valueOf?_insertEntry (key key' : String) (value : α) (es : List (String × α)) :
    valueOf? key' (insertEntry key value es) =
      if key = key' then some value else valueOf? key' es := by
  induction es with
  | nil => simp [insertEntry, valueOf?]
  | cons e rest ih =>
    by_cases h : e.1 = key
    · subst h
      by_cases hk : e.1 = key' <;> simp [insertEntry, valueOf?, hk]
    · by_cases hk : e.1 = key'
      · have : ¬ key = key' := fun hh => h (hk.trans hh.symm)
        rw [insertEntry, if_neg h, valueOf?, if_pos hk, if_neg this, valueOf?, if_pos hk]
      · simp [insertEntry, valueOf?, h, hk, ih]

theorem valueOf?_filter (p : String → Bool) (key : String) (es : List (String × α)) :
    valueOf? key (es.filter fun e => p e.1) = if p key then valueOf? key es else none := by
  induction es with
  | nil => simp [valueOf?]
  | cons e rest ih =>
    by_cases hp : p e.1 = true
    · by_cases h : e.1 = key
      · subst h
        simp [valueOf?, hp]
      · simp [valueOf?, hp, h, ih]
    · by_cases h : e.1 = key
      · subst h
        simp [hp, ih]
      · simp [valueOf?, hp, h, ih]

theorem mem_of_valueOf? {key : String} {value : α} {es : List (String × α)}
    (h : valueOf? key es = some value) : (key, value) ∈ es := by
  induction es with
  | nil => cases h
  | cons e rest ih =>
    rw [valueOf?] at h
    split at h
    · rename_i hkey
      cases h
      exact hkey ▸ List.mem_cons_self
    · exact List.mem_cons_of_mem e (ih h)

theorem valueOf?_of_mem {es : List (String × α)} (h : (es.map Prod.fst).Nodup) {e : String × α}
    (he : e ∈ es) : valueOf? e.1 es = some e.2 := by
  induction es with
  | nil => cases he
  | cons x rest ih =>
    rw [List.map_cons, List.nodup_cons] at h
    rw [valueOf?]
    rcases List.mem_cons.1 he with rfl | he
    · rw [if_pos rfl]
    · have hne : x.1 ≠ e.1 := fun hx => h.1 (hx ▸ List.mem_map_of_mem he)
      rw [if_neg hne, ih h.2 he]

/-! ## Tables -/

@[ext] theorem ext {s t : OrderedTable α} (h : s.entries = t.entries) : s = t := by
  cases s; cases t; simp_all

instance [DecidableEq α] : DecidableEq (OrderedTable α) := fun s t =>
  if h : s.entries = t.entries then .isTrue (ext h) else .isFalse fun hst => h (by rw [hst])

/-- The table without entries. -/
def empty : OrderedTable α :=
  ⟨[], by simp⟩

instance : Inhabited (OrderedTable α) := ⟨empty⟩

/-- The keys in order. -/
def keys (t : OrderedTable α) : List String :=
  t.entries.map Prod.fst

/-- The value of a key. -/
def find? (t : OrderedTable α) (key : String) : Option α :=
  valueOf? key t.entries

/-- Sets the value of a key: a key that is present keeps its place, a new one comes last. -/
def insert (t : OrderedTable α) (key : String) (value : α) : OrderedTable α :=
  ⟨insertEntry key value t.entries, nodup_insertEntry t.keys_nodup⟩

/-- Removes a key and keeps the order of the others. -/
def erase (t : OrderedTable α) (key : String) : OrderedTable α :=
  ⟨t.entries.filter (·.1 ≠ key), by
    have hsub : (t.entries.filter (·.1 ≠ key)).Sublist t.entries := List.filter_sublist
    exact t.keys_nodup.sublist (hsub.map Prod.fst)⟩

/-- The table of a list of entries; of several values for a key the last one counts. -/
def ofList (es : List (String × α)) : OrderedTable α :=
  es.foldl (fun t e => t.insert e.1 e.2) empty

/-- Changes every value. -/
def mapValues {β : Type} (f : String → α → β) (t : OrderedTable α) : OrderedTable β :=
  ⟨t.entries.map fun e => (e.1, f e.1 e.2), by
    have : (t.entries.map fun e => (e.1, f e.1 e.2)).map Prod.fst = t.entries.map Prod.fst := by
      simp [Function.comp_def]
    rw [this]
    exact t.keys_nodup⟩

theorem find?_of_mem (t : OrderedTable α) {e : String × α} (he : e ∈ t.entries) :
    t.find? e.1 = some e.2 :=
  valueOf?_of_mem t.keys_nodup he

theorem mem_of_find? {t : OrderedTable α} {key : String} {value : α}
    (h : t.find? key = some value) : (key, value) ∈ t.entries :=
  mem_of_valueOf? h

theorem find?_insert (t : OrderedTable α) (key key' : String) (value : α) :
    (t.insert key value).find? key' = if key = key' then some value else t.find? key' :=
  valueOf?_insertEntry key key' value t.entries

theorem find?_erase (t : OrderedTable α) (key key' : String) :
    (t.erase key).find? key' = if key' = key then none else t.find? key' := by
  have h := valueOf?_filter (fun k => decide (k ≠ key)) key' t.entries
  by_cases hk : key' = key
  · simpa [find?, erase, hk] using h
  · simpa [find?, erase, hk] using h

theorem find?_mapValues {β : Type} (f : String → α → β) (t : OrderedTable α) (key : String) :
    (t.mapValues f).find? key = (t.find? key).map (f key) := by
  have haux : ∀ es : List (String × α),
      valueOf? key (es.map fun e => (e.1, f e.1 e.2)) = (valueOf? key es).map (f key) := by
    intro es
    induction es with
    | nil => rfl
    | cons e rest ih =>
      rw [List.map_cons, valueOf?, valueOf?]
      by_cases hkey : e.1 = key
      · simp [hkey]
      · simp [hkey, ih]
  exact haux t.entries

/-- A new key comes last. -/
theorem entries_insert_of_not_mem {t : OrderedTable α} {key : String} (h : key ∉ t.keys)
    (value : α) : (t.insert key value).entries = t.entries ++ [(key, value)] := by
  have haux : ∀ es : List (String × α), key ∉ es.map Prod.fst →
      insertEntry key value es = es ++ [(key, value)] := by
    intro es
    induction es with
    | nil => intro _; rfl
    | cons e rest ih =>
      intro hk
      simp only [List.map_cons, List.mem_cons, not_or] at hk
      have hne : ¬ e.1 = key := fun he => hk.1 he.symm
      simp [insertEntry, hne, ih hk.2]
  exact haux t.entries h

/-- The table of its own entries. -/
theorem ofList_entries (t : OrderedTable α) : ofList t.entries = t := by
  have haux : ∀ (es : List (String × α)) (s : OrderedTable α),
      ((s.entries ++ es).map Prod.fst).Nodup →
      (es.foldl (fun t e => t.insert e.1 e.2) s).entries = s.entries ++ es := by
    intro es
    induction es with
    | nil => intro s _; simp
    | cons e rest ih =>
      intro s hs
      have hnew : e.1 ∉ s.keys := by
        rw [List.map_append, List.nodup_append] at hs
        exact fun he => hs.2.2 e.1 he e.1 (by simp) rfl
      have hinsert : (s.insert e.1 e.2).entries = s.entries ++ [e] :=
        entries_insert_of_not_mem hnew e.2
      rw [List.foldl_cons, ih _ (by rw [hinsert]; simpa using hs), hinsert]
      simp
  exact ext (haux t.entries empty (by simpa [empty] using t.keys_nodup))

end OrderedTable

end CredentialStore
