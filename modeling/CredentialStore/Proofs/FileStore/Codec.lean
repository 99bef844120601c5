import CredentialStore.FileStore.Document
import CredentialStore.Proofs.Lists
import CredentialStore.Proofs.Toml.Statements

/-!
# The credentials file reads back

The text of a document reads back as that document, whatever texts its entries are made of and in
whatever order they stand. The statements of the text are known from `Toml.readStatements_blocks`;
here the tables that they build are followed: a table for all entries, made by the header of the
first one, and in it one table for each entry.

Main statements:

* `Builder.run_tables` — headers and lines build tables in order;
* `Entry.ofToml?_toLines` — the written fields of an entry tell the entry;
* `Document.parse?_write` — the text of a document reads back as that document.
-/

namespace CredentialStore.Toml

/-! ## Tables under construction -/

namespace Node

/-- The entries of lines. -/
def ofLines (lines : List (String × Leaf)) : Entries :=
  lines.map fun (key, l) => (key, .value l.toToml)

/-- The entries of tables of lines. -/
def ofTables (tables : List (String × List (String × Leaf))) : Entries :=
  tables.map fun (name, lines) => (name, .table false false (ofLines lines))

theorem find?_eq_none_iff {key : String} {es : Entries} :
    find? key es = none ↔ key ∉ es.map Prod.fst := by
  rw [find?, Option.map_eq_none_iff, List.find?_eq_none]
  simp only [beq_iff_eq, List.mem_map, not_exists, not_and]

theorem find?_last {key : String} {es : Entries} (h : find? key es = none) (node : Node) :
    find? key (es ++ [(key, node)]) = some node := by
  rw [find?, Option.map_eq_none_iff] at h
  simp [find?, List.find?_append, h]

theorem replace_last {key : String} {es : Entries} (h : find? key es = none) (node node' : Node) :
    replace key node' (es ++ [(key, node)]) = es ++ [(key, node')] := by
  -- no other entry has the key
  have hes : es.map (fun e => if e.1 == key then (key, node') else e) = es := by
    have hsame : ∀ e ∈ es, (if e.1 == key then (key, node') else e) = e := fun e he => by
      have hne : e.1 ≠ key := fun hk =>
        find?_eq_none_iff.1 h (hk ▸ List.mem_map_of_mem he)
      simp [hne]
    exact (List.map_congr_left hsame).trans (List.map_id _)
  rw [replace, List.map_append, hes]
  simp

/-- A header goes into the last table by its name. -/
theorem update_last {key : String} {es : Entries} (h : find? key es = none)
    (change : Bool → Entries → Option Entries) (isDotted implicit wasDotted : Bool)
    (path : List String) (sub : Entries) :
    update false change isDotted (key :: path) (es ++ [(key, .table implicit wasDotted sub)]) =
      (update false change wasDotted path sub).map fun sub =>
        es ++ [(key, .table implicit wasDotted sub)] := by
  rw [update, find?_last h]
  dsimp only
  rw [if_neg (by simp)]
  cases update false change wasDotted path sub with
  | none => rfl
  | some sub' => exact congrArg some (replace_last h _ _)

theorem assign_single {key : String} {es : Entries} (h : find? key es = none) (v : Toml) :
    assign [key] v es = some (es ++ [(key, .value v)]) := by
  rw [assign]
  simp [update, putNew, h]

end Node

namespace Builder

open Node

/-- The root with the tables of a key behind some values; there is no table before its first one. -/
def rootOf (base : Entries) (key : String) (tables : Entries) : Entries :=
  if tables.isEmpty then base else base ++ [(key, .table true false tables)]

/-- Takes statements one after the other. -/
def run (b : Builder) (ss : List Statement) : Option Builder :=
  ss.foldlM Builder.step b

theorem run_append (b : Builder) (ss ts : List Statement) :
    b.run (ss ++ ts) = (b.run ss).bind (·.run ts) := by
  simp [run, List.foldlM_append]

theorem run_cons {b b' : Builder} {s : Statement} (h : b.step s = some b') (ss : List Statement) :
    b.run (s :: ss) = b'.run ss := by
  simp [run, h]

variable {base : Entries} {key : String} (hkey : find? key base = none)

include hkey

/-- The header of a new table adds it behind the others. -/
theorem step_header {tables : Entries} {name : String} (hname : find? name tables = none)
    (header : List String) :
    (Builder.mk (rootOf base key tables) header).step (.table [key, name]) =
      some ⟨rootOf base key (tables ++ [(name, .table false false [])]), [key, name]⟩ := by
  have hopen : openTable [key, name] (rootOf base key tables) =
      some (rootOf base key (tables ++ [(name, .table false false [])])) := by
    rw [openTable]
    simp only [List.getLast?_cons_cons, List.getLast?_singleton, List.dropLast_cons_cons,
      List.dropLast_singleton]
    -- the first header makes the table for all entries as well
    cases tables with
    | nil =>
      have hroot : rootOf base key [] = base := rfl
      rw [hroot, update, hkey]
      rfl
    | cons t ts =>
      have hroot : ∀ us : Entries, rootOf base key (t :: us) =
          base ++ [(key, .table true false (t :: us))] := fun _ => rfl
      rw [hroot, update_last hkey, update]
      simp only [hname, Option.map_some, List.cons_append, hroot]
  rw [step, hopen]
  rfl

/-- A line adds its value to the last table. -/
theorem step_line {tables : Entries} {name : String} (hname : find? name tables = none)
    {fields : Entries} {field : String} (hfield : find? field fields = none) (v : Toml) :
    (Builder.mk (rootOf base key (tables ++ [(name, .table false false fields)]))
        [key, name]).step (.value [field] v) =
      some ⟨rootOf base key (tables ++ [(name, .table false false (fields ++ [(field, .value v)]))]),
        [key, name]⟩ := by
  -- the table for all entries is there, since it has the last one in it
  have hroot : ∀ fs : Entries, rootOf base key (tables ++ [(name, .table false false fs)]) =
      base ++ [(key, .table true false (tables ++ [(name, .table false false fs)]))] := fun fs => by
    rw [rootOf, if_neg (by simp)]
  rw [step, assignUnder, hroot, update_last hkey, update_last hname, update, assign_single hfield]
  simp [hroot]

theorem run_lines {tables : Entries} {name : String} (hname : find? name tables = none)
    (lines : List (String × Leaf)) (fields : Entries)
    (hnodup : (fields.map Prod.fst ++ lines.map Prod.fst).Nodup) :
    (Builder.mk (rootOf base key (tables ++ [(name, .table false false fields)]))
        [key, name]).run (lines.map fun (key, l) => .value [key] l.toToml) =
      some ⟨rootOf base key (tables ++ [(name, .table false false (fields ++ ofLines lines))]),
        [key, name]⟩ := by
  induction lines generalizing fields with
  | nil => simp [run, ofLines]
  | cons e lines ih =>
    have hfield : find? e.1 fields = none := find?_eq_none_iff.2 fun he =>
      (List.nodup_append.1 hnodup).2.2 e.1 he e.1 (by simp) rfl
    rw [List.map_cons, run_cons (step_line hkey hname hfield _), ih]
    · simp [ofLines]
    · simpa using hnodup

/-- The blocks of tables build them in order. -/
theorem run_tables (tables done : List (String × List (String × Leaf))) (header : List String)
    (hnames : ((done ++ tables).map Prod.fst).Nodup)
    (hlines : ∀ t ∈ tables, (t.2.map Prod.fst).Nodup) :
    ∃ header', (Builder.mk (rootOf base key (ofTables done)) header).run
        (tables.flatMap fun (name, lines) => (Block.mk (some [key, name]) lines).statements) =
      some ⟨rootOf base key (ofTables (done ++ tables)), header'⟩ := by
  induction tables generalizing done header with
  | nil => exact ⟨header, by simp [run]⟩
  | cons t tables ih =>
    -- the names differ, so that no table is opened twice
    have hname : find? t.1 (ofTables done) = none := find?_eq_none_iff.2 fun ht => by
      have hmap : (ofTables done).map Prod.fst = done.map Prod.fst := by
        simp [ofTables, Function.comp_def]
      rw [List.map_append, List.nodup_append] at hnames
      exact hnames.2.2 t.1 (hmap ▸ ht) t.1 (by simp) rfl
    have hrun := run_lines hkey hname t.2 [] (by simpa using hlines t (by simp))
    obtain ⟨header', hrest⟩ := ih (done ++ [t]) [key, t.1] (by simpa using hnames)
      fun u hu => hlines u (by simp [hu])
    refine ⟨header', ?_⟩
    have htables : ofTables (done ++ [t]) =
        ofTables done ++ [(t.1, .table false false (ofLines t.2))] := by simp [ofTables]
    rw [List.flatMap_cons, run_append]
    simp only [Block.statements, Option.map_some, Option.toList_some, List.singleton_append]
    rw [run_cons (step_header hkey hname header), hrun, Option.bind_some, List.nil_append, ← htables]
    simpa [Block.statements] using hrest

omit hkey

end Builder

namespace Node

theorem entriesToToml_append (es fs : Entries) :
    entriesToToml (es ++ fs) = entriesToToml es ++ entriesToToml fs := by
  induction es with
  | nil => rfl
  | cons e es ih =>
    obtain ⟨key, node⟩ := e
    rw [List.cons_append, entriesToToml, entriesToToml, ih, List.cons_append]

theorem entriesToToml_ofLines (lines : List (String × Leaf)) :
    entriesToToml (ofLines lines) = lines.map fun (key, l) => (key, l.toToml) := by
  induction lines with
  | nil => rfl
  | cons e lines ih =>
    show entriesToToml ((e.1, .value e.2.toToml) :: ofLines lines) = _
    rw [entriesToToml, ih, toToml]
    rfl

theorem entriesToToml_ofTables (tables : List (String × List (String × Leaf))) :
    entriesToToml (ofTables tables) = tables.map fun (name, lines) =>
      (name, .table (lines.map fun (key, l) => (key, l.toToml))) := by
  induction tables with
  | nil => rfl
  | cons t tables ih =>
    show entriesToToml ((t.1, .table false false (ofLines t.2)) :: ofTables tables) = _
    rw [entriesToToml, ih, toToml, entriesToToml_ofLines]
    rfl

end Node

/-! ## Fields -/

@[simp] theorem field?_append (es fs : List (String × Toml)) (name : String) :
    field? (es ++ fs) name = (field? es name).or (field? fs name) := by
  rw [field?, List.find?_append, field?, field?]
  cases es.find? (·.1 == name) <;> rfl

@[simp] theorem field?_cons (key : String) (v : Toml) (es : List (String × Toml)) (name : String) :
    field? ((key, v) :: es) name = if key = name then some v else field? es name := by
  rw [field?, List.find?_cons]
  by_cases h : key = name
  · simp [h]
  · have hne : (key == name) = false := by simpa using h
    simp [hne, h, field?]

@[simp] theorem field?_nil (name : String) : field? [] name = none := rfl

/-- A table has the keys under which something is found in it. -/
theorem mem_keys_iff {fields : List (String × Toml)} {key : String} :
    key ∈ fields.map Prod.fst ↔ (field? fields key).isSome = true := by
  rw [field?, Option.isSome_map, List.find?_isSome]
  simp only [List.mem_map, beq_iff_eq]

theorem field?_map_table {α : Type} (g : α → Toml) (es : List (String × α)) (name : String) :
    field? (es.map fun e => (e.1, g e.2)) name = (OrderedTable.valueOf? name es).map g := by
  induction es with
  | nil => rfl
  | cons e rest ih =>
    rw [List.map_cons, field?_cons, OrderedTable.valueOf?, ih]
    split <;> rfl

end CredentialStore.Toml

namespace CredentialStore.FileStore

open Toml

/-! ## Entries -/

namespace Entry

/-- The written fields of an entry as they are read. -/
def values (e : Entry) : List (String × Toml) :=
  e.toLines.map fun (key, l) => (key, l.toToml)

@[simp] theorem toToml_text (s : String) : (Leaf.text s).toToml = .string s := rfl

@[simp] theorem toToml_number (n : Nat) : (Leaf.number n).toToml = .integer n := rfl

/-- The values of a field that is left out if it is empty. -/
@[simp] theorem field?_ifPresent (key value name : String) :
    field? ((ifPresent key value).map fun (key, l) => (key, l.toToml)) name =
      if key = name ∧ value ≠ "" then some (.string value) else none := by
  unfold ifPresent
  by_cases hv : value = ""
  · simp [hv]
  · by_cases hk : key = name <;> simp [hv, hk]

@[simp] theorem field?_choice {α : Type} (key name : String) (text : α → String) (a : Option α) :
    field? (((a.map fun t => (key, Leaf.text (text t))).toList).map fun (key, l) =>
      (key, l.toToml)) name = if key = name then a.map fun t => .string (text t) else none := by
  cases a with
  | none => simp
  | some t => simp

/-- A text that is left out is empty. -/
theorem text?_of_field? {fields : List (String × Toml)} {name value : String}
    (h : field? fields name = some (.string value) ∨ value = "" ∧ field? fields name = none) :
    text? fields name = some value := by
  rcases h with h | ⟨rfl, h⟩
  · rw [text?, h]
    rfl
  · rw [text?, h]

theorem optionalChoice?_of_field? {α : Type} {text : α → String} {ofText? : String → Option α}
    (hround : ∀ t, ofText? (text t) = some t) {fields : List (String × Toml)} {name : String}
    {a : Option α} (h : field? fields name = a.map fun t => .string (text t)) :
    optionalChoice? ofText? fields name = some a := by
  rw [optionalChoice?, h]
  cases a with
  | none => rfl
  | some t => simp [choice?, hround]

/-- The fields whose values are texts of any kind. -/
def texts (e : Entry) : List (String × String) :=
  [("guid", e.guid), ("url", e.url), ("api_key", e.apiKey), ("token", e.token),
    ("private_key", e.privateKey), ("snowflake_connection", e.snowflakeConnection),
    ("account_id", e.accountId), ("account_name", e.accountName),
    ("refresh_token", e.refreshToken), ("access_token", e.accessToken)]

/-- Each text is found under its name, or is empty and was left out. -/
theorem text?_values (e : Entry) : ∀ m ∈ e.texts, text? e.values m.1 = some m.2 := by
  have hfield : ∀ m ∈ e.texts, field? e.values m.1 = some (.string m.2) ∨
      m.2 = "" ∧ field? e.values m.1 = none := by
    simp [texts, values, toLines, Decidable.not_or_self]
  exact fun m hm => text?_of_field? (hfield m hm)

/-- The written fields of an entry tell the entry; a version fits into thirty-two bits. -/
theorem ofToml?_toLines {e : Entry} (hversion : e.version < 0x100000000) :
    ofToml? (.table e.values) = some e := by
  have hfields : Toml.fields? fieldNames (.table e.values) = some e.values := rfl
  have hnumber : number? e.values "version" = some e.version := by
    have hfield : field? e.values "version" = some (.integer e.version) := by
      simp [values, toLines]
    rw [number?, hfield]
    exact if_pos hversion
  have htype : optionalChoice? ServerType.ofText? e.values "server_type" = some e.serverType :=
    optionalChoice?_of_field? ServerType.ofText?_text (by simp [values, toLines])
  have hcloud : optionalChoice? CloudEnvironment.ofText? e.values "cloud_environment" =
      some e.cloudEnvironment :=
    optionalChoice?_of_field? CloudEnvironment.ofText?_text (by simp [values, toLines])
  have htexts := e.text?_values
  simp only [texts, List.forall_mem_cons] at htexts
  obtain ⟨hguid, hurl, hkey, htoken, hprivate, hsnowflake, haccount, haccountName, hrefresh, haccess,
    -⟩ := htexts
  unfold ofToml?
  rw [hfields]
  dsimp only [Option.bind_eq_bind, Option.bind_some, Option.pure_def]
  simp only [↓Option.bind_eq_some_iff]
  exact ⟨_, hguid, _, hnumber, _, htype, _, hurl, _, hkey, _, htoken, _, hprivate, _, hsnowflake,
    _, haccount, _, haccountName, _, hrefresh, _, haccess, _, hcloud, rfl⟩

/-- Fields are left out, but their order is that of the table of names. -/
theorem sublist_toLines (e : Entry) : (e.toLines.map Prod.fst).Sublist fieldNames := by
  have hpresent : ∀ key value, ((ifPresent key value).map Prod.fst).Sublist [key] := by
    intro key value
    unfold ifPresent
    split <;> simp
  have hchoice : ∀ {α : Type} (key : String) (text : α → String) (a : Option α),
      ((a.map fun t => (key, Leaf.text (text t))).toList.map Prod.fst).Sublist [key] := by
    intro α key text a
    cases a <;> simp
  simp only [toLines, List.map_append]
  exact (((((((((((List.Sublist.refl ["guid", "version"]).append
    (hchoice "server_type" ServerType.text e.serverType)).append
    (List.Sublist.refl ["url"])).append (hpresent "api_key" _)).append
    (hpresent "token" _)).append (hpresent "private_key" _)).append
    (hpresent "snowflake_connection" _)).append (hpresent "account_id" _)).append
    (hpresent "account_name" _)).append (hpresent "refresh_token" _)).append
    (hpresent "access_token" _)).append
    (hchoice "cloud_environment" CloudEnvironment.text e.cloudEnvironment)

/-- The lines of an entry have different keys. -/
theorem nodup_toLines (e : Entry) : (e.toLines.map Prod.fst).Nodup :=
  List.Nodup.sublist e.sublist_toLines (by decide)

theorem fits_toLines {e : Entry} (hversion : e.version < 0x100000000) :
    ∀ entry ∈ e.toLines, entry.2.Fits := by
  have hpresent : ∀ key value, ∀ entry ∈ ifPresent key value, entry.2.Fits := by
    intro key value entry h
    unfold ifPresent at h
    split at h
    · cases h
    · rw [List.mem_singleton] at h
      exact h ▸ trivial
  have hchoice : ∀ {α : Type} (key : String) (text : α → String) (a : Option α),
      ∀ entry ∈ (a.map fun t => (key, Leaf.text (text t))).toList, entry.2.Fits := by
    intro α key text a entry h
    cases a with
    | none => cases h
    | some t =>
      rw [Option.map_some, Option.toList_some, List.mem_singleton] at h
      exact h ▸ trivial
  intro entry h
  simp only [toLines, List.mem_append, List.mem_cons, List.not_mem_nil, or_false] at h
  rcases h with (((((((((((rfl | rfl) | h) | rfl) | h) | h) | h) | h) | h) | h) | h) | h) | h
  · trivial
  · show e.version < 0x8000000000000000
    omega
  · exact hchoice _ _ _ entry h
  · trivial
  all_goals first
    | exact hpresent _ _ entry h
    | exact hchoice _ _ _ entry h

end Entry

/-! ## Documents -/

namespace Document

/-- Whether a document reads back: each version fits into thirty-two bits. -/
def Fits (d : Document) : Prop :=
  ∀ e ∈ d.credentials.entries, e.2.version < 0x100000000

/-- The lines of the entries by their names. -/
def tables (d : Document) : List (String × List (String × Leaf)) :=
  d.credentials.entries.map fun (name, e) => (name, e.toLines)

/-- The line in front of the tables. -/
def top (d : Document) : List (String × Leaf) :=
  (d.defaultServer.map fun guid => (defaultKey, Leaf.text guid)).toList

/-- The blocks of a document. -/
def blocks (d : Document) : List Block :=
  (d.defaultServer.map fun guid => Block.mk none [(defaultKey, .text guid)]).toList ++
    if d.credentials.entries.isEmpty then [⟨some [credentialsKey], []⟩]
    else d.tables.map fun (name, lines) => ⟨some [credentialsKey, name], lines⟩

theorem write_eq (d : Document) :
    d.write = String.ofList (['\n'].intercalate (d.blocks.map Block.write)) := by
  -- a document without entries still has the header of their table
  have hparts : (d.defaultServer.map fun guid => writeLine (defaultKey, .text guid)).toList ++
      (if (d.credentials.entries.map fun (name, e) =>
          writeTable [credentialsKey, name] e.toLines).isEmpty then
        [writeTable [credentialsKey] []]
      else d.credentials.entries.map fun (name, e) =>
        writeTable [credentialsKey, name] e.toLines) = d.blocks.map Block.write := by
    rw [blocks, List.map_append]
    congr 1
    · cases d.defaultServer <;> simp [Block.write]
    · cases hentries : d.credentials.entries <;>
        simp [hentries, tables, Block.write, writeTable, Function.comp_def]
  rw [write, writeParts]
  exact congrArg (fun parts => String.ofList (['\n'].intercalate parts)) hparts

/-- The blocks of a document: the line in front, the header of no entries, or an entry. -/
theorem of_mem_blocks {d : Document} {b : Block} (hb : b ∈ d.blocks) :
    (∃ guid, b = ⟨none, [(defaultKey, .text guid)]⟩) ∨ b = ⟨some [credentialsKey], []⟩ ∨
      ∃ e ∈ d.credentials.entries, b = ⟨some [credentialsKey, e.1], e.2.toLines⟩ := by
  rw [blocks, List.mem_append] at hb
  rcases hb with hb | hb
  · cases hdefault : d.defaultServer with
    | none => simp [hdefault] at hb
    | some guid =>
      simp only [hdefault, Option.map_some, Option.toList_some, List.mem_singleton] at hb
      exact .inl ⟨guid, hb⟩
  · split at hb
    · exact .inr (.inl (List.mem_singleton.1 hb))
    · simp only [tables, List.map_map, List.mem_map, Function.comp_apply] at hb
      obtain ⟨e, he, rfl⟩ := hb
      exact .inr (.inr ⟨e, he, rfl⟩)

theorem fits_blocks {d : Document} (h : d.Fits) : ∀ b ∈ d.blocks, b.Fits := by
  intro b hb
  rcases of_mem_blocks hb with ⟨guid, rfl⟩ | rfl | ⟨e, he, rfl⟩
  · exact ⟨fun entry he => by rw [List.mem_singleton.1 he]; trivial, fun path hp => by cases hp⟩
  · exact ⟨fun _ he => (List.not_mem_nil he).elim, fun path hp => by
      cases hp
      exact ⟨by simp, by decide⟩⟩
  · exact ⟨Entry.fits_toLines (h e he), fun path hp => by
      cases hp
      exact ⟨by simp, by simp [depthLimit]⟩⟩

/-- The text of a document starts with no mark of the byte order. -/
theorem head?_write (d : Document) : d.write.toList.head? ≠ some '\ufeff' := by
  have hblock : ∀ b ∈ d.blocks, ∀ rest, (b.write ++ rest).head? ≠ some '\ufeff' := by
    intro b hb rest
    rcases of_mem_blocks hb with ⟨guid, rfl⟩ | rfl | ⟨e, -, rfl⟩
    · obtain ⟨c, cs, hkey, hc⟩ := exists_writeKey_eq_cons defaultKey.toList
      have hne : c ≠ '\ufeff' := hc.ne (by decide) (by decide) (by decide)
      simp [Block.write, writeLine, hkey, hne]
    · simp [Block.write, writeHeader]
    · simp [Block.write, writeHeader]
  rw [write_eq, String.toList_ofList]
  cases hblocks : d.blocks with
  | nil => simp
  | cons b bs =>
    have hb := hblock b (by simp [hblocks])
    cases bs with
    | nil => simpa using hb []
    | cons b' bs =>
      rw [List.map_cons, List.map_cons, List.intercalate_cons_cons, List.append_assoc]
      exact hb _

/-- The values at the front of a document. -/
def topValues (d : Document) : List (String × Toml) :=
  d.top.map fun (key, l) => (key, l.toToml)

/-- The values of a document. -/
def values (d : Document) : List (String × Toml) :=
  d.topValues ++
    [(credentialsKey, .table (d.credentials.entries.map fun (name, e) => (name, .table e.values)))]

/-- The line in front of the tables puts its value into the root. -/
theorem run_top (d : Document) :
    (Builder.mk [] []).run
      ((d.defaultServer.map fun guid => Block.mk none [(defaultKey, .text guid)]).toList.flatMap
        Block.statements) = some ⟨Node.ofLines d.top, []⟩ := by
  cases hdefault : d.defaultServer with
  | none => simp [Builder.run, top, hdefault, Node.ofLines]
  | some guid =>
    have hassign : Node.assignUnder [] [defaultKey] (.string guid) [] =
        some [(defaultKey, .value (.string guid))] := rfl
    simp [Builder.run, top, hdefault, Node.ofLines, Block.statements, Builder.step, hassign,
      Leaf.toToml]

/-- It has another key than the table for all entries. -/
theorem find?_top (d : Document) : Node.find? credentialsKey (Node.ofLines d.top) = none := by
  rw [Node.find?_eq_none_iff]
  cases hdefault : d.defaultServer with
  | none => simp [top, hdefault, Node.ofLines]
  | some guid => simp [top, hdefault, Node.ofLines, credentialsKey, defaultKey]

/-- The statements of a document build its values. -/
theorem run_statements (d : Document) :
    ∃ b, (Builder.mk [] []).run (d.blocks.flatMap Block.statements) = some b ∧
      Node.entriesToToml b.root = d.values := by
  have hkey := d.find?_top
  have hvalues : Node.entriesToToml (Node.ofLines d.top) = d.topValues :=
    Node.entriesToToml_ofLines d.top
  rw [blocks, List.flatMap_append, Builder.run_append, run_top, Option.bind_some]
  cases hentries : d.credentials.entries with
  | nil =>
    have hopen : Node.openTable [credentialsKey] (Node.ofLines d.top) =
        some (Node.ofLines d.top ++ [(credentialsKey, .table false false [])]) := by
      simp [Node.openTable, Node.update, hkey]
    refine ⟨⟨Node.ofLines d.top ++ [(credentialsKey, .table false false [])],
      [credentialsKey]⟩, ?_, ?_⟩
    · simp [Builder.run, Block.statements, Builder.step, hopen]
    · rw [Node.entriesToToml_append, hvalues, values, hentries]
      rfl
  | cons e es =>
    have htables : d.tables = (e.1, e.2.toLines) :: es.map fun (name, e) => (name, e.toLines) := by
      simp [tables, hentries]
    have hnames : (d.tables.map Prod.fst).Nodup := by
      have h := d.credentials.keys_nodup
      simpa [tables, Function.comp_def] using h
    have hlines : ∀ t ∈ d.tables, (t.2.map Prod.fst).Nodup := by
      intro t ht
      simp only [tables, List.mem_map] at ht
      obtain ⟨x, -, rfl⟩ := ht
      exact x.2.nodup_toLines
    obtain ⟨header, hrun⟩ := Builder.run_tables hkey d.tables [] [] hnames hlines
    refine ⟨⟨Builder.rootOf (Node.ofLines d.top) credentialsKey (Node.ofTables ([] ++ d.tables)),
      header⟩, ?_, ?_⟩
    · rw [if_neg (by simp), List.flatMap_map]
      exact hrun
    · have hroot : Builder.rootOf (Node.ofLines d.top) credentialsKey
          (Node.ofTables ([] ++ d.tables)) =
          Node.ofLines d.top ++ [(credentialsKey, .table true false (Node.ofTables d.tables))] := by
        rw [Builder.rootOf, if_neg (by simp [Node.ofTables, htables])]
        rfl
      rw [hroot, Node.entriesToToml_append, hvalues, values]
      have htable : Node.entriesToToml (Node.ofTables d.tables) =
          d.credentials.entries.map fun (name, e) => (name, .table e.values) := by
        rw [Node.entriesToToml_ofTables, tables, List.map_map]
        rfl
      rw [Node.entriesToToml, Node.toToml, htable]
      rfl

/-- The text of a document is read as its values. -/
theorem read?_write {d : Document} (h : d.Fits) : Toml.read? d.write = some d.values := by
  obtain ⟨b, hrun, hvalues⟩ := run_statements d
  have hstatements := readStatements_blocks d.blocks (fits_blocks h)
  -- the text is scanned and its statements are run from an empty root
  rw [← String.toList_ofList (l := ['\n'].intercalate _), ← write_eq] at hstatements
  rw [Toml.read?]
  split
  · rename_i hx
    exact absurd (by rw [hx]; rfl) d.head?_write
  · simp only [hstatements, Option.bind_eq_bind, Option.bind_some]
    rw [show (d.blocks.flatMap Block.statements).foldlM Builder.step ⟨[], []⟩ = some b from hrun,
      Option.bind_some, hvalues]
    rfl

/-- The table of all entries. -/
theorem field?_values_credentials (d : Document) :
    field? d.values credentialsKey =
      some (.table (d.credentials.entries.map fun (name, e) => (name, .table e.values))) := by
  cases hguid : d.defaultServer with
  | none => simp [values, topValues, top, hguid]
  | some guid => simp [values, topValues, top, hguid, credentialsKey, defaultKey]

/-- The text of a document reads back as that document. -/
theorem parse?_write {d : Document} (h : d.Fits) : parse? d.write = some d := by
  have hdefault : field? d.values defaultKey = d.defaultServer.map .string := by
    cases hguid : d.defaultServer with
    | none => simp [values, topValues, top, hguid, credentialsKey, defaultKey]
    | some guid => simp [values, topValues, top, hguid, Leaf.toToml]
  have hentries : entriesOf?
      (.table (d.credentials.entries.map fun (name, e) => (name, .table e.values))) =
        some d.credentials := by
    rw [entriesOf?, mapM_map_of_forall fun e he => ?_]
    · exact congrArg some d.credentials.ofList_entries
    · exact congrArg (Option.map (Prod.mk e.1)) (Entry.ofToml?_toLines (h e he))
  rw [parse?, read?_write h]
  simp only [Option.bind_eq_bind, Option.bind_some, hdefault, d.field?_values_credentials, hentries]
  cases d with
  | mk defaultServer credentials => cases defaultServer <;> rfl

/-- What is read of a written document: its versions are checked, its URLs brought into their normal
form. -/
theorem load_write {d : Document} (h : d.Fits) (path : String) :
    load path d.write = do
      d.checkVersions
      return d.normalized := by
  rw [load, parse?_write h]

end Document

end CredentialStore.FileStore
