import CredentialStore.CommandLine.Run
import CredentialStore.Proofs.FileStore.Secrecy

/-!
# What the program tells of secrets

Without the option that shows them, the program tells of a secret whether there is one, and nothing
else. Two sequences of calls that differ in secrets alone, on files that differ in secrets alone,
have the same exit codes and print the same on both streams, for as long as they go on. The disks
have room for all that is written.

Main statements:

* `corresponds_runOn` — one command on two files that are alike;
* `run_alike` — one call of the program: the same report, and files that are alike again;
* `reports_eq` — sequences of calls.
-/

namespace CredentialStore

open Op (AnswersBy Corresponds)

/-! ## Sites that use a file -/

/-- Both sites keep their credentials in a file, at the same path, on disks that are alike. -/
structure AlikeSites (s t : Site) : Prop where
  backend_eq : s.config.backend = .file
  config_eq : s.config = t.config
  home_eq : s.home = t.home
  migration_eq : s.migration = t.migration
  disk : FileStore.AlikeDisks s.disk t.disk

namespace Site

variable {α β : Type} {Q : α → β → Prop} {x : Op Disk α} {y : Op Disk β} {s t : Site}

theorem filePath_eq (h : AlikeSites s t) : s.filePath = t.filePath := by
  rw [filePath, filePath, h.config_eq, h.home_eq]

/-- What corresponds on disks that are alike corresponds on the sites. -/
theorem corresponds_zoom (h : Corresponds FileStore.AlikeDisks Q x y) :
    Corresponds AlikeSites Q (Op.zoom disk (fun s d => { s with disk := d }) x)
      (Op.zoom disk (fun s d => { s with disk := d }) y) :=
  h.zoom (fun hst => hst.disk)
    fun hst hd => ⟨hst.backend_eq, hst.config_eq, hst.home_eq, hst.migration_eq, hd⟩

theorem corresponds_choose :
    Corresponds AlikeSites (fun p q => p = .file ∧ q = .file) choose choose := by
  -- no keyring is tried out
  refine .bind_state fun s t h => ?_
  rw [if_pos h.backend_eq, if_pos (h.config_eq ▸ h.backend_eq)]
  exact .pure ⟨rfl, rfl⟩

theorem corresponds_settleMigration :
    Corresponds AlikeSites Eq (settleMigration (pure .notNeeded))
      (settleMigration (pure .notNeeded)) := by
  refine .bind_state fun s t h => ?_
  rw [h.migration_eq]
  split
  · exact .pure rfl
  · refine (Corresponds.pure (Q := Eq) rfl).bind fun m m' hm => .bind_state fun s t h => ?_
    refine (Corresponds.setState ?_).bind fun _ _ _ => .pure hm
    exact ⟨h.backend_eq, h.config_eq, h.home_eq, hm, h.disk⟩

/-- A site that uses a file opens it. -/
theorem corresponds_openStore (fresh : Nat → String) :
    Corresponds AlikeSites (fun o o' => o = o' ∧ o.place = .file) (openStore fresh)
      (openStore fresh) := by
  refine corresponds_choose.bind ?_
  rintro _ _ ⟨rfl, rfl⟩
  refine .bind_state fun s t h => ?_
  rw [filePath_eq h]
  refine (corresponds_zoom (FileStore.corresponds_setUp t.filePath)).bind fun _ _ _ => ?_
  refine corresponds_settleMigration.bind fun m m' hm => .pure ?_
  rw [hm]
  exact ⟨rfl, rfl⟩

theorem corresponds_reset : Corresponds AlikeSites Eq reset reset := by
  refine corresponds_choose.bind ?_
  rintro _ _ ⟨rfl, rfl⟩
  refine .bind_state fun s t h => ?_
  refine Corresponds.bind (Q := Eq) ?_ fun outcome outcome' houtcome => .pure houtcome
  rw [service, service, filePath_eq h]
  exact corresponds_zoom (FileStore.corresponds_reset t.filePath)

end Site

namespace CommandLine

/-! ## Calls that differ in secrets -/

/-- The commands are the same, but for the secrets of a new credential. -/
inductive Command.EqUpToSecrets : Command → Command → Prop where
  | same (command : Command) : EqUpToSecrets command command
  | add {details details' : Details} (h : details.EqUpToSecrets details') (force : Bool) :
    EqUpToSecrets (.add details force) (.add details' force)

/-- The invocations are the same, but for the secrets of a new credential. -/
structure Invocation.EqUpToSecrets (i j : Invocation) : Prop where
  backend_eq : i.backend = j.backend
  file_eq : i.file = j.file
  showSecrets_eq : i.showSecrets = j.showSecrets
  command : i.command.EqUpToSecrets j.command

theorem Invocation.EqUpToSecrets.config_eq {i j : Invocation} (h : i.EqUpToSecrets j) :
    i.config = j.config := by
  rw [config, config, h.backend_eq, h.file_eq]

/-- A call of the program: the variables, the arguments, and the identifier for a new credential. -/
structure Call where
  lookup : String → Option String
  args : List String
  fresh : String

/-- The reports of calls, one after the other on one site. -/
def reports : List Call → Site → List Report
  | [], _ => []
  | call :: rest, site =>
    let outcome := run call.lookup call.args call.fresh site
    outcome.1 :: reports rest outcome.2

/-- Both calls are understood, and ask for the same of the credentials in a file, without showing
secrets; only the secrets of a new credential differ. -/
structure Call.EqUpToSecrets (call call' : Call) : Prop where
  fresh_eq : call.fresh = call'.fresh
  exists_invocations : ∃ i j, readRequest call.lookup call.args = .run i ∧
    readRequest call'.lookup call'.args = .run j ∧ i.EqUpToSecrets j ∧ i.showSecrets = false ∧
      i.config.backend = .file

/-! ## Running commands -/

variable {i j : Invocation} {c d : Credential} {cs ds : List Credential}

/-- Without secrets, what is printed is the same. -/
theorem printed_eq (h : c.EqUpToSecrets d) : printed false c = printed false d := by
  show c.redacted.toJson = d.redacted.toJson
  rw [h.redacted_eq]

theorem map_printed_eq (h : List.Forall₂ Credential.EqUpToSecrets cs ds) :
    cs.map (printed false) = ds.map (printed false) := by
  induction h with
  | nil => rfl
  | cons hhead _ ih => rw [List.map_cons, List.map_cons, printed_eq hhead, ih]

/-- A credential that is stored is printed alike. -/
theorem corresponds_add {details details' : Details} (h : details.EqUpToSecrets details')
    (path fresh : String) (force : Bool) :
    let service := (FileStore.service path).zoom Site.disk fun s d => { s with disk := d }
    Corresponds AlikeSites Eq
      (do
        let c ← if force then service.forceSet fresh details else service.set fresh details
        return printed false c)
      (do
        let c ← if force then service.forceSet fresh details' else service.set fresh details'
        return printed false c) := by
  cases force with
  | false =>
    exact (Site.corresponds_zoom (FileStore.corresponds_set path fresh h)).bind
      fun _ _ hc => .pure (printed_eq hc)
  | true =>
    exact (Site.corresponds_zoom (FileStore.corresponds_forceSet path fresh h)).bind
      fun _ _ hc => .pure (printed_eq hc)

/-- One command on the files of two sites. -/
theorem corresponds_runOn (h : i.EqUpToSecrets j) (hshow : i.showSecrets = false)
    (path fresh : String) :
    Corresponds AlikeSites Eq
      (runOn i ((FileStore.service path).zoom Site.disk fun s d => { s with disk := d }) fresh)
      (runOn j ((FileStore.service path).zoom Site.disk fun s d => { s with disk := d }) fresh) := by
  have hshow' : j.showSecrets = false := h.showSecrets_eq ▸ hshow
  have hcommand := h.command
  rw [runOn, runOn, hshow, hshow', h.config_eq]
  generalize i.command = command at hcommand
  generalize j.command = command' at hcommand
  cases hcommand with
  | add hdetails force => exact corresponds_add hdetails path fresh force
  | same command =>
    cases command with
    | list =>
      refine (Site.corresponds_zoom (FileStore.corresponds_list path)).bind fun cs ds hcs => .pure ?_
      rw [map_printed_eq hcs]
    | get guid =>
      exact (Site.corresponds_zoom (FileStore.corresponds_get path guid)).bind
        fun c d hc => .pure (printed_eq hc)
    | add details force => exact corresponds_add (.refl details) path fresh force
    | delete guid =>
      exact (Site.corresponds_zoom (FileStore.corresponds_delete path guid)).bind
        fun _ _ _ => .pure rfl
    | default action =>
      cases action with
      | display =>
        refine (Site.corresponds_zoom (FileStore.corresponds_defaultServer path)).bind
          fun c d hc => ?_
        cases hc with
        | none => exact .pure rfl
        | some hc => exact .pure (printed_eq hc)
      | prefer guid =>
        exact (Site.corresponds_zoom (FileStore.corresponds_setDefaultServer path guid)).bind
          fun _ _ _ => .pure rfl
      | clear =>
        exact (Site.corresponds_zoom (FileStore.corresponds_clearDefaultServer path)).bind
          fun _ _ _ => .pure rfl
    | reset => exact .pure rfl
    | backend => exact .pure rfl

theorem corresponds_runReset : Corresponds AlikeSites Eq runReset runReset :=
  Site.corresponds_reset.bind fun outcome outcome' houtcome => by
    rw [houtcome]
    exact .pure rfl

/-- Both sites are opened at one path. -/
theorem corresponds_openSite (fresh : String) :
    Corresponds AlikeSites
      (fun x y => x = y ∧ ∃ path, x.1 =
        (FileStore.service path).zoom Site.disk fun s d => { s with disk := d })
      (openSite fresh) (openSite fresh) := by
  refine (Site.corresponds_openStore _).bind ?_
  rintro o _ ⟨rfl, hplace⟩
  -- the service is that of the file at the path that both sites have
  refine .bind_state fun s t h => .pure ⟨?_, s.filePath, ?_⟩
  · rw [hplace, Site.service, Site.service, Site.filePath_eq h]
  · rw [hplace, Site.service]

/-- A call for a reset. -/
def reportReset : Op Site Report := do
  match ← Op.attempt runReset with
  | .ok p => return succeed p
  | .error e => return failure [] e

/-- A call for anything else: the site is opened first. -/
def reportOn (i : Invocation) (fresh : String) : Op Site Report := do
  match ← Op.attempt (openSite fresh) with
  | .error e => return failure [] e
  | .ok (service, notices) =>
    match ← Op.attempt (runOn i service fresh) with
    | .ok j => return succeed (j, notices)
    | .error e => return failure notices e

theorem runInvocation_eq (i : Invocation) (fresh : String) : runInvocation i fresh =
    match i.command with
    | .reset => reportReset
    | _ => reportOn i fresh := rfl

theorem corresponds_reportReset : Corresponds AlikeSites Eq reportReset reportReset := by
  refine corresponds_runReset.attempt.bind fun r q hanswers => ?_
  rw [hanswers.eq]
  cases q <;> exact .pure rfl

theorem corresponds_reportOn (h : i.EqUpToSecrets j) (hshow : i.showSecrets = false)
    (fresh : String) : Corresponds AlikeSites Eq (reportOn i fresh) (reportOn j fresh) := by
  refine (corresponds_openSite fresh).attempt.bind fun r q hanswers => ?_
  rcases hanswers.cases with ⟨e, rfl, rfl⟩ | ⟨⟨service, notices⟩, _, rfl, rfl, rfl, path, hservice⟩
  · exact .pure rfl
  · dsimp only at hservice ⊢
    rw [hservice]
    refine (corresponds_runOn h hshow path fresh).attempt.bind fun r q hanswers => ?_
    rw [hanswers.eq]
    cases q <;> exact .pure rfl

theorem corresponds_runInvocation (h : i.EqUpToSecrets j) (hshow : i.showSecrets = false)
    (fresh : String) : Corresponds AlikeSites Eq (runInvocation i fresh) (runInvocation j fresh) := by
  -- only a reset does without opening the site
  have hcommand := h.command
  rw [runInvocation_eq, runInvocation_eq]
  generalize i.command = command at hcommand
  generalize j.command = command' at hcommand
  cases hcommand with
  | add hdetails force => exact corresponds_reportOn h hshow fresh
  | same command =>
    cases command with
    | reset => exact corresponds_reportReset
    | _ => exact corresponds_reportOn h hshow fresh

/-! ## Runs of the program -/

/-- A call leaves the same report, and files that are alike. -/
theorem run_alike {call call' : Call} (h : call.EqUpToSecrets call') {s t : Site}
    (hhome : s.home = t.home) (hdisk : FileStore.AlikeDisks s.disk t.disk) :
    (run call.lookup call.args call.fresh s).1 = (run call'.lookup call'.args call'.fresh t).1 ∧
      (run call.lookup call.args call.fresh s).2.home =
        (run call'.lookup call'.args call'.fresh t).2.home ∧
      FileStore.AlikeDisks (run call.lookup call.args call.fresh s).2.disk
        (run call'.lookup call'.args call'.fresh t).2.disk := by
  obtain ⟨i, j, hi, hj, hij, hshow, hbackend⟩ := h.exists_invocations
  -- each call brings its own configuration and looks for a migration anew
  have hsites : AlikeSites { s with config := i.config, migration := .unchecked }
      { t with config := j.config, migration := .unchecked } :=
    ⟨hbackend, hij.config_eq, hhome, rfl, hdisk⟩
  obtain ⟨r, q, s', t', ⟨hr, hs'⟩, ⟨hq, ht'⟩, hanswers, halike⟩ :=
    corresponds_runInvocation hij hshow call'.fresh hsites
  rw [run, run, hi, hj, h.fresh_eq]
  dsimp only
  rw [hr, hq, hs', ht', hanswers.eq]
  cases q <;> exact ⟨rfl, halike.home_eq, halike.disk⟩

/-- Calls that differ in secrets alone, on files that differ in secrets alone, leave the same
reports, for as long as they go on. -/
theorem reports_eq {calls calls' : List Call} (hcalls : List.Forall₂ Call.EqUpToSecrets calls calls')
    {s t : Site} (hhome : s.home = t.home) (hdisk : FileStore.AlikeDisks s.disk t.disk) :
    reports calls s = reports calls' t := by
  induction hcalls generalizing s t with
  | nil => rfl
  | cons hcall _ ih =>
    obtain ⟨hreport, hhome', hdisk'⟩ := run_alike hcall hhome hdisk
    rw [reports, reports, hreport, ih hhome' hdisk']

/-- The text of a file with one API key. -/
def textWithKey (key : String) : String :=
  "[credentials.work]\nguid = \"g\"\nurl = \"https://a.b\"\napi_key = \"" ++ key ++ "\"\n"

/-- What that text tells. -/
def documentWithKey (key : String) : FileStore.Document :=
  { credentials := .ofList [("work", { guid := "g", url := "https://a.b", apiKey := key })] }

/-- A site with that file. -/
def siteWithKey (key : String) : Site :=
  { disk := ({} : Disk).setNode ["credentials"]
      (.file (Text.utf8 (textWithKey key).toList) FileStore.privateMode) }

/-- Calls on that file: another API key is added, and all credentials are listed. -/
def callsWithKey (key : String) : List Call :=
  [⟨fun _ => none, ["add", "--backend", "file", "--file", "/credentials", "--name", "home", "--url",
      "https://c.d", "--api-key", key], "h"⟩,
    ⟨fun _ => none, ["list", "--backend", "file", "--file", "/credentials"], ""⟩]

/-- What the first of those calls adds. -/
def detailsWithKey (key : String) : Details :=
  { name := "home", url := "https://c.d", apiKey := key }

/-- Other keys, in the file and in the call, do not show. -/
theorem reports_eq_otherKeys :
    reports (callsWithKey "one") (siteWithKey "two") =
        reports (callsWithKey "three") (siteWithKey "four") ∧
      (reports (callsWithKey "one") (siteWithKey "two")).head?.map (·.code) = some 0 := by
  have hparse : ∀ key ∈ ["two", "four"], FileStore.documentOf?
      (Text.utf8 (textWithKey key).toList) = some (documentWithKey key) := by decide +kernel
  have hadd : ∀ key ∈ ["one", "three"], (callsWithKey key).head?.map
      (fun call => readRequest call.lookup call.args) = some (.run
        { backend := some .file, file := some "/credentials"
          command := .add (detailsWithKey key) false }) := by
    decide +kernel
  have hlist : readRequest (fun _ => none) ["list", "--backend", "file", "--file", "/credentials"] =
      .run { backend := some .file, file := some "/credentials", command := .list } := by
    decide +kernel
  have hdisk : FileStore.AlikeDisks (siteWithKey "two").disk (siteWithKey "four").disk := by
    refine (Disk.Matches.refl (d := {}) (fun _ => .inl rfl) rfl).setNode (.file _ (.inr ⟨_, _,
      hparse "two" (by simp), hparse "four" (by simp), rfl, .cons ⟨rfl, rfl, ?_⟩ .nil⟩)) _
    rintro (_ | _ | _ | _)
    exacts [⟨nofun, nofun⟩, .rfl, .rfl, .rfl]
  have hdetails : (detailsWithKey "one").EqUpToSecrets (detailsWithKey "three") := by
    refine ⟨⟨rfl, ?_⟩, rfl⟩
    rintro (_ | _ | _ | _)
    exacts [⟨nofun, nofun⟩, .rfl, .rfl, .rfl]
  have hcalls : List.Forall₂ Call.EqUpToSecrets (callsWithKey "one") (callsWithKey "three") :=
    .cons ⟨rfl, _, _, Option.some.inj (hadd "one" (by simp)),
      Option.some.inj (hadd "three" (by simp)), ⟨rfl, rfl, rfl, .add hdetails false⟩, rfl, rfl⟩
      (.cons ⟨rfl, _, _, hlist, hlist, ⟨rfl, rfl, rfl, .same .list⟩, rfl, rfl⟩ .nil)
  exact ⟨reports_eq hcalls rfl hdisk, by decide +kernel⟩

end CommandLine

end CredentialStore
