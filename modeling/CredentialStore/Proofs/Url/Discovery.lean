import CredentialStore.Credential.Validation
import CredentialStore.Proofs.Url.Roots

/-!
# Discovery of a server

A page below a server is looked up (`discover_server_url`) by asking at one root after the other,
the longest first, until one answers. Whatever is asked may change what is answered next, so a probe
has a state of its own, and what was asked is part of the result: a probe that writes it down
searches like the probe itself.

Main statements:

* `exists_search` — what a search asks and how it ends, with or without a record;
* `Search.endsAt`, `Search.exhausts` — it ends at the first answer, or else with the last error;
* `discover_asks_longest_first` — the same of the roots of a URL.
-/

namespace CredentialStore

namespace ServerUrl

variable {σ ε : Type} {probe : String → StateM σ (Except ε Unit)}

/-! ## One question -/

/-- What a probe was asked about, with its answer. -/
structure Asked (ε : Type) where
  candidate : String
  answer : Except ε Unit

/-- The probe answered with an error. -/
def Asked.Failed (asked : Asked ε) : Prop :=
  ∃ e, asked.answer = .error e

/-- The same probe, which also writes down what it is asked and what it answers. -/
def recording (probe : String → StateM σ (Except ε Unit)) (candidate : String) :
    StateM (σ × List (Asked ε)) (Except ε Unit) := fun before =>
  let (answer, t) := probe candidate before.1
  (answer, t, before.2 ++ [⟨candidate, answer⟩])

theorem recording_apply {candidate : String} {s t : σ} {answer : Except ε Unit}
    (h : probe candidate s = (answer, t)) (before : List (Asked ε)) :
    recording probe candidate (s, before) = (answer, t, before ++ [⟨candidate, answer⟩]) := by
  show (match probe candidate s with
    | (answer, t) => (answer, t, before ++ [Asked.mk candidate answer])) = _
  rw [h]

theorem firstAnswering_of_ok {candidate : String} {s t : σ}
    (h : probe candidate s = (.ok (), t)) (rest : List String) (last : Option ε) :
    firstAnswering probe (candidate :: rest) last s = (.ok candidate, t) := by
  simp only [firstAnswering, bind, StateT.bind, h]
  rfl

theorem firstAnswering_of_error {candidate : String} {s t : σ} {e : ε}
    (h : probe candidate s = (.error e, t)) (rest : List String) (last : Option ε) :
    firstAnswering probe (candidate :: rest) last s = firstAnswering probe rest (some e) t := by
  simp only [firstAnswering, bind, StateT.bind, h]

/-! ## A search -/

/-- A search among candidates asks a probe about some of them, which takes it from one state to
another, and ends with the candidate that answered or with the last error. -/
inductive Search (probe : String → StateM σ (Except ε Unit)) :
    σ → List String → Option ε → List (Asked ε) → σ → Except (Option ε) String → Prop
  | exhausted {s : σ} {last : Option ε} : Search probe s [] last [] s (.error last)
  | found {s t : σ} {candidate : String} {rest : List String} {last : Option ε}
      (answered : probe candidate s = (.ok (), t)) :
      Search probe s (candidate :: rest) last [⟨candidate, .ok ()⟩] t (.ok candidate)
  | next {s s' t : σ} {candidate : String} {rest : List String} {last : Option ε} {e : ε}
      {asked : List (Asked ε)} {found : Except (Option ε) String}
      (failed : probe candidate s = (.error e, s')) (search : Search probe s' rest (some e) asked t found) :
      Search probe s (candidate :: rest) last (⟨candidate, .error e⟩ :: asked) t found

/-- Every search comes to an end, and a record of what is asked does not change which. -/
theorem exists_search (probe : String → StateM σ (Except ε Unit)) (candidates : List String)
    (last : Option ε) (s : σ) (before : List (Asked ε)) :
    ∃ asked t found, Search probe s candidates last asked t found ∧
      firstAnswering probe candidates last s = (found, t) ∧
      firstAnswering (recording probe) candidates last (s, before) = (found, t, before ++ asked) := by
  induction candidates generalizing last s before with
  | nil => exact ⟨[], s, .error last, .exhausted, rfl, by rw [List.append_nil]; rfl⟩
  | cons candidate rest ih =>
    obtain ⟨answer, s', h⟩ : ∃ answer s', probe candidate s = (answer, s') := ⟨_, _, rfl⟩
    have hrecorded := recording_apply h before
    cases answer with
    | ok =>
      exact ⟨_, s', .ok candidate, .found h, firstAnswering_of_ok h rest last,
        firstAnswering_of_ok hrecorded rest last⟩
    | error e =>
      obtain ⟨asked, t, found, hsearch, hrest, hrest'⟩ :=
        ih (some e) s' (before ++ [⟨candidate, .error e⟩])
      refine ⟨_, t, found, .next h hsearch, ?_, ?_⟩
      · rw [firstAnswering_of_error h, hrest]
      · rw [firstAnswering_of_error hrecorded, hrest', List.append_assoc, List.singleton_append]

section

variable {s t : σ} {candidates : List String} {last : Option ε} {asked : List (Asked ε)}
  {found : Except (Option ε) String}

/-- The answers are those that the probe gives when it is asked in this order. -/
theorem Search.mapM_probe (h : Search probe s candidates last asked t found) :
    (asked.map Asked.candidate).mapM probe s = (asked.map Asked.answer, t) := by
  induction h with
  | exhausted => rfl
  | found answered =>
    simp only [List.map_cons, List.map_nil, List.mapM_cons, bind, StateT.bind, answered]
    rfl
  | next failed _ ih =>
    simp only [List.map_cons, List.mapM_cons, bind, StateT.bind, failed, ih]
    rfl

/-- The questions follow the candidates up to the first that answers, and end there. -/
structure EndsAt (candidates : List String) (asked : List (Asked ε)) (root : String) : Prop where
  inOrder : asked.map Asked.candidate <+: candidates
  isFirst : ∃ failed, asked = failed ++ [⟨root, .ok ()⟩] ∧ ∀ a ∈ failed, a.Failed

/-- Each candidate was asked about in its turn, and none of them answered. -/
structure Exhausts (candidates : List String) (asked : List (Asked ε)) : Prop where
  inOrder : asked.map Asked.candidate = candidates
  failed : ∀ a ∈ asked, a.Failed

theorem Search.endsAt (h : Search probe s candidates last asked t found) :
    ∀ root, found = .ok root → EndsAt candidates asked root := by
  induction h with
  | exhausted => exact nofun
  | found answered =>
    rintro _ ⟨⟩
    exact ⟨⟨_, rfl⟩, [], rfl, nofun⟩
  | @next _ _ _ candidate _ _ e _ _ failed search ih =>
    intro root hroot
    obtain ⟨hinOrder, before, rfl, hbefore⟩ := ih root hroot
    refine ⟨List.cons_prefix_cons.2 ⟨rfl, hinOrder⟩, ⟨candidate, .error e⟩ :: before, rfl, ?_⟩
    exact List.forall_mem_cons.2 ⟨⟨e, rfl⟩, hbefore⟩

/-- Without an answer the search keeps the error of the question that came last. -/
theorem Search.exhausts (h : Search probe s candidates last asked t found) :
    ∀ e?, found = .error e? → Exhausts candidates asked ∧
      (asked = [] ∧ e? = last ∨
        ∃ candidate e, asked.getLast? = some ⟨candidate, .error e⟩ ∧ e? = some e) := by
  induction h with
  | exhausted =>
    rintro _ ⟨⟩
    exact ⟨⟨rfl, nofun⟩, .inl ⟨rfl, rfl⟩⟩
  | found answered => exact nofun
  | @next _ _ _ candidate _ _ e _ _ failed search ih =>
    intro e? he
    obtain ⟨⟨hinOrder, hfailed⟩, hlast⟩ := ih e? he
    refine ⟨⟨by rw [List.map_cons, hinOrder], List.forall_mem_cons.2 ⟨⟨e, rfl⟩, hfailed⟩⟩, .inr ?_⟩
    -- the error that was carried along is that of this question, unless another one follows
    rcases hlast with ⟨rfl, rfl⟩ | ⟨candidate', e', hgetLast, rfl⟩
    · exact ⟨candidate, e, rfl, rfl⟩
    · refine ⟨candidate', e', ?_, rfl⟩
      rw [List.getLast?_cons, hgetLast]
      rfl

end

/-! ## The roots of a URL -/

/-- Each question is about a shorter root than the one before. -/
theorem descending_of_inOrder {server : ServerUrl} {asked : List (Asked ε)}
    (h : asked.map Asked.candidate <+: server.candidates.reverse) :
    (asked.map Asked.candidate).Nodup ∧
      (asked.map Asked.candidate).Pairwise fun root root' => root'.length < root.length :=
  ⟨(List.pairwise_reverse.2 (server.nodup_candidates.imp Ne.symm)).sublist h.sublist,
    (List.pairwise_reverse.2 server.pairwise_length_candidates).sublist h.sublist⟩

/-- What a search comes to: without an answer the text stays as it is. -/
def resultOf (raw : String) : Except (Option ε) String → String × Option ε
  | .ok root => (root, none)
  | .error e? => (raw, e?)

theorem discover_of_possible {ofFault : Fault → ε} {raw : String} {roots : List String}
    (hroots : possible raw = .ok roots) {s t : σ} {found : Except (Option ε) String}
    (h : firstAnswering probe roots.reverse none s = (found, t)) :
    discover ofFault probe raw s = (resultOf raw found, t) := by
  simp only [discover, hroots, bind, StateT.bind, h]
  cases found <;> rfl

/-- Where nothing answers, the last question was about the origin. -/
theorem Exhausts.getLast?_eq {server : ServerUrl} {asked : List (Asked ε)}
    (h : Exhausts server.candidates.reverse asked) {last : Asked ε}
    (hlast : asked.getLast? = some last) : last.candidate = String.ofList server.origin := by
  have hmap : (asked.map Asked.candidate).getLast? = some last.candidate := by
    rw [List.getLast?_map, hlast]
    rfl
  rw [h.inOrder, List.getLast?_reverse, List.head?_eq_getElem?,
    getElem?_candidates (Nat.zero_le _), text_root_zero] at hmap
  exact (Option.some.inj hmap).symm

/-- A search among the roots of a URL that finds nothing keeps the error of the bare origin. -/
theorem Search.ends_at_origin {raw : String} {server : ServerUrl} (hread : read raw = .ok server)
    {s t : σ} {asked : List (Asked ε)} {e? : Option ε}
    (h : Search probe s server.candidates.reverse none asked t (.error e?)) :
    ∃ u host e, Url.read raw = .ok u ∧ u.host = some host ∧
      Exhausts server.candidates.reverse asked ∧
      asked.getLast? = some ⟨String.ofList (u.scheme ++ "://".toList ++ (host.text ++ u.portText)),
        .error e⟩ ∧ e? = some e := by
  obtain ⟨hexhausts, hlast⟩ := h.exhausts e? rfl
  obtain ⟨rfl, -⟩ | ⟨origin, e, hlast, rfl⟩ := hlast
  · -- there is a root at least
    have hlength := congrArg List.length hexhausts.inOrder
    rw [List.length_reverse, length_candidates] at hlength
    cases hlength
  · obtain ⟨u, hu, hhost, hscheme, hport, -⟩ := eq_of_read hread
    have horigin := hexhausts.getLast?_eq hlast
    rw [origin_eq hscheme hport] at horigin
    exact ⟨u, server.host, e, hu, hhost, hexhausts, horigin ▸ hlast, rfl⟩

/-- A text that names no server is not asked about, and comes back with the reason. Otherwise the
roots of the URL are asked about from the longest to the shortest, each at most once, up to the
first that answers, which is the result. If none does, all were asked about, and the text comes back
as it is, with the error of the last question, which was about the bare origin. -/
theorem discover_asks_longest_first (ofError : CredentialError → ε)
    (probe : String → StateM σ (Except ε Unit)) (raw : String) (s : σ) :
    ∃ asked t result,
      discover (fun fault => ofError (fault.error raw)) probe raw s = (result, t) ∧
      discover (fun fault => ofError (fault.error raw)) (recording probe) raw (s, []) =
        (result, t, asked) ∧
      (asked.map Asked.candidate).mapM probe s = (asked.map Asked.answer, t) ∧
      match possible raw with
      | .error fault => asked = [] ∧ result = (raw, some (ofError (.invalidUrl (fault.message raw))))
      | .ok roots =>
        (asked.map Asked.candidate).Nodup ∧
        (asked.map Asked.candidate).Pairwise (fun root root' => root'.length < root.length) ∧
        ((∃ root, EndsAt roots.reverse asked root ∧ result = (root, none)) ∨
          ∃ u host e, Url.read raw = .ok u ∧ u.host = some host ∧ Exhausts roots.reverse asked ∧
            asked.getLast? = some ⟨String.ofList (u.scheme ++ "://".toList ++
              (host.text ++ u.portText)), .error e⟩ ∧
            result = (raw, some e)) := by
  obtain ⟨server, hread⟩ | ⟨fault, hfault⟩ :
      (∃ server, read raw = .ok server) ∨ ∃ fault, possible raw = .error fault := by
    unfold possible
    cases read raw with
    | ok server => exact .inl ⟨server, rfl⟩
    | error fault => exact .inr ⟨fault, rfl⟩
  · have hroots : possible raw = .ok server.candidates := by
      rw [possible, hread]
      rfl
    obtain ⟨asked, t, found, hsearch, hplain, hrecorded⟩ :=
      exists_search probe server.candidates.reverse none s []
    refine ⟨asked, t, _, discover_of_possible hroots hplain, discover_of_possible hroots hrecorded,
      hsearch.mapM_probe, ?_⟩
    rw [hroots]
    cases found with
    | ok root =>
      have hends := hsearch.endsAt root rfl
      obtain ⟨hnodup, hdescending⟩ := descending_of_inOrder hends.inOrder
      exact ⟨hnodup, hdescending, .inl ⟨root, hends, rfl⟩⟩
    | error e? =>
      obtain ⟨u, host, e, hu, hhost, hexhausts, hlast, rfl⟩ := hsearch.ends_at_origin hread
      obtain ⟨hnodup, hdescending⟩ := descending_of_inOrder
        ⟨[], by rw [List.append_nil, hexhausts.inOrder]⟩
      exact ⟨hnodup, hdescending, .inr ⟨u, host, e, hu, hhost, hexhausts, hlast, rfl⟩⟩
  · refine ⟨[], s, (raw, some (ofError (fault.error raw))), ?_, ?_, rfl, ?_⟩
    · rw [discover_of_unreadable hfault]
      rfl
    · rw [discover_of_unreadable hfault]
      rfl
    · rw [hfault]
      exact ⟨rfl, rfl⟩

/-- A server that only starts up when it is first asked is found below the root that it has. -/
example :
    let raw := "https://connect.dev.com/a//b/?q=1"
    let probe : String → StateM Nat (Except CredentialError Unit) := fun _ questions =>
      (if questions = 0 then .error (.storage "starting") else .ok (), questions + 1)
    let found := discover (Fault.error raw) (recording probe) raw (0, [])
    found.1 = ("https://connect.dev.com/a", none) ∧ found.2.2.map Asked.candidate =
      ["https://connect.dev.com/a/b", "https://connect.dev.com/a"] := by
  decide +kernel

end ServerUrl

end CredentialStore
