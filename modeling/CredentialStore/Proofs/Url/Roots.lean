import CredentialStore.Proofs.Url.NormalForm
import Mathlib.Data.Nat.Init

/-!
# The roots of a server

What a URL names may be a page below the server, so every place on the way from the origin to the
end of the path may be the server itself (`possible_server_urls`). Such a place is a server of its
own, that is written and read like any other; and its own roots are the ones that lead to it. A path
is taken apart into segments once, when the URL is read: neither an escaped slash nor a dot segment,
a repeated slash or a query counts as a step afterwards.

Main statements:

* `text_root_succ` — a root is written as the one before, a slash and one more segment;
* `candidates_root` — the roots of a root are the ones up to it;
* `possible_isChain` — the roots of a URL, and which texts have none.
-/

namespace CredentialStore

open Text Url

/-- The texts lead from the origin of a URL to its normal form, by one segment of its path after the
other. -/
structure Url.IsChain (u : Url) (host : Host) (normal : String) (roots : List String) : Prop where
  length_eq : roots.length = u.names.length + 1
  nodup : roots.Nodup
  head?_eq : roots.head? = some (String.ofList (u.scheme ++ "://".toList ++ (host.text ++ u.portText)))
  getLast?_eq : roots.getLast? = some normal
  step : ∀ i name, u.names[i]? = some name → ∃ root, roots[i]? = some root ∧
    roots[i + 1]? = some (root ++ "/" ++ String.ofList name)
  /-- Each step is one segment, and not an empty one. -/
  name_ne : ∀ name ∈ u.names, name ≠ [] ∧ '/' ∉ name

namespace ServerUrl

variable {s : ServerUrl}

/-! ## Roots are servers -/

/-- A root of a server can be written and read like the server itself. -/
theorem IsCanonical.root (h : s.IsCanonical) (count : Nat) : (s.root count).IsCanonical :=
  ⟨h.scheme_eq, h.host_isWritten, h.port_le, h.portOf_port,
    fun x hx => h.isSegment x (List.mem_of_mem_take hx)⟩

theorem root_root (s : ServerUrl) (i j : Nat) : (s.root i).root j = s.root (min j i) := by
  unfold root
  rw [List.take_take]

theorem root_of_length_le {i : Nat} (h : s.segments.length ≤ i) : s.root i = s := by
  unfold root
  rw [List.take_of_length_le h]

/-- The origin is written from the parts of a URL that tell it. -/
theorem origin_eq {u : Url} (hscheme : u.scheme = s.scheme) (hport : u.port = s.port) :
    s.origin = u.scheme ++ "://".toList ++ (s.host.text ++ u.portText) := by
  obtain ⟨scheme, host, port, segments⟩ := s
  obtain rfl : u.scheme = scheme := hscheme
  obtain rfl : u.port = port := hport
  exact List.append_assoc ..

theorem text_root_zero (s : ServerUrl) : (s.root 0).text = String.ofList s.origin := by
  show String.ofList (s.origin ++ []) = _
  rw [List.append_nil]

/-- A root is written as the one before, a slash and one more segment. -/
theorem text_root_succ {i : Nat} {segment : List Char} (h : s.segments[i]? = some segment) :
    (s.root (i + 1)).text = (s.root i).text ++ "/" ++ String.ofList segment := by
  rw [← String.toList_inj]
  show (String.ofList (s.origin ++ (s.segments.take (i + 1)).flatMap ('/' :: ·))).toList =
    (String.ofList (s.origin ++ (s.segments.take i).flatMap ('/' :: ·)) ++ "/" ++
      String.ofList segment).toList
  rw [List.take_add_one, h]
  simp

/-! ## The list of them -/

theorem getElem?_candidates {i : Nat} (h : i ≤ s.segments.length) :
    s.candidates[i]? = some (s.root i).text := by
  unfold candidates
  rw [List.getElem?_map, List.getElem?_range (by omega)]
  rfl

theorem eq_of_getElem?_candidates {i : Nat} {root : String} (h : s.candidates[i]? = some root) :
    i ≤ s.segments.length ∧ root = (s.root i).text := by
  have hlt : i < s.candidates.length := (List.getElem?_eq_some_iff.1 h).1
  rw [length_candidates] at hlt
  have hle : i ≤ s.segments.length := by omega
  rw [getElem?_candidates hle] at h
  exact ⟨hle, (Option.some.inj h).symm⟩

/-- A longer path is a longer text. -/
theorem length_text_root_lt {i j : Nat} (hij : i < j) (hj : j ≤ s.segments.length) :
    (s.root i).text.length < (s.root j).text.length := by
  induction j, hij using Nat.le_induction with
  | base =>
    rw [text_root_succ (List.getElem?_eq_getElem (by omega)), String.length_append,
      String.length_append]
    show _ < _ + 1 + _
    omega
  | succ j hij ih =>
    have hlt := ih (by omega)
    rw [text_root_succ (List.getElem?_eq_getElem (by omega)), String.length_append,
      String.length_append]
    omega

/-- Each root is longer than the ones before. -/
theorem pairwise_length_candidates (s : ServerUrl) :
    s.candidates.Pairwise fun root root' => root.length < root'.length := by
  unfold candidates
  rw [List.pairwise_map]
  refine List.pairwise_lt_range.imp_of_mem fun {i j} _ hj hlt => ?_
  exact length_text_root_lt hlt (by have := List.mem_range.1 hj; omega)

theorem nodup_candidates (s : ServerUrl) : s.candidates.Nodup := by
  refine s.pairwise_length_candidates.imp fun {root root'} hlt heq => ?_
  rw [heq] at hlt
  omega

/-- The roots of a root are the ones up to it. -/
theorem candidates_root {i : Nat} (h : i ≤ s.segments.length) :
    (s.root i).candidates = s.candidates.take (i + 1) := by
  have hlength : (s.root i).segments.length = i := by
    show (s.segments.take i).length = i
    rw [List.length_take]
    omega
  unfold candidates
  rw [hlength, ← List.map_take, List.take_range, Nat.min_eq_left (by omega)]
  refine List.map_congr_left fun count hcount => ?_
  have hle : count ≤ i := by
    have := List.mem_range.1 hcount
    omega
  rw [root_root, Nat.min_eq_left hle]

/-! ## The roots of a text -/

/-- A text that has a normal form has roots, which are written from the same server. -/
theorem possible_of_normalize {raw normal : String} (h : normalize raw = .ok normal) :
    ∃ s, read raw = .ok s ∧ normal = s.text ∧ possible raw = .ok s.candidates := by
  rw [normalize] at h
  rw [possible]
  cases hread : read raw with
  | error fault =>
    rw [hread] at h
    cases h
  | ok s =>
    rw [hread] at h
    cases h
    exact ⟨s, rfl, rfl, rfl⟩

/-- A text has no roots for the same reason for which it has no normal form. -/
theorem possible_eq_error_iff {raw : String} {fault : Fault} :
    possible raw = .error fault ↔ normalize raw = .error fault := by
  rw [possible, normalize]
  cases read raw with
  | error fault' =>
    show Except.error fault' = _ ↔ Except.error fault' = _
    rw [Except.error.injEq, Except.error.injEq]
  | ok s =>
    constructor
    · intro h
      cases h
    · intro h
      cases h

theorem isChain_candidates (h : s.IsCanonical) {u : Url} (hhost : u.host = some s.host)
    (hscheme : u.scheme = s.scheme) (hport : u.port = s.port) (hnames : u.names = s.segments) :
    u.IsChain s.host s.text s.candidates := by
  have hform := isNormalForm_text h hhost hscheme hport hnames
  refine ⟨?_, s.nodup_candidates, ?_, ?_, fun i name hname => ?_, fun name hname => ?_⟩
  · rw [length_candidates, hnames]
  · rw [List.head?_eq_getElem?, getElem?_candidates (Nat.zero_le _), text_root_zero,
      origin_eq hscheme hport]
  · rw [List.getLast?_eq_getElem?, length_candidates, Nat.add_sub_cancel,
      getElem?_candidates (Nat.le_refl _), root_of_length_le (Nat.le_refl _)]
  · rw [hnames] at hname
    have hlt : i < s.segments.length := (List.getElem?_eq_some_iff.1 hname).1
    refine ⟨(s.root i).text, getElem?_candidates (by omega), ?_⟩
    rw [getElem?_candidates (by omega), text_root_succ hname]
  · obtain ⟨hne, -, -, hchars⟩ := hform.isSegment name hname
    exact ⟨hne, fun hslash => (hchars '/' hslash).2.1 rfl⟩

/-- The roots of a text lead from the origin of its URL to its normal form, each one a segment of
the path longer than the one before. Each of them is its own normal form, and has the roots up to
it. A text that has no normal form has no roots, and for the same reason. -/
theorem possible_isChain (raw : String) :
    (∀ fault, possible raw = .error fault ↔ normalize raw = .error fault) ∧
    ∀ normal, normalize raw = .ok normal → ∃ u host roots, Url.read raw = .ok u ∧
      u.host = some host ∧ possible raw = .ok roots ∧ u.IsChain host normal roots ∧
      ∀ i root, roots[i]? = some root →
        normalize root = .ok root ∧ possible root = .ok (roots.take (i + 1)) := by
  refine ⟨fun fault => possible_eq_error_iff, fun normal hnormal => ?_⟩
  obtain ⟨s, hread, rfl, hroots⟩ := possible_of_normalize hnormal
  have hs := isCanonical_of_read hread
  obtain ⟨u, hu, hhost, hscheme, hport, hnames⟩ := eq_of_read hread
  refine ⟨u, s.host, s.candidates, hu, hhost, hroots,
    isChain_candidates hs hhost hscheme hport hnames, fun i root hroot => ?_⟩
  -- a root reads back as the server that it was written from
  obtain ⟨hle, rfl⟩ := eq_of_getElem?_candidates hroot
  rw [normalize, possible, read_text (hs.root i), ← candidates_root hle]
  exact ⟨rfl, rfl⟩

/-- Neither a dot segment nor a repeated slash is a step, and an escaped character is no end of one.
-/
theorem possible_isChain_spelled :
    let raw := "hTTps://me@CONNECT.example.com:443/a/..//x%2Fy/./rsc/?q=/z#top"
    let roots := ["https://connect.example.com", "https://connect.example.com/x%2Fy",
      "https://connect.example.com/x%2Fy/rsc"]
    normalize raw = .ok "https://connect.example.com/x%2Fy/rsc" ∧ possible raw = .ok roots ∧
      (∃ u host, Url.read raw = .ok u ∧
        u.IsChain host "https://connect.example.com/x%2Fy/rsc" roots) ∧
      possible "https://connect.example.com/x%2Fy" = .ok (roots.take 2) := by
  intro raw roots
  have hnormal : normalize raw = .ok "https://connect.example.com/x%2Fy/rsc" := by decide +kernel
  have hpossible : possible raw = .ok roots := by decide +kernel
  obtain ⟨u, host, roots', hread, -, hroots, hchain, hself⟩ := (possible_isChain raw).2 _ hnormal
  rw [hpossible] at hroots
  cases hroots
  exact ⟨hnormal, hpossible, ⟨u, host, hread, hchain⟩, (hself 1 _ rfl).2⟩

end ServerUrl

end CredentialStore
