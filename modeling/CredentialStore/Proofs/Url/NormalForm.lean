import CredentialStore.Proofs.Service.Run
import CredentialStore.Proofs.Url.Server
import Mathlib.Data.List.Basic

/-!
# One normal form for each server

What tells one server from another is the scheme, the host, the port that is meant, and the segments
of the path that are not empty. The normal form of a URL (`normalize_server_url`) writes these down
and nothing else, so that two URLs have one normal form exactly if they agree on them: from a
written form the server can be read, and two servers that are written alike are one.

Main statements:

* `text_injective` — servers that are written alike are the same;
* `exists_of_normalize_url` — the normal form is written from what the URL reads as;
* `normalize_canonical` — what the normal form looks like, that it is its own normal form, and which
  URLs share it.
-/

namespace CredentialStore

open Text Url

namespace Url

/-- The port that is meant: where none is told, it is the scheme's own. -/
def effectivePort (u : Url) : Option Nat :=
  match SchemeKind.of u.scheme with
  | .network p => some (u.port.getD p)
  | _ => u.port

/-- The segments of the path that are not empty. -/
def names (u : Url) : List (List Char) :=
  u.path.filter (!·.isEmpty)

/-- The port as it is written behind a host. -/
def portText (u : Url) : List Char :=
  match u.port with
  | some p => ':' :: decimalDigits p
  | none => []

/-- Both URLs lead to one server. -/
structure SameServer (u v : Url) : Prop where
  scheme_eq : u.scheme = v.scheme
  host_eq : u.host = v.host
  effectivePort_eq : u.effectivePort = v.effectivePort
  names_eq : u.names = v.names

/-- The text writes down the server of a URL with a host, and has nothing in it that could be left
out: no user information in front of the host, no port that is the scheme's own, no segment that is
empty or a dot, no query, no fragment and no slash at its end. -/
structure IsNormalForm (u : Url) (host : Host) (normal : String) : Prop where
  scheme_eq : u.scheme = "http".toList ∨ u.scheme = "https".toList
  host_eq : u.host = some host
  toList_eq : normal.toList =
    u.scheme ++ "://".toList ++ (host.text ++ u.portText ++ writePath u.names)
  /-- Printable ASCII characters, none of them an `@`. -/
  isHostChar : ∀ c ∈ host.text ++ u.portText, Host.IsHostChar c
  port_ne : ∀ p, SchemeKind.of u.scheme = .network p → u.port ≠ some p
  isSegment : ∀ s ∈ u.names, s ≠ [] ∧ IsSegment s
  query_notMem : '?' ∉ normal.toList
  fragment_notMem : '#' ∉ normal.toList
  getLast?_ne : normal.toList.getLast? ≠ some '/'

/-- Between URLs of one scheme, whose ports are not the scheme's own, the ports that are meant
differ as the ports do. -/
theorem effectivePort_inj {u v : Url} {p : Nat} (hscheme : u.scheme = v.scheme)
    (hkind : SchemeKind.of u.scheme = .network p) (hu : u.port ≠ some p) (hv : v.port ≠ some p) :
    u.effectivePort = v.effectivePort ↔ u.port = v.port := by
  rw [effectivePort, effectivePort, ← hscheme, hkind]
  constructor
  · intro h
    cases hup : u.port <;> cases hvp : v.port <;> simp_all
  · intro h
    rw [h]

end Url

namespace ServerUrl

variable {s t : ServerUrl}

/-- Servers that are written alike are the same. -/
theorem text_injective (hs : s.IsCanonical) (ht : t.IsCanonical) (h : s.text = t.text) : s = t := by
  have hread := read_text hs
  rw [h, read_text ht] at hread
  exact (Except.ok.inj hread).symm

theorem port_ne_of_isCanonical (h : s.IsCanonical) {p : Nat}
    (hkind : SchemeKind.of s.scheme = .network p) : s.port ≠ some p := by
  have hport := h.portOf_port
  rw [hkind] at hport
  exact fun hp => (portOf_eq_some (hport.trans hp)).2 rfl

/-- A server that was read is the part of the URL that tells servers apart. -/
theorem eq_of_read {raw : String} (h : read raw = .ok s) :
    ∃ u, Url.read raw = .ok u ∧ u.host = some s.host ∧ u.scheme = s.scheme ∧ u.port = s.port ∧
      u.names = s.segments := by
  rw [read] at h
  split at h
  · cases h
  split at h
  · cases h
  rename_i u hu
  refine ⟨u, hu, ?_⟩
  rw [ofUrl] at h
  split at h
  · split at h
    · rename_i host hhost
      cases h
      exact ⟨hhost, rfl, rfl, rfl⟩
    · cases h
  · cases h

/-- The normal form is written from what the URL reads as. -/
theorem exists_of_normalize_url {raw normal : String} (h : normalize raw = .ok normal) :
    ∃ (s : ServerUrl) (u : Url), s.IsCanonical ∧ normal = s.text ∧ Url.read raw = .ok u ∧
      u.host = some s.host ∧ u.scheme = s.scheme ∧ u.port = s.port ∧ u.names = s.segments := by
  rw [normalize] at h
  cases hread : read raw with
  | error fault =>
    rw [hread] at h
    cases h
  | ok s =>
    rw [hread] at h
    cases h
    obtain ⟨u, hu⟩ := eq_of_read hread
    exact ⟨s, u, isCanonical_of_read hread, rfl, hu⟩

/-! ## What a written form looks like -/

/-- A query or a fragment begins nowhere in a written form. -/
theorem notMem_text (h : s.IsCanonical) {c : Char} (hc : c = '?' ∨ c = '#') :
    c ∉ s.text.toList := by
  intro hmem
  rw [toList_text, List.mem_append, List.mem_append, List.mem_append] at hmem
  rcases hmem with (hscheme | hslashes) | hauthority | hpath
  · rcases h.scheme_eq with heq | heq <;> rw [heq] at hscheme <;> rcases hc with rfl | rfl <;>
      exact absurd hscheme (by decide)
  · rcases hc with rfl | rfl <;> exact absurd hslashes (by decide)
  · have hchar := isHostChar_of_mem_authority h c hauthority
    rcases hc with rfl | rfl
    · exact hchar.2.2.2.2.1 rfl
    · exact hchar.2.2.2.2.2.1 rfl
  · rw [writePath, List.mem_flatMap] at hpath
    obtain ⟨segment, hsegment, hmem⟩ := hpath
    -- a segment has such characters escaped
    rcases List.mem_cons.1 hmem with rfl | hmem
    · rcases hc with hc | hc <;> exact absurd hc (by decide)
    · have hspecial := ((h.isSegment segment hsegment).2.2.2 c hmem).1
      rcases hc with rfl | rfl <;> exact absurd hspecial (by decide)

/-- A path ends in the last character of its last segment. -/
theorem getLast?_writePath_ne {segments : List (List Char)}
    (h : ∀ x ∈ segments, x ≠ [] ∧ IsSegment x) : (writePath segments).getLast? ≠ some '/' := by
  rcases List.eq_nil_or_concat' segments with rfl | ⟨before, last, rfl⟩
  · simp [writePath]
  · obtain ⟨hne, -, -, hchars⟩ := h last (by simp)
    have hend : writePath (before ++ [last]) = (writePath before ++ ['/']) ++ last := by
      simp [writePath]
    rw [hend, List.getLast?_append_of_ne_nil _ hne]
    intro hlast
    exact (hchars '/' (List.mem_of_getLast? hlast)).2.1 rfl

theorem getLast?_text_ne (h : s.IsCanonical) : s.text.toList.getLast? ≠ some '/' := by
  have hne : s.authority ≠ [] := by simp [authority, h.host_isWritten.text_ne_nil]
  rw [toList_text, List.getLast?_append_of_ne_nil _ (by simp [hne])]
  -- the text ends with the path, and without one with the host or the port
  by_cases hpath : writePath s.segments = []
  · rw [hpath, List.append_nil]
    intro hlast
    exact (isHostChar_of_mem_authority h '/' (List.mem_of_getLast? hlast)).2.2.1 rfl
  · rw [List.getLast?_append_of_ne_nil _ hpath]
    exact getLast?_writePath_ne h.isSegment

theorem isNormalForm_text (h : s.IsCanonical) {u : Url} (hhost : u.host = some s.host)
    (hscheme : u.scheme = s.scheme) (hport : u.port = s.port) (hnames : u.names = s.segments) :
    u.IsNormalForm s.host s.text := by
  have hauthority : s.host.text ++ u.portText = s.authority := by
    cases hvalue : s.port with
    | none => simp only [authority, portText, hport, hvalue]
    | some p => simp only [authority, portText, hport, hvalue]
  refine ⟨hscheme ▸ h.scheme_eq, hhost, ?_, ?_, fun p hkind => ?_, hnames ▸ h.isSegment,
    notMem_text h (.inl rfl), notMem_text h (.inr rfl), getLast?_text_ne h⟩
  · rw [toList_text, hscheme, hauthority, hnames]
  · rw [hauthority]
    exact isHostChar_of_mem_authority h
  · rw [hscheme] at hkind
    rw [hport]
    exact port_ne_of_isCanonical h hkind

/-- Servers are written alike exactly if the URLs that they were read from lead to one server. -/
theorem text_eq_iff (hs : s.IsCanonical) (ht : t.IsCanonical) {u v : Url}
    (hu : u.host = some s.host ∧ u.scheme = s.scheme ∧ u.port = s.port ∧ u.names = s.segments)
    (hv : v.host = some t.host ∧ v.scheme = t.scheme ∧ v.port = t.port ∧ v.names = t.segments) :
    s.text = t.text ↔ u.SameServer v := by
  obtain ⟨huhost, huscheme, huport, hunames⟩ := hu
  obtain ⟨hvhost, hvscheme, hvport, hvnames⟩ := hv
  constructor
  · intro htext
    obtain rfl := text_injective hs ht htext
    have hscheme : u.scheme = v.scheme := huscheme.trans hvscheme.symm
    refine ⟨hscheme, huhost.trans hvhost.symm, ?_, hunames.trans hvnames.symm⟩
    rw [effectivePort, effectivePort, hscheme, huport, hvport]
  · intro h
    have hscheme : s.scheme = t.scheme := huscheme.symm.trans (h.scheme_eq.trans hvscheme)
    have hhost : s.host = t.host :=
      Option.some.inj (huhost.symm.trans (h.host_eq.trans hvhost))
    have hsegments : s.segments = t.segments := hunames.symm.trans (h.names_eq.trans hvnames)
    -- a port that is the scheme's own is never kept, so the ports that are kept are the same
    obtain ⟨p, hkind⟩ := exists_kind hs.scheme_eq
    have hport : u.port = v.port := by
      refine (effectivePort_inj h.scheme_eq (huscheme ▸ hkind) ?_ ?_).1 h.effectivePort_eq
      · exact huport ▸ port_ne_of_isCanonical hs hkind
      · exact hvport ▸ port_ne_of_isCanonical ht (hscheme ▸ hkind)
    have hst : s = t := by
      cases s
      cases t
      simp only [mk.injEq]
      exact ⟨hscheme, hhost, huport.symm.trans (hport.trans hvport), hsegments⟩
    rw [hst]

/-- A URL of a server has a normal form that writes down the server and nothing else, that is its
own normal form, and that it shares with the URLs of the same server alone. -/
theorem normalize_canonical {raw normal : String} (h : normalize raw = .ok normal) :
    ∃ u host, Url.read raw = .ok u ∧ u.IsNormalForm host normal ∧
      normalize normal = .ok normal ∧
      ∀ other normal', normalize other = .ok normal' →
        ∃ v, Url.read other = .ok v ∧ (normal = normal' ↔ u.SameServer v) := by
  obtain ⟨s, u, hs, rfl, hread, hu⟩ := exists_of_normalize_url h
  refine ⟨u, s.host, hread, isNormalForm_text hs hu.1 hu.2.1 hu.2.2.1 hu.2.2.2,
    normalize_idem h, fun other normal' hother => ?_⟩
  obtain ⟨t, v, ht, rfl, hread', hv⟩ := exists_of_normalize_url hother
  exact ⟨v, hread', text_eq_iff hs ht hu hv⟩

/-- User information, the scheme's own port, dot segments, repeated slashes, a query and a fragment
are not told apart; another port is. -/
theorem normalize_canonical_spelled :
    normalize "hTTps://me@CONNECT.example.com:443/a/../%2E/rsc//?x=1#top" =
        .ok "https://connect.example.com/rsc" ∧
      ∃ u host, Url.read "hTTps://me@CONNECT.example.com:443/a/../%2E/rsc//?x=1#top" = .ok u ∧
        u.IsNormalForm host "https://connect.example.com/rsc" ∧
        normalize "https://connect.example.com/rsc" = .ok "https://connect.example.com/rsc" ∧
        ∃ v, Url.read "https://connect.example.com:80/rsc" = .ok v ∧ ¬ u.SameServer v := by
  have hnormal : normalize "hTTps://me@CONNECT.example.com:443/a/../%2E/rsc//?x=1#top" =
      .ok "https://connect.example.com/rsc" := by decide +kernel
  obtain ⟨u, host, hread, hform, hidem, hsame⟩ := normalize_canonical hnormal
  refine ⟨hnormal, u, host, hread, hform, hidem, ?_⟩
  obtain ⟨v, hv, hiff⟩ := hsame "https://connect.example.com:80/rsc"
    "https://connect.example.com:80/rsc" (by decide +kernel)
  exact ⟨v, hv, mt hiff.2 (by decide)⟩

end ServerUrl

end CredentialStore
