import CredentialStore.Proofs.Url.Host
import CredentialStore.ServerUrl

/-!
# The normal form of a server URL

The written form of a server reads back as that server, so the normal form of a URL is its own
normal form. Main statements: `ServerUrl.read_text`, `ServerUrl.normalize_idem` and
`ServerUrl.isBlankText_of_normalize` (a normal form is not blank).
-/

namespace CredentialStore

open Text Url

namespace Url

/-- A character that stands for itself in a segment of a path. -/
def IsPathChar (c : Char) : Prop :=
  Percent.isPathSpecial c = false ∧ c ≠ '/' ∧ c ≠ '\\'

/-- A segment that stands for itself in a path. -/
def IsSegment (s : List Char) : Prop :=
  isSingleDot s = false ∧ isDoubleDot s = false ∧ ∀ c ∈ s, IsPathChar c

/-! ## Paths -/

theorem of_mem_escapeByte {b : UInt8} {c : Char} (h : c ∈ Percent.escapeByte b) : IsPathChar c := by
  -- the digits of all bytes
  have hhex : ∀ n ∈ List.range 256, ((upperHex 2 n).all fun c =>
      decide (Percent.isPathSpecial c = false ∧ c ≠ '/' ∧ c ≠ '\\')) = true := by decide +kernel
  rcases List.mem_cons.1 h with rfl | h
  · exact ⟨by decide, by decide, by decide⟩
  · exact forall_mem_of_all (hhex b.toNat (List.mem_range.2 b.toNat_lt)) h

/-- A percent-encoded part of a path is made of characters of paths. -/
theorem of_mem_encode {cs : List Char} (hcs : ∀ c ∈ cs, c ≠ '/' ∧ c ≠ '\\') :
    ∀ c ∈ Percent.encode Percent.isPathSpecial cs, IsPathChar c := by
  intro c hc
  rw [Percent.encode, List.mem_flatMap] at hc
  obtain ⟨d, hd, hc⟩ := hc
  split at hc
  · rw [List.mem_flatMap] at hc
    obtain ⟨b, -, hc⟩ := hc
    exact of_mem_escapeByte hc
  · rename_i hplain
    rw [List.mem_singleton] at hc
    subst hc
    exact ⟨by simpa using hplain, hcs c hd⟩

/-- Resolving leaves segments of the path that are no dots, or an empty one. -/
theorem of_mem_resolveFrom {above segments : List (List Char)}
    (habove : ∀ s ∈ above, s = [] ∨ IsSegment s)
    (hsegments : ∀ s ∈ segments, ∀ c ∈ s, IsPathChar c) :
    ∀ s ∈ resolveFrom above segments, s = [] ∨ IsSegment s := by
  have hparent : ∀ {above : List (List Char)}, (∀ s ∈ above, s = [] ∨ IsSegment s) →
      ∀ s ∈ parent above, s = [] ∨ IsSegment s := by
    intro above h
    cases above with
    | nil => simp [parent]
    | cons a above =>
      rw [parent]
      split
      · exact h
      · exact fun s hs => h s (List.mem_cons_of_mem a hs)
  -- a final dot segment leaves an empty segment
  have hempty : ∀ {above : List (List Char)}, (∀ s ∈ above, s = [] ∨ IsSegment s) →
      ∀ s ∈ ([] :: above).reverse, s = [] ∨ IsSegment s := by
    intro above h s hs
    rcases List.mem_cons.1 (List.mem_reverse.1 hs) with rfl | hs
    · exact .inl rfl
    · exact h s hs
  induction segments generalizing above with
  | nil => exact fun s hs => habove s (List.mem_reverse.1 hs)
  | cons x segments ih =>
    have hrest : ∀ s ∈ segments, ∀ c ∈ s, IsPathChar c := fun s hs =>
      hsegments s (List.mem_cons_of_mem x hs)
    rw [resolveFrom]
    split
    · split
      · exact hempty habove
      · exact ih habove hrest
    · rename_i hsingle
      split
      · split
        · exact hempty (hparent habove)
        · exact ih (hparent habove) hrest
      · rename_i hdouble
        refine ih (fun s hs => ?_) hrest
        rcases List.mem_cons.1 hs with rfl | hs
        · exact .inr ⟨by simpa using hsingle, by simpa using hdouble, hsegments s (by simp)⟩
        · exact habove s hs

theorem isSlash_network {p : Nat} {c : Char} :
    (SchemeKind.network p).isSlash c = true ↔ c = '/' ∨ c = '\\' := by
  simp [SchemeKind.isSlash, bne, BEq.beq]

theorem isSlash_of_isPathChar {p : Nat} {c : Char} (h : IsPathChar c) :
    (SchemeKind.network p).isSlash c = false := by
  rw [← Bool.not_eq_true, isSlash_network, not_or]
  exact h.2

/-- The segments of a path that was read. -/
theorem of_mem_readPath {p : Nat} {text : List Char} :
    ∀ s ∈ readPath (.network p) text, s = [] ∨ IsSegment s := by
  refine of_mem_resolveFrom (by simp) fun s hs => ?_
  rw [List.mem_map] at hs
  obtain ⟨part, hpart, rfl⟩ := hs
  refine of_mem_encode fun c hc => ?_
  have hslash := (of_mem_splitOnP hpart c hc).2
  rw [← Bool.not_eq_true, isSlash_network, not_or] at hslash
  exact hslash

/-- The written form of a path. -/
def writePath (segments : List (List Char)) : List Char :=
  segments.flatMap ('/' :: ·)

/-- A segment with a written path behind it splits into the segments. -/
theorem splitOnP_append_writePath {p : Nat} {s : List Char} {rest : List (List Char)}
    (h : ∀ t ∈ s :: rest, ∀ c ∈ t, IsPathChar c) :
    (s ++ writePath rest).splitOnP (SchemeKind.network p).isSlash = s :: rest := by
  induction rest generalizing s with
  | nil =>
    rw [writePath, List.flatMap_nil, List.append_nil]
    exact List.splitOnP_eq_singleton fun c hc => isSlash_of_isPathChar (h s (by simp) c hc)
  | cons t rest ih =>
    have hnot : ∀ c ∈ s, (SchemeKind.network p).isSlash c = false := fun c hc =>
      isSlash_of_isPathChar (h s (by simp) c hc)
    have hcons : s ++ writePath (t :: rest) = s ++ '/' :: (t ++ writePath rest) := by
      simp [writePath]
    rw [hcons, List.splitOnP_append_cons_of_forall_mem hnot '/' (isSlash_network.2 (.inl rfl)),
      ih fun x hx => h x (List.mem_cons_of_mem s hx)]

/-- A written path reads back. -/
theorem readPath_writePath {p : Nat} {segments : List (List Char)}
    (h : ∀ s ∈ segments, s ≠ [] ∧ IsSegment s) :
    (readPath (.network p) (writePath segments)).filter (!·.isEmpty) = segments := by
  -- neither a query nor a fragment begins in the path
  have hplain : ∀ c ∈ writePath segments, (c != '?' && c != '#') = true := by
    intro c hc
    rw [writePath, List.mem_flatMap] at hc
    obtain ⟨s, hs, hc⟩ := hc
    rcases List.mem_cons.1 hc with rfl | hc
    · decide
    · have hspecial := ((h s hs).2.2.2 c hc).1
      have hne : ∀ d, Percent.isPathSpecial d = true → c ≠ d := by
        rintro d hd rfl
        rw [hd] at hspecial
        cases hspecial
      simp [hne '?' (by decide), hne '#' (by decide)]
  have hencode : ∀ s ∈ segments, Percent.encode Percent.isPathSpecial s = s := fun s hs =>
    Percent.encode_of_plain fun c hc => ((h s hs).2.2.2 c hc).1
  rw [readPath, takeWhile_of_forall hplain]
  cases segments with
  | nil =>
    rfl
  | cons s rest =>
    have hcons : writePath (s :: rest) = '/' :: (s ++ writePath rest) := by simp [writePath]
    rw [hcons]
    simp only [isSlash_network.2 (.inl rfl), if_true]
    rw [splitOnP_append_writePath fun t ht => (h t ht).2.2.2, List.map_congr_left hencode,
      List.map_id', resolve_of_plain fun t ht => ⟨(h t ht).2.1, (h t ht).2.2.1⟩,
      List.filter_eq_self]
    intro t ht
    simp [(h t ht).1]

/-! ## Authorities -/

theorem portOf_eq_some {p n : Nat} {q : Option Nat} (h : (SchemeKind.network p).portOf q = some n) :
    q = some n ∧ n ≠ p := by
  cases q with
  | none => cases h
  | some m =>
    simp only [SchemeKind.portOf] at h
    split at h
    · cases h
    · cases h
      exact ⟨rfl, by assumption⟩

/-- A port that is left is not the scheme's own, so it is left again. -/
theorem portOf_portOf (p : Nat) (q : Option Nat) :
    (SchemeKind.network p).portOf ((SchemeKind.network p).portOf q) =
      (SchemeKind.network p).portOf q := by
  cases hn : (SchemeKind.network p).portOf q with
  | none => rfl
  | some n => simp only [SchemeKind.portOf, if_neg (portOf_eq_some hn).2]

theorem le_of_readPort {text : List Char} {n : Nat} (h : readPort text = .ok (some n)) :
    n ≤ 65535 := by
  rw [readPort] at h
  split at h
  · cases h
  · split at h
    · rename_i hdigits
      cases h
      exact hdigits.2
    · cases h

/-- The host and the port in front of a path. -/
theorem of_readAuthority {p : Nat} {authority : List Char} {more : Bool} {host : Option Host}
    {port : Option Nat} (h : readAuthority (.network p) authority more = .ok (host, port)) :
    ∃ (x : Host) (q : Option Nat), host = some x ∧ x.IsWritten ∧
      port = (SchemeKind.network p).portOf q ∧ ∀ n, q = some n → n ≤ 65535 := by
  rw [readAuthority] at h
  dsimp only [bind, Except.bind, pure, Except.pure] at h
  split at h
  · cases h
  · rw [if_neg (by simp)] at h
    split at h
    · cases h
    · split at h
      · cases h
      · rename_i x hx
        split at h
        · cases h
        · rename_i q hq
          cases h
          refine ⟨x, q, rfl, Host.isWritten_of_read hx, rfl, fun n hn => ?_⟩
          subst hn
          exact le_of_readPort hq

/-! ## URLs under the schemes of the web -/

/-- What holds of a URL that was read under such a scheme, whose own port is given. -/
structure IsNetwork (p : Nat) (u : Url) : Prop where
  host : ∃ x, u.host = some x ∧ x.IsWritten
  port_le : ∀ n, u.port = some n → n ≤ 65535
  portOf_port : (SchemeKind.network p).portOf u.port = u.port
  path : ∀ s ∈ u.path, s = [] ∨ IsSegment s

theorem isNetwork_of_readHierarchy {scheme text : List Char} {p : Nat} {u : Url}
    (h : readHierarchy scheme (.network p) text = .ok u) : u.IsNetwork p := by
  rw [readHierarchy] at h
  dsimp only [bind, Except.bind, pure, Except.pure] at h
  split at h
  · cases h
  · rename_i hauthority
    cases h
    obtain ⟨x, q, hx, hwritten, hq, hle⟩ := of_readAuthority hauthority
    refine ⟨⟨x, hx, hwritten⟩, fun n hn => ?_, ?_, of_mem_readPath⟩
    · dsimp only at hn
      rw [hq] at hn
      exact hle n (portOf_eq_some hn).1
    · dsimp only
      rw [hq, portOf_portOf]

theorem scheme_readAfterScheme {scheme text : List Char} {u : Url}
    (h : readAfterScheme scheme text = .ok u) : u.scheme = scheme := by
  have hhierarchy : ∀ {k : SchemeKind} {text : List Char}, readHierarchy scheme k text = .ok u →
      u.scheme = scheme := by
    intro k text h
    rw [readHierarchy] at h
    dsimp only [bind, Except.bind, pure, Except.pure] at h
    split at h
    · cases h
    · cases h
      rfl
  have hfile : ∀ {text : List Char}, readFileHierarchy scheme text = .ok u →
      u.scheme = scheme := by
    intro text h
    rw [readFileHierarchy] at h
    dsimp only [bind, Except.bind, pure, Except.pure] at h
    split at h
    · cases h
      rfl
    · split at h
      · cases h
        rfl
      · split at h
        · cases h
        · cases h
          rfl
  -- one case for each kind of scheme and each beginning of the text
  unfold readAfterScheme at h
  split at h
  · exact hhierarchy h
  · split at h
    · exact hfile h
    · cases h
      rfl
  · cases h
    rfl
  · exact hhierarchy h
  · cases h
    rfl
  · cases h
    rfl

theorem isNetwork_of_read {text : String} {u : Url} (h : Url.read text = .ok u) {p : Nat}
    (hkind : SchemeKind.of u.scheme = .network p) : u.IsNetwork p := by
  rw [Url.read] at h
  split at h
  · cases h
  · rw [scheme_readAfterScheme h] at hkind
    unfold readAfterScheme at h
    simp only [hkind] at h
    exact isNetwork_of_readHierarchy h

end Url

namespace ServerUrl

/-- What holds of a server that was read. -/
structure IsCanonical (s : ServerUrl) : Prop where
  scheme_eq : s.scheme = "http".toList ∨ s.scheme = "https".toList
  host_isWritten : s.host.IsWritten
  port_le : ∀ p, s.port = some p → p ≤ 65535
  portOf_port : (SchemeKind.of s.scheme).portOf s.port = s.port
  isSegment : ∀ x ∈ s.segments, x ≠ [] ∧ IsSegment x

theorem exists_kind {scheme : List Char}
    (h : scheme = "http".toList ∨ scheme = "https".toList) :
    ∃ p, SchemeKind.of scheme = .network p := by
  rcases h with rfl | rfl
  · exact ⟨80, by decide⟩
  · exact ⟨443, by decide⟩

theorem isCanonical_of_read {raw : String} {s : ServerUrl} (h : read raw = .ok s) :
    s.IsCanonical := by
  rw [read] at h
  split at h
  · cases h
  · split at h
    · cases h
    · rename_i u hu
      rw [ofUrl] at h
      split at h
      · rename_i hscheme
        obtain ⟨p, hkind⟩ := exists_kind hscheme
        have hnetwork := isNetwork_of_read hu hkind
        split at h
        · rename_i host hhost
          cases h
          obtain ⟨x, hx, hwritten⟩ := hnetwork.host
          have hxhost : x = host := Option.some.inj (hx.symm.trans hhost)
          refine ⟨hscheme, hxhost ▸ hwritten, hnetwork.port_le, ?_, fun segment hsegment => ?_⟩
          · dsimp only
            rw [hkind]
            exact hnetwork.portOf_port
          · -- the empty segments are left out
            rw [List.mem_filter] at hsegment
            obtain ⟨hmem, hne⟩ := hsegment
            have hne : segment ≠ [] := by simpa using hne
            exact ⟨hne, (hnetwork.path segment hmem).resolve_left hne⟩
        · cases h
      · cases h

/-! ## Reading a written form -/

/-- The part of a written form behind the scheme and the slashes, before the path. -/
def authority (s : ServerUrl) : List Char :=
  s.host.text ++ match s.port with
    | some p => ':' :: decimalDigits p
    | none => []

theorem toList_text (s : ServerUrl) :
    s.text.toList = s.scheme ++ "://".toList ++ (s.authority ++ writePath s.segments) := by
  cases hport : s.port <;> simp [text, origin, authority, writePath, hport]

variable {s : ServerUrl}

theorem isHostChar_of_mem_authority (h : s.IsCanonical) :
    ∀ c ∈ s.authority, Host.IsHostChar c := by
  intro c hc
  rw [authority, List.mem_append] at hc
  rcases hc with hc | hc
  · exact h.host_isWritten.isHostChar c hc
  · split at hc
    · rcases List.mem_cons.1 hc with rfl | hc
      · simp only [Host.IsHostChar]
        decide
      · exact (Host.of_isNameChar (Host.isNameChar_of_isDigitIn_ten
          (isDigitIn_of_mem_decimalDigits _ c hc)).1).1
    · cases hc

/-- A written form is made of printable ASCII characters. -/
theorem printable_of_mem_text (h : s.IsCanonical) :
    ∀ c ∈ s.text.toList, 0x20 < c.toNat ∧ c.toNat < 0x7F := by
  intro c hc
  rw [toList_text, List.mem_append, List.mem_append, List.mem_append] at hc
  rcases hc with (hc | hc) | hc | hc
  · have hletters : (("http".toList ++ "https".toList).all fun c =>
        decide (0x20 < c.toNat ∧ c.toNat < 0x7F)) = true := by decide
    rcases h.scheme_eq with hscheme | hscheme
    · exact forall_mem_of_all hletters (List.mem_append_left _ (hscheme ▸ hc))
    · exact forall_mem_of_all hletters (List.mem_append_right _ (hscheme ▸ hc))
  · exact forall_mem_of_all (show ("://".toList.all fun c =>
      decide (0x20 < c.toNat ∧ c.toNat < 0x7F)) = true by decide) hc
  · have hchar := isHostChar_of_mem_authority h c hc
    exact ⟨hchar.1, hchar.2.1⟩
  · rw [writePath, List.mem_flatMap] at hc
    obtain ⟨segment, hsegment, hc⟩ := hc
    rcases List.mem_cons.1 hc with rfl | hc
    · decide
    · have hspecial := ((h.isSegment segment hsegment).2.2.2 c hc).1
      -- a space in a path would have been escaped
      have hspace : c ≠ ' ' := by
        rintro rfl
        exact absurd hspecial (by decide)
      have hcode : c.toNat ≠ 0x20 := fun hcode => hspace (by rw [← Char.ofNat_toNat c, hcode])
      simp only [Percent.isPathSpecial, Percent.isControl, Bool.or_eq_false_iff,
        decide_eq_false_iff_not] at hspecial
      omega

theorem trim_text (h : s.IsCanonical) : trim s.text = s.text := by
  rw [trim_eq_self_iff]
  exact ⟨fun c hc => isBlank_of_printable (printable_of_mem_text h c (List.mem_of_head? hc)),
    fun c hc => isBlank_of_printable (printable_of_mem_text h c (List.mem_of_getLast? hc))⟩

theorem cleaned_text (h : s.IsCanonical) : cleaned s.text.toList = s.text.toList := by
  have hends : ∀ c ∈ s.text.toList, decide (c.toNat ≤ 0x20) = false := fun c hc => by
    have := (printable_of_mem_text h c hc).1
    rw [decide_eq_false_iff_not]
    omega
  have htrim : trimBy (·.toNat ≤ 0x20) s.text.toList = s.text.toList :=
    (trimBy_eq_self_iff _ _).2 ⟨fun c hc => hends c (List.mem_of_head? hc),
      fun c hc => hends c (List.mem_of_getLast? hc)⟩
  rw [cleaned, htrim, List.filter_eq_self]
  intro c hc
  -- line breaks and tabs lie below the space
  have hlow := (printable_of_mem_text h c hc).1
  have hne : ∀ d : Char, d.toNat ≤ 0x20 → c ≠ d := by
    rintro d hd rfl
    omega
  simp [hne '\t' (by decide), hne '\n' (by decide), hne '\r' (by decide)]

theorem splitScheme_text (h : s.IsCanonical) :
    splitScheme s.text.toList =
      some (s.scheme, "//".toList ++ (s.authority ++ writePath s.segments)) := by
  rw [toList_text]
  rcases h.scheme_eq with hscheme | hscheme <;> rw [hscheme] <;> rfl

/-- The reader of an authority meets the written host and port. -/
theorem readAuthority_authority (h : s.IsCanonical) {p : Nat}
    (hkind : SchemeKind.of s.scheme = .network p) (more : Bool) :
    readAuthority (.network p) s.authority more = .ok (some s.host, s.port) := by
  have hport := h.portOf_port
  rw [hkind] at hport
  -- no sign of user information in the host or the port
  have huser : splitUserInfo s.authority = (none, s.authority) := by
    rw [splitUserInfo, if_neg]
    rw [List.contains_eq_mem, decide_eq_true_eq]
    exact fun hmem => (isHostChar_of_mem_authority h '@' hmem).2.2.2.2.2.2 rfl
  have hempty : s.host.text.isEmpty = false := by
    simpa using h.host_isWritten.text_ne_nil
  cases hs : s.port with
  | none =>
    have hsplit : splitPort false s.authority = (s.host.text, none) := by
      rw [authority, h.host_isWritten.splitPort_text, hs]
      simp [splitPort]
    rw [readAuthority, huser]
    simp only [hsplit, hempty, h.host_isWritten.read_text, reduceCtorEq, Bool.false_eq_true,
      false_and, if_false]
    rfl
  | some n =>
    have hsplit : splitPort false s.authority = (s.host.text, some (decimalDigits n)) := by
      rw [authority, h.host_isWritten.splitPort_text, hs]
      simp [splitPort]
    have hdigits : (decimalDigits n).takeWhile (· ≠ '\\') = decimalDigits n := by
      refine takeWhile_of_forall fun c hc => ?_
      have hdigit := isDigitIn_of_mem_decimalDigits n c hc
      rw [decide_eq_true_eq]
      rintro rfl
      exact absurd hdigit (by decide)
    have hread : readPort (decimalDigits n) = .ok (some n) := by
      rw [readPort, hdigits, if_neg (by simpa using decimalDigits_ne_nil n),
        if_pos ⟨List.all_eq_true.2 (isDigitIn_of_mem_decimalDigits n), by
          rw [ofDigits_decimalDigits]
          exact h.port_le n hs⟩, ofDigits_decimalDigits]
    rw [hs] at hport
    rw [readAuthority, huser]
    simp only [hsplit, hempty, h.host_isWritten.read_text, Option.getD_some, hread, reduceCtorEq,
      Bool.false_eq_true, false_and, if_false]
    -- the port is not the scheme's own, so it stays
    exact congrArg (fun port => Except.ok (some s.host, port)) hport

/-- The written form of a server reads back as that server. -/
theorem read_text (h : s.IsCanonical) : read s.text = .ok s := by
  obtain ⟨p, hkind⟩ := exists_kind h.scheme_eq
  -- the authority reaches up to the first slash of the path, or the end
  have hauthority : ∀ c ∈ s.authority, (!(SchemeKind.network p).endsAuthority c) = true := by
    intro c hc
    obtain ⟨-, -, hslash, hback, hquery, hmark, -⟩ := isHostChar_of_mem_authority h c hc
    simp [SchemeKind.endsAuthority, SchemeKind.isSlash, hslash, hback, hquery, hmark]
  have hrest : ∀ c, (writePath s.segments).head? = some c →
      (!(SchemeKind.network p).endsAuthority c) = false := by
    intro c hc
    cases hsegments : s.segments with
    | nil => simp [hsegments, writePath] at hc
    | cons x xs =>
      simp only [hsegments, writePath, List.flatMap_cons, List.cons_append, List.head?_cons,
        Option.some.injEq] at hc
      subst hc
      simp [SchemeKind.endsAuthority, SchemeKind.isSlash]
  obtain ⟨htake, hdrop⟩ := takeWhile_digits hauthority hrest
  -- a host starts with no slash, so that exactly two slashes are dropped
  have hslashes : ("//".toList ++ (s.authority ++ writePath s.segments)).dropWhile
      (SchemeKind.network p).isSlash = s.authority ++ writePath s.segments := by
    obtain ⟨c, cs, hcons⟩ := List.exists_cons_of_ne_nil
      (show s.authority ≠ [] by simp [authority, h.host_isWritten.text_ne_nil])
    have hc := isHostChar_of_mem_authority h c (by rw [hcons]; exact List.mem_cons_self)
    have hnot : (SchemeKind.network p).isSlash c = false := by
      rw [← Bool.not_eq_true, isSlash_network, not_or]
      exact ⟨hc.2.2.1, hc.2.2.2.1⟩
    have htwo : "//".toList = ['/', '/'] := rfl
    rw [htwo, hcons]
    simp [isSlash_network.2 (.inl rfl), hnot]
  have hurl : Url.read s.text = .ok
      ⟨s.scheme, some s.host, s.port, readPath (.network p) (writePath s.segments)⟩ := by
    rw [Url.read, cleaned_text h, splitScheme_text h]
    dsimp only
    unfold readAfterScheme
    simp only [hkind]
    rw [hslashes, readHierarchy]
    simp only [htake, hdrop, readAuthority_authority h hkind]
    rfl
  have hne : ¬ trim s.text ≠ s.text := by simp [trim_text h]
  rw [read, if_neg hne, hurl]
  simp only [ofUrl, if_pos h.scheme_eq, readPath_writePath h.isSegment]

/-! ## Normal forms -/

/-- A normal form is the written form of a server. -/
theorem exists_of_normalize {raw normal : String} (h : normalize raw = .ok normal) :
    ∃ s : ServerUrl, s.IsCanonical ∧ normal = s.text := by
  rw [normalize] at h
  cases hread : read raw with
  | error fault =>
    rw [hread] at h
    cases h
  | ok s =>
    rw [hread] at h
    cases h
    exact ⟨s, isCanonical_of_read hread, rfl⟩

/-- A normal form is its own normal form. -/
theorem normalize_idem {raw normal : String} (h : normalize raw = .ok normal) :
    normalize normal = .ok normal := by
  obtain ⟨s, hs, rfl⟩ := exists_of_normalize h
  rw [normalize, read_text hs]
  rfl

/-- A normal form is not blank. -/
theorem isBlankText_of_normalize {raw normal : String} (h : normalize raw = .ok normal) :
    isBlankText normal = false := by
  obtain ⟨s, hs, rfl⟩ := exists_of_normalize h
  obtain ⟨c, cs, hcons⟩ := List.exists_cons_of_ne_nil
    (show s.text.toList ≠ [] by rw [toList_text]; simp)
  have hc := isBlank_of_printable (printable_of_mem_text hs c (by rw [hcons]; simp))
  simp [isBlankText, hcons, hc]

end ServerUrl

end CredentialStore
