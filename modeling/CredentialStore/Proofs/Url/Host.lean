import CredentialStore.Proofs.Url.Address
import CredentialStore.Proofs.Url.Domain
import CredentialStore.Url.Reader

/-!
# Written hosts read back

A host that was read is written in printable characters that end no authority, the reader of a port
passes over it, and it reads back as itself. Main statement: `isWritten_of_read`.
-/

namespace CredentialStore

open Text Url

namespace Url

theorem utf8_cons (c : Char) (cs : List Char) : utf8 (c :: cs) = utf8 [c] ++ utf8 cs := by
  have hlist : String.ofList (c :: cs) = String.ofList [c] ++ String.ofList cs := by
    rw [← String.ofList_append, List.singleton_append]
  simp only [utf8, hlist, String.toUTF8_eq_toByteArray, String.toByteArray_append,
    ByteArray.data_append, Array.toList_append]

/-- A text without escapes stands for its own bytes. -/
theorem Percent.decode_of_plain {cs : List Char} (h : '%' ∉ cs) : decode cs = utf8 cs := by
  induction cs with
  | nil => rfl
  | cons c cs ih =>
    rw [List.mem_cons, not_or] at h
    rw [utf8_cons, ← ih h.2, decode.eq_def]
    split
    · rename_i heq
      cases heq
    · rename_i heq
      cases heq
      exact absurd rfl h.1
    · rename_i heq
      cases heq
      rfl

/-- Characters that are no colons and no brackets belong to the host. -/
theorem splitPort_append {cs : List Char} (h : ∀ c ∈ cs, c ≠ ':' ∧ c ≠ '[' ∧ c ≠ ']')
    (inBrackets : Bool) (rest : List Char) :
    splitPort inBrackets (cs ++ rest) =
      (cs ++ (splitPort inBrackets rest).1, (splitPort inBrackets rest).2) := by
  induction cs with
  | nil => rfl
  | cons c cs ih =>
    obtain ⟨hcolon, hopen, hclose⟩ := h c (by simp)
    rw [List.cons_append, splitPort, if_neg (by simp [hcolon]), if_neg hopen, if_neg hclose,
      ih fun x hx => h x (by simp [hx])]
    rfl

/-- So does all that stands in brackets. -/
theorem splitPort_bracketed {cs : List Char} (h : ∀ c ∈ cs, c ≠ '[' ∧ c ≠ ']')
    (rest : List Char) :
    splitPort false ('[' :: cs ++ [']'] ++ rest) =
      ('[' :: cs ++ [']'] ++ (splitPort false rest).1, (splitPort false rest).2) := by
  -- inside the brackets colons are passed over as well, so the induction starts behind the first
  have hinside : ∀ cs : List Char, (∀ c ∈ cs, c ≠ '[' ∧ c ≠ ']') →
      splitPort true (cs ++ ']' :: rest) =
        (cs ++ ']' :: (splitPort false rest).1, (splitPort false rest).2) := by
    intro cs
    induction cs with
    | nil =>
      intro _
      rw [List.nil_append, splitPort, if_neg (by decide), if_neg (by decide), if_pos rfl]
      rfl
    | cons c cs ih =>
      intro hcs
      obtain ⟨hopen, hclose⟩ := hcs c (by simp)
      rw [List.cons_append, splitPort, if_neg (by simp), if_neg hopen, if_neg hclose,
        ih fun x hx => hcs x (by simp [hx])]
      rfl
  have happend : '[' :: cs ++ [']'] ++ rest = '[' :: (cs ++ ']' :: rest) := by simp
  rw [happend, splitPort, if_neg (by decide), if_pos rfl, hinside cs h]
  simp

end Url

namespace Host

/-- A printable character that ends no authority and no user information. -/
def IsHostChar (c : Char) : Prop :=
  0x20 < c.toNat ∧ c.toNat < 0x7F ∧ c ≠ '/' ∧ c ≠ '\\' ∧ c ≠ '?' ∧ c ≠ '#' ∧ c ≠ '@'

/-- What the readers of a URL meet at the place of a written host. -/
structure IsWritten (h : Host) : Prop where
  read_text : Host.read h.text = .ok h
  text_ne_nil : h.text ≠ []
  isHostChar : ∀ c ∈ h.text, IsHostChar c
  splitPort_text : ∀ rest, splitPort false (h.text ++ rest) =
    (h.text ++ (splitPort false rest).1, (splitPort false rest).2)

theorem read_of_isNameChar {cs : List Char} (h : ∀ c ∈ cs, Domain.IsNameChar c)
    (hascii : Domain.toAscii? cs = some cs) (hne : cs ≠ []) :
    Host.read cs = if Ipv4.endsInNumber cs then (Ipv4.read cs).map .ipv4 else .ok (.name cs) := by
  have hpercent : '%' ∉ cs := fun hmem => absurd (h '%' hmem).2 (by decide)
  rw [Host.read]
  · rw [Percent.decode_of_plain hpercent, ofUtf8?_utf8, Option.bind_some, hascii]
    simp [hne]
  · rintro rest rfl
    exact absurd (h '[' List.mem_cons_self).2 (by decide)

theorem of_isNameChar {c : Char} (h : Domain.IsNameChar c) :
    IsHostChar c ∧ c ≠ ':' ∧ c ≠ '[' ∧ c ≠ ']' := by
  obtain ⟨hascii, hforbidden⟩ := h
  have hne : ∀ {d : Char}, Domain.isForbidden d = true → c ≠ d := by
    rintro d hd rfl
    rw [hd] at hforbidden
    cases hforbidden
  have hblank : ¬ c.toNat ≤ 0x20 ∧ c.toNat ≠ 0x7F := by
    simp only [Domain.isForbidden, Bool.or_eq_false_iff, decide_eq_false_iff_not, beq_eq_false_iff_ne]
      at hforbidden
    exact ⟨hforbidden.1.1.1, hforbidden.1.1.2⟩
  -- each delimiter is a character that names may not hold
  refine ⟨⟨by omega, by omega, ?_, ?_, ?_, ?_, ?_⟩, ?_, ?_, ?_⟩ <;> exact hne (by decide)

/-- A name that is its own ASCII form and no address. -/
theorem isWritten_name {cs : List Char} (h : ∀ c ∈ cs, Domain.IsNameChar c)
    (hascii : Domain.toAscii? cs = some cs) (hne : cs ≠ [])
    (hnumber : Ipv4.endsInNumber cs = false) : (Host.name cs).IsWritten where
  read_text := by rw [text, read_of_isNameChar h hascii hne, hnumber]; rfl
  text_ne_nil := hne
  isHostChar c hc := (of_isNameChar (h c hc)).1
  splitPort_text := splitPort_append (fun c hc => (of_isNameChar (h c hc)).2) false

theorem isNameChar_of_isDigitIn_ten {c : Char} (h : isDigitIn 10 c = true) :
    Domain.IsNameChar c ∧ c ≠ '.' := by
  obtain ⟨hlow, hhigh⟩ := toNat_of_isDigitIn_ten h
  have hall : ∀ n ∈ List.range 58, 48 ≤ n → Domain.isForbidden (Char.ofNat n) = false ∧
      Char.ofNat n ≠ '.' := by decide
  have hc := hall c.toNat (List.mem_range.2 (by omega)) hlow
  rw [Char.ofNat_toNat] at hc
  exact ⟨⟨by omega, hc.1⟩, hc.2⟩

theorem isWritten_ipv4 {address : Nat} (h : address < 4294967296) :
    (Host.ipv4 address).IsWritten := by
  have hparts : ∀ part ∈ Ipv4.writtenParts address, ∀ c ∈ part,
      Domain.IsNameChar c ∧ c ≠ '.' := fun part hpart c hc =>
    isNameChar_of_isDigitIn_ten (Ipv4.isDigitIn_of_mem_writtenParts hpart c hc)
  -- the marker of Punycode starts with a letter
  have hmarker : ∀ part ∈ Ipv4.writtenParts address, Domain.marker.isPrefixOf part = false := by
    intro part hpart
    cases part with
    | nil => rfl
    | cons c part =>
      have hc : c ≠ 'x' := by
        rintro rfl
        exact absurd (Ipv4.isDigitIn_of_mem_writtenParts hpart 'x' (by simp)) (by decide)
      simp [Domain.marker, List.isPrefixOf, Ne.symm hc]
  have hascii : Domain.toAscii? (Ipv4.write address) = some (Ipv4.write address) :=
    Domain.toAscii?_of_plain (List.cons_ne_nil _ _) hparts hmarker
  have hchars : ∀ c ∈ Ipv4.write address, Domain.IsNameChar c := by
    intro c hc
    rcases of_mem_intercalate hc with rfl | ⟨part, hpart, hc⟩
    · exact ⟨by decide, by decide⟩
    · exact (hparts part hpart c hc).1
  -- an empty text would be no number
  have hne : Ipv4.write address ≠ [] := fun hnil => by
    have := Ipv4.endsInNumber_write address
    rw [hnil] at this
    exact absurd this (by decide)
  refine ⟨?_, hne, fun c hc => (of_isNameChar (hchars c hc)).1,
    splitPort_append (fun c hc => (of_isNameChar (hchars c hc)).2) false⟩
  rw [text, read_of_isNameChar hchars hascii hne, Ipv4.endsInNumber_write, if_pos rfl,
    Ipv4.read_write h]
  rfl

/-- The characters of a written IPv6 address. -/
theorem of_mem_writeIpv6 {ps : List Nat} {c : Char} (h : c ∈ Ipv6.write ps) :
    c = ':' ∨ isDigitIn 16 c = true := by
  have hpieces : ∀ qs : List Nat, c ∈ Ipv6.writePieces qs → c = ':' ∨ isDigitIn 16 c = true := by
    intro qs hc
    rcases of_mem_intercalate hc with rfl | ⟨part, hpart, hc⟩
    · exact .inl rfl
    · rw [List.mem_map] at hpart
      obtain ⟨p, -, rfl⟩ := hpart
      exact .inr (Ipv6.isDigitIn_of_mem_hexDigits p c hc)
  rw [Ipv6.write] at h
  dsimp only at h
  split at h
  · simp only [List.mem_append, List.mem_cons, List.not_mem_nil, or_false, or_self] at h
    rcases h with (h | h) | h
    · exact hpieces _ h
    · exact .inl h
    · exact hpieces _ h
  · exact hpieces _ h

theorem isHostChar_of_isDigitIn_sixteen {c : Char} (h : isDigitIn 16 c = true) :
    IsHostChar c ∧ c ≠ '[' ∧ c ≠ ']' := by
  have hrange : c.toNat < 103 := Nat.lt_succ_of_le (toNat_of_isDigitIn_sixteen h).2
  -- checked for all codes up to the last digit
  have hall : ∀ n ∈ List.range 103, isDigitIn 16 (Char.ofNat n) = true →
      (0x20 < (Char.ofNat n).toNat ∧ (Char.ofNat n).toNat < 0x7F ∧ Char.ofNat n ≠ '/' ∧
        Char.ofNat n ≠ '\\' ∧ Char.ofNat n ≠ '?' ∧ Char.ofNat n ≠ '#' ∧ Char.ofNat n ≠ '@') ∧
      Char.ofNat n ≠ '[' ∧ Char.ofNat n ≠ ']' := by decide
  have hc := hall c.toNat (List.mem_range.2 hrange)
  rw [Char.ofNat_toNat] at hc
  exact hc h

theorem isWritten_ipv6 {ps : List Nat} (h : Ipv6.WellFormed ps) : (Host.ipv6 ps).IsWritten where
  read_text := by
    rw [text, List.cons_append, Host.read, readBracketed, List.getLast?_concat, if_pos rfl,
      List.dropLast_concat, Ipv6.read_write h]
    rfl
  text_ne_nil := by simp [text]
  isHostChar c hc := by
    have hmark : ∀ d ∈ ['[', ']', ':'], IsHostChar d := by
      simp only [List.mem_cons, List.not_mem_nil, or_false, forall_eq_or_imp, forall_eq,
        IsHostChar]
      decide
    rw [text, List.cons_append, List.mem_cons, List.mem_append, List.mem_singleton] at hc
    rcases hc with rfl | hc | rfl
    · exact hmark '[' (by simp)
    · rcases of_mem_writeIpv6 hc with rfl | hc
      · exact hmark ':' (by simp)
      · exact (isHostChar_of_isDigitIn_sixteen hc).1
    · exact hmark ']' (by simp)
  splitPort_text := by
    refine splitPort_bracketed fun c hc => ?_
    rcases of_mem_writeIpv6 hc with rfl | hc
    · decide
    · exact (isHostChar_of_isDigitIn_sixteen hc).2

/-- A host that was read from a URL of a well-known scheme. -/
theorem isWritten_of_read {cs : List Char} {h : Host} (hread : Host.read cs = .ok h) :
    h.IsWritten := by
  rw [Host.read.eq_def] at hread
  split at hread
  · rw [readBracketed] at hread
    split at hread
    · rename_i rest _
      cases hps : Ipv6.read rest.dropLast with
      | error e =>
        rw [hps] at hread
        cases hread
      | ok ps =>
        rw [hps] at hread
        cases hread
        exact isWritten_ipv6 (Ipv6.wellFormed_of_read hps)
    · cases hread
  · split at hread
    · cases hread
    · rename_i domain hdomain
      rw [Option.bind_eq_some_iff] at hdomain
      obtain ⟨name, -, hname⟩ := hdomain
      -- what was decoded may be anything, but its ASCII form is final
      obtain ⟨hascii, hchars⟩ := Domain.toAscii?_idem hname
      split at hread
      · cases hread
      · rename_i hne
        split at hread
        · cases haddress : Ipv4.read domain with
          | error e =>
            rw [haddress] at hread
            cases hread
          | ok address =>
            rw [haddress] at hread
            cases hread
            exact isWritten_ipv4 (Ipv4.lt_of_read haddress)
        · rename_i hnumber
          cases hread
          exact isWritten_name hchars hascii (by simpa using hne) (by simpa using hnumber)

end Host

end CredentialStore
