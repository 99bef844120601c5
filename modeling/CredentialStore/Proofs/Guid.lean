import CredentialStore.Guid.Basic
import CredentialStore.Proofs.Text.Characters
import CredentialStore.Proofs.Text.Digits

/-!
# Identifiers that the library makes

They are not empty and have no blanks at their ends.
-/

namespace CredentialStore.Guid

open Text

theorem printable_of_mem_write {bytes : List UInt8} :
    ∀ c ∈ (write bytes).toList, 0x20 < c.toNat ∧ c.toNat < 0x7F := by
  intro c hc
  have hdigits : ∀ d ∈ bytes.flatMap fun b => lowerHex 2 b.toNat,
      0x20 < d.toNat ∧ d.toNat < 0x7F := by
    intro d hd
    rw [List.mem_flatMap] at hd
    obtain ⟨b, -, hd⟩ := hd
    rcases List.mem_append.1 hd with hd | hd
    · rw [(List.mem_replicate.1 hd).2]
      decide
    · have hrange := toNat_of_isDigitIn_sixteen
        (isDigitIn_of_mem_toDigits (by decide) (by decide) b.toNat d hd)
      omega
  rw [write, String.toList_ofList] at hc
  rcases of_mem_intercalate hc with rfl | ⟨group, hgroup, hc⟩
  · decide
  · -- each group is a stretch of the digits
    have hmem : c ∈ bytes.flatMap fun b => lowerHex 2 b.toNat := by
      simp only [List.mem_cons, List.not_mem_nil, or_false] at hgroup
      rcases hgroup with rfl | rfl | rfl | rfl | rfl <;>
        exact List.mem_of_mem_drop (List.mem_of_mem_take hc)
    exact hdigits c hmem

theorem write_ne_empty (bytes : List UInt8) : write bytes ≠ "" := by
  intro h
  have := congrArg String.length h
  simp [write, List.intercalate_cons_cons] at this

theorem trim_write (bytes : List UInt8) : trim (write bytes) = write bytes :=
  (trim_eq_self_iff _).2
    ⟨fun c hc => isBlank_of_printable (printable_of_mem_write c (List.mem_of_head? hc)),
      fun c hc => isBlank_of_printable (printable_of_mem_write c (List.mem_of_getLast? hc))⟩

theorem ofRandom_ne_empty (bytes : List UInt8) : ofRandom bytes ≠ "" :=
  write_ne_empty _

theorem trim_ofRandom (bytes : List UInt8) : trim (ofRandom bytes) = ofRandom bytes :=
  trim_write _

theorem ofName_ne_empty (name : String) : ofName name ≠ "" :=
  write_ne_empty _

end CredentialStore.Guid
