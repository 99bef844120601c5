import CredentialStore.Text.Basic

/-!
# Characters of texts

What the parts of a split text are made of, and printable characters.
-/

namespace CredentialStore.Text

theorem takeWhile_of_forall {p : Char → Bool} {cs : List Char} (h : ∀ c ∈ cs, p c = true) :
    cs.takeWhile p = cs := by
  have happend : (cs ++ []).takeWhile p = cs ++ [].takeWhile p := List.takeWhile_append_of_pos h
  simpa using happend

theorem isBlank_of_printable {c : Char} (h : 0x20 < c.toNat ∧ c.toNat < 0x7F) :
    isBlank c = false := by
  simp only [isBlank, Bool.or_eq_false_iff, Bool.and_eq_false_iff, decide_eq_false_iff_not,
    beq_eq_false_iff_ne]
  omega

/-- The parts of a split text hold its characters, and no separator. -/
theorem of_mem_splitOnP {p : Char → Bool} {cs part : List Char} (h : part ∈ cs.splitOnP p) :
    ∀ c ∈ part, c ∈ cs ∧ p c = false := by
  induction cs generalizing part with
  | nil =>
    rw [List.splitOnP_nil, List.mem_singleton] at h
    subst h
    simp
  | cons a cs ih =>
    rw [List.splitOnP_cons_eq_if_modifyHead] at h
    obtain ⟨first, rest, hsplit⟩ := List.exists_cons_of_ne_nil (List.splitOnP_ne_nil p cs)
    -- a separator starts a new part, any other character belongs to the first one
    split at h
    · rcases List.mem_cons.1 h with rfl | h
      · simp
      · intro c hc
        exact ⟨List.mem_cons_of_mem a (ih h c hc).1, (ih h c hc).2⟩
    · rename_i ha
      rw [hsplit, List.modifyHead_cons] at h
      rcases List.mem_cons.1 h with rfl | h
      · intro c hc
        rcases List.mem_cons.1 hc with rfl | hc
        · exact ⟨List.mem_cons_self, by simpa using ha⟩
        · have hfirst := ih (by rw [hsplit]; exact List.mem_cons_self) c hc
          exact ⟨List.mem_cons_of_mem a hfirst.1, hfirst.2⟩
      · intro c hc
        have hpart := ih (by rw [hsplit]; exact List.mem_cons_of_mem _ h) c hc
        exact ⟨List.mem_cons_of_mem a hpart.1, hpart.2⟩

theorem of_mem_splitOn {a : Char} {cs part : List Char} (h : part ∈ cs.splitOn a) :
    ∀ c ∈ part, c ∈ cs ∧ c ≠ a := by
  intro c hc
  rw [List.splitOn_eq_splitOnP] at h
  simpa using of_mem_splitOnP h c hc

/-- The characters of an interspersed text are those of its parts and the separator. -/
theorem of_mem_intercalate {a c : Char} {parts : List (List Char)}
    (h : c ∈ [a].intercalate parts) : c = a ∨ ∃ part ∈ parts, c ∈ part := by
  induction parts with
  | nil => simp at h
  | cons part rest ih =>
    cases rest with
    | nil => exact .inr ⟨part, by simp, by simpa using h⟩
    | cons next rest =>
      rw [List.intercalate_cons_cons, List.mem_append, List.mem_append, List.mem_singleton] at h
      rcases h with (h | rfl) | h
      · exact .inr ⟨part, by simp, h⟩
      · exact .inl rfl
      · rcases ih h with rfl | ⟨p, hp, hc⟩
        · exact .inl rfl
        · exact .inr ⟨p, List.mem_cons_of_mem _ hp, hc⟩

end CredentialStore.Text
