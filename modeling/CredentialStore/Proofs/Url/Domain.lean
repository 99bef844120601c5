import CredentialStore.Proofs.Lists
import CredentialStore.Proofs.Text.Characters
import CredentialStore.Url.Domain

/-!
# The ASCII form of a domain name is final

An ASCII form is its own ASCII form. A label above ASCII is written only if its Punycode reads back
as it, and a label that comes in Punycode is taken only if it is the written form of the label that
it stands for; so the labels that the ASCII form stands for are the ones it was written from. Main
statements: `toAscii?_idem` and `toAscii?_of_plain` (a name of plain labels is its own ASCII form).
-/

namespace CredentialStore.Url.Domain

open Text Unicode

/-- A character of a written name. -/
def IsNameChar (c : Char) : Prop :=
  c.toNat < 0x80 ∧ isForbidden c = false

theorem mapped_of_isNameChar {c : Char} (h : IsNameChar c) : mapped c = some [c] := by
  have hupper : c.isUpper = false := by
    have := h.2
    simp only [isForbidden, Bool.or_eq_false_iff] at this
    exact this.1.2
  have hlower : c.toLower = c := dif_neg (of_decide_eq_false hupper)
  rw [mapped, if_pos h.1, hlower]

theorem mapM_mapped {cs : List Char} (h : ∀ c ∈ cs, IsNameChar c) :
    cs.mapM mapped = some (cs.map ([·])) := by
  induction cs with
  | nil => rfl
  | cons c cs ih =>
    rw [List.mapM_cons, mapped_of_isNameChar (h c (by simp)), ih fun x hx => h x (by simp [hx])]
    rfl

/-- A name is its own ASCII form if its labels are the written forms of the labels they stand for.
-/
theorem toAscii?_intercalate {written labels : List (List Char)} (hne : written ≠ [])
    (hchars : ∀ w ∈ written, ∀ c ∈ w, IsNameChar c ∧ c ≠ '.')
    (hlabels : written.mapM labelOf = some labels)
    (hdirection : (labels.any hasRightToLeft && !labels.all directionFits) = false)
    (hwritten : labels.mapM asciiLabel = some written) :
    toAscii? (['.'].intercalate written) = some (['.'].intercalate written) := by
  have hname : ∀ c ∈ ['.'].intercalate written, IsNameChar c := by
    intro c hc
    rcases of_mem_intercalate hc with rfl | ⟨w, hw, hc⟩
    · exact ⟨by decide, by decide⟩
    · exact (hchars w hw c hc).1
  -- a name of such characters is mapped to itself, and has nothing to compose
  have hflat : ((['.'].intercalate written).map ([·])).flatten = ['.'].intercalate written := by
    rw [← List.flatMap_def, List.flatMap_singleton']
  have hforbidden : (['.'].intercalate written).any isForbidden = false := by
    rw [List.any_eq_false]
    intro c hc
    simp [(hname c hc).2]
  have hsplit : (['.'].intercalate written).splitOn '.' = written :=
    List.splitOn_intercalate '.' (fun w hw hdot => (hchars w hw '.' hdot).2 rfl) hne
  rw [toAscii?, mapM_mapped hname]
  simp only [Option.bind_eq_bind, Option.bind_some, hflat,
    compose_of_ascii fun c hc => (hname c hc).1, hforbidden, hsplit, hlabels, hdirection, hwritten]
  rfl

/-! ## Labels -/

theorem isNameChar_digit {d : Nat} (h : d < 36) :
    IsNameChar (Punycode.digit d) ∧ Punycode.digit d ≠ '.' := by
  have hall : ∀ e ∈ List.range 36, (Punycode.digit e).toNat < 0x80 ∧
      isForbidden (Punycode.digit e) = false ∧ Punycode.digit e ≠ '.' := by decide
  have hd := hall d (List.mem_range.2 h)
  exact ⟨⟨hd.1, hd.2.1⟩, hd.2.2⟩

theorem of_mem_writeDelta (bias position delta : Nat) :
    ∀ c ∈ Punycode.writeDelta bias position delta, IsNameChar c ∧ c ≠ '.' := by
  induction delta using Nat.strongRecOn generalizing position with
  | _ delta ih =>
    have hpos := Punycode.threshold_pos position bias
    have hle := Punycode.threshold_le position bias
    -- the last digit, or one digit and what is left after a division
    rw [Punycode.writeDelta]
    split
    · intro c hc
      rw [List.mem_singleton] at hc
      subst hc
      exact isNameChar_digit (by omega)
    · intro c hc
      rcases List.mem_cons.1 hc with rfl | hc
      · have hmod := Nat.mod_lt (delta - Punycode.threshold position bias)
          (show 0 < 36 - Punycode.threshold position bias by omega)
        exact isNameChar_digit (by omega)
      · have hdiv := Nat.div_le_self (delta - Punycode.threshold position bias)
          (36 - Punycode.threshold position bias)
        exact ih _ (by omega) _ c hc

theorem of_mem_passAll (label : List Char) (basicCount : Nat) (state : Punycode.Encoder × Nat)
    (code : Nat) (h : ∀ c ∈ state.1.digits, IsNameChar c ∧ c ≠ '.') :
    ∀ c ∈ (Punycode.Encoder.passAll label basicCount state code).1.digits,
      IsNameChar c ∧ c ≠ '.' := by
  -- one pass over the label adds digits only where the code point is met
  have hfold : ∀ (cs : List Char) (e : Punycode.Encoder),
      (∀ c ∈ e.digits, IsNameChar c ∧ c ≠ '.') →
      ∀ c ∈ (cs.foldl (Punycode.Encoder.pass basicCount code) e).digits,
        IsNameChar c ∧ c ≠ '.' := by
    intro cs
    induction cs with
    | nil => exact fun e he => he
    | cons x cs ih =>
      intro e he
      refine ih _ ?_
      rw [Punycode.Encoder.pass]
      split
      · exact he
      · split
        · intro c hc
          rcases List.mem_append.1 hc with hc | hc
          · exact he c hc
          · exact of_mem_writeDelta _ _ _ c hc
        · exact he
  exact hfold label { state.1 with delta := state.1.delta + (code - state.2) * (state.1.count + 1) } h

/-- Punycode is made of the ASCII characters of the label, hyphens and digits. -/
theorem of_mem_encode {label : List Char}
    (h : ∀ c ∈ label, Punycode.isBasic c = true → IsNameChar c ∧ c ≠ '.') :
    ∀ c ∈ Punycode.encode label, IsNameChar c ∧ c ≠ '.' := by
  -- the passes for the code points above ASCII, in ascending order
  have hdigits : ∀ (codes : List Nat) (state : Punycode.Encoder × Nat),
      (∀ c ∈ state.1.digits, IsNameChar c ∧ c ≠ '.') →
      ∀ c ∈ (codes.foldl (Punycode.Encoder.passAll label (label.filter Punycode.isBasic).length)
        state).1.digits, IsNameChar c ∧ c ≠ '.' := by
    intro codes
    induction codes with
    | nil => exact fun state hstate => hstate
    | cons code codes ih => exact fun state hstate => ih _ (of_mem_passAll label _ state code hstate)
  intro c hc
  rw [Punycode.encode] at hc
  rcases List.mem_append.1 hc with hc | hc
  · split at hc
    · cases hc
    · rcases List.mem_append.1 hc with hc | hc
      · rw [List.mem_filter] at hc
        exact h c hc.1 hc.2
      · rw [List.mem_singleton] at hc
        subst hc
        exact ⟨⟨by decide, by decide⟩, by decide⟩
  · exact hdigits _ _ (by simp) c hc

/-- What a label stands for is a label: ASCII without the marker, or one that may be written. -/
theorem labelOf_cases {text label : List Char} (h : labelOf text = some label) :
    (text = marker ++ Punycode.encode label ∧ label.all Punycode.isBasic = false ∧
      isLabel label = true) ∨
    (text = label ∧ marker.isPrefixOf label = false ∧
      (label.all Punycode.isBasic = true ∨ isLabel label = true)) := by
  unfold labelOf at h
  split at h
  · split at h
    · cases h
    · split at h
      · cases h
      · rename_i hbasic
        split at h
        · rename_i hwritten
          cases h
          exact .inl ⟨hwritten.1.symm, by simpa using hbasic, hwritten.2⟩
        · cases h
  · rename_i hmarker
    split at h
    · rename_i htext
      cases h
      exact .inr ⟨rfl, Bool.not_eq_true _ ▸ hmarker, htext⟩
    · cases h

/-- The written form of a label stands for that label. -/
theorem labelOf_asciiLabel {text label written : List Char} (h : labelOf text = some label)
    (hw : asciiLabel label = some written) : labelOf written = some label := by
  rw [asciiLabel] at hw
  -- an ASCII label is written as it is, any other in Punycode behind the marker
  by_cases hbasic : label.all Punycode.isBasic = true
  · rw [if_pos hbasic] at hw
    cases hw
    rcases labelOf_cases h with ⟨-, hnot, -⟩ | ⟨-, hmarker, -⟩
    · rw [hbasic] at hnot
      cases hnot
    · rw [labelOf, hmarker, if_neg (by decide), if_pos (.inl hbasic)]
  · rw [if_neg hbasic] at hw
    dsimp only at hw
    split at hw
    · rename_i hdecode
      cases hw
      have hlabel : isLabel label = true := by
        rcases labelOf_cases h with ⟨-, -, hlabel⟩ | ⟨-, -, hall | hlabel⟩
        · exact hlabel
        · exact absurd hall hbasic
        · exact hlabel
      rw [labelOf, if_pos (by simp), List.drop_left, hdecode]
      simp only [Bool.not_eq_true] at hbasic
      simp [hbasic, hlabel]
    · cases hw

/-- The written form of a label is made of characters of names. -/
theorem of_mem_asciiLabel {text label written : List Char} (h : labelOf text = some label)
    (hw : asciiLabel label = some written)
    (hchars : ∀ c ∈ text, isForbidden c = false ∧ c ≠ '.') :
    ∀ c ∈ written, IsNameChar c ∧ c ≠ '.' := by
  have hbasics : ∀ {l : List Char}, (∀ c ∈ l, isForbidden c = false ∧ c ≠ '.') →
      ∀ c ∈ l, Punycode.isBasic c = true → IsNameChar c ∧ c ≠ '.' := fun hl c hc hbasic =>
    ⟨⟨by simpa [Punycode.isBasic] using hbasic, (hl c hc).1⟩, (hl c hc).2⟩
  rw [asciiLabel] at hw
  split at hw
  · rename_i hbasic
    cases hw
    rw [List.all_eq_true] at hbasic
    rcases labelOf_cases h with ⟨-, hnot, -⟩ | ⟨rfl, -, -⟩
    · rw [List.all_eq_true.2 hbasic] at hnot
      cases hnot
    · exact fun c hc => hbasics hchars c hc (hbasic c hc)
  · rename_i hbasic
    dsimp only at hw
    split at hw
    · cases hw
      intro c hc
      rcases labelOf_cases h with ⟨htext, -, -⟩ | ⟨rfl, -, -⟩
      · -- the text is the written form itself, and all of it is ASCII
        have hall : ∀ c ∈ marker ++ Punycode.encode label, isForbidden c = false ∧ c ≠ '.' := by
          rw [← htext]
          exact hchars
        rcases List.mem_append.1 hc with hc' | hc'
        · have hascii : c.toNat < 0x80 :=
            forall_mem_of_all (show (marker.all fun c => decide (c.toNat < 0x80)) = true by decide) hc'
          exact ⟨⟨hascii, (hall c hc).1⟩, (hall c hc).2⟩
        · -- an ASCII character of the label stands in the text as it is
          refine of_mem_encode ?_ c hc'
          intro b hb hbasic
          have hmem : b ∈ Punycode.encode label := by
            rw [Punycode.encode, List.mem_append]
            refine .inl ?_
            have hfilter : b ∈ label.filter Punycode.isBasic := List.mem_filter.2 ⟨hb, hbasic⟩
            rw [if_neg (by simp [List.ne_nil_of_mem hfilter])]
            exact List.mem_append_left _ hfilter
          exact hbasics hall b (List.mem_append_right _ hmem) hbasic
      · rcases List.mem_append.1 hc with hc | hc
        · obtain ⟨hascii, hallowed, hdot⟩ : c.toNat < 0x80 ∧ isForbidden c = false ∧ c ≠ '.' :=
            forall_mem_of_all (show (marker.all fun c =>
              decide (c.toNat < 0x80 ∧ isForbidden c = false ∧ c ≠ '.')) = true by decide) hc
          exact ⟨⟨hascii, hallowed⟩, hdot⟩
        · exact of_mem_encode (hbasics hchars) c hc
    · cases hw

/-! ## Names -/

theorem mapM_labelOf {texts labels written : List (List Char)}
    (hchars : ∀ t ∈ texts, ∀ c ∈ t, isForbidden c = false ∧ c ≠ '.')
    (hlabels : texts.mapM labelOf = some labels) (hwritten : labels.mapM asciiLabel = some written) :
    written.mapM labelOf = some labels ∧ written.length = texts.length ∧
      ∀ w ∈ written, ∀ c ∈ w, IsNameChar c ∧ c ≠ '.' := by
  induction texts generalizing labels written with
  | nil =>
    cases hlabels
    cases hwritten
    simp
  | cons text texts ih =>
    rw [List.mapM_cons] at hlabels
    simp only [Option.bind_eq_bind, Option.bind_eq_some_iff] at hlabels
    obtain ⟨label, hlabel, labels, hlabels, h⟩ := hlabels
    cases h
    rw [List.mapM_cons] at hwritten
    simp only [Option.bind_eq_bind, Option.bind_eq_some_iff] at hwritten
    obtain ⟨w, hw, written, hwritten, h⟩ := hwritten
    cases h
    obtain ⟨hmap, hlen, hall⟩ := ih (fun t ht => hchars t (by simp [ht])) hlabels hwritten
    refine ⟨?_, by simp [hlen], ?_⟩
    · rw [List.mapM_cons, labelOf_asciiLabel hlabel hw, hmap]
      rfl
    · intro x hx
      rcases List.mem_cons.1 hx with rfl | hx
      · exact of_mem_asciiLabel hlabel hw (hchars text (by simp))
      · exact hall x hx

/-- An ASCII form is its own ASCII form, and made of characters of names. -/
theorem toAscii?_idem {name ascii : List Char} (h : toAscii? name = some ascii) :
    toAscii? ascii = some ascii ∧ ∀ c ∈ ascii, IsNameChar c := by
  rw [toAscii?] at h
  simp only [Option.bind_eq_bind, Option.bind_eq_some_iff] at h
  obtain ⟨parts, -, h⟩ := h
  split at h
  · cases h
  · rename_i hforbidden
    simp only [Option.bind_eq_some_iff] at h
    obtain ⟨labels, hlabels, h⟩ := h
    split at h
    · cases h
    · rename_i hdirection
      simp only [Option.bind_eq_some_iff] at h
      obtain ⟨written, hwritten, h⟩ := h
      cases h
      have hchars : ∀ t ∈ (compose parts.flatten).splitOn '.', ∀ c ∈ t,
          isForbidden c = false ∧ c ≠ '.' := by
        intro t ht c hc
        obtain ⟨hmem, hdot⟩ := of_mem_splitOn ht c hc
        simp only [List.any_eq_true, not_exists, not_and, Bool.not_eq_true] at hforbidden
        exact ⟨hforbidden c hmem, hdot⟩
      obtain ⟨hmap, hlen, hall⟩ := mapM_labelOf hchars hlabels hwritten
      -- a name has at least one label, if only an empty one
      have hne : written ≠ [] := by
        have := List.length_pos_iff.2 (List.splitOn_ne_nil '.' (compose parts.flatten))
        rw [← List.length_pos_iff]
        omega
      refine ⟨toAscii?_intercalate hne hall hmap (by simpa using hdirection) hwritten, ?_⟩
      intro c hc
      rcases of_mem_intercalate hc with rfl | ⟨w, hw, hc⟩
      · exact ⟨by decide, by decide⟩
      · exact (hall w hw c hc).1

/-- A name of ASCII labels without the marker, none of them written from right to left, is its own
ASCII form. -/
theorem toAscii?_of_plain {labels : List (List Char)} (hne : labels ≠ [])
    (hchars : ∀ l ∈ labels, ∀ c ∈ l, IsNameChar c ∧ c ≠ '.')
    (hmarker : ∀ l ∈ labels, marker.isPrefixOf l = false) :
    toAscii? (['.'].intercalate labels) = some (['.'].intercalate labels) := by
  have hbasic : ∀ l ∈ labels, l.all Punycode.isBasic = true := by
    intro l hl
    rw [List.all_eq_true]
    intro c hc
    simpa [Punycode.isBasic] using (hchars l hl c hc).1.1
  have hmap : ∀ {f : List Char → Option (List Char)}, (∀ l ∈ labels, f l = some l) →
      labels.mapM f = some labels := fun hf => by
    have hread := mapM_map_of_forall (g := id) hf
    rwa [List.map_id] at hread
  have hleft : labels.any hasRightToLeft = false := by
    rw [List.any_eq_false]
    intro l hl
    rw [hasRightToLeft, Bool.not_eq_true, List.any_eq_false]
    intro c hc
    -- no ASCII character runs from right to left
    rw [direction, if_pos (hchars l hl c hc).1.1]
    split
    · decide
    · split <;> decide
  refine toAscii?_intercalate hne hchars (hmap fun l hl => ?_) (by rw [hleft]; rfl)
    (hmap fun l hl => ?_)
  · rw [labelOf, hmarker l hl, if_neg (by decide), if_pos (.inl (hbasic l hl))]
  · rw [asciiLabel, if_pos (hbasic l hl)]

end CredentialStore.Url.Domain
