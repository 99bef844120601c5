import CredentialStore.Toml.Reader
import CredentialStore.Toml.Writer
import CredentialStore.Proofs.Text.Digits

/-!
# Strings of TOML read back

Every written string reads back, in each of its forms. In triple quotes this takes some care: up to
two quotes may stand in a row inside the string and right before its end, where the reader meets
three quotes too early and gives the surplus back to the string.

Main statements:

* `readBasic_writeBasic`, `readLongBasic_writeBasic` — text with escapes, in single and in triple
  quotes;
* `readLiteral_plain`, `readLongLiteral_plain` — text without escapes;
* `readString_writeString` — a string as a value reads back, whatever follows but a quote;
* `readKey_writeKey` — a string as a key reads back.
-/

namespace CredentialStore.Toml

open Text

/-! ## Escapes -/

theorem readEscape_code {n : Nat} (h : n < 256) (rest : List Char) :
    readEscape ('u' :: upperHex 4 n ++ rest) = some (Char.ofNat n, rest) := by
  -- four digits, the first two of them zeros
  have hform : upperHex 4 n =
      ['0', '0', (digitChar (n / 16)).toUpper, (digitChar (n % 16)).toUpper] := by
    have hdigits := lowerHex_four h
    have hmap := congrArg (List.map Char.toUpper) hdigits
    simpa [lowerHex, upperHex] using hmap
  have hzero : digitValue '0' = 0 := by decide
  have hhigh := digitValue_toUpper_digitChar (show n / 16 < 36 by omega)
  have hlow := digitValue_toUpper_digitChar (show n % 16 < 36 by omega)
  have hvalue : ofDigits 16
      ['0', '0', (digitChar (n / 16)).toUpper, (digitChar (n % 16)).toUpper] = n := by
    simp only [ofDigits, List.foldl_cons, List.foldl_nil, hzero, hhigh, hlow]
    omega
  have hall : ['0', '0', (digitChar (n / 16)).toUpper, (digitChar (n % 16)).toUpper].all
      (isDigitIn 16) = true := by
    simp only [List.all_cons, List.all_nil, isDigitIn, hzero, hhigh, hlow, Bool.and_true,
      Bool.and_eq_true, decide_eq_true_eq]
    omega
  have hvalid : n.isValidChar := .inl (by omega)
  rw [hform]
  show (ofCode? _).map (fun x => (x, rest)) = _
  rw [ofCode?, hvalue, if_pos ⟨hall, hvalid⟩]
  rfl

/-- A character stands for itself or as an escape, which never looks like a continued line. -/
theorem writeChar_cases (long : Bool) (quotes : Nat) (c : Char) :
    (writeChar long quotes c = [c] ∧ c ≠ '\\' ∧ (c = '\n' ∧ long = true ∨ isText c = true) ∧
      (c = '"' → long = true ∧ quotes < 2)) ∨
    ∃ e, writeChar long quotes c = '\\' :: e ∧
      ∀ rest, readEscape (e ++ rest) = some (c, rest) ∧ dropContinuation? (e ++ rest) = none := by
  unfold writeChar
  split
  case h_1 => exact .inr ⟨['b'], rfl, fun _ => ⟨rfl, rfl⟩⟩
  case h_2 => exact .inr ⟨['t'], rfl, fun _ => ⟨rfl, rfl⟩⟩
  -- a line end is written as it is between triple quotes only
  case h_3 =>
    cases long with
    | true => exact .inl ⟨rfl, by decide, .inl ⟨rfl, rfl⟩, fun h => absurd h (by decide)⟩
    | false => exact .inr ⟨['n'], rfl, fun _ => ⟨rfl, rfl⟩⟩
  case h_4 => exact .inr ⟨['f'], rfl, fun _ => ⟨rfl, rfl⟩⟩
  case h_5 => exact .inr ⟨['r'], rfl, fun _ => ⟨rfl, rfl⟩⟩
  case h_6 => exact .inr ⟨['\\'], rfl, fun _ => ⟨rfl, rfl⟩⟩
  case h_7 =>
    -- up to two quotes in a row stay as they are between triple quotes
    by_cases hq : long = true ∧ quotes < 2
    · refine .inl ⟨?_, by decide, .inr (by decide), fun _ => hq⟩
      simp [hq.1, hq.2]
    · refine .inr ⟨['"'], ?_, fun _ => ⟨rfl, rfl⟩⟩
      have hcond : ¬ (long && decide (quotes < 2)) = true := by simpa using hq
      rw [if_neg hcond]
  case h_8 hb ht hn hf hr hs hq =>
    -- control characters are written by their codes
    by_cases he : needsEscape c = true
    · refine .inr ⟨'u' :: upperHex 4 c.toNat, by rw [if_pos he], fun rest => ⟨?_, rfl⟩⟩
      have hlt : c.toNat < 256 := by
        simp only [needsEscape, Bool.or_eq_true, Bool.and_eq_true, decide_eq_true_eq,
          beq_iff_eq] at he
        rcases he with ⟨⟨he, -⟩, -⟩ | rfl
        · omega
        · decide
      rw [readEscape_code hlt, Char.ofNat_toNat]
    · refine .inl ⟨by rw [if_neg he], hs, .inr ?_, fun h => absurd h hq⟩
      simp only [needsEscape, Bool.or_eq_true, Bool.and_eq_true, decide_eq_true_eq, bne_iff_ne,
        beq_iff_eq, not_or, not_and] at he
      have hge : 0x20 ≤ c.toNat := by
        refine Classical.byContradiction fun hlt => ?_
        exact he.1 ⟨by omega, ht⟩ hn
      simp [isText, hge, he.2]

/-! ## Single quotes -/

theorem readBasic_escape {cs rest : List Char} {c : Char} (h : readEscape cs = some (c, rest)) :
    readBasic ('\\' :: cs) = (readBasic rest).map fun (s, rest) => (c :: s, rest) := by
  rw [readBasic]
  · simp only [if_true]
    split
    · rename_i hx
      rw [h] at hx
      cases hx
      rfl
    · rename_i hx
      rw [h] at hx
      cases hx
  · decide

theorem readBasic_text {c : Char} (hquote : c ≠ '"') (hslash : c ≠ '\\') (htext : isText c = true)
    (cs : List Char) :
    readBasic (c :: cs) = (readBasic cs).map fun (s, rest) => (c :: s, rest) := by
  rw [readBasic]
  · rw [if_neg hslash, if_pos htext]
  · exact hquote

/-- Text with escapes reads back. -/
theorem readBasic_writeBasic (s rest : List Char) (quotes : Nat) :
    readBasic (writeBasic false quotes s ++ '"' :: rest) = some (s, rest) := by
  induction s generalizing quotes with
  | nil => rw [writeBasic, List.nil_append, readBasic]
  | cons c s ih =>
    rw [writeBasic, List.append_assoc]
    rcases writeChar_cases false quotes c with ⟨hform, hslash, htext, hquote⟩ | ⟨e, hform, he⟩
    · have hc : c ≠ '"' := fun h => by simpa using (hquote h).1
      have ht : isText c = true := htext.resolve_left fun h => by simpa using h.2
      rw [hform, List.singleton_append, readBasic_text hc hslash ht, ih]
      rfl
    · rw [hform, List.cons_append, readBasic_escape (he _).1, ih]
      rfl

/-- Text without an apostrophe stands between apostrophes as it is. -/
theorem readLiteral_plain {s : List Char} (hs : ∀ c ∈ s, isText c = true ∧ c ≠ '\'')
    (rest : List Char) : readLiteral (s ++ '\'' :: rest) = some (s, rest) := by
  induction s with
  | nil => rw [List.nil_append, readLiteral]
  | cons c s ih =>
    obtain ⟨htext, hquote⟩ := hs c (by simp)
    rw [List.cons_append, readLiteral, if_pos htext, ih fun x hx => hs x (by simp [hx])]
    · rfl
    · exact hquote

/-! ## Triple quotes -/

/-- Quotes that stand in a row right before the end belong to the string. -/
theorem readLastQuotes_replicate {quote : Char} (count : Nat) (h : count ≤ 2) {rest : List Char}
    (hrest : rest.head? ≠ some quote) :
    readLastQuotes quote (List.replicate count quote ++ rest) =
      (List.replicate count quote, rest) := by
  -- what follows is no quote, so that no more quotes are taken than there are
  have hne : ∀ c r, rest = c :: r → c ≠ quote := fun c r hr hc => hrest (by simp [hr, hc])
  rcases (show count = 0 ∨ count = 1 ∨ count = 2 by omega) with rfl | rfl | rfl
  · match rest with
    | [] => rfl
    | [a] => simp [readLastQuotes, hne a [] rfl]
    | a :: b :: r => simp [readLastQuotes, hne a (b :: r) rfl]
  · match rest with
    | [] => simp [readLastQuotes]
    | a :: r => simp [readLastQuotes, hne a r rfl]
  · simp [List.replicate, readLastQuotes]

theorem readLongBasic_quotes (rest : List Char) :
    readLongBasic ('"' :: '"' :: '"' :: rest) = some (readLastQuotes '"' rest) := by
  rw [readLongBasic]

theorem readLongBasic_escape {cs rest : List Char} {c : Char}
    (h : readEscape cs = some (c, rest)) (hline : dropContinuation? cs = none) :
    readLongBasic ('\\' :: cs) = (readLongBasic rest).map fun (s, rest) => (c :: s, rest) := by
  rw [readLongBasic]
  · simp only [if_true]
    split
    · rename_i hx
      rw [hline] at hx
      cases hx
    · split
      · rename_i hx
        rw [h] at hx
        cases hx
        rfl
      · rename_i hx
        rw [h] at hx
        cases hx
  · simp
  · simp

theorem ne_of_isLongText {c : Char} (h : c = '\n' ∨ isText c = true) : c ≠ '\r' := by
  rintro rfl
  revert h
  decide

theorem readLongBasic_text {c : Char} (hslash : c ≠ '\\') (htext : c = '\n' ∨ isText c = true)
    {cs : List Char} (hquotes : c = '"' → ∀ r, cs ≠ '"' :: '"' :: r) :
    readLongBasic (c :: cs) = (readLongBasic cs).map fun (s, rest) => (c :: s, rest) := by
  rw [readLongBasic]
  · rw [if_neg hslash, if_pos htext]
  · exact fun r hc hr => hquotes hc r hr
  · exact fun r hc _ => ne_of_isLongText htext hc

/-- What is written for a string starts with a quote only if the string does. -/
theorem head?_writeBasic {quotes : Nat} {s : List Char} (hs : s ≠ []) {rest : List Char}
    (h : (writeBasic true quotes s ++ rest).head? = some '"') :
    ∃ t, s = '"' :: t ∧ quotes < 2 := by
  obtain ⟨c, t, rfl⟩ := List.exists_cons_of_ne_nil hs
  rw [writeBasic] at h
  rcases writeChar_cases true quotes c with ⟨hform, -, -, hquote⟩ | ⟨e, hform, -⟩
  · rw [hform] at h
    have hc : c = '"' := by simpa using h
    exact ⟨t, by rw [hc], (hquote hc).2⟩
  · rw [hform] at h
    simp at h

theorem writeBasic_quote {quotes : Nat} (h : quotes < 2) (s : List Char) :
    writeBasic true quotes ('"' :: s) = '"' :: writeBasic true (quotes + 1) s := by
  rw [writeBasic]
  simp [writeChar, h]

/-- Text with escapes reads back. The induction is on the string; `quotes` counts the quotes in a
row that stand before it, and only a string of at most two quotes is met by the end too early. -/
theorem readLongBasic_writeBasic (s : List Char) {rest : List Char}
    (hrest : rest.head? ≠ some '"') (quotes : Nat) :
    readLongBasic (writeBasic true quotes s ++ '"' :: '"' :: '"' :: rest) = some (s, rest) := by
  induction s generalizing quotes with
  | nil =>
    have h := readLastQuotes_replicate 0 (by omega) hrest
    rw [writeBasic, List.nil_append, readLongBasic_quotes]
    exact congrArg some h
  | cons c s ih =>
    rcases writeChar_cases true quotes c with ⟨hform, hslash, htext, hquote⟩ | ⟨e, hform, he⟩
    · have hlong : c = '\n' ∨ isText c = true := htext.imp And.left id
      -- a character is passed over unless it begins three quotes in a row
      have hstep : (c = '"' → ∀ r, writeBasic true (if c = '"' ∧ true ∧ quotes < 2 then quotes + 1
          else 0) s ++ '"' :: '"' :: '"' :: rest ≠ '"' :: '"' :: r) →
          readLongBasic (writeBasic true quotes (c :: s) ++ '"' :: '"' :: '"' :: rest) =
            some (c :: s, rest) := fun h => by
        rw [writeBasic, hform, List.append_assoc, List.singleton_append,
          readLongBasic_text hslash hlong h, ih]
        rfl
      by_cases hc : c = '"'
      · subst hc
        have hq := (hquote rfl).2
        -- the end is met too early exactly when nothing but quotes is left
        rcases s with _ | ⟨d, s⟩
        · have h := readLastQuotes_replicate 1 (by omega) hrest
          rw [writeBasic_quote hq, writeBasic, List.cons_append, List.nil_append,
            readLongBasic_quotes]
          exact congrArg some h
        · by_cases hd : d = '"' ∧ s = []
          · obtain ⟨rfl, rfl⟩ := hd
            by_cases hq' : quotes + 1 < 2
            · have h := readLastQuotes_replicate 2 (by omega) hrest
              rw [writeBasic_quote hq, writeBasic_quote hq', writeBasic, List.cons_append,
                List.cons_append, List.nil_append, readLongBasic_quotes]
              exact congrArg some h
            · refine hstep fun _ r hr => ?_
              have hhead := congrArg List.head? hr
              obtain ⟨t, -, hlt⟩ := head?_writeBasic (by simp) hhead
              rw [if_pos ⟨rfl, rfl, hq⟩] at hlt
              omega
          · refine hstep fun _ r hr => ?_
            have hhead := congrArg List.head? hr
            obtain ⟨t, ht, hlt⟩ := head?_writeBasic (by simp) hhead
            obtain ⟨rfl, rfl⟩ := List.cons.inj ht
            have hs : s ≠ [] := fun h => hd ⟨rfl, h⟩
            rw [writeBasic_quote hlt, List.cons_append, List.cons.injEq] at hr
            have hhead' := congrArg List.head? hr.2
            obtain ⟨u, -, hlt'⟩ := head?_writeBasic hs hhead'
            rw [if_pos ⟨rfl, rfl, hq⟩] at hlt'
            omega
      · exact hstep fun h => absurd h hc
    · rw [writeBasic, hform, List.append_assoc, List.cons_append,
        readLongBasic_escape (he _).1 (he _).2, ih]
      rfl

/-! ### Runs of apostrophes -/

theorem le_longestRun (quote : Char) (current : Nat) (s : List Char) :
    current ≤ longestRun quote current s := by
  induction s generalizing current with
  | nil => exact Nat.le_refl _
  | cons c s ih =>
    rw [longestRun]
    split
    · exact Nat.le_trans (Nat.le_succ _) (ih _)
    · exact Nat.le_max_left ..

theorem longestRun_mono {quote : Char} {m n : Nat} (h : m ≤ n) (s : List Char) :
    longestRun quote m s ≤ longestRun quote n s := by
  induction s generalizing m n with
  | nil => exact h
  | cons c s ih =>
    rw [longestRun, longestRun]
    split
    · exact ih (by omega)
    · exact Nat.max_le.2 ⟨Nat.le_trans h (Nat.le_max_left ..), Nat.le_max_right ..⟩

/-- The rest of a string has no longer runs. -/
theorem longestRun_tail {quote c : Char} {s : List Char} {bound : Nat}
    (h : longestRun quote 0 (c :: s) ≤ bound) : longestRun quote 0 s ≤ bound := by
  rw [longestRun] at h
  split at h
  · exact Nat.le_trans (longestRun_mono (by omega) s) h
  · exact (Nat.max_le.1 h).2

/-- Text without escapes stands between triple apostrophes as it is, unless it has three of them in
a row. -/
theorem readLongLiteral_plain {s : List Char} (hs : ∀ c ∈ s, c = '\n' ∨ isText c = true)
    (hrun : longestRun '\'' 0 s ≤ 2) {rest : List Char} (hrest : rest.head? ≠ some '\'') :
    readLongLiteral (s ++ '\'' :: '\'' :: '\'' :: rest) = some (s, rest) := by
  -- the end with up to two apostrophes of the string in front
  have hend : ∀ count, count ≤ 2 → readLongLiteral
      ('\'' :: '\'' :: '\'' :: (List.replicate count '\'' ++ rest)) =
        some (List.replicate count '\'', rest) := fun count hcount => by
    rw [readLongLiteral, readLastQuotes_replicate count hcount hrest]
  induction s with
  | nil => exact hend 0 (by omega)
  | cons c s ih =>
    have htext := hs c (by simp)
    have htail := ih (fun x hx => hs x (by simp [hx])) (longestRun_tail hrun)
    have hstep : (c = '\'' → ∀ r, s ++ '\'' :: '\'' :: '\'' :: rest ≠ '\'' :: '\'' :: r) →
        readLongLiteral (c :: s ++ '\'' :: '\'' :: '\'' :: rest) = some (c :: s, rest) := fun h => by
      rw [List.cons_append, readLongLiteral, if_pos htext, htail]
      · rfl
      · exact fun r hc hr => h hc r hr
      · exact fun r hc _ => ne_of_isLongText htext hc
    by_cases hc : c = '\''
    · subst hc
      -- as above, and a third apostrophe would be one too many
      match s with
      | [] => exact hend 1 (by omega)
      | [d] =>
        by_cases hd : d = '\''
        · subst hd
          exact hend 2 (by omega)
        · refine hstep fun _ r hr => ?_
          simp [hd] at hr
      | d :: e :: s =>
        refine hstep fun _ r hr => ?_
        simp only [List.cons_append, List.cons.injEq] at hr
        obtain ⟨rfl, rfl, -⟩ := hr
        have hthree : longestRun '\'' 3 s ≤ 2 := by simpa [longestRun] using hrun
        have hle := le_longestRun '\'' 3 s
        omega
    · exact hstep fun h => absurd h hc

/-! ## Values and keys -/

theorem isText_of_not_needsEscape {c : Char} (h : needsEscape c = false) :
    c = '\n' ∨ isText c = true := by
  by_cases hn : c = '\n'
  · exact .inl hn
  by_cases ht : c = '\t'
  · exact .inr (by rw [ht]; decide)
  simp only [needsEscape, Bool.or_eq_false_iff, Bool.and_eq_false_iff, decide_eq_false_iff_not,
    bne_eq_false_iff_eq, beq_eq_false_iff_ne, hn, ht, or_false] at h
  exact .inr (by simp [isText, h.2, Nat.not_lt.1 h.1])

theorem isText_of_any_needsEscape {s : List Char} (h : s.any needsEscape = false) :
    ∀ c ∈ s, c = '\n' ∨ isText c = true := fun c hc =>
  isText_of_not_needsEscape (by simpa using (List.any_eq_false.1 h) c hc)

/-- A line end is dropped right behind triple quotes, and only there. -/
theorem dropFirstLineEnd_of_ne {cs : List Char} (hn : cs.head? ≠ some '\n')
    (hr : cs.head? ≠ some '\r') : dropFirstLineEnd cs = cs := by
  unfold dropFirstLineEnd
  split <;> simp_all

/-- The line end that is written in front of a string of several lines is dropped again; in front of
any other string there is none. -/
theorem dropFirstLineEnd_written {s cs : List Char}
    (hhead : ∀ c, cs.head? = some c → c ≠ '\r' ∧ (c = '\n' → c ∈ s)) :
    dropFirstLineEnd ((if s.contains '\n' then ['\n'] else []) ++ cs) = cs := by
  by_cases hn : s.contains '\n' = true
  · rw [if_pos hn]
    rfl
  · rw [if_neg hn, List.nil_append]
    refine dropFirstLineEnd_of_ne (fun h => ?_) (fun h => ?_)
    · exact hn (by simpa using (hhead _ h).2 rfl)
    · exact (hhead _ h).1 rfl

/-! ### The written forms, in front of a rest -/

theorem writeIn_basic_append (s rest : List Char) :
    writeIn ⟨'"', false⟩ s ++ rest = '"' :: (writeBasic false 0 s ++ '"' :: rest) := by
  simp [writeIn]

theorem writeIn_longBasic_append (s rest : List Char) :
    writeIn ⟨'"', true⟩ s ++ rest = '"' :: '"' :: '"' ::
      ((if s.contains '\n' then ['\n'] else []) ++
        (writeBasic true 0 s ++ '"' :: '"' :: '"' :: rest)) := by
  simp [writeIn]

theorem writeIn_literal_append (s rest : List Char) :
    writeIn ⟨'\'', false⟩ s ++ rest = '\'' :: (s ++ '\'' :: rest) := by
  simp [writeIn]

theorem writeIn_longLiteral_append (s rest : List Char) :
    writeIn ⟨'\'', true⟩ s ++ rest = '\'' :: '\'' :: '\'' ::
      ((if s.contains '\n' then ['\n'] else []) ++ (s ++ '\'' :: '\'' :: '\'' :: rest)) := by
  simp [writeIn]

/-! ### Each form reads back -/

/-- A string in double quotes reads back: what is written for it starts with no quote, unless the
string is empty, and then no third quote follows. -/
theorem readString_writeIn_basic (s : List Char) {rest : List Char}
    (hrest : rest.head? ≠ some '"') :
    readString (writeIn ⟨'"', false⟩ s ++ rest) = some (s, rest) := by
  have hthree : ∀ r, writeBasic false 0 s ++ '"' :: rest ≠ '"' :: '"' :: r := by
    intro r hr
    cases s with
    | nil =>
      rw [writeBasic, List.nil_append, List.cons.injEq] at hr
      exact hrest (by simp [hr.2])
    | cons c s =>
      rw [writeBasic, List.append_assoc] at hr
      rcases writeChar_cases false 0 c with ⟨hc, -, -, hquote⟩ | ⟨e, hc, -⟩
      · rw [hc, List.singleton_append, List.cons.injEq] at hr
        exact absurd (hquote hr.1).1 (by decide)
      · rw [hc, List.cons_append, List.cons.injEq] at hr
        exact absurd hr.1 (by decide)
  rw [writeIn_basic_append, readString]
  · exact readBasic_writeBasic s rest 0
  · exact fun r hr => hthree r hr

/-- A string in triple double quotes reads back. -/
theorem readString_writeIn_longBasic (s : List Char) {rest : List Char}
    (hrest : rest.head? ≠ some '"') :
    readString (writeIn ⟨'"', true⟩ s ++ rest) = some (s, rest) := by
  -- the text starts with a quote, with an escape or with the string itself
  have hhead : ∀ c, (writeBasic true 0 s ++ '"' :: '"' :: '"' :: rest).head? = some c →
      c = '"' ∨ c = '\\' ∨ c ∈ s ∧ c ≠ '\r' := by
    intro c hc
    cases s with
    | nil => exact .inl (by simpa [writeBasic] using hc.symm)
    | cons d s =>
      rw [writeBasic, List.append_assoc] at hc
      rcases writeChar_cases true 0 d with ⟨hd, -, htext, -⟩ | ⟨e, hd, -⟩
      · rw [hd] at hc
        have hcd : d = c := by simpa using hc
        subst hcd
        exact .inr (.inr ⟨by simp, ne_of_isLongText (htext.imp And.left id)⟩)
      · rw [hd] at hc
        exact .inr (.inl (by simpa using hc.symm))
  rw [writeIn_longBasic_append, readString, dropFirstLineEnd_written fun c hc => ?_]
  · exact readLongBasic_writeBasic s hrest 0
  · rcases hhead c hc with rfl | rfl | ⟨hmem, hne⟩
    · exact ⟨by decide, fun h => absurd h (by decide)⟩
    · exact ⟨by decide, fun h => absurd h (by decide)⟩
    · exact ⟨hne, fun _ => hmem⟩

/-- A line of text without apostrophes reads back between apostrophes. -/
theorem readString_writeIn_literal {s : List Char} (htext : ∀ c ∈ s, c = '\n' ∨ isText c = true)
    (hne : s ≠ []) (hquote : '\'' ∉ s) (hline : '\n' ∉ s) (rest : List Char) :
    readString (writeIn ⟨'\'', false⟩ s ++ rest) = some (s, rest) := by
  have hplain : ∀ c ∈ s, isText c = true ∧ c ≠ '\'' := fun c hc =>
    ⟨(htext c hc).resolve_left fun h => hline (h ▸ hc), fun h => hquote (h ▸ hc)⟩
  have hthree : ∀ r, s ++ '\'' :: rest ≠ '\'' :: '\'' :: r := by
    intro r hr
    obtain ⟨c, t, rfl⟩ := List.exists_cons_of_ne_nil hne
    rw [List.cons_append, List.cons.injEq] at hr
    exact hquote (by simp [hr.1])
  rw [writeIn_literal_append, readString]
  · exact readLiteral_plain hplain rest
  · exact fun r hr => hthree r hr

/-- Text without three apostrophes in a row reads back between triple apostrophes. -/
theorem readString_writeIn_longLiteral {s : List Char}
    (htext : ∀ c ∈ s, c = '\n' ∨ isText c = true) (hrun : longestRun '\'' 0 s ≤ 2)
    {rest : List Char} (hrest : rest.head? ≠ some '\'') :
    readString (writeIn ⟨'\'', true⟩ s ++ rest) = some (s, rest) := by
  have hhead : ∀ c, (s ++ '\'' :: '\'' :: '\'' :: rest).head? = some c → c = '\'' ∨ c ∈ s := by
    intro c hc
    cases s with
    | nil => exact .inl (by simpa using hc.symm)
    | cons d s => exact .inr (by simp [show d = c by simpa using hc])
  rw [writeIn_longLiteral_append, readString, dropFirstLineEnd_written fun c hc => ?_]
  · exact readLongLiteral_plain htext hrun hrest
  · rcases hhead c hc with rfl | hmem
    · exact ⟨by decide, fun h => absurd h (by decide)⟩
    · exact ⟨ne_of_isLongText (htext c hmem), fun _ => hmem⟩

/-- A string as a value reads back. -/
theorem readString_writeString (s : List Char) {rest : List Char}
    (hdouble : rest.head? ≠ some '"') (hsingle : rest.head? ≠ some '\'') :
    readString (writeString s ++ rest) = some (s, rest) := by
  rw [writeString]
  -- one case for each form that the writer chooses from
  unfold formOf
  dsimp only
  split
  · exact readString_writeIn_basic s hdouble
  · rename_i hfirst
    split
    · rename_i h
      simp only [Bool.and_eq_true, Bool.not_eq_true', List.contains_eq_mem,
        decide_eq_false_iff_not] at h
      -- the empty string is written in double quotes
      have hne : s ≠ [] := by
        rintro rfl
        exact hfirst (by decide)
      exact readString_writeIn_literal (isText_of_any_needsEscape h.1.1) hne h.1.2 h.2 rest
    · split
      · exact readString_writeIn_longBasic s hdouble
      · split
        · rename_i h
          simp only [Bool.and_eq_true, Bool.not_eq_true', decide_eq_true_eq] at h
          exact readString_writeIn_longLiteral (isText_of_any_needsEscape h.1) h.2 hsingle
        · cases s.contains '\n' with
          | false => exact readString_writeIn_basic s hdouble
          | true => exact readString_writeIn_longBasic s hdouble

/-- A string as a key reads back; a plain key ends where no character of a plain key follows. -/
theorem readKey_writeKey (s : List Char) {rest : List Char}
    (hrest : ∀ c, rest.head? = some c → isBare c = false) :
    readKey (writeKey s ++ rest) = some (String.ofList s, rest) := by
  unfold writeKey
  split
  · rename_i h
    simp only [Bool.and_eq_true, Bool.not_eq_true', List.isEmpty_eq_false_iff, List.all_eq_true] at h
    obtain ⟨hne, hbare⟩ := h
    obtain ⟨htake, hdrop⟩ := takeWhile_digits (p := isBare) hbare hrest
    obtain ⟨c, t, rfl⟩ := List.exists_cons_of_ne_nil hne
    have hc := hbare c (by simp)
    -- no quote is a character of plain keys
    rw [readKey.eq_def]
    split
    · rename_i hx
      rw [List.cons_append, List.cons.injEq] at hx
      rw [hx.1] at hc
      exact absurd hc (by decide)
    · rename_i hx
      rw [List.cons_append, List.cons.injEq] at hx
      rw [hx.1] at hc
      exact absurd hc (by decide)
    · simp only [htake, hdrop]
      rw [if_neg (by simp)]
  · unfold keyFormOf
    dsimp only
    have hbasic : readKey (writeIn ⟨'"', false⟩ s ++ rest) = some (String.ofList s, rest) := by
      rw [writeIn_basic_append, readKey, readBasic_writeBasic]
      rfl
    split
    · exact hbasic
    · split
      · rename_i h
        simp only [Bool.and_eq_true, Bool.not_eq_true', List.contains_eq_mem,
          decide_eq_false_iff_not] at h
        obtain ⟨hplain, hquote⟩ := h
        have htext : ∀ c ∈ s, isText c = true ∧ c ≠ '\'' := fun c hc => by
          have hc' := (List.any_eq_false.1 hplain) c hc
          simp only [Bool.or_eq_true, beq_iff_eq, not_or, Bool.not_eq_true] at hc'
          exact ⟨(isText_of_not_needsEscape hc'.1).resolve_left hc'.2, fun h => hquote (h ▸ hc)⟩
        rw [writeIn_literal_append, readKey, readLiteral_plain htext rest]
        rfl
      · exact hbasic

end CredentialStore.Toml
