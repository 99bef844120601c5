import CredentialStore.Proofs.Toml.Text

/-!
# Written lines of TOML read back

A document is written as blocks with empty lines between them; a block is a header, if it has one,
and lines of keys and values. The lines read back as the statements that they make, one after the
other, whatever follows.

Main statements:

* `readStatements_writeLine`, `readStatements_writeHeader` — one line reads as one statement;
* `readStatements_blocks` — blocks read as their statements.
-/

namespace CredentialStore.Toml

open Text

/-! ## Keys -/

/-- A character with which a written key starts. -/
def StartsKey (c : Char) : Prop :=
  isBare c = true ∨ c = '"' ∨ c = '\''

theorem exists_writeKey_eq_cons (s : List Char) : ∃ c cs, writeKey s = c :: cs ∧ StartsKey c := by
  unfold writeKey
  split
  · rename_i h
    simp only [Bool.and_eq_true, Bool.not_eq_true', List.isEmpty_eq_false_iff, List.all_eq_true] at h
    obtain ⟨c, cs, rfl⟩ := List.exists_cons_of_ne_nil h.1
    exact ⟨c, cs, rfl, .inl (h.2 c (by simp))⟩
  · unfold keyFormOf
    dsimp only
    split
    · exact ⟨'"', _, rfl, .inr (.inl rfl)⟩
    · split
      · exact ⟨'\'', _, rfl, .inr (.inr rfl)⟩
      · exact ⟨'"', _, rfl, .inr (.inl rfl)⟩

theorem StartsKey.ne {c d : Char} (h : StartsKey c) (hd : isBare d = false)
    (hdouble : d ≠ '"') (hsingle : d ≠ '\'') : c ≠ d := by
  rintro rfl
  rcases h with h | h | h
  · rw [hd] at h
    cases h
  · exact hdouble h
  · exact hsingle h

theorem dropBlanks_cons {c : Char} (h : isBlank c = false) (cs : List Char) :
    dropBlanks (c :: cs) = c :: cs := by
  simp [dropBlanks, h]

theorem isBlank_of_startsKey {c : Char} (h : StartsKey c) : isBlank c = false := by
  have hspace : c ≠ ' ' := h.ne (by decide) (by decide) (by decide)
  have htab : c ≠ '\t' := h.ne (by decide) (by decide) (by decide)
  simp [isBlank, hspace, htab]

/-- What may follow a path of keys: no plain key goes on there, and no dot behind blanks. -/
structure EndsPath (rest : List Char) : Prop where
  not_bare : ∀ c, rest.head? = some c → isBare c = false
  not_dot : ∀ r, dropBlanks rest ≠ '.' :: r

/-- Keys with dots between them. -/
def writeKeys (path : List String) : List Char :=
  ['.'].intercalate (path.map fun key => writeKey key.toList)

@[simp] theorem writeKeys_singleton (key : String) : writeKeys [key] = writeKey key.toList := by
  simp [writeKeys]

theorem writeKeys_cons_cons (key key' : String) (path : List String) :
    writeKeys (key :: key' :: path) = writeKey key.toList ++ '.' :: writeKeys (key' :: path) := by
  simp [writeKeys, List.intercalate_cons_cons]

theorem exists_writeKeys_append (path : List String) (hne : path ≠ []) (rest : List Char) :
    ∃ c cs, writeKeys path ++ rest = c :: cs ∧ StartsKey c := by
  obtain ⟨key, path, rfl⟩ := List.exists_cons_of_ne_nil hne
  obtain ⟨c, cs, hkey, hc⟩ := exists_writeKey_eq_cons key.toList
  cases path with
  | nil => exact ⟨c, cs ++ rest, by rw [writeKeys_singleton, hkey, List.cons_append], hc⟩
  | cons key' path =>
    refine ⟨c, cs ++ '.' :: writeKeys (key' :: path) ++ rest, ?_, hc⟩
    rw [writeKeys_cons_cons, hkey, List.cons_append, List.cons_append]

theorem dropBlanks_writeKey (key : String) (rest : List Char) :
    dropBlanks (writeKey key.toList ++ rest) = writeKey key.toList ++ rest := by
  obtain ⟨c, cs, hkey, hc⟩ := exists_writeKey_eq_cons key.toList
  rw [hkey]
  exact dropBlanks_cons (isBlank_of_startsKey hc) _

/-- Keys with dots between them read back. -/
theorem readKeys_writeKeys (path : List String) (hne : path ≠ []) {rest : List Char}
    (hrest : EndsPath rest) : readKeys (writeKeys path ++ rest) = some (path, dropBlanks rest) := by
  induction path with
  | nil => exact absurd rfl hne
  | cons key path ih =>
    cases path with
    | nil =>
      have hread := readKey_writeKey key.toList hrest.not_bare
      rw [writeKeys_singleton, readKeys, dropBlanks_writeKey, hread]
      dsimp only
      split
      · rename_i r hr
        exact absurd hr (hrest.not_dot r)
      · rw [String.ofList_toList]
    | cons key' path =>
      have hread : readKey (writeKey key.toList ++ '.' :: (writeKeys (key' :: path) ++ rest)) =
          some (String.ofList key.toList, '.' :: (writeKeys (key' :: path) ++ rest)) :=
        readKey_writeKey key.toList (fun d hd => by cases hd; decide)
      rw [writeKeys_cons_cons, List.append_assoc, List.cons_append, readKeys, dropBlanks_writeKey,
        hread]
      simp only [dropBlanks_cons (show isBlank '.' = false by decide)]
      -- the reader goes on since what is left has become shorter
      rw [if_pos (by simp only [List.length_append, List.length_cons]; omega), ih (by simp)]
      simp

theorem readPath_writeKeys (path : List String) (hne : path ≠ []) (hlen : path.length < depthLimit)
    {rest : List Char} (hrest : EndsPath rest) :
    readPath (writeKeys path ++ rest) = some (path, dropBlanks rest) := by
  rw [readPath, readKeys_writeKeys path hne hrest]
  exact if_pos hlen

/-! ## Values -/

namespace Leaf

/-- The value of a leaf. -/
def toToml : Leaf → Toml
  | .text s => .string s
  | .number n => .integer n

/-- Whether a leaf reads back: a number has to fit into sixty-four bits. -/
def Fits : Leaf → Prop
  | .text _ => True
  | .number n => n < 0x8000000000000000

end Leaf

theorem exists_writeString_eq_cons (s : List Char) :
    ∃ c cs, writeString s = c :: cs ∧ (c = '"' ∨ c = '\'') := by
  rw [writeString]
  unfold formOf
  dsimp only
  split
  · exact ⟨'"', _, rfl, .inl rfl⟩
  · split
    · exact ⟨'\'', _, rfl, .inr rfl⟩
    · split
      · exact ⟨'"', _, rfl, .inl rfl⟩
      · split
        · exact ⟨'\'', _, rfl, .inr rfl⟩
        · cases s.contains '\n' <;> exact ⟨'"', _, rfl, .inl rfl⟩

theorem readScalar_cons {c : Char} (htrue : c ≠ 't') (hfalse : c ≠ 'f') (cs : List Char) :
    readScalar (c :: cs) =
      if c = '"' ∨ c = '\'' then
        (readString (c :: cs)).map fun (s, rest) => (.string (String.ofList s), rest)
      else match readSpecial (c :: cs) with
        | some r => some r
        | none => if startsDatetime (c :: cs) then readDatetime (c :: cs)
          else readNumber (c :: cs) := by
  unfold readScalar
  split
  · rename_i hx
    exact absurd (List.cons.inj hx).1 htrue
  · rename_i hx
    exact absurd (List.cons.inj hx).1 hfalse
  · rename_i hx
    cases hx
    rfl
  · rename_i hx
    cases hx

theorem readScalar_writeString (s rest : List Char) :
    readScalar (writeString s ++ '\n' :: rest) = some (.string (String.ofList s), '\n' :: rest) := by
  have hread : readString (writeString s ++ '\n' :: rest) = some (s, '\n' :: rest) :=
    readString_writeString s (by simp) (by simp)
  obtain ⟨c, cs, hform, hc⟩ := exists_writeString_eq_cons s
  have hplain : c ≠ 't' ∧ c ≠ 'f' := by
    rcases hc with rfl | rfl <;> decide
  rw [hform, List.cons_append] at hread ⊢
  rw [readScalar_cons hplain.1 hplain.2, if_pos hc, hread]
  rfl

/-! ### Whole numbers -/

/-- The text behind a number in a line: the line ends there. -/
theorem moreDigits_append {ds : List Char} (h : ∀ c ∈ ds, isDigitIn 10 c = true)
    (rest : List Char) : moreDigits 10 (ds ++ '\n' :: rest) = some (ds, '\n' :: rest) := by
  induction ds with
  | nil =>
    rw [List.nil_append, moreDigits]
    · rw [if_neg (by decide), if_neg (by decide)]
    · intro c r hc
      simp at hc
  | cons d ds ih =>
    have hd := h d (by simp)
    rw [List.cons_append, moreDigits]
    · rw [if_pos hd, ih fun c hc => h c (by simp [hc])]
      rfl
    · intro c r hc
      rw [hc] at hd
      exact absurd hd (by decide)

theorem readWhole_decimalDigits (n : Nat) (rest : List Char) :
    readWhole (decimalDigits n ++ '\n' :: rest) = some (decimalDigits n, '\n' :: rest) := by
  obtain ⟨d, ds, hds⟩ := List.exists_cons_of_ne_nil (decimalDigits_ne_nil n)
  have hdigits := isDigitIn_of_mem_decimalDigits n
  rw [hds] at hdigits ⊢
  -- a zero in front is the whole number
  by_cases hd : d = '0'
  · subst hd
    have hlen := length_decimalDigits_of_head? (n := n) (by rw [hds]; rfl)
    rw [hds, List.length_cons] at hlen
    have hnil : ds = [] := List.length_eq_zero_iff.1 (by omega)
    subst hnil
    rfl
  · rw [List.cons_append, readWhole]
    · rw [readDigits, if_pos (hdigits d (by simp)),
        moreDigits_append fun c hc => hdigits c (by simp [hc])]
      rfl
    · intro r hr
      exact hd (by simpa using (List.cons.inj hr).1)

/-- A digit is no other character. -/
theorem ne_of_isDigitIn {c d : Char} (hc : isDigitIn 10 c = true) (hd : isDigitIn 10 d = false) :
    c ≠ d := by
  rintro rfl
  rw [hc] at hd
  cases hd

theorem readSign_of_digit {c : Char} (hc : isDigitIn 10 c = true) (cs : List Char) :
    readSign (c :: cs) = (false, c :: cs) := by
  unfold readSign
  split
  · rename_i hx
    exact absurd (List.cons.inj hx).1 (ne_of_isDigitIn hc (by decide))
  · rename_i hx
    exact absurd (List.cons.inj hx).1 (ne_of_isDigitIn hc (by decide))
  · rfl

/-- A number without fraction and exponent is a whole one. The parts are variables here: with the
parts of a given text, the test for numbers beyond all floating-point numbers would be evaluated. -/
theorem readDecimal_of_whole {cs magnitude ds rest fraction rest₁ rest₂ : List Char}
    {negative : Bool} {exponent : Option Int} (hsign : readSign cs = (negative, magnitude))
    (hwhole : readWhole magnitude = some (ds, rest))
    (hfraction : readFraction rest = some (fraction, rest₁)) (hnone : fraction = [])
    (hexponent : readExponent rest₁ = some (exponent, rest₂)) (hnone' : exponent = none) :
    readDecimal cs = (integer? (if negative then -(ofDigits 10 ds : Int) else ofDigits 10 ds)).map
      (·, rest₂) := by
  unfold readDecimal
  rw [hsign]
  simp only [Option.bind_eq_bind, hwhole, hfraction, hexponent, Option.bind_some]
  rw [if_pos ⟨by rw [hnone]; rfl, by rw [hnone']; rfl⟩, hnone, List.append_nil]
  cases integer? (if negative then -(ofDigits 10 ds : Int) else ofDigits 10 ds) <;> rfl

theorem readDecimal_decimalDigits {n : Nat} (h : n < 0x8000000000000000) (rest : List Char) :
    readDecimal (decimalDigits n ++ '\n' :: rest) = some (.integer n, '\n' :: rest) := by
  have hsign : readSign (decimalDigits n ++ '\n' :: rest) =
      (false, decimalDigits n ++ '\n' :: rest) := by
    obtain ⟨d, ds, hds⟩ := List.exists_cons_of_ne_nil (decimalDigits_ne_nil n)
    have hd := isDigitIn_of_mem_decimalDigits n d (by simp [hds])
    rw [hds, List.cons_append, readSign_of_digit hd]
  have hinteger : integer? (n : Int) = some (.integer n) := by
    rw [integer?, if_pos ⟨by omega, by omega⟩]
  have hexponent : readExponent ('\n' :: rest) = some (none, '\n' :: rest) := by
    unfold readExponent
    exact if_neg (by decide)
  rw [readDecimal_of_whole hsign (readWhole_decimalDigits n rest) rfl rfl hexponent rfl,
    if_neg (by decide), ofDigits_decimalDigits, hinteger]
  rfl

theorem startsDatetime_digits {ds : List Char} (h : ∀ c ∈ ds, isDigitIn 10 c = true)
    (rest : List Char) : startsDatetime (ds ++ '\n' :: rest) = false := by
  -- the character behind the leading digits is a digit or the line end
  have hmark : ∀ count (mark : Char), isDigitIn 10 mark = false → mark ≠ '\n' →
      (((ds ++ '\n' :: rest).take count).length == count &&
        ((ds ++ '\n' :: rest).take count).all (isDigitIn 10) &&
        ((ds ++ '\n' :: rest).drop count).head? == some mark) = false := by
    intro count mark hmark hline
    rcases Nat.lt_or_ge ds.length count with hlt | hge
    · have hmem : '\n' ∈ (ds ++ '\n' :: rest).take count := by
        rw [List.take_append, List.mem_append]
        right
        obtain ⟨k, hk⟩ : ∃ k, count - ds.length = k + 1 := ⟨count - ds.length - 1, by omega⟩
        simp [hk]
      have hall : ((ds ++ '\n' :: rest).take count).all (isDigitIn 10) = false := by
        rw [List.all_eq_false]
        exact ⟨'\n', hmem, by decide⟩
      rw [hall, Bool.and_false, Bool.false_and]
    · have hhead : ((ds ++ '\n' :: rest).drop count).head? ≠ some mark := by
        rw [List.drop_append_of_le_length hge]
        cases hdrop : ds.drop count with
        | nil =>
          intro hx
          exact hline (by simpa using hx.symm)
        | cons d t =>
          intro hx
          have hd : isDigitIn 10 d = true := h d (List.mem_of_mem_drop (by rw [hdrop]; simp))
          have hdm : d = mark := by simpa using hx
          rw [hdm, hmark] at hd
          cases hd
      rw [show ((((ds ++ '\n' :: rest).drop count).head? == some mark) = false) by simpa using hhead,
        Bool.and_false]
  rw [startsDatetime, hmark 4 '-' (by decide) (by decide), hmark 2 ':' (by decide) (by decide)]
  rfl

theorem readSpecial_of_digit {c : Char} (hc : isDigitIn 10 c = true) (cs : List Char) :
    readSpecial (c :: cs) = none := by
  unfold readSpecial
  rw [readSign_of_digit hc]
  dsimp only
  split
  · rename_i hx
    exact absurd (List.cons.inj hx).1 (ne_of_isDigitIn hc (by decide))
  · rename_i hx
    exact absurd (List.cons.inj hx).1 (ne_of_isDigitIn hc (by decide))
  · rfl

/-- A number that is written in base ten has no mark of another base. -/
theorem readNumber_decimalDigits (n : Nat) (rest : List Char) :
    readNumber (decimalDigits n ++ '\n' :: rest) = readDecimal (decimalDigits n ++ '\n' :: rest) := by
  -- a zero in front is followed by the line end at once
  have hmark : ∀ c r, decimalDigits n ++ '\n' :: rest = '0' :: c :: r → c = '\n' := by
    intro c r hr
    have hlen := length_decimalDigits_of_head? (n := n) (by
      obtain ⟨d, ds, hds⟩ := List.exists_cons_of_ne_nil (decimalDigits_ne_nil n)
      rw [hds, List.cons_append, List.cons.injEq] at hr
      rw [hds, hr.1]
      rfl)
    obtain ⟨d, hds⟩ := List.length_eq_one_iff.1 hlen
    rw [hds, List.cons_append, List.nil_append, List.cons.injEq, List.cons.injEq] at hr
    exact hr.2.1.symm
  unfold readNumber
  split
  · rename_i hx
    exact absurd (hmark _ _ hx) (by decide)
  · rename_i hx
    exact absurd (hmark _ _ hx) (by decide)
  · rename_i hx
    exact absurd (hmark _ _ hx) (by decide)
  · rfl

theorem readScalar_decimalDigits {n : Nat} (h : n < 0x8000000000000000) (rest : List Char) :
    readScalar (decimalDigits n ++ '\n' :: rest) = some (.integer n, '\n' :: rest) := by
  have hdate := startsDatetime_digits (isDigitIn_of_mem_decimalDigits n) rest
  have hread := readDecimal_decimalDigits h rest
  rw [← readNumber_decimalDigits] at hread
  obtain ⟨d, ds, hds⟩ := List.exists_cons_of_ne_nil (decimalDigits_ne_nil n)
  have hd := isDigitIn_of_mem_decimalDigits n d (by simp [hds])
  -- a digit is no quote, so that neither a string nor a word begins
  have hquote : ¬ (d = '"' ∨ d = '\'') := by
    rintro (h | h) <;> exact absurd h (ne_of_isDigitIn hd (by decide))
  rw [hds, List.cons_append] at hdate hread ⊢
  rw [readScalar_cons (ne_of_isDigitIn hd (by decide)) (ne_of_isDigitIn hd (by decide)),
    if_neg hquote, readSpecial_of_digit hd]
  dsimp only
  rw [if_neg (by simp [hdate]), hread]

theorem exists_write_eq_cons (l : Leaf) (rest : List Char) :
    ∃ c cs, l.write ++ '\n' :: rest = c :: cs ∧ c ≠ '[' ∧ c ≠ '\x7b' ∧ isBlank c = false := by
  cases l with
  | text s =>
    obtain ⟨c, cs, hform, hc⟩ := exists_writeString_eq_cons s.toList
    refine ⟨c, cs ++ '\n' :: rest, ?_, ?_⟩
    · show writeString s.toList ++ _ = _
      rw [hform, List.cons_append]
    · rcases hc with rfl | rfl <;> decide
  | number n =>
    obtain ⟨d, ds, hds⟩ := List.exists_cons_of_ne_nil (decimalDigits_ne_nil n)
    have hd := isDigitIn_of_mem_decimalDigits n d (by simp [hds])
    have hspace := ne_of_isDigitIn hd (d := ' ') (by decide)
    have htab := ne_of_isDigitIn hd (d := '\t') (by decide)
    refine ⟨d, ds ++ '\n' :: rest, ?_, ne_of_isDigitIn hd (by decide),
      ne_of_isDigitIn hd (by decide), by simp [isBlank, hspace, htab]⟩
    show decimalDigits n ++ _ = _
    rw [hds, List.cons_append]

/-- A leaf reads back to the end of its line. -/
theorem readValue_write {l : Leaf} (h : l.Fits) (rest : List Char) :
    readValue (depthLimit - 1) (l.write ++ '\n' :: rest) = some (l.toToml, '\n' :: rest) := by
  have hscalar : readScalar (l.write ++ '\n' :: rest) = some (l.toToml, '\n' :: rest) := by
    cases l with
    | text s =>
      have h := readScalar_writeString s.toList rest
      rw [String.ofList_toList] at h
      exact h
    | number n => exact readScalar_decimalDigits h rest
  -- neither an array nor a table begins
  obtain ⟨c, cs, hform, harray, htable, -⟩ := exists_write_eq_cons l rest
  rw [hform] at hscalar ⊢
  show readValue (78 + 1) (c :: cs) = _
  rw [readValue]
  · exact hscalar
  · exact fun r hr => harray (List.cons.inj hr).1
  · exact fun r hr => htable (List.cons.inj hr).1

/-! ## Statements -/

theorem restOfLine?_newline (rest : List Char) : restOfLine? ('\n' :: rest) = some rest := rfl

theorem readStatements_nil : readStatements [] = some [] := by
  rw [readStatements]
  rfl

theorem readStatements_newline (rest : List Char) :
    readStatements ('\n' :: rest) = readStatements rest := by
  have hempty : startsEmptyLine ('\n' :: rest) = true := rfl
  rw [readStatements, dropBlanks_cons (by decide)]
  simp only [hempty, restOfLine?_newline]
  rw [if_pos trivial, if_pos (by simp)]

/-- A line that says something reads as its statement. -/
theorem readStatements_cons {c : Char} {cs rest : List Char} {s : Statement}
    (hblank : isBlank c = false) (hempty : startsEmptyLine (c :: cs) = false)
    (hread : readStatement (c :: cs) = some (s, rest)) (hlen : rest.length < (c :: cs).length) :
    readStatements (c :: cs) = (readStatements rest).map (s :: ·) := by
  rw [readStatements, dropBlanks_cons hblank]
  simp only [hempty, hread]
  rw [if_neg (by decide), if_pos hlen]

theorem writeLine_append (entry : String × Leaf) (rest : List Char) :
    writeLine entry ++ rest =
      writeKey entry.1.toList ++ ' ' :: '=' :: ' ' :: (entry.2.write ++ '\n' :: rest) := by
  simp [writeLine]

/-- A written key and its value are read up to the end of the line. -/
theorem readPair_writeLine (entry : String × Leaf) (h : entry.2.Fits) (rest : List Char) :
    readPair (readValue (depthLimit - 1)) (writeLine entry ++ rest) =
      some (([entry.1], entry.2.toToml), '\n' :: rest) := by
  -- the path of the key ends at the blank in front of the sign of equality
  have hends : EndsPath (' ' :: '=' :: ' ' :: (entry.2.write ++ '\n' :: rest)) :=
    ⟨fun d hd => by cases hd; decide, fun r hr => by
      rw [dropBlanks, List.dropWhile_cons_of_pos (by decide), List.dropWhile_cons_of_neg (by decide)]
        at hr
      exact absurd (List.cons.inj hr).1 (by decide)⟩
  have hpath := readPath_writeKeys [entry.1] (by simp) (by simp [depthLimit]) hends
  have hdrop : dropBlanks (' ' :: '=' :: ' ' :: (entry.2.write ++ '\n' :: rest)) =
      '=' :: ' ' :: (entry.2.write ++ '\n' :: rest) := rfl
  rw [writeKeys_singleton, hdrop] at hpath
  have hblanks : dropBlanks (' ' :: (entry.2.write ++ '\n' :: rest)) =
      entry.2.write ++ '\n' :: rest := by
    obtain ⟨d, ds, hform, -, -, hd⟩ := exists_write_eq_cons entry.2 rest
    rw [hform, dropBlanks, List.dropWhile_cons_of_pos (by decide)]
    exact dropBlanks_cons hd ds
  rw [writeLine_append, readPair, hpath]
  simp only [Option.bind_eq_bind, Option.bind_some, hblanks, readValue_write h rest]
  rfl

/-- A line of a key and a value reads as that. -/
theorem readStatements_writeLine (entry : String × Leaf) (h : entry.2.Fits) (rest : List Char) :
    readStatements (writeLine entry ++ rest) =
      (readStatements rest).map (.value [entry.1] entry.2.toToml :: ·) := by
  obtain ⟨c, cs, hkey, hc⟩ := exists_writeKey_eq_cons entry.1.toList
  have hpair := readPair_writeLine entry h rest
  have hlen : rest.length < (writeLine entry ++ rest).length := by
    simp only [writeLine_append, List.length_append, List.length_cons]
    omega
  rw [writeLine_append, hkey, List.cons_append] at hpair hlen ⊢
  refine readStatements_cons (isBlank_of_startsKey hc) ?_ ?_ hlen
  · -- the line starts with a key, so it is neither empty nor a comment
    have hcomment : c ≠ '#' := hc.ne (by decide) (by decide) (by decide)
    have hnewline : c ≠ '\n' := hc.ne (by decide) (by decide) (by decide)
    have hreturn : c ≠ '\r' := hc.ne (by decide) (by decide) (by decide)
    simp [startsEmptyLine, hcomment, hnewline, hreturn]
  · have hbracket : c ≠ '[' := hc.ne (by decide) (by decide) (by decide)
    unfold readStatement
    split
    · rename_i hx
      exact absurd (List.cons.inj hx).1 hbracket
    · rename_i hx
      exact absurd (List.cons.inj hx).1 hbracket
    · rw [hpair]
      rfl

/-- The header of a table reads as that. -/
theorem readStatements_writeHeader {path : List String} (hne : path ≠ [])
    (hlen : path.length < depthLimit) (rest : List Char) :
    readStatements (writeHeader path ++ rest) = (readStatements rest).map (.table path :: ·) := by
  -- the path of the table ends at the closing bracket
  have hends : EndsPath (']' :: '\n' :: rest) :=
    ⟨fun d hd => by cases hd; decide, fun r hr => by
      rw [dropBlanks_cons (by decide)] at hr
      exact absurd (List.cons.inj hr).1 (by decide)⟩
  have hpath := readPath_writeKeys path hne hlen hends
  rw [dropBlanks_cons (by decide)] at hpath
  have hform : writeHeader path ++ rest = '[' :: (writeKeys path ++ ']' :: '\n' :: rest) := by
    simp [writeHeader, writeKeys]
  have hlength : rest.length < (writeHeader path ++ rest).length := by
    simp only [hform, List.length_append, List.length_cons]
    omega
  rw [hform] at hlength ⊢
  refine readStatements_cons (by decide) rfl ?_ hlength
  -- a second bracket would begin an array of tables, but no key starts with one
  obtain ⟨c, cs, hstart, hc⟩ := exists_writeKeys_append path hne (']' :: '\n' :: rest)
  have hbracket : c ≠ '[' := hc.ne (by decide) (by decide) (by decide)
  rw [hstart] at hpath ⊢
  unfold readStatement
  split
  · rename_i hx
    exact absurd (List.cons.inj (List.cons.inj hx).2).1 hbracket
  · rename_i hx
    rw [← (List.cons.inj hx).2, hpath]
    rfl
  · rename_i hx
    exact absurd rfl (hx (c :: cs))

/-! ## Blocks -/

/-- Lines under a header, or without one. -/
structure Block where
  header : Option (List String)
  lines : List (String × Leaf)

namespace Block

/-- The text of a block. -/
def write (b : Block) : List Char :=
  (b.header.map writeHeader).getD [] ++ b.lines.flatMap writeLine

/-- The statements of a block. -/
def statements (b : Block) : List Statement :=
  (b.header.map Statement.table).toList ++ b.lines.map fun (key, l) => .value [key] l.toToml

/-- Whether a block reads back. -/
structure Fits (b : Block) : Prop where
  lines : ∀ entry ∈ b.lines, entry.2.Fits
  header : ∀ path, b.header = some path → path ≠ [] ∧ path.length < depthLimit

end Block

theorem readStatements_lines (lines : List (String × Leaf)) (h : ∀ entry ∈ lines, entry.2.Fits)
    (rest : List Char) :
    readStatements (lines.flatMap writeLine ++ rest) =
      (readStatements rest).map ((lines.map fun (key, l) => .value [key] l.toToml) ++ ·) := by
  induction lines with
  | nil => simp
  | cons entry lines ih =>
    rw [List.flatMap_cons, List.append_assoc, readStatements_writeLine entry (h entry (by simp)),
      ih fun e he => h e (by simp [he])]
    simp [Option.map_map, Function.comp_def]

theorem readStatements_write {b : Block} (h : b.Fits) (rest : List Char) :
    readStatements (b.write ++ rest) = (readStatements rest).map (b.statements ++ ·) := by
  obtain ⟨header, lines⟩ := b
  have hlines := readStatements_lines lines h.lines rest
  cases header with
  | none => simpa [Block.write, Block.statements] using hlines
  | some path =>
    obtain ⟨hne, hlen⟩ := h.header path rfl
    have hheader := readStatements_writeHeader hne hlen (lines.flatMap writeLine ++ rest)
    have hform : Block.write ⟨some path, lines⟩ ++ rest =
        writeHeader path ++ (lines.flatMap writeLine ++ rest) := by simp [Block.write]
    rw [hform, hheader, hlines]
    simp [Option.map_map, Function.comp_def, Block.statements]

/-- Blocks with empty lines between them read as their statements. -/
theorem readStatements_blocks (bs : List Block) (h : ∀ b ∈ bs, b.Fits) :
    readStatements (['\n'].intercalate (bs.map Block.write)) =
      some (bs.flatMap Block.statements) := by
  induction bs with
  | nil => exact readStatements_nil
  | cons b bs ih =>
    have hb := h b (by simp)
    cases bs with
    | nil =>
      have hread := readStatements_write hb []
      rw [readStatements_nil] at hread
      simpa using hread
    | cons b' bs =>
      have hrest := ih fun x hx => h x (by simp [hx])
      rw [List.map_cons, List.map_cons, List.intercalate_cons_cons, List.append_assoc,
        readStatements_write hb, List.singleton_append, readStatements_newline, ← List.map_cons,
        hrest]
      simp

end CredentialStore.Toml
