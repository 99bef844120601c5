import CredentialStore.Json.Reader
import CredentialStore.Json.Writer
import CredentialStore.Proofs.Lists
import CredentialStore.Proofs.Text.Digits

/-!
# JSON reads back

A value of texts, whole numbers, truth values, arrays and objects reads back from its compact form.
The proof goes through the tokens: the written form of a value scans to the tokens of the value,
whatever follows it, and the machine turns these tokens into the value, whatever frames are open.

Main statements:

* `tokens?_compactChars` — the compact form scans to `tokensOf`;
* `run_tokensOf` — the machine puts the value of `tokensOf` where it stands;
* `read?_compact` — the compact form of a plain value reads back as that value.
-/

namespace CredentialStore.Json

open Text

/-! ## Strings -/

/-- The piece as which a written character is read. -/
def pieceOf (c : Char) : Piece :=
  if c.toNat < 0x20 ∧ c ∉ ['\x08', '\x0c', '\n', '\r', '\t'] then .unit c.toNat else .char c

theorem readString_unit {n : Nat} (h : n < 256) (rest : List Char) :
    readString ('\\' :: 'u' :: lowerHex 4 n ++ rest) =
      (readString rest).map fun (ps, rest) => (.unit n :: ps, rest) := by
  have hzero : isDigitIn 16 '0' = true := by decide
  have hhigh : isDigitIn 16 (digitChar (n / 16)) = true :=
    isDigitIn_digitChar (by omega) (by decide)
  have hlow : isDigitIn 16 (digitChar (n % 16)) = true :=
    isDigitIn_digitChar (by omega) (by decide)
  have hvalue : ofDigits 16 ['0', '0', digitChar (n / 16), digitChar (n % 16)] = n := by
    have h0 : digitValue '0' = 0 := by decide
    simp only [ofDigits, List.foldl_cons, List.foldl_nil, h0,
      digitValue_digitChar (show n / 16 < 36 by omega),
      digitValue_digitChar (show n % 16 < 36 by omega)]
    omega
  rw [lowerHex_four h]
  simp only [List.cons_append, List.nil_append]
  rw [readString, if_pos (by simp [hzero, hhigh, hlow]), hvalue]

theorem readString_writeChar (c : Char) (rest : List Char) :
    readString (writeChar c ++ rest) =
      (readString rest).map fun (ps, rest) => (pieceOf c :: ps, rest) := by
  unfold writeChar
  split
  iterate 7 simp [readString, escaped?, pieceOf]
  -- any other character is written by its code or as it is
  rename_i h₁ h₂ h₃ h₄ h₅ h₆ h₇
  split
  · rename_i hc
    have hplain : c ∉ ['\x08', '\x0c', '\n', '\r', '\t'] := by
      simp only [List.mem_cons, List.not_mem_nil, or_false, not_or]
      exact ⟨h₃, h₄, h₅, h₆, h₇⟩
    rw [readString_unit (by omega), pieceOf, if_pos ⟨hc, hplain⟩]
  · rename_i hc
    have hpiece : pieceOf c = .char c := if_neg fun h => hc h.1
    have hquote : c ≠ '"' := h₁
    have hslash : c ≠ '\\' := h₂
    rw [List.singleton_append, readString.eq_5 c rest hquote (by simp [hslash]) (by simp [hslash]),
      if_neg hc, hpiece]

/-- A written string reads back piece by piece. -/
theorem readString_written (cs rest : List Char) :
    readString (cs.flatMap writeChar ++ '"' :: rest) = some (cs.map pieceOf, rest) := by
  induction cs with
  | nil => simp [readString]
  | cons c cs ih => simp [List.append_assoc, readString_writeChar, ih]

/-- The pieces of a text join to that text: an escaped code is no half of a surrogate pair. -/
theorem joinPieces_map_pieceOf (cs : List Char) : joinPieces (cs.map pieceOf) = some cs := by
  induction cs with
  | nil => rfl
  | cons c cs ih =>
    by_cases hc : c.toNat < 0x20 ∧ c ∉ ['\x08', '\x0c', '\n', '\r', '\t']
    · have hpiece : pieceOf c = .unit c.toNat := if_pos hc
      have hback : Char.ofNat c.toNat = c := Char.ofNat_toNat c
      rw [List.map_cons, hpiece]
      -- a control character is no half of a surrogate pair
      have hlow : ¬ (0xD800 ≤ c.toNat ∧ c.toNat < 0xDC00) := by omega
      have hhigh : ¬ (0xDC00 ≤ c.toNat ∧ c.toNat < 0xE000) := by omega
      have hall : ¬ (0xD800 ≤ c.toNat ∧ c.toNat < 0xE000) := by omega
      rw [joinPieces.eq_def]
      split
      · contradiction
      · rename_i heq
        cases heq
      · rename_i heq
        obtain ⟨hn, hrest⟩ := List.cons.inj heq
        cases hn
        rw [if_neg hlow, if_neg hhigh, ← hrest, ih, hback]
        rfl
      · rename_i heq
        obtain ⟨hn, hrest⟩ := List.cons.inj heq
        cases hn
        rw [if_neg hall, ← hrest, ih, hback]
        rfl
    · have hpiece : pieceOf c = .char c := if_neg hc
      rw [List.map_cons, hpiece, joinPieces, ih]
      rfl

/-! ## Tokens -/

/-- What may follow a number: nothing that would go on with it. -/
def Breaks (rest : List Char) : Prop :=
  ∀ c, rest.head? = some c → isDigitIn 10 c = false ∧ c ≠ '.' ∧ c ≠ 'e' ∧ c ≠ 'E'

theorem breaks_cons {c : Char} (h : c = ',' ∨ c = ']' ∨ c = '\x7d') (rest : List Char) :
    Breaks (c :: rest) := by
  intro d hd
  cases hd
  rcases h with rfl | rfl | rfl <;> decide

theorem tokens?_cons {c : Char} {cs rest : List Char} {t : Token} (hc : isBlank c = false)
    (h : next (c :: cs) = some (t, rest)) :
    tokens? (c :: cs) = (tokens? rest).map (t :: ·) := by
  rw [tokens?, if_neg (by simp [hc])]
  split
  · rename_i hn
    rw [h] at hn
    cases hn
  · rename_i hn
    rw [h] at hn
    cases hn
    rfl

theorem tokens?_writeString (s : String) (rest : List Char) :
    tokens? (writeString s ++ rest) = (tokens? rest).map (.string s.toList :: ·) := by
  have hnext : next (writeString s ++ rest) = some (.string s.toList, rest) := by
    simp only [writeString, List.cons_append, List.append_assoc, List.nil_append]
    rw [next, readString_written, Option.map_some]
    simp only [joinPieces_map_pieceOf]
  exact tokens?_cons (by decide) hnext

/-! ### Whole numbers -/

/-- Whether a whole number is written so that it reads back: it is no larger than all
floating-point numbers. -/
def IsBounded (n : Int) : Prop :=
  n.natAbs < doubleLimit

theorem readDigits_decimalDigits (n : Nat) {rest : List Char} (h : Breaks rest) :
    readDigits (decimalDigits n ++ rest) = some (decimalDigits n, rest) := by
  obtain ⟨htake, hdrop⟩ := takeWhile_digits (p := isDigitIn 10)
    (isDigitIn_of_mem_decimalDigits n) fun c hc => (h c hc).1
  rw [readDigits]
  simp only [htake, hdrop]
  rw [if_neg (by simpa using decimalDigits_ne_nil n)]

theorem readFraction_of_breaks {rest : List Char} (h : Breaks rest) :
    readFraction rest = some ([], rest) := by
  cases rest with
  | nil => rfl
  | cons c rest =>
    have hc := (h c rfl).2.1
    rw [readFraction.eq_2 _ (by simpa using hc)]

theorem readExponent_of_breaks {rest : List Char} (h : Breaks rest) :
    readExponent rest = some (none, rest) := by
  cases rest with
  | nil => rfl
  | cons c rest =>
    obtain ⟨-, -, he, hE⟩ := h c rfl
    unfold readExponent
    exact if_neg (by simp [he, hE])

theorem not_exceedsDouble {n : Nat} (h : n < doubleLimit) : exceedsDouble n 0 = false := by
  unfold exceedsDouble
  split
  · rfl
  · have hle : ¬ doubleLimit ≤ n * Nat.pow 10 0 := by
      rw [show Nat.pow 10 0 = 1 from rfl]
      omega
    show (decide (308 < 0) || decide (doubleLimit ≤ n * Nat.pow 10 0)) = false
    rw [decide_eq_false hle]
    rfl

theorem readMagnitude_decimalDigits (negative : Bool) {n : Nat} (hn : n < doubleLimit)
    (hzero : negative = true → n ≠ 0) {rest : List Char} (h : Breaks rest) :
    readMagnitude negative (decimalDigits n ++ rest) =
      some (.integer (if negative then -(n : Int) else n), rest) := by
  -- no zero in front of other digits
  have hlead : ¬ ((decimalDigits n).head? = some '0' ∧ (decimalDigits n).length ≠ 1) := by
    rintro ⟨hhead, hlen⟩
    exact hlen (length_decimalDigits_of_head? hhead)
  -- a negative zero would be read as a decimal fraction
  have hsign : (negative && n == 0) = false := by
    cases negative with
    | false => rfl
    | true => simpa using hzero rfl
  rw [readMagnitude, readDigits_decimalDigits n h]
  simp only [Option.bind_eq_bind, Option.bind_some]
  rw [if_neg hlead, readFraction_of_breaks h]
  simp only [Option.bind_some]
  rw [readExponent_of_breaks h]
  simp only [Option.bind_some, List.append_nil, Option.getD_none, List.length_nil,
    Int.ofNat_zero, Int.sub_zero]
  rw [ofDigits_decimalDigits, not_exceedsDouble hn]
  simp [hsign]

theorem next_of_digit {c : Char} {cs : List Char} (h : isDigitIn 10 c = true ∨ c = '-') :
    next (c :: cs) = readNumber (c :: cs) := by
  unfold next
  split
  case h_11 => rfl
  all_goals
    rename_i heq
    cases heq
    exact absurd h (by decide)

theorem readNumber_of_digit {c : Char} {cs : List Char} (h : isDigitIn 10 c = true) :
    readNumber (c :: cs) = readMagnitude false (c :: cs) := by
  have hc : c ≠ '-' := by
    rintro rfl
    revert h
    decide
  rw [readNumber.eq_2 _ (by simpa using hc)]

theorem tokens?_writeInteger {n : Int} (hn : IsBounded n) {rest : List Char} (h : Breaks rest) :
    tokens? (writeInteger n ++ rest) = (tokens? rest).map (.integer n :: ·) := by
  unfold writeInteger
  split
  · rename_i hneg
    have hread := readMagnitude_decimalDigits true hn (by omega) h
    have hnext : next ('-' :: decimalDigits n.natAbs ++ rest) = some (.integer n, rest) := by
      rw [List.cons_append, next_of_digit (.inr rfl), readNumber, hread]
      simp only [if_true]
      rw [show -(n.natAbs : Int) = n by omega]
    exact tokens?_cons (by decide) hnext
  · rename_i hpos
    have hread := readMagnitude_decimalDigits false hn (by simp) h
    obtain ⟨d, ds, hds⟩ := List.exists_cons_of_ne_nil (decimalDigits_ne_nil n.natAbs)
    have hd : isDigitIn 10 d = true :=
      isDigitIn_of_mem_decimalDigits n.natAbs d (by simp [hds])
    -- the first digit is no blank
    have hblank : isBlank d = false := by
      have := toNat_of_isDigitIn_ten hd
      simp only [isBlank, Bool.or_eq_false_iff, beq_eq_false_iff_ne, ne_eq]
      refine ⟨⟨⟨?_, ?_⟩, ?_⟩, ?_⟩ <;> (rintro rfl; revert this; decide)
    have hnext : next (d :: ds ++ rest) = some (.integer n, rest) := by
      rw [List.cons_append, next_of_digit (.inl hd), readNumber_of_digit hd, ← List.cons_append,
        ← hds, hread]
      simp only [Bool.false_eq_true, if_false]
      rw [show (n.natAbs : Int) = n by omega]
    rw [hds]
    exact tokens?_cons hblank hnext

/-! ### Values -/

mutual

/-- Whether a value is made of texts, bounded whole numbers, truth values and `null`. -/
def IsPlain : Json → Prop
  | .array items => ArePlain items
  | .object members => ArePlainMembers members
  | .integer n => IsBounded n
  | .decimal _ | .unrepresentable => False
  | _ => True

def ArePlain : List Json → Prop
  | [] => True
  | j :: rest => IsPlain j ∧ ArePlain rest

def ArePlainMembers : List (String × Json) → Prop
  | [] => True
  | (_, j) :: rest => IsPlain j ∧ ArePlainMembers rest

end

mutual

/-- The tokens of a value. -/
def tokensOf : Json → List Token
  | .null => [.null]
  | .bool b => [.bool b]
  | .integer n => [.integer n]
  | .decimal text => [.decimal text]
  | .string s => [.string s.toList]
  | .array items => .openArray :: tokensOfItems items ++ [.closeArray]
  | .object members => .openObject :: tokensOfMembers members ++ [.closeObject]
  | .unrepresentable => [.unrepresentableString]

def tokensOfItems : List Json → List Token
  | [] => []
  | [j] => tokensOf j
  | j :: rest => tokensOf j ++ .comma :: tokensOfItems rest

def tokensOfMembers : List (String × Json) → List Token
  | [] => []
  | [(name, j)] => .string name.toList :: .colon :: tokensOf j
  | (name, j) :: rest =>
    .string name.toList :: .colon :: tokensOf j ++ .comma :: tokensOfMembers rest

end

mutual

/-- The compact form of a value scans to its tokens, whatever follows. -/
theorem tokens?_compactChars (j : Json) (hj : IsPlain j) {rest : List Char} (h : Breaks rest) :
    tokens? (compactChars j ++ rest) = (tokens? rest).map (tokensOf j ++ ·) := by
  match j with
  | .null => exact tokens?_cons (by decide) rfl
  | .bool true => exact tokens?_cons (by decide) rfl
  | .bool false => exact tokens?_cons (by decide) rfl
  | .integer n => exact tokens?_writeInteger hj h
  | .decimal _ => exact hj.elim
  | .unrepresentable => exact hj.elim
  | .string s => exact tokens?_writeString s rest
  | .array items =>
    -- the bracket behind the items ends the last of them
    have hitems := tokens?_compactItems items hj (breaks_cons (.inr (.inl rfl)) rest)
    have hclose : tokens? (']' :: rest) = (tokens? rest).map (.closeArray :: ·) :=
      tokens?_cons (by decide) rfl
    rw [compactChars, List.cons_append, List.cons_append, List.append_assoc,
      List.singleton_append, tokens?_cons (by decide) rfl, hitems, hclose]
    simp [Option.map_map, Function.comp_def, tokensOf]
  | .object members =>
    have hmembers := tokens?_compactMembers members hj (breaks_cons (.inr (.inr rfl)) rest)
    have hclose : tokens? ('\x7d' :: rest) = (tokens? rest).map (.closeObject :: ·) :=
      tokens?_cons (by decide) rfl
    rw [compactChars, List.cons_append, List.cons_append, List.append_assoc,
      List.singleton_append, tokens?_cons (by decide) rfl, hmembers, hclose]
    simp [Option.map_map, Function.comp_def, tokensOf]

theorem tokens?_compactItems (items : List Json) (hi : ArePlain items) {rest : List Char}
    (h : Breaks rest) :
    tokens? (compactItems items ++ rest) = (tokens? rest).map (tokensOfItems items ++ ·) := by
  match items with
  | [] => simp [compactItems, tokensOfItems]
  | [j] => exact tokens?_compactChars j hi.1 h
  | j :: k :: more =>
    have hmore := tokens?_compactItems (k :: more) hi.2 h
    have hcomma : tokens? (',' :: (compactItems (k :: more) ++ rest)) =
        (tokens? (compactItems (k :: more) ++ rest)).map (.comma :: ·) :=
      tokens?_cons (by decide) rfl
    rw [compactItems, List.append_assoc, List.cons_append,
      tokens?_compactChars j hi.1 (breaks_cons (.inl rfl) _), hcomma, hmore]
    · simp [Option.map_map, Function.comp_def, tokensOfItems]
    · simp

theorem tokens?_compactMembers (members : List (String × Json)) (hm : ArePlainMembers members)
    {rest : List Char} (h : Breaks rest) :
    tokens? (compactMembers members ++ rest) =
      (tokens? rest).map (tokensOfMembers members ++ ·) := by
  match members with
  | [] => simp [compactMembers, tokensOfMembers]
  | [(name, j)] =>
    have hcolon : tokens? (':' :: (compactChars j ++ rest)) =
        (tokens? (compactChars j ++ rest)).map (.colon :: ·) := tokens?_cons (by decide) rfl
    rw [compactMembers, List.append_assoc, List.cons_append, tokens?_writeString, hcolon,
      tokens?_compactChars j hm.1 h]
    simp [Option.map_map, Function.comp_def, tokensOfMembers]
  | (name, j) :: m :: more =>
    have hmore := tokens?_compactMembers (m :: more) hm.2 h
    have hcomma : tokens? (',' :: (compactMembers (m :: more) ++ rest)) =
        (tokens? (compactMembers (m :: more) ++ rest)).map (.comma :: ·) :=
      tokens?_cons (by decide) rfl
    have hcolon : tokens? (':' :: (compactChars j ++ ',' :: (compactMembers (m :: more) ++ rest))) =
        (tokens? (compactChars j ++ ',' :: (compactMembers (m :: more) ++ rest))).map
          (.colon :: ·) := tokens?_cons (by decide) rfl
    -- the comma ends the value of the member
    rw [compactMembers, List.append_assoc, List.append_assoc, List.cons_append, List.cons_append,
      tokens?_writeString, hcolon,
      tokens?_compactChars j hm.1 (breaks_cons (.inl rfl) _), hcomma, hmore]
    · simp [Option.map_map, Function.comp_def, tokensOfMembers]
    · simp

end

/-! ## The machine -/

/-- Members that have been read, in reverse and with their names as they are scanned. -/
def readMembers (members : List (String × Json)) : List (Option (List Char) × Json) :=
  (members.map fun (name, j) => (some name.toList, j)).reverse

theorem objectOf_readMembers (members : List (String × Json)) :
    objectOf (readMembers members) = .object members := by
  rw [objectOf, readMembers, List.reverse_reverse, mapM_map_of_forall fun m _ => ?_]
  exact congrArg (fun n => some (n, m.2)) String.ofList_toList

theorem run_cons {s u : State} {t : Token} (h : s.step t = some u) (ts : List Token) :
    s.run (t :: ts) = u.run ts := by
  simp [State.run, List.foldlM_cons, h]

mutual

/-- The tokens of a value put the value where it stands. -/
theorem run_tokensOf (j : Json) (hj : IsPlain j) (frames : List Frame) (mayEnd : Bool) :
    (State.value frames mayEnd).run (tokensOf j) = some (.put j frames) := by
  match j with
  | .null => exact run_cons rfl []
  | .bool _ => exact run_cons rfl []
  | .integer _ => exact run_cons rfl []
  | .decimal _ => exact hj.elim
  | .unrepresentable => exact hj.elim
  | .string s =>
    have h := run_cons (s := .value frames mayEnd) (t := .string s.toList) rfl []
    rw [String.ofList_toList] at h
    exact h
  | .array items =>
    have h := run_tokensOfItems items hj [] frames true (fun _ => ⟨rfl, rfl⟩)
    rw [tokensOf, List.cons_append, run_cons (u := .value (.array [] :: frames) true) rfl]
    simpa using h
  | .object members =>
    have h := run_tokensOfMembers members hj [] frames true (fun _ => rfl)
    rw [tokensOf, List.cons_append, run_cons (u := .name frames [] true) rfl]
    simpa [readMembers] using h

theorem run_tokensOfItems (items : List Json) (hi : ArePlain items) (before : List Json)
    (frames : List Frame) (mayEnd : Bool) (hend : items = [] → before = [] ∧ mayEnd = true) :
    (State.value (.array before :: frames) mayEnd).run (tokensOfItems items ++ [.closeArray]) =
      some (.put (.array (before.reverse ++ items)) frames) := by
  match items with
  | [] =>
    obtain ⟨rfl, rfl⟩ := hend rfl
    exact run_cons rfl []
  | [j] =>
    rw [tokensOfItems, State.run_append, run_tokensOf j hi.1]
    simp [State.run, State.put, State.step]
  | j :: k :: more =>
    have hmore := run_tokensOfItems (k :: more) hi.2 (j :: before) frames false (by simp)
    rw [tokensOfItems, List.append_assoc, State.run_append, run_tokensOf j hi.1, Option.bind_some,
      List.cons_append, State.put, run_cons (u := .value (.array (j :: before) :: frames) false) rfl,
      hmore]
    · simp
    · simp

theorem run_tokensOfMembers (members : List (String × Json)) (hm : ArePlainMembers members)
    (before : List (String × Json)) (frames : List Frame) (mayEnd : Bool)
    (hend : members = [] → mayEnd = true) :
    (State.name frames (readMembers before) mayEnd).run
        (tokensOfMembers members ++ [.closeObject]) =
      some (.put (.object (before ++ members)) frames) := by
  match members with
  | [] =>
    rw [hend rfl, tokensOfMembers, List.nil_append, run_cons rfl [], objectOf_readMembers]
    simp [State.run]
  | [(name, j)] =>
    rw [tokensOfMembers, List.cons_append, List.cons_append,
      run_cons (u := .colon frames (readMembers before) (some name.toList)) rfl,
      run_cons (u := .value (.object (readMembers before) (some name.toList) :: frames) false) rfl,
      State.run_append, run_tokensOf j hm.1, Option.bind_some, State.put, run_cons rfl []]
    have h := objectOf_readMembers (before ++ [(name, j)])
    simp only [readMembers, List.map_append, List.map_cons, List.map_nil, List.reverse_append,
      List.reverse_cons, List.reverse_nil, List.nil_append, List.singleton_append] at h
    simp [readMembers, h, State.run]
  | (name, j) :: m :: more =>
    have hmore := run_tokensOfMembers (m :: more) hm.2 (before ++ [(name, j)]) frames false (by simp)
    have hread : readMembers (before ++ [(name, j)]) =
        (some name.toList, j) :: readMembers before := by simp [readMembers]
    rw [hread] at hmore
    rw [tokensOfMembers, List.append_assoc, List.cons_append, List.cons_append, List.cons_append,
      run_cons (u := .colon frames (readMembers before) (some name.toList)) rfl,
      run_cons (u := .value (.object (readMembers before) (some name.toList) :: frames) false) rfl,
      State.run_append, run_tokensOf j hm.1, Option.bind_some, State.put,
      run_cons (u := .name frames ((some name.toList, j) :: readMembers before) false) rfl, hmore]
    · simp
    · simp

end

/-- The compact form of a plain value reads back as that value. -/
theorem read?_compact {j : Json} (hj : IsPlain j) : read? j.compact = some j := by
  have htokens : tokens? (compactChars j) = some (tokensOf j) := by
    have h : tokens? (compactChars j ++ []) = (tokens? []).map (tokensOf j ++ ·) :=
      tokens?_compactChars j hj (fun c hc => by cases hc)
    rw [List.append_nil, tokens?] at h
    simpa using h
  have hrun := run_tokensOf j hj [] false
  rw [read?, compact, String.toList_ofList, htokens, Option.bind_some, hrun]
  rfl

end CredentialStore.Json
