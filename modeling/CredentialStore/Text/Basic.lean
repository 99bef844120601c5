/-!
# Texts

Blank space, the characters with the Unicode property `White_Space`, and texts without it at either
end; and the bytes of a text in UTF-8. Main statements: `trim_eq_self_iff` (a text is its own
trimmed form exactly when neither end is blank) and `ofUtf8?_utf8` (the bytes of a text read back as
that text).
-/

namespace CredentialStore.Text

/-! ## Blank space -/

/-- The Unicode property `White_Space`. -/
def isBlank (c : Char) : Bool :=
  let n := c.toNat
  (9 ≤ n && n ≤ 13) || n == 0x20 || n == 0x85 || n == 0xA0 || n == 0x1680 ||
    (0x2000 ≤ n && n ≤ 0x200A) || n == 0x2028 || n == 0x2029 || n == 0x202F || n == 0x205F ||
    n == 0x3000

/-- Drops the characters of a class from both ends. -/
def trimBy (p : Char → Bool) (cs : List Char) : List Char :=
  ((cs.dropWhile p).reverse.dropWhile p).reverse

/-- A text without the blank characters at its ends. -/
def trim (s : String) : String :=
  String.ofList (trimBy isBlank s.toList)

/-- A text that holds nothing but blank characters. -/
def isBlankText (s : String) : Bool :=
  s.toList.all isBlank

/-- Lower case for the letters `A` to `Z`; every other character is kept. -/
def lowerAscii (s : String) : String :=
  String.ofList (s.toList.map Char.toLower)

/-! ## Trimming -/

theorem dropWhile_eq_self_iff (p : Char → Bool) (cs : List Char) :
    cs.dropWhile p = cs ↔ ∀ c, cs.head? = some c → p c = false := by
  cases cs with
  | nil => simp
  | cons a r =>
    by_cases ha : p a = true
    · have hlen : (r.dropWhile p).length ≤ r.length := (List.dropWhile_sublist p).length_le
      have hne : r.dropWhile p ≠ a :: r := fun h => by
        have := congrArg List.length h
        simp only [List.length_cons] at this
        omega
      simp [ha, hne]
    · simp [ha]

/-- A text is its own trimmed form exactly when neither of its ends is in the class. -/
theorem trimBy_eq_self_iff (p : Char → Bool) (cs : List Char) :
    trimBy p cs = cs ↔
      (∀ c, cs.head? = some c → p c = false) ∧ (∀ c, cs.getLast? = some c → p c = false) := by
  have hsub : (trimBy p cs).length ≤ (cs.dropWhile p).length := by
    unfold trimBy
    have := (List.dropWhile_sublist p (l := (cs.dropWhile p).reverse)).length_le
    simpa using this
  have hdrop : (cs.dropWhile p).length ≤ cs.length := (List.dropWhile_sublist p).length_le
  constructor
  · intro h
    have hlen : (cs.dropWhile p).length = cs.length := by
      have := congrArg List.length h
      omega
    have hd : cs.dropWhile p = cs := (List.dropWhile_sublist p).eq_of_length hlen
    refine ⟨(dropWhile_eq_self_iff p cs).1 hd, fun c hc => ?_⟩
    have hr : cs.reverse.dropWhile p = cs.reverse := by
      have := congrArg List.reverse h
      unfold trimBy at this
      rwa [List.reverse_reverse, hd] at this
    exact (dropWhile_eq_self_iff p cs.reverse).1 hr c (by rwa [List.head?_reverse])
  · rintro ⟨hh, hl⟩
    have hd : cs.dropWhile p = cs := (dropWhile_eq_self_iff p cs).2 hh
    have hr : cs.reverse.dropWhile p = cs.reverse :=
      (dropWhile_eq_self_iff p cs.reverse).2 fun c hc => hl c (by rwa [List.head?_reverse] at hc)
    unfold trimBy
    rw [hd, hr, List.reverse_reverse]

theorem trim_eq_self_iff (s : String) :
    trim s = s ↔ (∀ c, s.toList.head? = some c → isBlank c = false) ∧
      (∀ c, s.toList.getLast? = some c → isBlank c = false) := by
  rw [← trimBy_eq_self_iff]
  constructor
  · intro h
    have := congrArg String.toList h
    simpa [trim] using this
  · intro h
    simp [trim, h]

/-! ## Bytes -/

/-- The bytes of a text in UTF-8. -/
def utf8 (cs : List Char) : List UInt8 :=
  (String.ofList cs).toUTF8.data.toList

/-- The text that bytes spell, if they are well-formed UTF-8. -/
def ofUtf8? (bytes : List UInt8) : Option (List Char) :=
  (String.fromUTF8? (ByteArray.mk bytes.toArray)).map String.toList

/-- The bytes of a text read back as that text. -/
theorem ofUtf8?_utf8 (cs : List Char) : ofUtf8? (utf8 cs) = some cs := by
  have hmk : ByteArray.mk (String.ofList cs).toUTF8.data.toList.toArray =
      (String.ofList cs).toByteArray := by simp
  unfold ofUtf8? utf8
  rw [hmk, String.fromUTF8?, dif_pos (String.ofList cs).isValidUTF8]
  exact congrArg some String.toList_ofList

end CredentialStore.Text
