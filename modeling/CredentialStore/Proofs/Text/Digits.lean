import CredentialStore.Text.Digits

/-!
# Written digits

What the digits of a number look like: they are digits of the base, there is at least one, and the
first is a zero only for zero itself. Numbers of fixed width are spelled out digit by digit.

Main statements: `isDigitIn_of_mem_toDigits`, `head?_toDigits_ne_zero` and `takeWhile_digits`
(a reader that takes digits as long as there are any takes the whole number).
-/

namespace CredentialStore.Text

/-! ## Single digits -/

theorem isDigitIn_digitChar {base d : Nat} (h : d < base) (hbase : base ≤ 36) :
    isDigitIn base (digitChar d) = true := by
  rw [isDigitIn, digitValue_digitChar (by omega), decide_eq_true_eq]
  exact h

theorem digitValue_toUpper_digitChar {d : Nat} (h : d < 36) :
    digitValue (digitChar d).toUpper = d := by
  have hall : ∀ e ∈ List.range 36, digitValue (digitChar e).toUpper = e := by decide
  exact hall d (List.mem_range.2 h)

theorem digitChar_eq_zero_iff {d : Nat} (h : d < 36) : digitChar d = '0' ↔ d = 0 := by
  have hall : ∀ e ∈ List.range 36, digitChar e = '0' ↔ e = 0 := by decide
  exact hall d (List.mem_range.2 h)

/-- A decimal digit is one of ten characters. -/
theorem toNat_of_isDigitIn_ten {c : Char} (h : isDigitIn 10 c = true) :
    48 ≤ c.toNat ∧ c.toNat ≤ 57 := by
  rw [isDigitIn, decide_eq_true_eq, digitValue] at h
  split at h
  · assumption
  · split at h
    · omega
    · split at h <;> omega

/-- A hexadecimal digit lies between zero and the small letter for fifteen. -/
theorem toNat_of_isDigitIn_sixteen {c : Char} (h : isDigitIn 16 c = true) :
    48 ≤ c.toNat ∧ c.toNat ≤ 102 := by
  rw [isDigitIn, decide_eq_true_eq, digitValue] at h
  split at h
  · omega
  · split at h
    · omega
    · split at h <;> omega

/-! ## Numbers -/

section

variable {base : Nat} (hbase : 1 < base)

theorem toDigits_of_lt {n : Nat} (h : n < base) : toDigits base hbase n = [digitChar n] := by
  rw [toDigits, if_pos h]

theorem toDigits_of_le {n : Nat} (h : base ≤ n) :
    toDigits base hbase n = toDigits base hbase (n / base) ++ [digitChar (n % base)] := by
  rw [toDigits, if_neg (by omega)]

theorem toDigits_ne_nil (n : Nat) : toDigits base hbase n ≠ [] := by
  rw [toDigits]
  split <;> simp

theorem isDigitIn_of_mem_toDigits (hle : base ≤ 36) (n : Nat) :
    ∀ c ∈ toDigits base hbase n, isDigitIn base c = true := by
  induction n using Nat.strongRecOn with
  | _ n ih =>
    -- a single digit, or the digits of the quotient and one more
    by_cases hn : n < base
    · intro c hc
      rw [toDigits_of_lt hbase hn, List.mem_singleton] at hc
      exact hc ▸ isDigitIn_digitChar hn hle
    · intro c hc
      rw [toDigits_of_le hbase (by omega), List.mem_append, List.mem_singleton] at hc
      rcases hc with hc | rfl
      · exact ih _ (Nat.div_lt_self (by omega) hbase) c hc
      · exact isDigitIn_digitChar (Nat.mod_lt _ (by omega)) hle

/-- Only the number zero starts with a zero. -/
theorem head?_toDigits_ne_zero (hle : base ≤ 36) {n : Nat} (hn : n ≠ 0) :
    (toDigits base hbase n).head? ≠ some '0' := by
  induction n using Nat.strongRecOn with
  | _ n ih =>
    by_cases hlt : n < base
    · rw [toDigits_of_lt hbase hlt, List.head?_cons, ne_eq, Option.some.injEq,
        digitChar_eq_zero_iff (by omega)]
      exact hn
    · rw [toDigits_of_le hbase (by omega), List.head?_append, Option.or_of_isSome
        (List.isSome_head?.2 (toDigits_ne_nil hbase _))]
      have hpos : n / base ≠ 0 := Nat.ne_of_gt (Nat.div_pos (by omega) (by omega))
      exact ih _ (Nat.div_lt_self (by omega) hbase) hpos

/-- A number with a zero in front is zero, which has one digit. -/
theorem length_toDigits_of_head? (hle : base ≤ 36) {n : Nat}
    (h : (toDigits base hbase n).head? = some '0') : (toDigits base hbase n).length = 1 := by
  by_cases hn : n = 0
  · subst hn
    rw [toDigits_of_lt hbase (by omega)]
    rfl
  · exact absurd h (head?_toDigits_ne_zero hbase hle hn)

end

theorem decimalDigits_ne_nil (n : Nat) : decimalDigits n ≠ [] :=
  toDigits_ne_nil _ n

theorem isDigitIn_of_mem_decimalDigits (n : Nat) :
    ∀ c ∈ decimalDigits n, isDigitIn 10 c = true :=
  isDigitIn_of_mem_toDigits _ (by decide) n

theorem length_decimalDigits_of_head? {n : Nat} (h : (decimalDigits n).head? = some '0') :
    (decimalDigits n).length = 1 :=
  length_toDigits_of_head? _ (by decide) h

theorem ofDigits_decimalDigits (n : Nat) : ofDigits 10 (decimalDigits n) = n :=
  ofDigits_toDigits _ (by decide) n

/-! ## Readers of digits -/

/-- What ends a number: a text that does not start with a digit. -/
theorem takeWhile_digits {p : Char → Bool} {ds rest : List Char} (hds : ∀ c ∈ ds, p c = true)
    (hrest : ∀ c, rest.head? = some c → p c = false) :
    (ds ++ rest).takeWhile p = ds ∧ (ds ++ rest).dropWhile p = rest := by
  induction ds with
  | nil =>
    cases rest with
    | nil => simp
    | cons c rest => simp [hrest c rfl]
  | cons d ds ih =>
    obtain ⟨htake, hdrop⟩ := ih fun c hc => hds c (by simp [hc])
    have hd := hds d (by simp)
    simp [hd, htake, hdrop]

/-! ## Fixed widths -/

/-- The digits of a number below 256 in hexadecimal, with zeros up to a width of two. -/
theorem hexDigits_of_lt {n : Nat} (h : n < 256) :
    List.replicate (2 - (hexDigits n).length) '0' ++ hexDigits n =
      [digitChar (n / 16), digitChar (n % 16)] := by
  have hzero : digitChar 0 = '0' := by decide
  unfold hexDigits
  by_cases hn : n < 16
  · rw [toDigits_of_lt _ hn, Nat.div_eq_of_lt hn, Nat.mod_eq_of_lt hn, hzero]
    rfl
  · rw [toDigits_of_le _ (by omega), toDigits_of_lt _ (by omega)]
    rfl

/-- A code below 256 in four hexadecimal digits. -/
theorem lowerHex_four {n : Nat} (h : n < 256) :
    lowerHex 4 n = ['0', '0', digitChar (n / 16), digitChar (n % 16)] := by
  have hlen : 1 ≤ (hexDigits n).length ∧ (hexDigits n).length ≤ 2 := by
    have := congrArg List.length (hexDigits_of_lt h)
    have hne : hexDigits n ≠ [] := toDigits_ne_nil _ n
    have hpos := List.length_pos_iff.2 hne
    simp only [List.length_append, List.length_replicate, List.length_cons, List.length_nil] at this
    omega
  rw [lowerHex, ← hexDigits_of_lt h]
  -- one digit has three zeros in front, two have two
  rcases (show (hexDigits n).length = 1 ∨ (hexDigits n).length = 2 by omega) with hl | hl <;>
    rw [hl] <;> rfl

end CredentialStore.Text
