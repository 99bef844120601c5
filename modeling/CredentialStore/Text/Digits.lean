/-!
# Digits

Digits and numbers in a base up to thirty-six, over lists of characters, and whether a decimal
number is beyond the largest floating-point number of double precision. Main statements:
`digitValue_digitChar` (a written digit reads back) and `ofDigits_toDigits` (a written number reads
back).
-/

namespace CredentialStore.Text

/-- The value of a digit: `0` to `9`, then the letters in either case from ten upward. -/
def digitValue (c : Char) : Nat :=
  let n := c.toNat
  if 48 ≤ n ∧ n ≤ 57 then n - 48
  else if 97 ≤ n ∧ n ≤ 122 then n - 87
  else if 65 ≤ n ∧ n ≤ 90 then n - 55
  else 36

/-- A digit of the base. -/
def isDigitIn (base : Nat) (c : Char) : Bool :=
  digitValue c < base

/-- The digit for a value, with small letters. -/
def digitChar (d : Nat) : Char :=
  Char.ofNat (if d < 10 then 48 + d else 87 + d)

/-- The number that a list of digits denotes, the most significant digit first. -/
def ofDigits (base : Nat) (ds : List Char) : Nat :=
  ds.foldl (fun acc c => acc * base + digitValue c) 0

/-- The digits of a number, without leading zeros. -/
def toDigits (base : Nat) (h : 1 < base) (n : Nat) : List Char :=
  if n < base then [digitChar n]
  else toDigits base h (n / base) ++ [digitChar (n % base)]
termination_by n
decreasing_by exact Nat.div_lt_self (by omega) h

/-- Decimal digits. -/
def decimalDigits (n : Nat) : List Char :=
  toDigits 10 (by decide) n

/-- Hexadecimal digits, with small letters. -/
def hexDigits (n : Nat) : List Char :=
  toDigits 16 (by decide) n

/-- A number as it is read by people. -/
def decimal (n : Nat) : String :=
  String.ofList (decimalDigits n)

/-- Upper-case hexadecimal digits, filled with zeros to a width. -/
def upperHex (width n : Nat) : List Char :=
  let ds := (hexDigits n).map Char.toUpper
  List.replicate (width - ds.length) '0' ++ ds

/-- Lower-case hexadecimal digits, filled with zeros to a width. -/
def lowerHex (width n : Nat) : List Char :=
  let ds := hexDigits n
  List.replicate (width - ds.length) '0' ++ ds

theorem digitValue_digitChar {d : Nat} (h : d < 36) : digitValue (digitChar d) = d := by
  have hall : ∀ e ∈ List.range 36, digitValue (digitChar e) = e := by decide
  exact hall d (List.mem_range.2 h)

theorem ofDigits_append_singleton (base : Nat) (ds : List Char) (c : Char) :
    ofDigits base (ds ++ [c]) = ofDigits base ds * base + digitValue c := by
  simp [ofDigits, List.foldl_append]

/-- A written number reads back. -/
theorem ofDigits_toDigits {base : Nat} (h : 1 < base) (hle : base ≤ 36) (n : Nat) :
    ofDigits base (toDigits base h n) = n := by
  rw [toDigits]
  split
  · simp [ofDigits, digitValue_digitChar (show n < 36 by omega)]
  · have hmod : n % base < 36 := by
      have := Nat.mod_lt n (show 0 < base by omega)
      omega
    rw [ofDigits_append_singleton, ofDigits_toDigits h hle (n / base), digitValue_digitChar hmod]
    exact Nat.div_add_mod' n base
termination_by n
decreasing_by exact Nat.div_lt_self (by omega) h

/-! ## Magnitude

The test is exact and never computes a power that is not needed for it. -/

/-- The least number that rounds to infinity in double precision. -/
def doubleLimit : Nat :=
  Nat.pow 2 1024 - Nat.pow 2 970

/-- Whether `significand * 10 ^ exponent` rounds to infinity in double precision. -/
def exceedsDouble (significand : Nat) (exponent : Int) : Bool :=
  if significand = 0 then false
  else match exponent with
    | .ofNat e => 308 < e || doubleLimit ≤ significand * Nat.pow 10 e
    | .negSucc e =>
      let shift := e + 1
      if significand.log2 < shift then false
      else doubleLimit * Nat.pow 10 shift ≤ significand

end CredentialStore.Text
