/-!
# Punycode

A label with characters above ASCII is written in letters, digits and hyphens: first its ASCII
characters, then the others in ascending order, each as the distance that a position counter moves
until the character is inserted. Distances are written with digits of varying weight, whose
thresholds adapt to the distances seen before.

Writing goes over the code points in ascending order; reading is one fold over the digits.
-/

namespace CredentialStore.Url.Punycode

/-- The characters that are written as they are. -/
def isBasic (c : Char) : Bool :=
  c.toNat < 0x80

/-- The digit of a value below thirty-six: the letters come first. -/
def digit (d : Nat) : Char :=
  Char.ofNat (if d < 26 then 97 + d else 22 + d)

/-- The value of a digit. -/
def digitValue? (c : Char) : Option Nat :=
  let n := c.toNat
  if 97 ≤ n ∧ n ≤ 122 then some (n - 97)
  else if 65 ≤ n ∧ n ≤ 90 then some (n - 65)
  else if 48 ≤ n ∧ n ≤ 57 then some (n - 22)
  else none

/-- The least value of a digit that others follow, at a position that grows by thirty-six. -/
def threshold (position bias : Nat) : Nat :=
  if position ≤ bias then 1 else if bias + 26 ≤ position then 26 else position - bias

theorem threshold_pos (position bias : Nat) : 1 ≤ threshold position bias := by
  unfold threshold
  split
  · omega
  · split <;> omega

theorem threshold_le (position bias : Nat) : threshold position bias ≤ 26 := by
  unfold threshold
  split
  · omega
  · split <;> omega

/-- Divides a distance down to the range of the digits and counts the positions passed. -/
def settle (delta position : Nat) : Nat :=
  if 455 < delta then settle (delta / 35) (position + 36)
  else position + 36 * delta / (delta + 38)
termination_by delta
decreasing_by exact Nat.div_lt_self (by omega) (by omega)

/-- The bias after a distance; `count` characters are in place by then. -/
def adapt (delta count : Nat) (first : Bool) : Nat :=
  let damped := if first then delta / 700 else delta / 2
  settle (damped + damped / count) 0

/-! ## Writing -/

/-- The digits of a distance. -/
def writeDelta (bias position delta : Nat) : List Char :=
  let t := threshold position bias
  if delta < t then [digit delta]
  else
    digit (t + (delta - t) % (36 - t)) ::
      writeDelta bias (position + 36) ((delta - t) / (36 - t))
termination_by delta
decreasing_by
  have hpos := threshold_pos position bias
  have hle : (delta - threshold position bias) / (36 - threshold position bias) ≤
      delta - threshold position bias := Nat.div_le_self _ _
  omega

/-- What writing has produced so far: the digits, the distance since the last character, the bias,
and the number of characters written. -/
structure Encoder where
  digits : List Char
  delta : Nat
  bias : Nat
  count : Nat

/-- Passes one character of the label while the characters of one code point are being written. -/
def Encoder.pass (basicCount code : Nat) (e : Encoder) (c : Char) : Encoder :=
  if c.toNat < code then { e with delta := e.delta + 1 }
  else if c.toNat = code then
    { digits := e.digits ++ writeDelta e.bias 36 e.delta
      delta := 0
      bias := adapt e.delta (e.count + 1) (e.count == basicCount)
      count := e.count + 1 }
  else e

/-- Writes the characters of one code point; `next` is the least one not written before. -/
def Encoder.passAll (label : List Char) (basicCount : Nat) (state : Encoder × Nat) (code : Nat) :
    Encoder × Nat :=
  let (e, next) := state
  let e := { e with delta := e.delta + (code - next) * (e.count + 1) }
  let e := label.foldl (Encoder.pass basicCount code) e
  ({ e with delta := e.delta + 1 }, code + 1)

/-- Inserts a number into an ascending list without repetition. -/
def insertCode (n : Nat) : List Nat → List Nat
  | [] => [n]
  | m :: ms => if n < m then n :: m :: ms else if n = m then m :: ms else m :: insertCode n ms

/-- The code points above ASCII, ascending. -/
def codes (label : List Char) : List Nat :=
  ((label.filter fun c => !isBasic c).map Char.toNat).foldr insertCode []

/-- The written form of a label, without a marker in front. -/
def encode (label : List Char) : List Char :=
  let basic := label.filter isBasic
  let start : Encoder := ⟨[], 0, 72, basic.length⟩
  let (e, _) := (codes label).foldl (Encoder.passAll label basic.length) (start, 0x80)
  (if basic.isEmpty then [] else basic ++ ['-']) ++ e.digits

/-! ## Reading -/

/-- What reading has produced so far: the label, the code point and the index of the last insertion,
and the part of a distance read since. -/
structure Decoder where
  label : List Char
  code : Nat
  index : Nat
  bias : Nat
  position : Nat
  weight : Nat
  delta : Nat

/-- The greatest distance and weight that are read. -/
def limit : Nat := 0x100000000

/-- Inserts the next character at a distance. -/
def Decoder.insert (d : Decoder) (delta : Nat) : Option Decoder :=
  let count := d.label.length + 1
  let target := d.index + delta
  let code := d.code + target / count
  if target < limit ∧ code.isValidChar then
    some {
      label := d.label.insertIdx (target % count) (Char.ofNat code)
      code := code
      index := target % count + 1
      bias := adapt delta count (d.index == 0)
      position := 36
      weight := 1
      delta := 0 }
  else none

/-- Reads one digit. -/
def Decoder.step (d : Decoder) (c : Char) : Option Decoder := do
  let v ← digitValue? c
  let delta := d.delta + v * d.weight
  let t := threshold d.position d.bias
  if v < t then d.insert delta
  else if delta < limit ∧ d.weight * (36 - t) < limit then
    some { d with delta := delta, position := d.position + 36, weight := d.weight * (36 - t) }
  else none

/-- The text before the last hyphen and the text after it; without a hyphen all is after it. -/
def splitLast (cs : List Char) : List Char × List Char :=
  if cs.contains '-' then
    let after := (cs.reverse.takeWhile (· ≠ '-')).reverse
    (cs.take (cs.length - after.length - 1), after)
  else ([], cs)

/-- The label that a written form stands for. -/
def decode? (written : List Char) : Option (List Char) := do
  let (basic, digits) := splitLast written
  let d ← digits.foldlM Decoder.step ⟨basic, 0x80, 0, 72, 36, 1, 0⟩
  if basic.all isBasic ∧ d.position = 36 then some d.label else none

end CredentialStore.Url.Punycode
