/-!
# The SHA-1 digest

Twenty bytes computed from a text of bytes in blocks of sixty-four, on words of thirty-two bits.
-/

namespace CredentialStore.Sha1

/-- The five words of the state. -/
structure State where
  a : UInt32
  b : UInt32
  c : UInt32
  d : UInt32
  e : UInt32

/-- The state before the first block. -/
def State.initial : State :=
  ⟨0x67452301, 0xEFCDAB89, 0x98BADCFE, 0x10325476, 0xC3D2E1F0⟩

def State.add (s t : State) : State :=
  ⟨s.a + t.a, s.b + t.b, s.c + t.c, s.d + t.d, s.e + t.e⟩

def State.words (s : State) : List UInt32 :=
  [s.a, s.b, s.c, s.d, s.e]

/-- Rotates a word to the left. -/
def rotate (w : UInt32) (n : UInt32) : UInt32 :=
  (w <<< n) ||| (w >>> (32 - n))

/-- The bytes of a number, the most significant first. -/
def bigEndian (count n : Nat) : List UInt8 :=
  (List.range count).reverse.map fun i => UInt8.ofNat (n / Nat.pow 256 i)

/-- The number that bytes make, the most significant first. -/
def ofBigEndian (bytes : List UInt8) : Nat :=
  bytes.foldl (fun acc b => acc * 256 + b.toNat) 0

/-- The text with a mark, zeros and its length in bits, filled up to whole blocks. -/
def padded (bytes : List UInt8) : List UInt8 :=
  let used := bytes.length + 9
  bytes ++ [0x80] ++ List.replicate ((64 - used % 64) % 64) 0 ++ bigEndian 8 (8 * bytes.length)

/-- Cuts a list into parts of one length. -/
def parts (size : Nat) (bytes : List UInt8) : List (List UInt8) :=
  (List.range (bytes.length / size)).map fun i => (bytes.drop (size * i)).take size

/-- The next word of the schedule, from the words so far in reverse. -/
def nextWord (ws : List UInt32) : UInt32 :=
  rotate (ws.getD 2 0 ^^^ ws.getD 7 0 ^^^ ws.getD 13 0 ^^^ ws.getD 15 0) 1

/-- The eighty words of the schedule of a block. -/
def schedule (block : List UInt8) : List UInt32 :=
  let start := ((parts 4 block).map fun w => UInt32.ofNat (ofBigEndian w)).reverse
  ((List.range 64).foldl (fun ws _ => nextWord ws :: ws) start).reverse

/-- The mixing function and the constant of a round. -/
def mix (round : Nat) (b c d : UInt32) : UInt32 × UInt32 :=
  if round < 20 then ((b &&& c) ||| ((~~~ b) &&& d), 0x5A827999)
  else if round < 40 then (b ^^^ c ^^^ d, 0x6ED9EBA1)
  else if round < 60 then ((b &&& c) ||| (b &&& d) ||| (c &&& d), 0x8F1BBCDC)
  else (b ^^^ c ^^^ d, 0xCA62C1D6)

/-- One round. -/
def round (s : State) (word : Nat × UInt32) : State :=
  let (f, k) := mix word.1 s.b s.c s.d
  ⟨rotate s.a 5 + f + s.e + k + word.2, s.a, rotate s.b 30, s.c, s.d⟩

/-- Takes a block into the state. -/
def absorb (s : State) (block : List UInt8) : State :=
  s.add (((List.range 80).zip (schedule block)).foldl round s)

/-- The digest of a text of bytes. -/
def digest (bytes : List UInt8) : List UInt8 :=
  (((parts 64 (padded bytes)).foldl absorb State.initial).words).flatMap fun w =>
    bigEndian 4 w.toNat

end CredentialStore.Sha1
