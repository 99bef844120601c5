import CredentialStore.Proofs.Lists
import CredentialStore.Proofs.Text.Digits
import CredentialStore.Proofs.Text.Characters
import CredentialStore.Url.Ipv4
import CredentialStore.Url.Ipv6

/-!
# Written addresses read back

Main statements: `Ipv4.read_write` and `Ipv6.read_write`; the bounds that they ask for hold of every
address that was read (`Ipv4.lt_of_read`, `Ipv6.wellFormed_of_read`).
-/

namespace CredentialStore.Url.Ipv4

open Text

/-- A written decimal number reads back as one part of an address. -/
theorem number_decimalDigits (n : Nat) : number (decimalDigits n) = some n := by
  have hall : (decimalDigits n).all (isDigitIn 10) = true :=
    List.all_eq_true.2 (isDigitIn_of_mem_decimalDigits n)
  have hlen := length_decimalDigits_of_head? (n := n)
  have hn := ofDigits_decimalDigits n
  have hten : digitsIn 10 (decimalDigits n) = some n := by rw [digitsIn, if_pos hall, hn]
  -- marks of other bases stand behind a zero, and a written number with a zero in front is zero
  rw [number.eq_def]
  split
  · exact absurd ‹_› (decimalDigits_ne_nil n)
  · rename_i heq
    rw [heq] at hlen
    simp at hlen
  · rename_i heq
    rw [heq] at hlen
    simp at hlen
  · rename_i heq
    rw [heq] at hn
    exact congrArg some hn
  · rename_i hne heq
    rw [heq] at hlen
    simp only [List.head?_cons, List.length_cons, forall_const, Nat.add_eq_right,
      List.length_eq_zero_iff] at hlen
    subst hlen
    exact (hne rfl).elim
  · exact hten

theorem labels_intercalate {parts : List (List Char)} (hne : parts ≠ [])
    (hdots : ∀ p ∈ parts, '.' ∉ p) (hlast : parts.getLast? ≠ some []) :
    labels (['.'].intercalate parts) = parts := by
  rw [labels, List.splitOn_intercalate '.' hdots hne]
  simp [hlast]

/-- The parts of a written address. -/
def writtenParts (address : Nat) : List (List Char) :=
  [16777216, 65536, 256, 1].map fun weight => decimalDigits (address / weight % 256)

theorem isDigitIn_of_mem_writtenParts {address : Nat} {part : List Char}
    (h : part ∈ writtenParts address) : ∀ c ∈ part, isDigitIn 10 c = true := by
  rw [writtenParts, List.mem_map] at h
  obtain ⟨weight, -, rfl⟩ := h
  exact isDigitIn_of_mem_decimalDigits _

theorem labels_write (address : Nat) : labels (write address) = writtenParts address := by
  refine labels_intercalate (List.cons_ne_nil _ _) (fun p hp hdot => ?_) ?_
  · -- digits are no dots
    have := isDigitIn_of_mem_writtenParts hp '.' hdot
    exact absurd this (by decide)
  · simp [decimalDigits_ne_nil]

/-- A written address is meant as one. -/
theorem endsInNumber_write (address : Nat) : endsInNumber (write address) = true := by
  rw [endsInNumber, labels_write]
  simp [writtenParts, number_decimalDigits]

theorem read_write {address : Nat} (h : address < 4294967296) : read (write address) = .ok address
    := by
  have hparts : (writtenParts address).mapM number =
      some [address / 16777216 % 256, address / 65536 % 256, address / 256 % 256,
        address / 1 % 256] := by
    simp only [writtenParts, List.map_cons, List.map_nil, List.mapM_cons, number_decimalDigits]
    rfl
  have hcombine : combine [address / 16777216 % 256, address / 65536 % 256, address / 256 % 256,
      address / 1 % 256] = some address := by
    have hbytes : [address / 256 % 256, address / 65536 % 256, address / 16777216 % 256].all
        (· ≤ 255) = true := by
      simp only [List.all_cons, List.all_nil, Bool.and_true, Bool.and_eq_true, decide_eq_true_eq]
      omega
    have hlast : address / 1 % 256 < Nat.pow 256 (4 - 3) := Nat.mod_lt _ (by decide)
    rw [combine]
    simp only [List.reverse_cons, List.reverse_nil, List.nil_append, List.cons_append,
      List.length_cons, List.length_nil]
    rw [if_pos ⟨by decide, hbytes, hlast⟩]
    simp only [List.foldl_cons, List.foldl_nil, Option.some.injEq]
    have hpow : Nat.pow 256 (4 - (0 + 1 + 1 + 1)) = 256 := rfl
    rw [hpow]
    omega
  rw [read, labels_write, hparts]
  simp only [hcombine]

/-- An address that was read fits into four bytes. -/
theorem lt_of_read {host : List Char} {address : Nat} (h : read host = .ok address) :
    address < 4294967296 := by
  rw [read] at h
  split at h
  · cases h
  · rename_i numbers hnumbers
    split at h
    · cases h
    · rename_i a hcombine
      cases h
      rw [combine] at hcombine
      split at hcombine
      · cases hcombine
      · rename_i last rest hrest
        split at hcombine
        · rename_i hbounds
          obtain ⟨hlen, hbytes, hlast⟩ := hbounds
          have hlt : ∀ n ∈ rest.reverse, n < 256 := fun n hn =>
            Nat.lt_succ_of_le (by simpa using List.all_eq_true.1 hbytes n (by simpa using hn))
          have hsum := foldl_digits_lt hlt 0
          rw [List.length_reverse, Nat.zero_add, Nat.one_mul] at hsum
          simp only [Option.some.injEq] at hcombine
          -- the last part fills the bytes that the other parts leave
          have hmul := Nat.mul_le_mul_right (Nat.pow 256 (4 - rest.length)) hsum
          -- all parts together fill four bytes
          have htotal : Nat.pow 256 rest.length * Nat.pow 256 (4 - rest.length) = 4294967296 := by
            rw [Nat.pow_eq, Nat.pow_eq, ← Nat.pow_add,
              show rest.length + (4 - rest.length) = 4 by omega]
          rw [htotal, Nat.succ_mul] at hmul
          omega
        · cases hcombine

end CredentialStore.Url.Ipv4

namespace CredentialStore.Url.Ipv6

open Text

/-- Eight pieces of sixteen bits. -/
def WellFormed (ps : List Nat) : Prop :=
  ps.length = 8 ∧ ∀ p ∈ ps, p < 65536

theorem length_hexDigits {p : Nat} (h : p < 65536) :
    1 ≤ (hexDigits p).length ∧ (hexDigits p).length ≤ 4 := by
  -- one more digit for each factor of sixteen
  have hstep : ∀ {k m : Nat}, (∀ q < m, (hexDigits q).length ≤ k) →
      ∀ q < 16 * m, (hexDigits q).length ≤ k + 1 := by
    intro k m hm q hq
    by_cases hlt : q < 16
    · simp [hexDigits, toDigits_of_lt _ hlt]
    · have hdiv := hm (q / 16) (by omega)
      rw [hexDigits, toDigits_of_le _ (by omega), List.length_append, List.length_singleton]
      exact Nat.add_le_add_right hdiv 1
  have hone : ∀ q < 16, (hexDigits q).length ≤ 1 := fun q hq => by
    simp [hexDigits, toDigits_of_lt _ hq]
  have hne : hexDigits p ≠ [] := toDigits_ne_nil _ p
  exact ⟨List.length_pos_iff.2 hne, hstep (hstep (hstep hone)) p (by omega)⟩

theorem isDigitIn_of_mem_hexDigits (p : Nat) : ∀ c ∈ hexDigits p, isDigitIn 16 c = true :=
  isDigitIn_of_mem_toDigits _ (by decide) p

/-- A written piece reads back. -/
theorem piece_hexDigits {p : Nat} (h : p < 65536) : piece (hexDigits p) = some p := by
  have hlen := length_hexDigits h
  have hall : (hexDigits p).all (isDigitIn 16) = true :=
    List.all_eq_true.2 (isDigitIn_of_mem_hexDigits p)
  have hvalue : ofDigits 16 (hexDigits p) = p := ofDigits_toDigits _ (by decide) p
  rw [piece, if_pos ⟨hlen.1, hlen.2, hall⟩, hvalue]

theorem pieces_hexDigits (allowIpv4 : Bool) {ps : List Nat} (h : ∀ p ∈ ps, p < 65536) :
    pieces allowIpv4 (ps.map hexDigits) = some ps := by
  induction ps with
  | nil => rfl
  | cons p ps ih =>
    have hp := piece_hexDigits (h p (by simp))
    have hrest := ih fun q hq => h q (by simp [hq])
    cases ps with
    | nil =>
      have hdot : (hexDigits p).contains '.' = false := by
        rw [List.contains_eq_mem, decide_eq_false_iff_not]
        intro hmem
        have := isDigitIn_of_mem_hexDigits p '.' hmem
        exact absurd this (by decide)
      rw [List.map_singleton, pieces, hdot]
      simp [hp]
    | cons q ps =>
      rw [List.map_cons, List.map_cons, pieces, hp, ← List.map_cons, hrest]
      · rfl
      · simp

theorem colon_not_mem_hexDigits (p : Nat) : ':' ∉ hexDigits p := fun hmem => by
  have := isDigitIn_of_mem_hexDigits p ':' hmem
  exact absurd this (by decide)

theorem parts_writePieces (ps : List Nat) : parts (writePieces ps) = ps.map hexDigits := by
  cases ps with
  | nil => rfl
  | cons p ps =>
    have hne : writePieces (p :: ps) ≠ [] := by
      have hdigits : hexDigits p ≠ [] := toDigits_ne_nil _ p
      cases ps <;> simp [writePieces, hdigits]
    rw [parts, if_neg hne, writePieces]
    refine List.splitOn_intercalate ':' (fun l hl => ?_) (by simp)
    rw [List.mem_map] at hl
    obtain ⟨q, -, rfl⟩ := hl
    exact colon_not_mem_hexDigits q

/-! ## The gap -/

/-- Characters that are no colons are passed over. -/
theorem splitGap_append {ds rest : List Char} (h : ':' ∉ ds) :
    splitGap (ds ++ rest) = (splitGap rest).map fun (before, after) => (ds ++ before, after) := by
  induction ds with
  | nil => cases hgap : splitGap rest <;> simp [hgap]
  | cons d ds ih =>
    rw [List.mem_cons, not_or] at h
    have hd : d ≠ ':' := Ne.symm h.1
    -- the first equation would need a colon
    rw [List.cons_append, splitGap.eq_def]
    split
    · rename_i heq
      exact absurd (List.cons.inj heq).1 hd
    · rename_i heq
      cases heq
      rw [ih h.2, Option.map_map]
      rfl
    · rename_i heq
      cases heq

/-- A colon with no colon behind it is passed over. -/
theorem splitGap_colon {cs : List Char} (h : cs.head? ≠ some ':') :
    splitGap (':' :: cs) = (splitGap cs).map fun (before, after) => (':' :: before, after) := by
  rw [splitGap.eq_def]
  split
  · rename_i heq
    rw [(List.cons.inj heq).2] at h
    exact absurd rfl h
  · rename_i heq
    cases heq
    rfl
  · rename_i heq
    cases heq

theorem head?_writePieces (ps : List Nat) (hne : ps ≠ []) (rest : List Char) :
    (writePieces ps ++ rest).head? ≠ some ':' := by
  obtain ⟨p, ps, rfl⟩ := List.exists_cons_of_ne_nil hne
  obtain ⟨d, ds, hdigits⟩ := List.exists_cons_of_ne_nil
    (show hexDigits p ≠ [] from toDigits_ne_nil _ p)
  have hd : d ≠ ':' := by
    rintro rfl
    exact colon_not_mem_hexDigits p (by rw [hdigits]; exact List.mem_cons_self)
  cases ps <;> simp [writePieces, hdigits, hd]

/-- In front of a gap or the end of the text, written pieces have no gap of their own. -/
theorem splitGap_writePieces (ps : List Nat) (rest : List Char) :
    splitGap (writePieces ps ++ ':' :: ':' :: rest) = some (writePieces ps, rest) ∧
      splitGap (writePieces ps) = none := by
  induction ps with
  | nil => exact ⟨rfl, rfl⟩
  | cons p ps ih =>
    cases ps with
    | nil =>
      have hsingle : writePieces [p] = hexDigits p := by simp [writePieces]
      rw [hsingle, splitGap_append (colon_not_mem_hexDigits p)]
      refine ⟨by simp [splitGap], ?_⟩
      have hnone : splitGap (hexDigits p ++ []) = _ := splitGap_append (colon_not_mem_hexDigits p)
      rw [List.append_nil] at hnone
      rw [hnone]
      rfl
    | cons q ps =>
      have hcons : writePieces (p :: q :: ps) = hexDigits p ++ (':' :: writePieces (q :: ps)) := by
        simp [writePieces, List.intercalate_cons_cons]
      have hhead := head?_writePieces (q :: ps) (by simp)
      rw [hcons, List.append_assoc, List.cons_append,
        splitGap_append (colon_not_mem_hexDigits p),
        splitGap_append (colon_not_mem_hexDigits p), splitGap_colon (hhead _), ih.1,
        splitGap_colon (by simpa using hhead []), ih.2]
      exact ⟨rfl, rfl⟩

theorem takeWhile_zero (ps : List Nat) :
    ps.takeWhile (· == 0) = List.replicate (zeros ps) 0 := by
  rw [zeros]
  refine List.eq_replicate_iff.2 ⟨rfl, fun b hb => ?_⟩
  have := List.all_takeWhile (p := (· == 0)) (l := ps)
  simpa using List.all_eq_true.1 this b hb

/-- The longest run of zero pieces lies inside the address and is made of zeros. -/
theorem longestZeros_spec (ps : List Nat) :
    (longestZeros ps).1 + (longestZeros ps).2 ≤ ps.length ∧
      ps.take (longestZeros ps).1 ++ List.replicate (longestZeros ps).2 0 ++
        ps.drop ((longestZeros ps).1 + (longestZeros ps).2) = ps := by
  induction ps with
  | nil => simp [longestZeros]
  | cons p ps ih =>
    rw [longestZeros]
    dsimp only
    split
    · -- the run at the front wins: the text before it is empty
      have happend := List.takeWhile_append_dropWhile (p := (· == 0)) (l := p :: ps)
      have hlen := congrArg List.length happend
      rw [List.length_append] at hlen
      have hdrop : (p :: ps).drop (zeros (p :: ps)) = (p :: ps).dropWhile (· == 0) := by
        have hleft : ((p :: ps).takeWhile (· == 0) ++ (p :: ps).dropWhile (· == 0)).drop
            ((p :: ps).takeWhile (· == 0)).length = (p :: ps).dropWhile (· == 0) := List.drop_left
        rwa [happend] at hleft
      refine ⟨by rw [zeros]; omega, ?_⟩
      rw [List.take_zero, List.nil_append, Nat.zero_add, hdrop, ← takeWhile_zero, happend]
    · -- the run found further on is one place later
      refine ⟨by rw [List.length_cons]; omega, ?_⟩
      rw [List.take_succ_cons, Nat.add_right_comm, List.drop_succ_cons, List.cons_append,
        List.cons_append, ih.2]

theorem read_write {ps : List Nat} (h : WellFormed ps) : read (write ps) = .ok ps := by
  obtain ⟨hlen, hps⟩ := h
  obtain ⟨hle, hspec⟩ := longestZeros_spec ps
  rw [write]
  dsimp only
  split
  · rename_i hgap
    have hfront : ∀ p ∈ ps.take (longestZeros ps).1, p < 65536 := fun p hp =>
      hps p (List.mem_of_mem_take hp)
    have hback : ∀ p ∈ ps.drop ((longestZeros ps).1 + (longestZeros ps).2), p < 65536 :=
      fun p hp => hps p (List.mem_of_mem_drop hp)
    rw [read, List.append_assoc, List.cons_append, List.cons_append, List.nil_append,
      (splitGap_writePieces _ _).1]
    simp only [parts_writePieces, pieces_hexDigits _ hfront, pieces_hexDigits _ hback,
      List.length_take, List.length_drop, hlen]
    rw [if_pos (by omega)]
    have hcount : 8 - min (longestZeros ps).1 8 -
        (8 - ((longestZeros ps).1 + (longestZeros ps).2)) = (longestZeros ps).2 := by omega
    rw [hcount, hspec]
  · rw [read, (splitGap_writePieces ps []).2]
    simp only [parts_writePieces, pieces_hexDigits _ hps, hlen]
    rfl

/-! ## What was read -/

theorem lt_of_piece {ds : List Char} {p : Nat} (h : piece ds = some p) : p < 65536 := by
  rw [piece] at h
  split at h
  · rename_i hds
    cases h
    obtain ⟨-, hlen, hall⟩ := hds
    have hdigits : ∀ d ∈ ds, digitValue d < 16 := fun d hd =>
      of_decide_eq_true (List.all_eq_true.1 hall d hd)
    have hbound := foldl_digits_lt hdigits 0
    rw [Nat.zero_add, Nat.one_mul] at hbound
    calc ofDigits 16 ds < Nat.pow 16 ds.length := hbound
      _ ≤ Nat.pow 16 4 := Nat.pow_le_pow_right (by decide) hlen
  · cases h

theorem lt_of_embeddedIpv4 {text : List Char} {ps : List Nat} (h : embeddedIpv4 text = some ps) :
    ∀ p ∈ ps, p < 65536 := by
  have hbyte : ∀ {ds : List Char} {n : Nat}, byte ds = some n → n ≤ 255 := by
    intro ds n hn
    rw [byte] at hn
    split at hn
    · rename_i hds
      cases hn
      exact hds.2.2.2.2
    · cases hn
  rw [embeddedIpv4] at h
  split at h
  · rename_i a b c d hparts
    cases h
    -- two bytes make a piece
    have hall : ∀ n ∈ [a, b, c, d], n ≤ 255 := fun n hn => by
      obtain ⟨part, -, hpart⟩ := exists_of_mapM_some hparts hn
      exact hbyte hpart
    have ha := hall a (by simp)
    have hb := hall b (by simp)
    have hc := hall c (by simp)
    have hd := hall d (by simp)
    intro p hp
    simp only [List.mem_cons, List.not_mem_nil, or_false] at hp
    rcases hp with rfl | rfl <;> omega
  · cases h

theorem lt_of_pieces {allowIpv4 : Bool} {texts : List (List Char)} {ps : List Nat}
    (h : pieces allowIpv4 texts = some ps) : ∀ p ∈ ps, p < 65536 := by
  induction texts generalizing ps with
  | nil =>
    cases h
    simp
  | cons text texts ih =>
    cases texts with
    | nil =>
      rw [pieces] at h
      split at h
      · exact lt_of_embeddedIpv4 h
      · rw [Option.map_eq_some_iff] at h
        obtain ⟨p, hp, rfl⟩ := h
        simpa using lt_of_piece hp
    | cons next texts =>
      rw [pieces] at h
      · simp only [Option.bind_eq_bind, Option.bind_eq_some_iff] at h
        obtain ⟨p, hp, qs, hqs, h⟩ := h
        cases h
        intro q hq
        rcases List.mem_cons.1 hq with rfl | hq
        · exact lt_of_piece hp
        · exact ih hqs q hq
      · simp

/-- An address that was read is well formed. -/
theorem wellFormed_of_read {text : List Char} {ps : List Nat} (h : read text = .ok ps) :
    WellFormed ps := by
  rw [read] at h
  split at h
  · split at h
    · rename_i qs hqs
      split at h
      · rename_i hlen
        cases h
        exact ⟨hlen, lt_of_pieces hqs⟩
      · cases h
    · cases h
  · split at h
    · rename_i qs rs hqs hrs
      split at h
      · rename_i hlen
        cases h
        refine ⟨by simp; omega, fun p hp => ?_⟩
        rcases List.mem_append.1 hp with hp | hp
        · rcases List.mem_append.1 hp with hp | hp
          · exact lt_of_pieces hqs p hp
          · rw [(List.mem_replicate.1 hp).2]
            decide
        · exact lt_of_pieces hrs p hp
      · cases h
    · cases h

end CredentialStore.Url.Ipv6
