/-!
# Lists item by item

What is found of each item of a list and so of the whole list: a check over all items, a run over
them that raises nothing, reading each item back from what was made of it, and the bound on a number
whose digits are bounded.
-/

namespace CredentialStore

variable {α β : Type}

/-- What is computed for all items holds of each. Stated with a Boolean check: deciding a bounded
statement may go over all values of a finite type instead of over the list. -/
theorem forall_mem_of_all {p : α → Prop} [DecidablePred p] {l : List α}
    (h : (l.all fun a => decide (p a)) = true) {a : α} (ha : a ∈ l) : p a :=
  of_decide_eq_true (List.all_eq_true.1 h a ha)

/-- Items that are each read back from what they were written as are all read back. -/
theorem mapM_map_of_forall {g : α → β} {f : β → Option α} {l : List α}
    (h : ∀ a ∈ l, f (g a) = some a) : (l.map g).mapM f = some l := by
  induction l with
  | nil => rfl
  | cons a l ih =>
    rw [List.map_cons, List.mapM_cons, h a List.mem_cons_self,
      ih fun b hb => h b (List.mem_cons_of_mem a hb)]
    rfl

/-- Items that are all read are read from items. -/
theorem exists_of_mapM_some {f : α → Option β} {l : List α} {bs : List β}
    (h : l.mapM f = some bs) {b : β} (hb : b ∈ bs) : ∃ a ∈ l, f a = some b := by
  induction l generalizing bs with
  | nil =>
    cases h
    cases hb
  | cons a l ih =>
    rw [List.mapM_cons] at h
    simp only [Option.bind_eq_bind, Option.bind_eq_some_iff] at h
    obtain ⟨c, hc, cs, hcs, h⟩ := h
    cases h
    rcases List.mem_cons.1 hb with rfl | hb
    · exact ⟨a, List.mem_cons_self, hc⟩
    · obtain ⟨a', ha', hsome⟩ := ih hcs hb
      exact ⟨a', List.mem_cons_of_mem a ha', hsome⟩

/-- What is made of a list of items is made of the items. -/
theorem exists_of_mapM_ok {ε : Type} {f : α → Except ε β} {l : List α} {bs : List β}
    (h : l.mapM f = .ok bs) {b : β} (hb : b ∈ bs) : ∃ a ∈ l, f a = .ok b := by
  induction l generalizing bs with
  | nil =>
    cases h
    cases hb
  | cons a l ih =>
    rw [List.mapM_cons] at h
    cases hfirst : f a with
    | error e =>
      rw [hfirst] at h
      cases h
    | ok c =>
      rw [hfirst] at h
      cases hrest : l.mapM f with
      | error e =>
        rw [hrest] at h
        cases h
      | ok cs =>
        rw [hrest] at h
        cases h
        rcases List.mem_cons.1 hb with rfl | hb
        · exact ⟨a, List.mem_cons_self, hfirst⟩
        · obtain ⟨a', ha', hok⟩ := ih hrest hb
          exact ⟨a', List.mem_cons_of_mem a ha', hok⟩

/-- Something is made of every item of such a list. -/
theorem exists_mem_of_mapM_ok {ε : Type} {f : α → Except ε β} {l : List α} {bs : List β}
    (h : l.mapM f = .ok bs) {a : α} (ha : a ∈ l) : ∃ b ∈ bs, f a = .ok b := by
  induction l generalizing bs with
  | nil => cases ha
  | cons x l ih =>
    rw [List.mapM_cons] at h
    cases hfirst : f x with
    | error e =>
      rw [hfirst] at h
      cases h
    | ok c =>
      rw [hfirst] at h
      cases hrest : l.mapM f with
      | error e =>
        rw [hrest] at h
        cases h
      | ok cs =>
        rw [hrest] at h
        cases h
        rcases List.mem_cons.1 ha with rfl | ha
        · exact ⟨c, List.mem_cons_self, hfirst⟩
        · obtain ⟨b, hb, hok⟩ := ih hrest ha
          exact ⟨b, List.mem_cons_of_mem c hb, hok⟩

/-- What fails over a list of items fails at one of them. -/
theorem exists_of_mapM_error {ε : Type} {f : α → Except ε β} {l : List α} {e : ε}
    (h : l.mapM f = .error e) : ∃ a ∈ l, f a = .error e := by
  induction l with
  | nil => cases h
  | cons a l ih =>
    rw [List.mapM_cons] at h
    cases hfirst : f a with
    | error e' =>
      rw [hfirst] at h
      cases h
      exact ⟨a, List.mem_cons_self, hfirst⟩
    | ok b =>
      rw [hfirst] at h
      cases hrest : l.mapM f with
      | error e' =>
        rw [hrest] at h
        cases h
        obtain ⟨a', ha', herror⟩ := ih hrest
        exact ⟨a', List.mem_cons_of_mem a ha', herror⟩
      | ok bs =>
        rw [hrest] at h
        cases h

/-- A run over items none of which raises an error raises none. -/
theorem forM_of_forall {ε : Type} {f : α → Except ε Unit} {l : List α}
    (h : ∀ a ∈ l, f a = .ok ()) : l.forM f = .ok () := by
  induction l with
  | nil => rfl
  | cons a l ih =>
    show (f a >>= fun _ => l.forM f) = _
    rw [h a List.mem_cons_self]
    exact ih fun b hb => h b (List.mem_cons_of_mem a hb)

/-- A run over items that raises no error raises none for any of them. -/
theorem forall_of_forM {ε : Type} {f : α → Except ε Unit} {l : List α} (h : l.forM f = .ok ())
    {a : α} (ha : a ∈ l) : f a = .ok () := by
  induction l with
  | nil => cases ha
  | cons b l ih =>
    have hcons : (f b >>= fun _ => l.forM f) = .ok () := h
    cases hfirst : f b with
    | error e =>
      rw [hfirst] at hcons
      cases hcons
    | ok u =>
      rw [hfirst] at hcons
      rcases List.mem_cons.1 ha with rfl | ha
      · exact hfirst
      · exact ih hcons ha

/-- So does a run over them. -/
theorem exists_of_forM_error {ε : Type} {f : α → Except ε Unit} {l : List α} {e : ε}
    (h : l.forM f = .error e) : ∃ a ∈ l, f a = .error e := by
  induction l with
  | nil => cases h
  | cons b l ih =>
    have hcons : (f b >>= fun _ => l.forM f) = .error e := h
    cases hfirst : f b with
    | error e' =>
      rw [hfirst] at hcons
      cases hcons
      exact ⟨b, List.mem_cons_self, hfirst⟩
    | ok u =>
      rw [hfirst] at hcons
      obtain ⟨a, ha, herror⟩ := ih hcons
      exact ⟨a, List.mem_cons_of_mem b ha, herror⟩

/-- A number stays below the power of the base that its digits fill, counted from what stands in
front of them. -/
theorem foldl_digits_lt {base : Nat} {f : α → Nat} {l : List α} (h : ∀ a ∈ l, f a < base)
    (acc : Nat) :
    l.foldl (fun acc a => acc * base + f a) acc < (acc + 1) * Nat.pow base l.length := by
  induction l generalizing acc with
  | nil =>
    rw [List.foldl_nil, List.length_nil, Nat.pow_eq, Nat.pow_zero, Nat.mul_one]
    exact Nat.lt_succ_self acc
  | cons a l ih =>
    have ha : acc * base + f a + 1 ≤ (acc + 1) * base := by
      have := h a List.mem_cons_self
      rw [Nat.add_mul]
      omega
    calc (a :: l).foldl (fun acc a => acc * base + f a) acc
        < (acc * base + f a + 1) * Nat.pow base l.length :=
          ih (fun b hb => h b (List.mem_cons_of_mem a hb)) _
      _ ≤ (acc + 1) * base * Nat.pow base l.length := Nat.mul_le_mul_right _ ha
      _ = (acc + 1) * Nat.pow base (a :: l).length := by
          rw [Nat.mul_assoc, Nat.mul_comm base]
          rfl

end CredentialStore
