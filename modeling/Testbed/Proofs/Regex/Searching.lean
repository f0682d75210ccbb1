import Testbed.Proofs.Regex.Matching

/-!
# What a search finds

**Theorem (`captures_isSome_iff`).** An expression is found in a text if and only if its pattern
matches the text between two of its places.

A search follows threads from every place of the text and never tries a pair of instruction and
place twice. What it finds is the end of a way from one of these places. When it finds nothing, the
pairs that were tried are closed under going on, and none of them is an end (`exists_closed`). The
steps suffice: each one drops a thread or leaves one more pair tried, and a pair leads to two others
at most.
-/

namespace Testbed.Regex

variable {code : Array Inst} {text : Array Char} {t u : Thread} {ts : List Thread}
  {tried : Array Bool} {inst : Inst} {fuel n i j k : Nat} {spot : Nat × Nat}

theorem length_follow_le (text : Array Char) (t : Thread) (inst : Inst) :
    (t.follow text inst).length ≤ 2 := by
  cases inst <;> grind [Thread.follow]

theorem place_le_of_mem_follow (ht : t.place ≤ text.size) (hu : u ∈ t.follow text inst) :
    u.place ≤ text.size := by
  cases inst <;> grind [Thread.follow, Thread.goTo]

/-- Where an instruction leads a spot. -/
def Leads (code : Array Inst) (text : Array Char) (a b : Nat × Nat) : Prop :=
  ∃ inst, code[a.1]? = some inst ∧ b ∈ inst.ways text a

/-! ## What is found -/

/-- A thread that is found is the end of a way. -/
theorem exists_ends_of_explore (h : explore code text fuel ts tried = some u) :
    ∃ t ∈ ts, ∃ n j, Ends code.toList text n t.spot j := by
  induction fuel generalizing ts tried with
  | zero => simp [explore] at h
  | succ fuel ih =>
    cases ts with
    | nil => simp [explore] at h
    | cons t rest =>
      rw [explore] at h
      cases hcode : code[t.next]? with
      | none =>
        refine ⟨t, List.mem_cons_self, 0, t.place, .here ?_⟩
        rwa [Array.getElem?_toList]
      | some inst =>
        simp only [hcode] at h
        split at h
        · obtain ⟨u, hu, ends⟩ := ih h
          exact ⟨u, List.mem_cons_of_mem t hu, ends⟩
        · obtain ⟨u, hu, n, j, ends⟩ := ih h
          obtain hu | hu := List.mem_append.mp hu
          · rw [← Array.getElem?_toList] at hcode
            have hways : u.spot ∈ inst.ways text t.spot := by
              rw [← t.map_spot_follow]
              exact List.mem_map_of_mem hu
            exact ⟨t, List.mem_cons_self, n + 1, j, .step hcode hways ends⟩
          · exact ⟨u, List.mem_cons_of_mem t hu, n, j, ends⟩

/-! ## What is tried -/

/-- Whether a pair of instruction and place was tried. -/
def Tried (code : Array Inst) (text : Array Char) (tried : Array Bool) (a : Nat × Nat) : Prop :=
  a.1 < code.size ∧ a.2 ≤ text.size ∧ tried.getD (a.1 * (text.size + 1) + a.2) true = true

theorem pair_injective {a b : Nat × Nat} {size : Nat} (ha : a.2 ≤ size) (hb : b.2 ≤ size)
    (h : a.1 * (size + 1) + a.2 = b.1 * (size + 1) + b.2) : a = b := by
  have hdiv (c : Nat × Nat) (hc : c.2 ≤ size) : (c.1 * (size + 1) + c.2) / (size + 1) = c.1 := by
    rw [Nat.mul_comm, Nat.mul_add_div (Nat.succ_pos size), Nat.div_eq_of_lt (Nat.lt_succ_of_le hc)]
    rfl
  have h1 : a.1 = b.1 := by rw [← hdiv a ha, h, hdiv b hb]
  rw [h1] at h
  exact Prod.ext h1 (Nat.add_left_cancel h)

theorem getD_set_iff (tried : Array Bool) (p q : Nat) :
    (tried.setIfInBounds p true).getD q true = true ↔ q = p ∨ tried.getD q true = true := by
  rw [Array.getD_eq_getD_getElem?, Array.getD_eq_getD_getElem?, Array.getElem?_setIfInBounds]
  by_cases hqp : q = p
  · subst hqp
    simp only [if_true, true_or, iff_true]
    split <;> rfl
  · simp [Ne.symm hqp, hqp]

theorem not_tried_fresh (a : Nat × Nat) :
    ¬ Tried code text (Array.replicate (code.size * (text.size + 1)) false) a := by
  rintro ⟨ha, ha', htried⟩
  have hpair : a.1 * (text.size + 1) + a.2 < code.size * (text.size + 1) := calc
    a.1 * (text.size + 1) + a.2 < (a.1 + 1) * (text.size + 1) := by rw [Nat.succ_mul]; omega
    _ ≤ code.size * (text.size + 1) := Nat.mul_le_mul_right _ ha
  simp [Array.getD, hpair] at htried

theorem tried_set_iff {a b : Nat × Nat} (ha : a.1 < code.size) (ha' : a.2 ≤ text.size) :
    Tried code text (tried.setIfInBounds (a.1 * (text.size + 1) + a.2) true) b ↔
      b = a ∨ Tried code text tried b := by
  unfold Tried
  rw [getD_set_iff]
  constructor
  · rintro ⟨hb, hb', hba | htried⟩
    · exact .inl (pair_injective hb' ha' hba)
    · exact .inr ⟨hb, hb', htried⟩
  · rintro (rfl | ⟨hb, hb', htried⟩)
    · exact ⟨ha, ha', .inl rfl⟩
    · exact ⟨hb, hb', .inr htried⟩

theorem count_false_set {p : Nat} (h : tried.getD p true = false) :
    (tried.setIfInBounds p true).count false + 1 = tried.count false := by
  have hp : p < tried.size := Decidable.byContradiction fun hp => by simp [Array.getD, hp] at h
  have hfalse : tried[p] = false := by simpa [Array.getD, hp] using h
  have hpos : 0 < tried.count false := Array.count_pos_iff.mpr (hfalse ▸ Array.getElem_mem hp)
  rw [Array.setIfInBounds, dif_pos hp, Array.count_set hp, hfalse]
  simp only [beq_self_eq_true, if_true, Bool.true_beq, Bool.false_eq_true, if_false]
  omega

/-- Whether a pair was tried or waits for it. -/
def Known (code : Array Inst) (text : Array Char) (tried : Array Bool) (ts : List Thread)
    (a : Nat × Nat) : Prop :=
  Tried code text tried a ∨ ∃ t ∈ ts, t.spot = a

/-- Whether what was tried leads only to what is known. -/
def Closed (code : Array Inst) (text : Array Char) (tried : Array Bool) (ts : List Thread) : Prop :=
  ∀ a b, Tried code text tried a → Leads code text a b → Known code text tried ts b

/-- A thread whose pair was tried can be dropped. -/
theorem Known.drop (ht : Tried code text tried t.spot) (h : Known code text tried (t :: ts) spot) :
    Known code text tried ts spot := by
  obtain h | ⟨u, hu, rfl⟩ := h
  · exact .inl h
  · obtain rfl | hu := List.mem_cons.mp hu
    · exact .inl ht
    · exact .inr ⟨u, hu, rfl⟩

/-- A thread that is tried gives way to those that it leads to. -/
theorem Known.follow (hnext : t.next < code.size) (hplace : t.place ≤ text.size)
    (h : Known code text tried (t :: ts) spot) (us : List Thread) :
    Known code text (tried.setIfInBounds (t.next * (text.size + 1) + t.place) true) (us ++ ts)
      spot := by
  have hiff : Tried code text _ spot ↔ spot = t.spot ∨ Tried code text tried spot :=
    tried_set_iff hnext hplace
  obtain h | ⟨u, hu, rfl⟩ := h
  · exact .inl (hiff.mpr (.inr h))
  · obtain rfl | hu := List.mem_cons.mp hu
    · exact .inl (hiff.mpr (.inl rfl))
    · exact .inr ⟨u, List.mem_append_right us hu, rfl⟩

theorem Closed.follow (hcode : code[t.next]? = some inst) (hplace : t.place ≤ text.size)
    (h : Closed code text tried (t :: ts)) :
    Closed code text (tried.setIfInBounds (t.next * (text.size + 1) + t.place) true)
      (t.follow text inst ++ ts) := by
  intro a b ha hab
  have hnext : t.next < code.size := (Array.getElem?_eq_some_iff.mp hcode).1
  obtain rfl | ha := (tried_set_iff (a := t.spot) hnext hplace).mp ha
  · obtain ⟨inst', hinst', hb⟩ := hab
    obtain rfl : inst' = inst := Option.some.inj (hinst'.symm.trans hcode)
    rw [← t.map_spot_follow] at hb
    obtain ⟨u, hu, rfl⟩ := List.mem_map.mp hb
    exact .inr ⟨u, List.mem_append_left ts hu, rfl⟩
  · exact (h a b ha hab).follow hnext hplace _

/-- **Nothing is missed.** When nothing is found, all that was known lies among pairs that are
tried in the end, and lead only to each other. -/
theorem exists_closed (h : explore code text fuel ts tried = none)
    (hfuel : 2 * tried.count false + ts.length < fuel) (hts : ∀ t ∈ ts, t.place ≤ text.size)
    (hclosed : Closed code text tried ts) :
    ∃ all, (∀ a, Known code text tried ts a → Tried code text all a) ∧ Closed code text all [] := by
  induction fuel generalizing ts tried with
  | zero => omega
  | succ fuel ih =>
    cases ts with
    | nil => exact ⟨tried, by simp [Known], hclosed⟩
    | cons t rest =>
      rw [List.forall_mem_cons] at hts
      rw [List.length_cons] at hfuel
      rw [explore] at h
      cases hcode : code[t.next]? with
      | none => simp [hcode] at h
      | some inst =>
        have hnext : t.next < code.size := (Array.getElem?_eq_some_iff.mp hcode).1
        simp only [hcode] at h
        split at h
        -- A pair that was tried before can be dropped. Another one is tried now, and where it leads
        -- is known from here on.
        · rename_i htried
          have ht : Tried code text tried t.spot := ⟨hnext, hts.1, htried⟩
          obtain ⟨all, hall, hgo⟩ := ih h (by omega) hts.2 fun a b ha hab =>
            (hclosed a b ha hab).drop ht
          exact ⟨all, fun a ha => hall a (ha.drop ht), hgo⟩
        · rename_i hnew
          have hcount := count_false_set (Bool.not_eq_true _ ▸ hnew)
          have hlength := length_follow_le text t inst
          obtain ⟨all, hall, hgo⟩ := ih h (by rw [List.length_append]; omega)
            (List.forall_mem_append.mpr ⟨fun u => place_le_of_mem_follow hts.1, hts.2⟩)
            (hclosed.follow hcode hts.1)
          exact ⟨all, fun a ha => hall a (ha.follow hnext hts.1 _), hgo⟩

/-- No way from a pair of a closed set comes to an end. -/
theorem Closed.not_tried {all : Array Bool} (h : Closed code text all [])
    (ends : Ends code.toList text n spot j) : ¬ Tried code text all spot := by
  induction ends with
  | here hnone =>
    intro htried
    rw [Array.getElem?_toList, Array.getElem?_eq_none_iff] at hnone
    exact Nat.not_le_of_lt htried.1 hnone
  | step hinst hnext _ ih =>
    intro htried
    rw [Array.getElem?_toList] at hinst
    obtain hknown | ⟨t, ht, -⟩ := h _ _ htried ⟨_, hinst, hnext⟩
    · exact ih hknown
    · cases ht

/-! ## Searches -/

/-- **What a search finds** is the end of a way from one of the places of the text. -/
theorem search_isSome_iff (code : Array Inst) (slots : Nat) (text : Array Char) :
    (search code slots text).isSome ↔
      ∃ i, i ≤ text.size ∧ ∃ n j, Ends code.toList text n (0, i) j := by
  have hspots (a : Nat × Nat) : (∃ t ∈ (List.range (text.size + 1)).map fun place =>
      (⟨0, place, Array.replicate slots none⟩ : Thread), t.spot = a) ↔
        ∃ i, i ≤ text.size ∧ (0, i) = a := by
    simp only [List.mem_map, List.mem_range, Nat.lt_succ_iff]
    constructor
    · rintro ⟨_, ⟨i, hi, rfl⟩, rfl⟩
      exact ⟨i, hi, rfl⟩
    · rintro ⟨i, hi, rfl⟩
      exact ⟨_, ⟨i, hi, rfl⟩, rfl⟩
  constructor
  · intro h
    obtain ⟨u, hu⟩ := Option.isSome_iff_exists.mp h
    obtain ⟨t, ht, n, j, ends⟩ := exists_ends_of_explore hu
    obtain ⟨i, hi, hspot⟩ := (hspots t.spot).mp ⟨t, ht, rfl⟩
    exact ⟨i, hi, n, j, hspot ▸ ends⟩
  · rintro ⟨i, hi, n, j, ends⟩
    rw [← Option.ne_none_iff_isSome]
    intro h
    have hplaces : ∀ t ∈ (List.range (text.size + 1)).map fun place =>
        (⟨0, place, Array.replicate slots none⟩ : Thread), t.place ≤ text.size := by
      intro t ht
      obtain ⟨place, hplace, rfl⟩ := List.mem_map.mp ht
      exact Nat.le_of_lt_succ (List.mem_range.mp hplace)
    obtain ⟨all, hall, hgo⟩ := exists_closed h (by simp) hplaces
      fun a b ha => absurd ha (not_tried_fresh a)
    exact hgo.not_tried ends (hall _ (.inr ((hspots _).mpr ⟨i, hi, rfl⟩)))

/-- **What an expression is found in.** -/
theorem captures_isSome_iff (node : Node) (text : String) :
    ((ofNode node).captures text).isSome ↔
      ∃ i j, i ≤ text.length ∧ node.Matches text.toList.toArray i j := by
  simp only [captures, ofNode, Option.isSome_map, search_isSome_iff]
  constructor
  · rintro ⟨i, hi, n, j, ends⟩
    exact ⟨i, j, hi, (ends_iff_matches _ node i j).mp ⟨n, ends⟩⟩
  · rintro ⟨i, j, hi, hmatches⟩
    exact ⟨i, hi, exists_comm.mp ⟨j, (ends_iff_matches _ node i j).mpr hmatches⟩⟩

end Testbed.Regex
