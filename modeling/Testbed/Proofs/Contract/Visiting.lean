import Mathlib.Data.Prod.Lex
import Testbed.Proofs.Contract.Coverage

/-!
# How a check goes through the pairs

A check visits the pairs of factories one after the other and stops at the first that fails. Its
whole course is known from the lists of instances that the factories are made of.

**Theorem (`check_visits_in_order`).** The pairs are visited in lexicographic order, each once. As
long as no pair has failed, the next pair is visited, and the two instances that are compared for it
are drawn, the first before the second. If they fail to meet what is asked of them, the check ends
there with their violation and draws nothing more. If all meet it, the check passes, and each
factory was called twice for every factory there is.

Up to any pair the check is a check of the pairs before it, which leaves the calls before that pair
behind (`checkPairs_before`).
-/

namespace Testbed.Contract

variable {α : Type} {m : Behaviour α} {fs fs' : List (Factory α)} {lists : List (List α)}
  {before behind : List (Nat × Nat)} {n i j : Nat} {a b : α}

/-! ## The order of the pairs -/

theorem mem_pairs {p : Nat × Nat} : p ∈ pairs n ↔ p.1 < n ∧ p.2 < n := by
  rcases p with ⟨i, j⟩
  simp [pairs]

/-- The pairs are in lexicographic order, and so none is there twice. -/
theorem pairwise_pairs (n : Nat) : (pairs n).Pairwise (Prod.Lex (· < ·) (· < ·)) := by
  have hrange : (List.range n).Pairwise (· < ·) := List.pairwise_lt_range
  refine List.pairwise_flatMap.mpr ⟨?_, ?_⟩
  · intro i _
    rw [List.pairwise_map]
    exact hrange.imp (Prod.Lex.right i)
  · refine hrange.imp fun {i i'} hlt => ?_
    rintro p hp q hq
    obtain ⟨j, -, rfl⟩ := List.mem_map.mp hp
    obtain ⟨j', -, rfl⟩ := List.mem_map.mp hq
    exact Prod.Lex.left j j' hlt

theorem before_eq (h : pairs n = before ++ (i, j) :: behind) :
    before.length < n * n ∧ place n before.length = (i, j) ∧
      before = (List.range before.length).map (place n) := by
  have hlength : before.length < (pairs n).length := by simp [h]
  have hget : (pairs n)[before.length]? = some (i, j) := by simp [h]
  have htake : (pairs n).take before.length = before := by simp [h]
  rw [pairs_eq, List.length_map, List.length_range] at hlength
  rw [pairs_eq, List.getElem?_map, List.getElem?_range hlength] at hget
  rw [pairs_eq, ← List.map_take, List.take_range, Nat.min_eq_left (Nat.le_of_lt hlength)] at htake
  exact ⟨hlength, Option.some.inj hget, htake.symm⟩

/-! ## The check up to a pair -/

theorem checkPairs_append (h : checkPairs m fs before = (.ok (), fs')) :
    checkPairs m fs (before ++ behind) = checkPairs m fs' behind := by
  induction before generalizing fs with
  | nil =>
    cases h
    rfl
  | cons p before ih =>
    rcases hp : checkPair m fs p.1 p.2 with ⟨v | u, fs₁⟩ <;>
      simp only [List.cons_append, checkPairs, hp] at h ⊢
    · cases h
    · exact ih h

theorem checkPairs_before (h : pairs fs.length = before ++ (i, j) :: behind)
    (hpass : ∀ p ∈ before, verdict m fs p.1 p.2 = .ok ()) :
    checkPairs m fs before = (.ok (), called fs (callsBefore fs.length i j)) := by
  obtain ⟨hlt, hplace, hbefore⟩ := before_eq h
  have hrun := checkPairs_called m fs before.length 0 (by omega)
  have hnone : (List.range' 0 before.length).find? (fun u => !(verdictAt m fs u).toBool) = none := by
    refine List.find?_eq_none.mpr fun u hu => ?_
    have hmem : place fs.length u ∈ before := by
      rw [hbefore]
      exact List.mem_map_of_mem (List.range_eq_range' ▸ hu)
    have hok : verdictAt m fs u = .ok () := hpass _ hmem
    simp [hok, Except.toBool]
  rw [hnone, called_callsAt_zero, ← List.range_eq_range', ← hbefore, Nat.zero_add] at hrun
  obtain ⟨rfl, rfl⟩ := Prod.mk.inj hplace
  exact hrun

/-! ## The course of a check -/

/-- The test of two instances of the lists at two places. -/
def test (m : Behaviour α) (i j : Nat) (a b : α) : Except (Violation α) Unit :=
  if i = j then checkAlike m a b else checkApart m a b

/-- Whether the two instances that are compared for a pair meet what is asked of them. -/
def Passes (m : Behaviour α) (lists : List (List α)) (p : Nat × Nat) : Prop :=
  ∀ a b, compared? lists p.1 p.2 = some (a, b) → Meets m p.1 p.2 a b

theorem exists_violation (h : ¬Meets m i j a b) : ∃ v, test m i j a b = .error v := by
  have hnot : test m i j a b ≠ .ok () := by
    intro hok
    apply h
    unfold test at hok
    unfold Meets
    split_ifs at hok ⊢
    · exact checkAlike_ok_iff.mp hok
    · exact checkApart_ok_iff.mp hok
  cases htest : test m i j a b with
  | error v => exact ⟨v, rfl⟩
  | ok u => exact absurd htest hnot

theorem checkPairs_cons_of_error {v : Violation α} {mid : List (Factory α)}
    (ha : draw fs i = some (a, mid)) (hb : draw mid j = some (b, fs'))
    (h : test m i j a b = .error v) :
    checkPairs m fs ((i, j) :: behind) = (.error v, fs') := by
  rw [test] at h
  simp only [checkPairs, checkPair, ha, hb, h]

/-- **A check goes through the pairs in order.** Take any lists of instances, none of them empty, and
a factory for each.

1. The pairs are those of the places of the lists, in lexicographic order.
2. If all pairs before one pass, the check of them comes to that pair. It draws from the list of its
   row and then from that of its column the two instances that are compared for the pair.
3. If these do not meet what is asked of them, the check ends with their violation, and the
   factories are as the two draws leave them.
4. The check passes exactly if all pairs pass.
5. If it passes, each factory was called twice for every list. -/
theorem check_visits_in_order (m : Behaviour α) (lists : List (List α))
    (hne : ∀ l ∈ lists, l ≠ []) :
    ∃ fs, lists.mapM Factory.ofInstances = .ok fs ∧
      (∀ p, p ∈ pairs lists.length ↔ p.1 < lists.length ∧ p.2 < lists.length) ∧
      (pairs lists.length).Pairwise (Prod.Lex (· < ·) (· < ·)) ∧
      (∀ before i j behind, pairs lists.length = before ++ (i, j) :: behind →
        (∀ p ∈ before, Passes m lists p) →
        ∃ reached drawn left a b, checkPairs m fs before = (.ok (), reached) ∧
          draw reached i = some (a, drawn) ∧ draw drawn j = some (b, left) ∧
          compared? lists i j = some (a, b) ∧
          (¬Meets m i j a b →
            ∃ v, test m i j a b = .error v ∧ checkEquality m fs = (.error v, left))) ∧
      ((checkEquality m fs).1 = .ok () ↔ ∀ p ∈ pairs lists.length, Passes m lists p) ∧
      ((checkEquality m fs).1 = .ok () →
        (checkEquality m fs).2.map Factory.calls =
          List.replicate lists.length (2 * lists.length)) := by
  obtain ⟨fs, hfs, hmap, hcalls⟩ := exists_factories hne
  have hlength : lists.length = fs.length := by rw [← hmap, List.length_map]
  have hpasses {p : Nat × Nat} (hi : p.1 < fs.length) (hj : p.2 < fs.length) :
      verdict m fs p.1 p.2 = .ok () ↔ Passes m lists p := by
    obtain ⟨a, b, -, ha, hb, -⟩ := draw_pair hi hj
    have hab := compared?_of_drawn hmap hcalls ha hb
    rw [verdict_ok_iff ha hb]
    constructor
    · intro h a' b' hab'
      obtain ⟨rfl, rfl⟩ := Prod.mk.inj (Option.some.inj (hab.symm.trans hab'))
      exact h
    · intro h
      exact h a b hab
  refine ⟨fs, hfs, fun p => mem_pairs, pairwise_pairs _, ?_, ?_, ?_⟩
  · intro before i j behind hpairs hbefore
    rw [hlength] at hpairs
    have hmem (p : Nat × Nat) (hp : p ∈ before ++ (i, j) :: behind) :
        p.1 < fs.length ∧ p.2 < fs.length := by
      rw [← hpairs] at hp
      exact mem_pairs.mp hp
    obtain ⟨hi, hj⟩ := hmem (i, j) (by simp)
    have hrun := checkPairs_before hpairs fun p hp => by
      obtain ⟨hpi, hpj⟩ := hmem p (List.mem_append_left _ hp)
      exact (hpasses hpi hpj).mpr (hbefore p hp)
    obtain ⟨a, b, drawn, ha, hb, hdraw, hdraw'⟩ := draw_pair hi hj
    refine ⟨_, drawn, _, a, b, hrun, hdraw, hdraw', compared?_of_drawn hmap hcalls ha hb, ?_⟩
    intro hfails
    obtain ⟨v, hv⟩ := exists_violation hfails
    refine ⟨v, hv, ?_⟩
    rw [checkEquality, hpairs, checkPairs_append hrun]
    exact checkPairs_cons_of_error hdraw hdraw' hv
  · rw [checkEquality_ok_iff, hlength]
    constructor
    · intro h p hp
      obtain ⟨hi, hj⟩ := mem_pairs.mp hp
      exact (hpasses hi hj).mp (h p.1 hi p.2 hj)
    · intro h i hi j hj
      exact (hpasses hi hj).mpr (h (i, j) (mem_pairs.mpr ⟨hi, hj⟩))
  · intro hok
    rw [called_of_checkEquality_ok hok, hlength]
    refine List.eq_replicate_iff.mpr ⟨by simp [called], ?_⟩
    intro calls hmem
    obtain ⟨f, hf, rfl⟩ := List.mem_map.mp hmem
    obtain ⟨k, hk, rfl⟩ := List.mem_mapIdx.mp hf
    rw [hcalls _ (List.getElem_mem hk), Nat.zero_add]

/-- Two lists have an instance in common. Their first instances differ, so only the third pair fails;
the fourth is not visited. -/
theorem overlap_found_at_third_pair :
    let m : Behaviour Nat := ⟨(· == ·), UInt64.ofNat⟩
    let lists := [[1, 1], [2, 1]]
    pairs lists.length = [(0, 0), (0, 1)] ++ (1, 0) :: [(1, 1)] ∧
      ∃ fs left, lists.mapM Factory.ofInstances = .ok fs ∧
        checkEquality m fs = (.error (.equalAcross 1 1), left) ∧
        left.map Factory.calls = [4, 2] := by
  intro m lists
  obtain ⟨fs, hfs, -, -, hvisit, -⟩ := check_visits_in_order m lists (by simp [lists])
  have hbefore : ∀ p ∈ [(0, 0), (0, 1)], Passes m lists p := by
    rintro p hp a b hab
    rcases List.mem_pair.mp hp with rfl | rfl
    · obtain ⟨rfl, rfl⟩ : 1 = a ∧ 1 = b := Prod.mk.inj (Option.some.inj hab)
      exact ⟨rfl, rfl, rfl, rfl⟩
    · obtain ⟨rfl, rfl⟩ : 1 = a ∧ 2 = b := Prod.mk.inj (Option.some.inj hab)
      exact ⟨rfl, rfl⟩
  obtain ⟨reached, drawn, left, a, b, hrun, hdraw, hdraw', hab, hfails⟩ :=
    hvisit [(0, 0), (0, 1)] 1 0 [(1, 1)] rfl hbefore
  have hthird : compared? lists 1 0 = some (1, 1) := by decide
  obtain ⟨rfl, rfl⟩ := Prod.mk.inj (Option.some.inj (hthird.symm.trans hab))
  obtain ⟨v, hv, hcheck⟩ := hfails (by simp [Meets, Apart, m])
  cases hv
  cases hfs
  cases hrun
  cases hdraw
  cases hdraw'
  exact ⟨rfl, _, _, rfl, hcheck, rfl⟩

end Testbed.Contract
