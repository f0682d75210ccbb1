import Mathlib.Data.List.Nodup
import Mathlib.Tactic.SplitIfs
import Testbed.Proofs.Contract.Drawing

/-!
# What a check covers

Lists of instances are checked for a contract (`Lawful`): instances of one list are equal in both
directions and have equal hashes, and instances of two lists are unequal in both directions.

**Theorem (`passes_iff_compared`).** A check passes exactly if the contract holds for the instances
that are compared, two for each pair of lists. So it passes whenever the contract holds. The converse
holds if every list has one instance only; if the instances differ from each other and some list has
more, there is a behaviour that passes and breaks the contract.

That behaviour is lawful but for one instance of a list that is compared with another one first and
not with itself (`flawed`).
-/

namespace Testbed.Contract

variable {α : Type} {m : Behaviour α} {lists : List (List α)} {l l' : List α} {a b : α} {i j : Nat}

/-! ## The contract -/

/-- What is asked of two instances of one list. -/
def Alike (m : Behaviour α) (a b : α) : Prop :=
  m.eq a b = true ∧ m.eq b a = true ∧ m.hash a = m.hash b

/-- What is asked of two instances of different lists. -/
def Apart (m : Behaviour α) (a b : α) : Prop := m.eq a b = false ∧ m.eq b a = false

/-- The contract of equality and hashing on some lists of instances. -/
structure Lawful (m : Behaviour α) (lists : List (List α)) : Prop where
  alike : ∀ l ∈ lists, ∀ a ∈ l, ∀ b ∈ l, Alike m a b
  apart : lists.Pairwise fun l l' => ∀ a ∈ l, ∀ b ∈ l', Apart m a b

theorem Apart.symm (h : Apart m a b) : Apart m b a := ⟨h.2, h.1⟩

theorem checkAlike_ok_iff : checkAlike m a b = .ok () ↔ m.eq a a = true ∧ Alike m a b := by
  unfold checkAlike Alike
  split_ifs <;> simp_all

theorem checkApart_ok_iff : checkApart m a b = .ok () ↔ Apart m a b := by
  unfold checkApart Apart
  split_ifs <;> simp_all

theorem Lawful.apart_of_ne (h : Lawful m lists) (hi : lists[i]? = some l) (hj : lists[j]? = some l')
    (hne : i ≠ j) (ha : a ∈ l) (hb : b ∈ l') : Apart m a b := by
  obtain ⟨hil, rfl⟩ := List.getElem?_eq_some_iff.mp hi
  obtain ⟨hjl, rfl⟩ := List.getElem?_eq_some_iff.mp hj
  have hpairs := List.pairwise_iff_getElem.mp h.apart
  rcases Nat.lt_or_gt_of_ne hne with hlt | hlt
  · exact hpairs i j hil hjl hlt _ ha _ hb
  · exact (hpairs j i hjl hil hlt _ hb _ ha).symm

/-! ## The instances that are compared -/

/-- The instance of a list that call number `k` of its factory gives. -/
def nth? (l : List α) (k : Nat) : Option α := l[k % l.length]?

/-- The two instances that are compared for a pair of lists. -/
def compared? (lists : List (List α)) (i j : Nat) : Option (α × α) := do
  let l ← lists[i]?
  let l' ← lists[j]?
  let a ← nth? l (firstCall i j)
  let b ← nth? l' (secondCall lists.length i j)
  return (a, b)

/-- What a check asks of the two instances that it compares for a pair of lists. -/
def Meets (m : Behaviour α) (i j : Nat) (a b : α) : Prop :=
  if i = j then m.eq a a = true ∧ Alike m a b else Apart m a b

theorem compared?_eq_some_iff :
    compared? lists i j = some (a, b) ↔
      ∃ l l', lists[i]? = some l ∧ lists[j]? = some l' ∧ nth? l (firstCall i j) = some a ∧
        nth? l' (secondCall lists.length i j) = some b := by
  simp only [compared?, Option.bind_eq_bind, Option.bind_eq_some_iff, Option.pure_def,
    Option.some.injEq, Prod.mk.injEq]
  constructor
  · rintro ⟨l, hl, l', hl', a', ha, b', hb, rfl, rfl⟩
    exact ⟨l, l', hl, hl', ha, hb⟩
  · rintro ⟨l, l', hl, hl', ha, hb⟩
    exact ⟨l, hl, l', hl', a, ha, b, hb, rfl, rfl⟩

theorem mem_of_nth? {k : Nat} (h : nth? l k = some a) : a ∈ l := List.mem_of_getElem? h

theorem nth?_instances (f : Factory α) (k : Nat) :
    nth? f.instances k = some (f.instanceAt k) := by
  have hpos : 0 < f.instances.length := Nat.succ_pos _
  have hlt := Nat.mod_lt k hpos
  rw [nth?, Factory.instanceAt, List.getElem?_eq_getElem hlt]
  rfl

/-- Factories are made of lists that are not empty, and give their instances from the first on. -/
theorem exists_factories (hne : ∀ l ∈ lists, l ≠ []) :
    ∃ fs, lists.mapM Factory.ofInstances = .ok fs ∧ fs.map Factory.instances = lists ∧
      ∀ f ∈ fs, f.calls = 0 := by
  induction lists with
  | nil => exact ⟨[], rfl, rfl, by simp⟩
  | cons l lists ih =>
    obtain ⟨hl, hlists⟩ := List.forall_mem_cons.mp hne
    obtain ⟨fs, hfs, hmap, hcalls⟩ := ih hlists
    cases l with
    | nil => exact absurd rfl hl
    | cons a rest =>
      refine ⟨⟨a, rest, 0⟩ :: fs, ?_, ?_, ?_⟩
      · rw [List.mapM_cons, hfs]
        rfl
      · rw [List.map_cons, hmap]
        rfl
      · exact List.forall_mem_cons.mpr ⟨rfl, hcalls⟩

/-- Factories that were not called yet draw the instances that are compared. -/
theorem compared?_of_drawn {fs : List (Factory α)} (hmap : fs.map Factory.instances = lists)
    (hcalls : ∀ f ∈ fs, f.calls = 0) (ha : first? fs i j = some a) (hb : second? fs i j = some b) :
    compared? lists i j = some (a, b) := by
  subst hmap
  obtain ⟨f, hf, rfl⟩ := Option.map_eq_some_iff.mp ha
  obtain ⟨g, hg, rfl⟩ := Option.map_eq_some_iff.mp hb
  rw [hcalls f (List.mem_of_getElem? hf), hcalls g (List.mem_of_getElem? hg), Nat.zero_add,
    Nat.zero_add]
  refine compared?_eq_some_iff.mpr ⟨f.instances, g.instances, ?_, ?_, nth?_instances f _, ?_⟩
  · rw [List.getElem?_map, hf, Option.map_some]
  · rw [List.getElem?_map, hg, Option.map_some]
  · rw [List.length_map]
    exact nth?_instances g _

/-- A pair of factories passes exactly if the values that it draws meet what is asked of them. -/
theorem verdict_ok_iff {fs : List (Factory α)} (ha : first? fs i j = some a)
    (hb : second? fs i j = some b) : verdict m fs i j = .ok () ↔ Meets m i j a b := by
  simp only [verdict, ha, hb, Meets]
  by_cases hij : i = j
  · rw [if_pos hij, if_pos hij]
    exact checkAlike_ok_iff
  · rw [if_neg hij, if_neg hij]
    exact checkApart_ok_iff

/-- A check of factories that were not called yet tests the instances that are compared. -/
theorem exists_compared {fs : List (Factory α)} (hmap : fs.map Factory.instances = lists)
    (hcalls : ∀ f ∈ fs, f.calls = 0) (hi : i < lists.length) (hj : j < lists.length) :
    ∃ a b, compared? lists i j = some (a, b) ∧ (verdict m fs i j = .ok () ↔ Meets m i j a b) := by
  have hlength : fs.length = lists.length := by rw [← hmap, List.length_map]
  rw [← hlength] at hi hj
  obtain ⟨a, b, -, ha, hb, -⟩ := draw_pair hi hj
  exact ⟨a, b, compared?_of_drawn hmap hcalls ha hb, verdict_ok_iff ha hb⟩

/-! ## What the compared instances tell -/

theorem Lawful.meets (h : Lawful m lists) (hab : compared? lists i j = some (a, b)) :
    Meets m i j a b := by
  obtain ⟨l, l', hl, hl', ha, hb⟩ := compared?_eq_some_iff.mp hab
  have hal := mem_of_nth? ha
  have hbl := mem_of_nth? hb
  unfold Meets
  by_cases hij : i = j
  · subst hij
    obtain rfl : l = l' := Option.some.inj (hl.symm.trans hl')
    have hmem := List.mem_of_getElem? hl
    rw [if_pos rfl]
    exact ⟨(h.alike l hmem a hal a hal).1, h.alike l hmem a hal b hbl⟩
  · rw [if_neg hij]
    exact h.apart_of_ne hl hl' hij hal hbl

theorem compared?_of_single {c d : α} (hi : lists[i]? = some [c]) (hj : lists[j]? = some [d]) :
    compared? lists i j = some (c, d) := by
  apply compared?_eq_some_iff.mpr
  exact ⟨[c], [d], hi, hj, by simp [nth?, Nat.mod_one], by simp [nth?, Nat.mod_one]⟩

/-- Of lists with one instance each all instances are compared. -/
theorem lawful_of_meets (hsingle : ∀ l ∈ lists, l.length = 1)
    (h : ∀ i j a b, compared? lists i j = some (a, b) → Meets m i j a b) : Lawful m lists where
  alike := by
    intro l hl a ha b hb
    obtain ⟨c, rfl⟩ := List.length_eq_one_iff.mp (hsingle l hl)
    obtain ⟨i, hi⟩ := List.mem_iff_getElem?.mp hl
    rw [List.mem_singleton.mp ha, List.mem_singleton.mp hb]
    have hmeets := h i i c c (compared?_of_single hi hi)
    rw [Meets, if_pos rfl] at hmeets
    exact hmeets.2
  apart := by
    rw [List.pairwise_iff_getElem]
    intro i j hi hj hlt a ha b hb
    obtain ⟨c, hc⟩ := List.length_eq_one_iff.mp (hsingle _ (List.getElem_mem hi))
    obtain ⟨d, hd⟩ := List.length_eq_one_iff.mp (hsingle _ (List.getElem_mem hj))
    rw [hc] at ha
    rw [hd] at hb
    rw [List.mem_singleton.mp ha, List.mem_singleton.mp hb]
    have hi' : lists[i]? = some [c] := by rw [List.getElem?_eq_getElem hi, hc]
    have hj' : lists[j]? = some [d] := by rw [List.getElem?_eq_getElem hj, hd]
    have hmeets := h i j c d (compared?_of_single hi' hj')
    rwa [Meets, if_neg (Nat.ne_of_lt hlt)] at hmeets

/-! ## Behaviours that pass -/

/-- A behaviour that is lawful but for one instance, which does not equal itself. -/
def flawed [DecidableEq α] (lists : List (List α)) (flaw : α) : Behaviour α where
  eq a b := decide (∃ l ∈ lists, a ∈ l ∧ b ∈ l) && !(a == flaw && b == flaw)
  hash _ := 0

/-- Of instances that differ from each other none is in two lists. -/
theorem place_unique (hdiffer : lists.flatten.Nodup) (hi : lists[i]? = some l)
    (hj : lists[j]? = some l') (ha : a ∈ l) (ha' : a ∈ l') : i = j := by
  obtain ⟨hil, rfl⟩ := List.getElem?_eq_some_iff.mp hi
  obtain ⟨hjl, rfl⟩ := List.getElem?_eq_some_iff.mp hj
  have hapart := List.pairwise_iff_getElem.mp (List.nodup_flatten.mp hdiffer).2
  by_contra hne
  rcases Nat.lt_or_gt_of_ne hne with hlt | hlt
  · exact hapart i j hil hjl hlt ha ha'
  · exact hapart j i hjl hil hlt ha' ha

/-- The instance that is compared with the flaw of a list is another one. -/
theorem ne_flaw (hdiffer : lists.flatten.Nodup) {k : Nat} {flaw : α} (hk : lists[k]? = some l)
    (hlength : l.length ≠ 1) (hflaw : nth? l (2 * k + 1) = some flaw)
    (hi : lists[i]? = some l') (ha : nth? l' (firstCall i i) = some a) : a ≠ flaw := by
  rintro rfl
  obtain rfl := place_unique hdiffer hk hi (mem_of_nth? hflaw) (mem_of_nth? ha)
  obtain rfl : l = l' := Option.some.inj (hk.symm.trans hi)
  have hnodup := (List.nodup_flatten.mp hdiffer).1 l (List.mem_of_getElem? hk)
  obtain ⟨hfirst, hget⟩ := List.getElem?_eq_some_iff.mp ha
  obtain ⟨hsecond, hget'⟩ := List.getElem?_eq_some_iff.mp hflaw
  have hsame := (hnodup.getElem_inj_iff).mp (hget.trans hget'.symm)
  have hcall : 2 * k + 1 - firstCall k k = 1 := by
    unfold firstCall
    split_ifs <;> omega
  have hmod := Nat.sub_mod_eq_zero_of_mod_eq hsame.symm
  rw [hcall, Nat.mod_eq_of_lt (by omega)] at hmod
  cases hmod

/-- The instance without itself as an equal is compared with another one first and not with itself,
so the behaviour passes. -/
theorem meets_flawed [DecidableEq α] (hdiffer : lists.flatten.Nodup) {k : Nat} {flaw : α}
    (hk : lists[k]? = some l) (hlength : l.length ≠ 1) (hflaw : nth? l (2 * k + 1) = some flaw)
    (hab : compared? lists i j = some (a, b)) : Meets (flawed lists flaw) i j a b := by
  obtain ⟨l₁, l₂, hl₁, hl₂, ha, hb⟩ := compared?_eq_some_iff.mp hab
  have hal := mem_of_nth? ha
  have hbl := mem_of_nth? hb
  unfold Meets
  by_cases hij : i = j
  · subst hij
    obtain rfl : l₁ = l₂ := Option.some.inj (hl₁.symm.trans hl₂)
    have hne := ne_flaw hdiffer hk hlength hflaw hl₁ ha
    have hmem := List.mem_of_getElem? hl₁
    have hself : ∃ l ∈ lists, a ∈ l := ⟨l₁, hmem, hal⟩
    have hboth : ∃ l ∈ lists, a ∈ l ∧ b ∈ l := ⟨l₁, hmem, hal, hbl⟩
    have hboth' : ∃ l ∈ lists, b ∈ l ∧ a ∈ l := ⟨l₁, hmem, hbl, hal⟩
    rw [if_pos rfl]
    refine ⟨?_, ?_, ?_, rfl⟩ <;> simp [flawed, hne, hself, hboth, hboth']
  · have hnone : ¬∃ l ∈ lists, a ∈ l ∧ b ∈ l := by
      rintro ⟨l₃, hl₃, ha₃, hb₃⟩
      obtain ⟨p, hp⟩ := List.mem_iff_getElem?.mp hl₃
      apply hij
      rw [place_unique hdiffer hl₁ hp hal ha₃, place_unique hdiffer hl₂ hp hbl hb₃]
    have hnone' : ¬∃ l ∈ lists, b ∈ l ∧ a ∈ l := by
      rintro ⟨l₃, hl₃, hb₃, ha₃⟩
      exact hnone ⟨l₃, hl₃, ha₃, hb₃⟩
    rw [if_neg hij]
    simp only [Apart, flawed, hnone, hnone', decide_false, Bool.false_and, and_self]

/-- A check of factories that were not called yet passes exactly if the instances that are compared
meet what is asked of them. -/
theorem passes_iff_meets {fs : List (Factory α)} (hmap : fs.map Factory.instances = lists)
    (hcalls : ∀ f ∈ fs, f.calls = 0) :
    (checkEquality m fs).1 = .ok () ↔
      ∀ i j a b, compared? lists i j = some (a, b) → Meets m i j a b := by
  have hlength : fs.length = lists.length := by rw [← hmap, List.length_map]
  rw [checkEquality_ok_iff, hlength]
  constructor
  · intro h i j a b hab
    obtain ⟨l, l', hl, hl', -⟩ := compared?_eq_some_iff.mp hab
    have hi := (List.getElem?_eq_some_iff.mp hl).1
    have hj := (List.getElem?_eq_some_iff.mp hl').1
    obtain ⟨a', b', hab', hiff⟩ := exists_compared (m := m) hmap hcalls hi hj
    obtain ⟨rfl, rfl⟩ := Prod.mk.inj (Option.some.inj (hab.symm.trans hab'))
    exact hiff.mp (h i hi j hj)
  · intro h i hi j hj
    obtain ⟨a, b, hab, hiff⟩ := exists_compared (m := m) hmap hcalls hi hj
    exact hiff.mpr (h i j a b hab)

/-- **A check covers the instances that it compares.** Take any lists of instances, none of them
empty, and a factory for each.

1. For each pair of lists there are two instances that are compared.
2. A check passes exactly if all that are compared meet what is asked of them.
3. It passes if the contract holds for all instances.
4. If each list has one instance, it passes only if the contract holds for all.
5. If the instances differ from each other and some list has more than one, some behaviour passes
   for which the contract does not hold. -/
theorem passes_iff_compared (m : Behaviour α) (lists : List (List α)) (hne : ∀ l ∈ lists, l ≠ []) :
    ∃ fs, lists.mapM Factory.ofInstances = .ok fs ∧
      (∀ i < lists.length, ∀ j < lists.length, ∃ a b, compared? lists i j = some (a, b)) ∧
      ((checkEquality m fs).1 = .ok () ↔
        ∀ i j a b, compared? lists i j = some (a, b) → Meets m i j a b) ∧
      (Lawful m lists → (checkEquality m fs).1 = .ok ()) ∧
      ((∀ l ∈ lists, l.length = 1) → (checkEquality m fs).1 = .ok () → Lawful m lists) ∧
      (lists.flatten.Nodup → (∃ l ∈ lists, l.length ≠ 1) →
        ∃ flawed : Behaviour α, (checkEquality flawed fs).1 = .ok () ∧ ¬Lawful flawed lists) := by
  obtain ⟨fs, hfs, hmap, hcalls⟩ := exists_factories hne
  refine ⟨fs, hfs, ?_, passes_iff_meets hmap hcalls, ?_, ?_, ?_⟩
  · intro i hi j hj
    obtain ⟨a, b, hab, -⟩ := exists_compared (m := m) hmap hcalls hi hj
    exact ⟨a, b, hab⟩
  · intro hlawful
    apply (passes_iff_meets hmap hcalls).mpr
    intro i j a b hab
    exact hlawful.meets hab
  · intro hsingle hok
    exact lawful_of_meets hsingle ((passes_iff_meets hmap hcalls).mp hok)
  · rintro hdiffer ⟨l, hl, hlong⟩
    classical
    obtain ⟨k, hk⟩ := List.mem_iff_getElem?.mp hl
    obtain ⟨flaw, hflaw⟩ : ∃ flaw, nth? l (2 * k + 1) = some flaw := by
      have hpos := List.length_pos_iff.mpr (hne l hl)
      exact ⟨_, List.getElem?_eq_getElem (Nat.mod_lt _ hpos)⟩
    refine ⟨flawed lists flaw, ?_, ?_⟩
    · apply (passes_iff_meets hmap hcalls).mpr
      intro i j a b hab
      exact meets_flawed hdiffer hk hlong hflaw hab
    · intro hlawful
      have hmem := mem_of_nth? hflaw
      have heq := (hlawful.alike l hl flaw hmem flaw hmem).1
      simp [flawed] at heq

/-- One list with a third instance that is unequal to the others passes: the third is not drawn. -/
theorem third_instance_unseen :
    let m : Behaviour Nat := ⟨(· == ·), UInt64.ofNat⟩
    let lists := [[1, 1, 2]]
    ∃ fs, lists.mapM Factory.ofInstances = .ok fs ∧ (checkEquality m fs).1 = .ok () ∧
      ¬Lawful m lists := by
  intro m lists
  refine ⟨[⟨1, [1, 2], 0⟩], rfl, rfl, ?_⟩
  intro h
  have heq := (h.alike [1, 1, 2] (by simp [lists]) 1 (by simp) 2 (by simp)).1
  cases heq

/-- Two lists of one instance each are covered, and a list of two is not. -/
theorem single_instances_covered :
    let m : Behaviour Nat := ⟨(· == ·), UInt64.ofNat⟩
    (∃ fs, [[1], [2]].mapM Factory.ofInstances = .ok fs ∧ (checkEquality m fs).1 = .ok () ∧
      Lawful m [[1], [2]]) ∧
    ∃ fs, [[1], [2, 3]].mapM Factory.ofInstances = .ok fs ∧
      ∃ flawed : Behaviour Nat, (checkEquality flawed fs).1 = .ok () ∧
        ¬Lawful flawed [[1], [2, 3]] := by
  intro m
  constructor
  · obtain ⟨fs, hfs, -, -, -, hsingle, -⟩ := passes_iff_compared m [[1], [2]] (by simp)
    obtain rfl : [⟨1, [], 0⟩, ⟨2, [], 0⟩] = fs := Except.ok.inj hfs
    exact ⟨_, rfl, rfl, hsingle (by simp) rfl⟩
  · obtain ⟨fs, hfs, -, -, -, -, hmore⟩ := passes_iff_compared m [[1], [2, 3]] (by simp)
    exact ⟨fs, hfs, hmore (by simp) (by simp)⟩

end Testbed.Contract
