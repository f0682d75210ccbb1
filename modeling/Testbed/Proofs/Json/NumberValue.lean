import Testbed.Proofs.Json.Comparison

/-!
# What numbers count as equal

Numbers are compared through the binary64 numbers nearest to them. A real is one itself, and so is
an integer of at most 53 bits; a larger integer may stand for others (`Number.nearest_cases`).

**Theorem (`assertions_iff_nearest`).** Two texts that can be read pass the assertion of equality if
and only if the values have the same locations and look the same at each of them, where two numbers
look the same if they share a nearest binary64 number; containment asks this of the locations of the
first value. To compare numbers by value would differ from this exactly where two numbers merge:
they are different, and share a nearest number. Both are then at least `2 ^ 53` in magnitude, and
one of them is an integer.
-/

namespace Testbed.Json

namespace Number

variable {m n : Number}

/-- The number that is denoted. -/
def value : Number → ℚ
  | integer i => i
  | real x => x.value

/-- Two numbers denote the same. -/
def SameValue (m n : Number) : Prop := m.value = n.value

/-- A binary64 number is nearest to both numbers. -/
def SharesNearest (m n : Number) : Prop :=
  ∃ x : Binary64, x.Nearest m.value ∧ x.Nearest n.value

/-- Two numbers are different and share a nearest number. -/
def Merges (m n : Number) : Prop := ¬ m.SameValue n ∧ m.SharesNearest n

theorem SameValue.symm (h : m.SameValue n) : n.SameValue m := Eq.symm h

theorem SharesNearest.symm (h : m.SharesNearest n) : n.SharesNearest m := by
  obtain ⟨x, hm, hn⟩ := h
  exact ⟨x, hn, hm⟩

theorem Merges.symm (h : m.Merges n) : n.Merges m := ⟨fun hsame => h.1 hsame.symm, h.2.symm⟩

/-- What a number is compared by is nearest to it. -/
theorem Proper.exists_nearest (hm : m.Proper) : ∃ x, m.nearest = some x ∧ x.Canonical ∧
    ∀ y : Binary64, y.Nearest m.value ↔ y.Canonical ∧ y.value = x.value := by
  cases m with
  | integer i =>
    obtain ⟨hlow, hhigh⟩ := hm
    obtain ⟨x, hx⟩ := Binary64.exists_ofInt? (i := i) (by omega)
    have hi : (Binary64.signOf (decide (i < 0)) * ((i.natAbs : ℚ) / (1 : ℕ)) : ℚ) = i := by
      rw [Nat.cast_one, div_one, ← Int.cast_natCast, ← Int.cast_mul, Int.cast_inj, Binary64.signOf]
      split_ifs with h <;> simp at h <;> omega
    refine ⟨x, hx, (Binary64.round?_eq_some one_pos hx).1, fun y => ?_⟩
    rw [← Binary64.nearest_round?_iff one_pos hx, hi, value]
  | real x => exact ⟨x, rfl, hm, Binary64.nearest_value_iff hm⟩

/-- **Numbers are equal if they share a nearest number.** -/
theorem agrees_iff_sharesNearest (hm : m.Proper) (hn : n.Proper) :
    m.agrees n = true ↔ m.SharesNearest n := by
  obtain ⟨x, hx, hxc, hxm⟩ := hm.exists_nearest
  obtain ⟨y, hy, hyc, hyn⟩ := hn.exists_nearest
  rw [agrees_iff]
  constructor
  · rintro (rfl | ⟨x', y', hx', hy', hsame⟩)
    · have := (hxm x).mpr ⟨hxc, rfl⟩
      exact ⟨x, this, this⟩
    · obtain rfl := Option.some.inj (hx.symm.trans hx')
      obtain rfl := Option.some.inj (hy.symm.trans hy')
      exact ⟨x, (hxm x).mpr ⟨hxc, rfl⟩, (hyn x).mpr ⟨hxc, (Binary64.same_iff hxc hyc).mp hsame⟩⟩
  · rintro ⟨z, hzm, hzn⟩
    have hzx := ((hxm z).mp hzm).2
    have hzy := ((hyn z).mp hzn).2
    exact .inr ⟨x, y, hx, hy, (Binary64.same_iff hxc hyc).mpr (hzx.symm.trans hzy)⟩

theorem SameValue.sharesNearest (hm : m.Proper) (h : m.SameValue n) : m.SharesNearest n := by
  obtain ⟨x, -, hxc, hxm⟩ := hm.exists_nearest
  have hx := (hxm x).mpr ⟨hxc, rfl⟩
  refine ⟨x, hx, ?_⟩
  rwa [← show m.value = n.value from h]

/-- The nearest number is the number itself, or both are large. -/
theorem nearest_cases (hm : m.Proper) {x : Binary64} (hx : x.Nearest m.value) :
    x.value = m.value ∨ 2 ^ 53 ≤ |m.value| ∧ 2 ^ 53 ≤ |x.value| ∧ ∃ i, m = integer i := by
  cases m with
  | real y => exact .inl ((Binary64.nearest_value_iff hm x).mp hx).2
  | integer i =>
    have habs : |(integer i).value| = i.natAbs := by
      rw [value, ← Int.cast_abs, Int.abs_eq_natAbs, Int.cast_natCast]
    by_cases hi : i.natAbs < 2 ^ 53
    · obtain ⟨y, hy, -, hym⟩ := hm.exists_nearest
      left
      rw [((hym x).mp hx).2]
      exact Binary64.value_ofInt? hi hy
    · have hlarge : 2 ^ 53 ≤ |(integer i).value| := by
        rw [habs]
        exact_mod_cast not_lt.mp hi
      exact .inr ⟨hlarge, hx.abs_value_ge hlarge, i, rfl⟩

/-- **Only large numbers merge**, and only integers with others. -/
theorem Merges.large (hm : m.Proper) (hn : n.Proper) (h : m.Merges n) :
    2 ^ 53 ≤ |m.value| ∧ 2 ^ 53 ≤ |n.value| ∧ ∃ i, m = integer i ∨ n = integer i := by
  obtain ⟨hne, x, hxm, hxn⟩ := h
  rcases nearest_cases hm hxm with hm | ⟨hm, hx, i, hi⟩
  · rcases nearest_cases hn hxn with hn | ⟨hn, hx, i, hi⟩
    · exact absurd (hm.symm.trans hn) hne
    · exact ⟨hm ▸ hx, hn, i, .inr hi⟩
  · rcases nearest_cases hn hxn with hn | ⟨hn, -, -⟩
    · exact ⟨hm, hn ▸ hx, i, .inl hi⟩
    · exact ⟨hm, hn, i, .inl hi⟩

end Number

namespace Value

open Number

variable {e a : Value}

/-- Numbers that merge are at one location of the two values. -/
def MergesAt (e a : Value) : Prop :=
  ∃ l m n, e.find? l = some (.number m) ∧ a.find? l = some (.number n) ∧ m.Merges n

theorem MergesAt.symm (h : e.MergesAt a) : a.MergesAt e := by
  obtain ⟨l, m, n, hm, hn, hmerges⟩ := h
  exact ⟨l, n, m, hn, hm, hmerges.symm⟩

theorem within_iff_nearest (he : e.Proper) (ha : a.Proper) :
    e.within a = true ↔ e.Covered SharesNearest a := by
  rw [within_iff_covered he]
  exact covered_congr fun l m n hm hn =>
    agrees_iff_sharesNearest (he.find hm).tidy (ha.find hn).tidy

theorem agrees_iff_nearest (he : e.Proper) (ha : a.Proper) :
    e.agrees a = true ↔ e.Alike SharesNearest a := by
  rw [agrees_iff_within he ha, within_iff_nearest he ha, within_iff_nearest ha he,
    alike_iff_covered fun _ _ => SharesNearest.symm]

/-- To compare numbers by value makes a difference where numbers merge. -/
theorem covered_sameValue_iff (he : e.Proper) (ha : a.Proper) :
    e.Covered SameValue a ↔ e.within a = true ∧ ¬ e.MergesAt a := by
  rw [within_iff_nearest he ha, and_comm]
  have hcongr (hmerge : ¬ e.MergesAt a) : e.Covered SameValue a ↔ e.Covered SharesNearest a := by
    refine covered_congr fun l m n hm hn => ⟨?_, fun hshares => ?_⟩
    · exact SameValue.sharesNearest (he.find hm).tidy
    · by_contra hne
      exact hmerge ⟨l, m, n, hm, hn, hne, hshares⟩
  constructor
  · intro h
    have hmerge : ¬ e.MergesAt a := by
      rintro ⟨l, m, n, hm, hn, hne, -⟩
      obtain ⟨w, hw, hsame⟩ := h l _ hm
      obtain rfl := Option.some.inj (hn.symm.trans hw)
      exact hne hsame
    exact ⟨hmerge, (hcongr hmerge).mp h⟩
  · rintro ⟨hmerge, h⟩
    exact (hcongr hmerge).mpr h

theorem alike_sameValue_iff (he : e.Proper) (ha : a.Proper) :
    e.Alike SameValue a ↔ e.agrees a = true ∧ ¬ e.MergesAt a := by
  have hsymm : a.MergesAt e ↔ e.MergesAt a := ⟨MergesAt.symm, MergesAt.symm⟩
  rw [alike_iff_covered fun _ _ => SameValue.symm, covered_sameValue_iff he ha,
    covered_sameValue_iff ha he, agrees_iff_within he ha, hsymm]
  tauto

end Value

/--
**What the assertions compare.** Values pass if they look the same at all locations, and numbers
look the same if they share a nearest binary64 number. This is a comparison by value as long as no
numbers merge, which only large integers do, with each other or with reals.
-/
theorem assertions_iff_nearest {s t : String} {e a : Value}
    (he : parse (Utf8.encode s) = .ok e) (ha : parse (Utf8.encode t) = .ok a) :
    (assertEqual s t = .ok () ↔ e.Alike Number.SharesNearest a) ∧
      (assertSubset s t = .ok () ↔ e.Covered Number.SharesNearest a) ∧
      (e.Alike Number.SameValue a ↔ assertEqual s t = .ok () ∧ ¬ e.MergesAt a) ∧
      (e.Covered Number.SameValue a ↔ assertSubset s t = .ok () ∧ ¬ e.MergesAt a) ∧
      ∀ l m n, e.find? l = some (.number m) → a.find? l = some (.number n) → m.Merges n →
        2 ^ 53 ≤ |m.value| ∧ 2 ^ 53 ≤ |n.value| ∧ ∃ i, m = .integer i ∨ n = .integer i := by
  have pe := proper_of_parse he
  have pa := proper_of_parse ha
  have hequal : assertEqual s t = .ok () ↔ e.agrees a = true := assertWith_ok_of_parse he ha
  have hsubset : assertSubset s t = .ok () ↔ e.within a = true := assertWith_ok_of_parse he ha
  rw [hequal, hsubset]
  refine ⟨Value.agrees_iff_nearest pe pa, Value.within_iff_nearest pe pa,
    Value.alike_sameValue_iff pe pa, Value.covered_sameValue_iff pe pa, ?_⟩
  intro l m n hm hn hmerges
  exact hmerges.large (pe.find hm).tidy (pa.find hn).tidy

/-- The least two naturals that merge: their texts count as equal, and the values are not alike. -/
theorem adjacent_integers_merge :
    ∃ e a, parse (Utf8.encode "9007199254740992") = .ok e ∧
      parse (Utf8.encode "9007199254740993") = .ok a ∧
      assertEqual "9007199254740992" "9007199254740993" = .ok () ∧
      assertSubset "9007199254740992" "9007199254740993" = .ok () ∧
      ¬ e.Alike Number.SameValue a ∧ ¬ e.Covered Number.SameValue a := by
  have he : parse (Utf8.encode "9007199254740992") = .ok (.number (.integer (2 ^ 53))) := by
    with_unfolding_all rfl
  have ha : parse (Utf8.encode "9007199254740993") = .ok (.number (.integer (2 ^ 53 + 1))) := by
    with_unfolding_all rfl
  have hequal : assertEqual "9007199254740992" "9007199254740993" = .ok () :=
    (assertWith_ok_of_parse he ha).mpr (by decide +kernel)
  obtain ⟨halike, hcovered, hequals, hsubset, -⟩ := assertions_iff_nearest he ha
  have hshares : (Number.integer (2 ^ 53)).SharesNearest (.integer (2 ^ 53 + 1)) := by
    cases halike.mp hequal [] with
    | some h => exact h
  have hmerges : Value.MergesAt (.number (.integer (2 ^ 53))) (.number (.integer (2 ^ 53 + 1))) :=
    ⟨[], _, _, rfl, rfl, by norm_num [Number.SameValue, Number.value], hshares⟩
  refine ⟨_, _, he, ha, hequal, (assertEqual_eq_ok_iff.mp hequal).1, fun h => ?_, fun h => ?_⟩
  · exact (hequals.mp h).2 hmerges
  · exact (hsubset.mp h).2 hmerges

end Testbed.Json
