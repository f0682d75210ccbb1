import Mathlib.Tactic.SplitIfs

/-!
# ASCII letters in either case

What changing the case of an ASCII letter does to its code (`toNat_toLower`, `toNat_toUpper`). A
character in lower or upper case is the same whatever its case was before.
-/

namespace Testbed.Text

theorem toNat_toLower (c : Char) :
    c.toLower.toNat = if 65 ≤ c.toNat ∧ c.toNat ≤ 90 then c.toNat + 32 else c.toNat := by
  have hupper : c.val ≥ 'A'.val ∧ c.val ≤ 'Z'.val ↔ 65 ≤ c.toNat ∧ c.toNat ≤ 90 := Iff.rfl
  have hstep : ('a'.val - 'A'.val).toNat = 32 := rfl
  unfold Char.toLower
  split_ifs with h h' h'
  · show (c.val + ('a'.val - 'A'.val)).toNat = c.val.toNat + 32
    have hle : c.val.toNat ≤ 90 := h'.2
    rw [UInt32.toNat_add, hstep]
    omega
  · exact absurd (hupper.mp h) h'
  · exact absurd (hupper.mpr h') h
  · rfl

theorem toNat_toUpper (c : Char) :
    c.toUpper.toNat = if 97 ≤ c.toNat ∧ c.toNat ≤ 122 then c.toNat - 32 else c.toNat := by
  have hlower : 'a'.val ≤ c.val ∧ c.val ≤ 'z'.val ↔ 97 ≤ c.toNat ∧ c.toNat ≤ 122 := Iff.rfl
  have hstep : ('A'.val - 'a'.val).toNat = 2 ^ 32 - 32 := rfl
  unfold Char.toUpper
  split_ifs with h h' h'
  · show (c.val + ('A'.val - 'a'.val)).toNat = c.val.toNat - 32
    have hge : 97 ≤ c.val.toNat := h'.1
    have hle : c.val.toNat ≤ 122 := h'.2
    rw [UInt32.toNat_add, hstep]
    omega
  · exact absurd (hlower.mp h) h'
  · exact absurd (hlower.mpr h') h
  · rfl

theorem isUpper_iff {c : Char} : c.isUpper = true ↔ 65 ≤ c.toNat ∧ c.toNat ≤ 90 :=
  decide_eq_true_iff

theorem isLower_iff {c : Char} : c.isLower = true ↔ 97 ≤ c.toNat ∧ c.toNat ≤ 122 :=
  (Bool.and_eq_true_iff).trans (and_congr decide_eq_true_iff decide_eq_true_iff)

theorem toLower_of_not_isUpper {c : Char} (h : c.isUpper = false) : c.toLower = c := by
  have hcode : ¬(65 ≤ c.toNat ∧ c.toNat ≤ 90) := fun hcode => by
    rw [isUpper_iff.mpr hcode] at h
    cases h
  rw [← Char.toNat_inj, toNat_toLower, if_neg hcode]

theorem isLower_toLower {c : Char} (h : c.isUpper = true) : c.toLower.isLower = true := by
  rw [isUpper_iff] at h
  rw [isLower_iff, toNat_toLower, if_pos h]
  omega

theorem toLower_toLower (c : Char) : c.toLower.toLower = c.toLower := by
  rw [← Char.toNat_inj]
  simp only [toNat_toLower]
  split_ifs <;> omega

theorem toLower_toUpper (c : Char) : c.toUpper.toLower = c.toLower := by
  rw [← Char.toNat_inj]
  simp only [toNat_toLower, toNat_toUpper]
  split_ifs <;> omega

theorem toUpper_toLower (c : Char) : c.toLower.toUpper = c.toUpper := by
  rw [← Char.toNat_inj]
  simp only [toNat_toLower, toNat_toUpper]
  split_ifs <;> omega

theorem map_beq_map (f : Char → Char) (a b : String) :
    (a.map f == b.map f) = (a.toList.map f == b.toList.map f) := by
  rw [Bool.eq_iff_iff, beq_iff_eq, beq_iff_eq, ← String.toList_map, ← String.toList_map,
    String.toList_inj]

end Testbed.Text
