import Mathlib.Algebra.Order.Field.Power
import Mathlib.Algebra.Order.Ring.Rat
import Mathlib.Data.Rat.Cast.Order
import Mathlib.Tactic.Linarith
import Mathlib.Tactic.NormNum
import Mathlib.Tactic.Positivity
import Mathlib.Tactic.Ring
import Testbed.Number.Binary64

/-!
# Rounding to binary64

What the numbers of the format denote (`Binary64.value`), and that rounding gives the nearest of
them.

**Theorem (`nearest_round?_iff`).** Let a ratio be rounded to `x`. A number is nearest to the ratio,
and between two that are equally near the even one, if and only if it is in canonical form and
denotes what `x` denotes.

The proof is about significands at the exponent of the ratio, at which its integer part has 53 bits
or the exponent is the least (`exponentFor_spec`). A number of no smaller exponent is an integer
multiple of that unit, so it is a matter of rounding to integers (`divNearestEven_closest`). One of
a smaller exponent lies below all significands of 53 bits (`significand_closest`).
-/

namespace Testbed.Binary64

variable {num den : Nat} {e : Int}

theorem two_zpow_pos (e : Int) : (0 : ℚ) < 2 ^ e := zpow_pos (by norm_num) e

theorem two_zpow_le_iff {a b : Int} : (2 : ℚ) ^ a ≤ 2 ^ b ↔ a ≤ b :=
  zpow_le_zpow_iff_right₀ (by norm_num)

theorem two_zpow_lt_iff {a b : Int} : (2 : ℚ) ^ a < 2 ^ b ↔ a < b :=
  zpow_lt_zpow_iff_right₀ (by norm_num)

theorem two_zpow_add (a b : Int) : (2 : ℚ) ^ (a + b) = 2 ^ a * 2 ^ b :=
  zpow_add₀ (by norm_num) a b

/-! ## Scaling -/

theorem scaled_den_pos (num : Nat) (hd : 0 < den) (e : Int) : 0 < (scaled num den e).2 := by
  unfold scaled
  split_ifs
  · exact hd
  · rw [Nat.shiftLeft_eq]
    positivity

/-- Scaling multiplies a ratio by a power of two. -/
theorem scaled_ratio (num den : Nat) (e : Int) :
    ((scaled num den e).1 : ℚ) / (scaled num den e).2 = num / den * 2 ^ e := by
  unfold scaled
  split_ifs with h
  · obtain ⟨k, rfl⟩ := Int.eq_ofNat_of_zero_le h
    simp only [Int.toNat_natCast, Nat.shiftLeft_eq, Nat.cast_mul, Nat.cast_pow, Nat.cast_ofNat,
      zpow_natCast]
    ring
  · obtain ⟨k, hk⟩ := Int.eq_ofNat_of_zero_le (Int.neg_nonneg.mpr (not_le.mp h).le)
    obtain rfl : e = -k := by omega
    simp only [neg_neg, Int.toNat_natCast, Nat.shiftLeft_eq, Nat.cast_mul, Nat.cast_pow,
      Nat.cast_ofNat, zpow_neg, zpow_natCast]
    rw [div_mul_eq_div_div, div_eq_mul_inv]

/-! ## The nearest natural -/

/-- How a quotient is rounded: down below the half, up above it, at the half to the even side. -/
theorem divNearestEven_cases (n : Nat) {d : Nat} (hd : 0 < d) :
    ∃ q : Nat, ∃ f : ℚ, (n : ℚ) / d = q + f ∧ 0 ≤ f ∧ f < 1 ∧
      (divNearestEven n d = q ∧ (f < 1 / 2 ∨ f = 1 / 2 ∧ q % 2 = 0) ∨
        divNearestEven n d = q + 1 ∧ (1 / 2 < f ∨ f = 1 / 2 ∧ q % 2 = 1)) := by
  have hd' : (0 : ℚ) < d := by exact_mod_cast hd
  refine ⟨n / d, (n % d : Nat) / d, ?_, by positivity, ?_, ?_⟩
  · rw [div_eq_iff hd'.ne', add_mul, div_mul_cancel₀ _ hd'.ne']
    exact_mod_cast (Nat.div_add_mod' n d).symm
  · rw [div_lt_one hd']
    exact_mod_cast Nat.mod_lt n hd
  · have hlt : ((n % d : Nat) : ℚ) / d < 1 / 2 ↔ 2 * (n % d) < d := by
      rw [div_lt_div_iff₀ hd' (by norm_num)]
      norm_cast
      omega
    have heq : ((n % d : Nat) : ℚ) / d = 1 / 2 ↔ 2 * (n % d) = d := by
      rw [div_eq_div_iff hd'.ne' (by norm_num)]
      norm_cast
      omega
    have hgt : 1 / 2 < ((n % d : Nat) : ℚ) / d ↔ d < 2 * (n % d) := by
      rw [div_lt_div_iff₀ (by norm_num) hd']
      norm_cast
      omega
    rw [hlt, heq, hgt]
    simp only [divNearestEven]
    split_ifs <;> omega

/-- A quotient rounded to a natural is nearer than any other integer, except on a tie, when it is
even and the other odd. -/
theorem divNearestEven_closest (n : Nat) {d : Nat} (hd : 0 < d) (k : Int) :
    |(divNearestEven n d : ℚ) - n / d| < |(k : ℚ) - n / d| ∨ k = divNearestEven n d ∨
      |(divNearestEven n d : ℚ) - n / d| = |(k : ℚ) - n / d| ∧ divNearestEven n d % 2 = 0 ∧
        k % 2 = 1 := by
  obtain ⟨q, f, hq, hf0, hf1, hm⟩ := divNearestEven_cases n hd
  have hside : k + 1 ≤ q ∨ k = q ∨ k = q + 1 ∨ q + 2 ≤ k := by omega
  have hlow : |(q : ℚ) - (q + f)| = f := by rw [sub_add_cancel_left, abs_neg, abs_of_nonneg hf0]
  have hhigh : |(q : ℚ) + 1 - (q + f)| = 1 - f := by
    rw [add_sub_add_left_eq_sub, abs_of_pos (by linarith)]
  have hfar (h : k + 1 ≤ q ∨ q + 2 ≤ k) : 1 ≤ |(k : ℚ) - (q + f)| := by
    rw [le_abs]
    rcases h with h | h
    · have : (k : ℚ) + 1 ≤ q := by exact_mod_cast h
      right; linarith
    · have : (q : ℚ) + 2 ≤ k := by exact_mod_cast h
      left; linarith
  rw [hq]
  rcases hm with ⟨hm, hf⟩ | ⟨hm, hf⟩ <;> rw [hm]
  · have hf' : f ≤ 1 / 2 := hf.elim le_of_lt fun h => h.1.le
    rcases hside with h | rfl | rfl | h
    · left; rw [hlow]; linarith [hfar (.inl h)]
    · right; left; rfl
    · push_cast
      rw [hlow, hhigh]
      rcases hf with hf | ⟨rfl, heven⟩
      · left; linarith
      · right; right; exact ⟨by norm_num, heven, by omega⟩
    · left; rw [hlow]; linarith [hfar (.inr h)]
  · have hf' : 1 / 2 ≤ f := hf.elim le_of_lt fun h => h.1.ge
    push_cast
    rw [hhigh]
    rcases hside with h | rfl | rfl | h
    · left; linarith [hfar (.inl h)]
    · push_cast
      rw [hlow]
      rcases hf with hf | ⟨rfl, hodd⟩
      · left; linarith
      · right; right; exact ⟨by norm_num, by omega, by omega⟩
    · right; left; rfl
    · left; linarith [hfar (.inr h)]

/-! ## The exponent -/

theorem log2_bounds {n : Nat} (hn : n ≠ 0) :
    (2 : ℚ) ^ (n.log2 : Int) ≤ n ∧ (n : ℚ) < 2 ^ ((n.log2 : Int) + 1) := by
  constructor
  · rw [zpow_natCast]
    exact_mod_cast Nat.log2_self_le hn
  · rw [← Nat.cast_one, ← Nat.cast_add, zpow_natCast]
    exact_mod_cast Nat.lt_log2_self

/-- At the exponent of a ratio its integer part has at most 53 bits, and no fewer unless the
exponent is the least. -/
theorem exponentFor_spec (hn : num ≠ 0) (hd : den ≠ 0) :
    minExp ≤ exponentFor num den ∧ (num / den : ℚ) < 2 ^ (exponentFor num den + 53) ∧
      (exponentFor num den = minExp ∨ (2 : ℚ) ^ (exponentFor num den + 52) ≤ num / den) := by
  obtain ⟨hn1, hn2⟩ := log2_bounds hn
  obtain ⟨hd1, hd2⟩ := log2_bounds hd
  have hd0 : (0 : ℚ) < den := by positivity
  obtain ⟨g, hg⟩ : ∃ g : Int, g = (num.log2 : Int) - (den.log2 : Int) - 53 := ⟨_, rfl⟩
  have hlow : (2 : ℚ) ^ (g + 52) ≤ num / den := by
    rw [le_div_iff₀ hd0]
    calc (2 : ℚ) ^ (g + 52) * den ≤ 2 ^ (g + 52) * 2 ^ ((den.log2 : Int) + 1) := by gcongr
      _ = 2 ^ (num.log2 : Int) := by rw [← two_zpow_add, hg]; congr 1; omega
      _ ≤ num := hn1
  have hhigh : (num / den : ℚ) < 2 ^ (g + 54) := by
    rw [div_lt_iff₀ hd0]
    calc (num : ℚ) < 2 ^ ((num.log2 : Int) + 1) := hn2
      _ = 2 ^ (g + 54) * 2 ^ (den.log2 : Int) := by rw [← two_zpow_add, hg]; congr 1; omega
      _ ≤ 2 ^ (g + 54) * den := by gcongr
  have hcond : (scaled num den (-g)).1 / (scaled num den (-g)).2 < 1 <<< 53 ↔
      (num / den : ℚ) < 2 ^ (g + 53) := by
    have hpos := scaled_den_pos num (Nat.pos_of_ne_zero hd) (-g)
    have hpos' : (0 : ℚ) < (scaled num den (-g)).2 := by exact_mod_cast hpos
    rw [Nat.div_lt_iff_lt_mul hpos, ← @Nat.cast_lt ℚ, Nat.cast_mul, ← div_lt_iff₀ hpos',
      scaled_ratio, zpow_neg, ← div_eq_mul_inv, div_lt_iff₀ (two_zpow_pos g), add_comm g,
      two_zpow_add]
    norm_num [Nat.shiftLeft_eq]
  -- The guess is right, or one too low.
  obtain ⟨e, he, heq⟩ : ∃ e, exponentFor num den = (if e < minExp then minExp else e) ∧
      (e = g ∧ (num / den : ℚ) < 2 ^ (g + 53) ∨ e = g + 1 ∧ (2 : ℚ) ^ (g + 53) ≤ num / den) := by
    rw [hg] at hcond ⊢
    refine ⟨_, rfl, ?_⟩
    split_ifs with h
    · exact .inl ⟨rfl, hcond.mp h⟩
    · exact .inr ⟨rfl, not_lt.mp (mt hcond.mpr h)⟩
  have hup : (num / den : ℚ) < 2 ^ (e + 53) := by
    rcases heq with ⟨rfl, h⟩ | ⟨rfl, -⟩
    · exact h
    · rw [add_assoc]
      exact hhigh
  have hdown : (2 : ℚ) ^ (e + 52) ≤ num / den := by
    rcases heq with ⟨rfl, -⟩ | ⟨rfl, h⟩
    · exact hlow
    · rw [add_assoc]
      exact h
  rw [he]
  split_ifs with hmin
  · exact ⟨le_rfl, hup.trans (two_zpow_lt_iff.mpr (by omega)), .inl rfl⟩
  · exact ⟨not_lt.mp hmin, hup, .inr hdown⟩

/-! ## Canonical numbers -/

/-- The number that is denoted. -/
def value (x : Binary64) : ℚ := (if x.neg then -1 else 1) * (x.mant * 2 ^ x.exp)

/-- The form that every operation returns. -/
structure Canonical (x : Binary64) : Prop where
  mant_lt : x.mant < 2 ^ 53
  normal : 2 ^ 52 ≤ x.mant ∨ x.exp = minExp
  le_exp : minExp ≤ x.exp
  exp_le : x.exp ≤ maxExp

theorem canonical_zero (neg : Bool) : (zero neg).Canonical :=
  ⟨by norm_num [zero], .inr rfl, le_rfl, by norm_num [zero, minExp, maxExp]⟩

theorem Canonical.negate {x : Binary64} (h : x.Canonical) : x.negate.Canonical :=
  ⟨h.mant_lt, h.normal, h.le_exp, h.exp_le⟩

@[simp] theorem value_negate (x : Binary64) : x.negate.value = -x.value := by
  cases h : x.neg <;> simp [value, Binary64.negate, h]

theorem abs_value (x : Binary64) : |x.value| = x.mant * 2 ^ x.exp := by
  have h : (0 : ℚ) ≤ x.mant * 2 ^ x.exp := by positivity
  cases hs : x.neg <;> simp [value, hs, abs_of_nonneg h]

theorem value_eq_zero_iff {x : Binary64} : x.value = 0 ↔ x.isZero = true := by
  rw [← abs_eq_zero, abs_value, mul_eq_zero, or_iff_left (two_zpow_pos x.exp).ne']
  simp [isZero]

/-- Of two canonical numbers of one magnitude, the first has no smaller exponent. -/
theorem Canonical.exp_le_of_abs_eq {x y : Binary64} (hx : x.Canonical) (hy : y.Canonical)
    (h : |x.value| = |y.value|) : y.exp ≤ x.exp := by
  by_contra hlt
  obtain ⟨k, hk⟩ : ∃ k : Nat, y.exp = x.exp + (k + 1 : Nat) := ⟨(y.exp - x.exp - 1).toNat, by omega⟩
  have hmant : x.mant = y.mant * 2 ^ (k + 1) := by
    rw [abs_value, abs_value, hk, two_zpow_add, zpow_natCast, mul_comm (2 ^ x.exp),
      ← mul_assoc] at h
    exact_mod_cast mul_right_cancel₀ (two_zpow_pos x.exp).ne' h
  have hnormal := hy.normal.resolve_right (by have := hx.le_exp; omega)
  have hk1 : 2 ^ 1 ≤ 2 ^ (k + 1) := Nat.pow_le_pow_right (by norm_num) (by omega)
  have := Nat.mul_le_mul hnormal hk1
  have := hx.mant_lt
  omega

theorem Canonical.parts_eq_of_abs_eq {x y : Binary64} (hx : x.Canonical) (hy : y.Canonical)
    (h : |x.value| = |y.value|) : x.mant = y.mant ∧ x.exp = y.exp := by
  have hexp := le_antisymm (hy.exp_le_of_abs_eq hx h.symm) (hx.exp_le_of_abs_eq hy h)
  refine ⟨?_, hexp⟩
  rw [abs_value, abs_value, hexp] at h
  exact_mod_cast mul_right_cancel₀ (two_zpow_pos y.exp).ne' h

/-- **Numeric equality** of canonical numbers is equality of what they denote. -/
theorem same_iff {x y : Binary64} (hx : x.Canonical) (hy : y.Canonical) :
    x.same y = true ↔ x.value = y.value := by
  simp only [same, Bool.or_eq_true, Bool.and_eq_true, ← value_eq_zero_iff, beq_iff_eq]
  constructor
  · rintro (⟨hx0, hy0⟩ | rfl)
    · rw [hx0, hy0]
    · rfl
  · intro h
    by_cases h0 : x.value = 0
    · exact .inl ⟨h0, h ▸ h0⟩
    · right
      obtain ⟨hmant, hexp⟩ := hx.parts_eq_of_abs_eq hy (congrArg abs h)
      have hneg : x.neg = y.neg := by
        by_contra hne
        obtain hflip : x.neg = !y.neg := by cases hxn : x.neg <;> cases hyn : y.neg <;> simp_all
        have : x.value = -y.value := by
          rw [← value_negate]
          simp [value, Binary64.negate, hmant, hexp, hflip]
        refine h0 ?_
        linarith
      cases x
      cases y
      simp_all

theorem same_refl (x : Binary64) : x.same x = true := by simp [same]

theorem same_symm {x y : Binary64} (h : x.same y = true) : y.same x = true := by
  simp only [same, Bool.or_eq_true, Bool.and_eq_true, beq_iff_eq] at h ⊢
  exact h.imp And.symm Eq.symm

theorem same_trans {x y z : Binary64} (hxy : x.same y = true) (hyz : y.same z = true) :
    x.same z = true := by
  simp only [same, Bool.or_eq_true, Bool.and_eq_true, beq_iff_eq] at hxy hyz ⊢
  rcases hxy with ⟨hx, hy⟩ | rfl
  · rcases hyz with ⟨-, hz⟩ | rfl
    · exact .inl ⟨hx, hz⟩
    · exact .inl ⟨hx, hy⟩
  · exact hyz

/-! ## The nearest number -/

/-- A canonical number nearest to a rational; between two that are equally near, the even one. -/
structure Nearest (x : Binary64) (q : ℚ) : Prop where
  canonical : x.Canonical
  le : ∀ y : Binary64, y.Canonical → |x.value - q| ≤ |y.value - q|
  even : ∀ y : Binary64, y.Canonical → |y.value - q| = |x.value - q| → y.value ≠ x.value →
    x.mant % 2 = 0

theorem nearest_of_closest {x : Binary64} {q : ℚ} (hx : x.Canonical)
    (h : ∀ y : Binary64, y.Canonical → |x.value - q| < |y.value - q| ∨ y.value = x.value ∨
      |x.value - q| = |y.value - q| ∧ x.mant % 2 = 0 ∧ y.mant % 2 = 1) (y : Binary64) :
    y.Nearest q ↔ y.Canonical ∧ y.value = x.value := by
  have hle (z : Binary64) (hz : z.Canonical) : |x.value - q| ≤ |z.value - q| := by
    rcases h z hz with h | h | ⟨h, -⟩
    · exact h.le
    · rw [h]
    · exact h.le
  constructor
  · intro hy
    refine ⟨hy.canonical, ?_⟩
    rcases h y hy.canonical with hlt | heq | ⟨htie, -, hodd⟩
    · exact absurd (hy.le x hx) (not_le.mpr hlt)
    · exact heq
    · by_contra hne
      have := hy.even x hx htie (Ne.symm hne)
      omega
  · rintro ⟨hy, hvalue⟩
    refine ⟨hy, fun z hz => hvalue ▸ hle z hz, fun z hz htie hne => ?_⟩
    rw [hvalue] at htie hne
    have hmant : y.mant = x.mant := (hy.parts_eq_of_abs_eq hx (congrArg abs hvalue)).1
    rcases h z hz with hlt | heq | ⟨-, heven, -⟩
    · exact absurd htie hlt.ne'
    · exact absurd heq hne
    · rw [hmant]
      exact heven

/-! ## Rounding -/

/-- The significand of a rounded ratio, before it is brought into canonical form. -/
def significand (num den : Nat) : Nat :=
  divNearestEven (scaled num den (-exponentFor num den)).1 (scaled num den (-exponentFor num den)).2

theorem significand_bounds (hn : num ≠ 0) (hd : 0 < den) : significand num den ≤ 2 ^ 53 ∧
    (exponentFor num den = minExp ∨ 2 ^ 52 ≤ significand num den) := by
  obtain ⟨-, hup, hdown⟩ := exponentFor_spec hn hd.ne'
  obtain ⟨q, f, hq, hf0, hf1, hm⟩ :=
    divNearestEven_cases (scaled num den (-exponentFor num den)).1
      (scaled_den_pos num hd (-exponentFor num den))
  rw [scaled_ratio, zpow_neg, ← div_eq_mul_inv, div_eq_iff (two_zpow_pos _).ne'] at hq
  have hm' : significand num den = q ∨ significand num den = q + 1 := hm.imp And.left And.left
  constructor
  · rw [hq, add_comm _ (53 : Int), two_zpow_add, mul_lt_mul_iff_left₀ (two_zpow_pos _)] at hup
    norm_num at hup
    have : (q : ℚ) < (2 ^ 53 : Nat) := by push_cast; linarith
    have : q < 2 ^ 53 := by exact_mod_cast this
    omega
  · refine hdown.imp_right fun h => ?_
    rw [hq, add_comm _ (52 : Int), two_zpow_add, mul_le_mul_iff_left₀ (two_zpow_pos _)] at h
    norm_num at h
    have : (2 ^ 52 : ℚ) < q + 1 := by linarith
    have : 2 ^ 52 < q + 1 := by exact_mod_cast this
    omega

/-- A rounded ratio is nearer than any other number in reach of the format, except on a tie, when
its significand is even and the other odd. -/
theorem significand_closest (hn : num ≠ 0) (hd : 0 < den) {k j : Int} (hk : |k| < 2 ^ 53)
    (hj : minExp ≤ j) :
    let r : ℚ := significand num den * 2 ^ exponentFor num den
    let v : ℚ := k * 2 ^ j
    |r - num / den| < |v - num / den| ∨ v = r ∨
      |r - num / den| = |v - num / den| ∧ significand num den % 2 = 0 ∧ k % 2 = 1 := by
  intro r v
  obtain ⟨-, -, hdown⟩ := exponentFor_spec hn hd.ne'
  have hclosest := divNearestEven_closest (scaled num den (-exponentFor num den)).1
    (scaled_den_pos num hd (-exponentFor num den))
  rw [scaled_ratio, zpow_neg, ← div_eq_mul_inv] at hclosest
  change ∀ k : Int, |(significand num den : ℚ) - _| < _ ∨ k = significand num den ∨
    |(significand num den : ℚ) - _| = _ ∧ significand num den % 2 = 0 ∧ _ at hclosest
  obtain ⟨e, he⟩ : ∃ e, exponentFor num den = e := ⟨_, rfl⟩
  rw [he] at hdown hclosest
  have hpos := two_zpow_pos e
  -- Distances from the ratio, in units of the exponent.
  have hscale (c : ℚ) : |c * 2 ^ e - num / den| = |c - num / den / 2 ^ e| * 2 ^ e := by
    rw [← abs_of_pos hpos, ← abs_mul, sub_mul, abs_of_pos hpos, div_mul_cancel₀ _ hpos.ne']
  have hr : |r - num / den| = |(significand num den : ℚ) - num / den / 2 ^ e| * 2 ^ e := by
    rw [← hscale, ← he]
  rcases lt_or_ge j e with hje | hje
  · -- A smaller exponent: the other number is below all significands of 53 bits.
    left
    have hratio : (2 : ℚ) ^ (52 : Int) ≤ num / den / 2 ^ e := by
      rw [le_div_iff₀ hpos, ← two_zpow_add, add_comm]
      exact hdown.resolve_left (by omega)
    have hnear : |(significand num den : ℚ) - num / den / 2 ^ e| ≤ num / den / 2 ^ e - 2 ^ 52 := by
      have h52 : |((2 ^ 52 : Int) : ℚ) - num / den / 2 ^ e| = num / den / 2 ^ e - 2 ^ 52 := by
        rw [abs_of_nonpos (by push_cast; exact sub_nonpos.mpr (by exact_mod_cast hratio))]
        push_cast
        ring
      rw [← h52]
      rcases hclosest (2 ^ 52) with h | h | h
      · exact h.le
      · rw [h, Int.cast_natCast]
      · exact h.1.le
    have hv : v < 2 ^ 52 * 2 ^ e := by
      have hk' : (k : ℚ) < 2 ^ (53 : Int) := by exact_mod_cast (le_abs_self k).trans_lt hk
      calc v = k * 2 ^ j := rfl
        _ < 2 ^ (53 : Int) * 2 ^ j := by gcongr
        _ ≤ 2 ^ (52 : Int) * 2 ^ e := by
          rw [← two_zpow_add, ← two_zpow_add, two_zpow_le_iff]
          omega
        _ = 2 ^ 52 * 2 ^ e := by norm_cast
    have hratio' : (2 : ℚ) ^ 52 * 2 ^ e ≤ num / den :=
      (le_div_iff₀ hpos).mp (by exact_mod_cast hratio)
    calc |r - num / den| ≤ (num / den / 2 ^ e - 2 ^ 52) * 2 ^ e := by rw [hr]; gcongr
      _ = num / den - 2 ^ 52 * 2 ^ e := by rw [sub_mul, div_mul_cancel₀ _ hpos.ne']
      _ < num / den - v := by linarith
      _ ≤ |v - num / den| := by rw [abs_sub_comm]; exact le_abs_self _
  · obtain ⟨i, hi⟩ : ∃ i : Nat, j = e + i := ⟨(j - e).toNat, by omega⟩
    have hv : v = ((k * 2 ^ i : Int) : ℚ) * 2 ^ e := by
      show (k : ℚ) * 2 ^ j = _
      rw [hi, two_zpow_add, zpow_natCast]
      push_cast
      ring
    have hr' : r = (significand num den : ℚ) * 2 ^ e := by rw [← he]
    rcases hclosest (k * 2 ^ i) with h | h | ⟨h, heven, hodd⟩
    · left
      rw [hr, hv, hscale]
      exact mul_lt_mul_of_pos_right h hpos
    · right; left
      rw [hv, hr', h, Int.cast_natCast]
    · right; right
      refine ⟨by rw [hr, hv, hscale, h], heven, ?_⟩
      have := Int.odd_iff.mpr hodd
      exact Int.odd_iff.mp (Int.odd_mul.mp this).1

/-- What rounding returns: the significand at its exponent, one carried over when it has 54 bits. -/
theorem round?_eq_some {neg : Bool} {x : Binary64} (hd : 0 < den)
    (h : round? neg num den = some x) : x.Canonical ∧ x.neg = neg ∧
      (num = 0 ∧ x.mant = 0 ∨ num ≠ 0 ∧
        (x.mant * 2 ^ x.exp : ℚ) = significand num den * 2 ^ exponentFor num den ∧
        (significand num den % 2 = 0 → x.mant % 2 = 0)) := by
  by_cases hn : num = 0
  · obtain rfl : zero neg = x := by simpa [round?, hn] using h
    exact ⟨canonical_zero neg, rfl, .inl ⟨hn, rfl⟩⟩
  obtain ⟨hle, hnormal⟩ := significand_bounds hn hd
  have hmin := (exponentFor_spec hn hd.ne').1
  have hm : divNearestEven (scaled num den (-exponentFor num den)).1
    (scaled num den (-exponentFor num den)).2 = significand num den := rfl
  simp only [round?, hn, if_false, hm] at h
  have h53 : (1 <<< 53 : Nat) = 2 ^ 53 := rfl
  have h52 : (1 <<< 52 : Nat) = 2 ^ 52 := rfl
  rw [h53, h52] at h
  by_cases hcarry : significand num den = 2 ^ 53
  · obtain ⟨hmax, rfl⟩ : ¬maxExp < exponentFor num den + 1 ∧
        (⟨neg, 2 ^ 52, exponentFor num den + 1⟩ : Binary64) = x := by simpa [hcarry] using h
    refine ⟨⟨by norm_num, .inl le_rfl, by simp only; omega, by simp only; omega⟩, rfl,
      .inr ⟨hn, ?_, ?_⟩⟩
    · rw [hcarry, add_comm _ (1 : Int), two_zpow_add]
      push_cast
      ring
    · intro _
      norm_num
  · simp only [hcarry, if_false] at h
    split_ifs at h with h0 hmax
    · obtain rfl := Option.some.inj h
      exact ⟨canonical_zero neg, rfl, .inr ⟨hn, by simp [zero, h0], fun _ => rfl⟩⟩
    · obtain rfl := Option.some.inj h
      exact ⟨⟨by simp only; omega, hnormal.symm, hmin, by simp only; omega⟩, rfl,
        .inr ⟨hn, rfl, id⟩⟩

/-- A number of the format is nearest to itself. -/
theorem nearest_value_iff {x : Binary64} (hx : x.Canonical) (y : Binary64) :
    y.Nearest x.value ↔ y.Canonical ∧ y.value = x.value := by
  refine nearest_of_closest hx (fun z _ => ?_) y
  rw [sub_self, abs_zero]
  by_cases hz : z.value = x.value
  · exact .inr (.inl hz)
  · exact .inl (abs_pos.mpr (sub_ne_zero.mpr hz))

/-- The factor of a sign. -/
def signOf (neg : Bool) : ℤ := if neg then -1 else 1

theorem signOf_eq (neg : Bool) : signOf neg = 1 ∨ signOf neg = -1 := by
  cases neg
  · exact .inl rfl
  · exact .inr rfl

theorem value_eq (x : Binary64) : x.value = signOf x.neg * (x.mant * 2 ^ x.exp) := by
  cases h : x.neg <;> simp [value, signOf, h]

/-- Distances from a ratio with a sign. -/
theorem abs_sub_signOf_mul (neg : Bool) (v q : ℚ) :
    |v - signOf neg * q| = |signOf neg * v - q| := by
  rcases signOf_eq neg with h | h
  · simp [h]
  · rw [h, ← abs_neg]
    congr 1
    push_cast
    ring

/-- **Rounding is to the nearest.** A number is nearest to a ratio if and only if it is canonical
and denotes what the rounded ratio denotes. -/
theorem nearest_round?_iff {neg : Bool} {x : Binary64} (hd : 0 < den)
    (h : round? neg num den = some x) (y : Binary64) :
    y.Nearest (signOf neg * (num / den)) ↔ y.Canonical ∧ y.value = x.value := by
  obtain ⟨hx, hneg, hparts⟩ := round?_eq_some hd h
  refine nearest_of_closest hx (fun y hy => ?_) y
  rw [abs_sub_signOf_mul, abs_sub_signOf_mul]
  have hsign : (signOf neg : ℚ) * signOf neg = 1 := by
    rcases signOf_eq neg with h | h <;> simp [h]
  have hxv : signOf neg * x.value = x.mant * 2 ^ x.exp := by
    rw [value_eq, hneg, ← mul_assoc, hsign, one_mul]
  obtain ⟨k, hk, hkv⟩ : ∃ k : Int, k.natAbs = y.mant ∧ signOf neg * y.value = k * 2 ^ y.exp := by
    refine ⟨signOf neg * signOf y.neg * y.mant, ?_, ?_⟩
    · rcases signOf_eq neg with h | h <;> rcases signOf_eq y.neg with h' | h' <;> simp [h, h']
    · rw [value_eq]
      push_cast
      ring
  have hcancel : y.value = x.value ↔ (k * 2 ^ y.exp : ℚ) = x.mant * 2 ^ x.exp := by
    rw [← hkv, ← hxv]
    exact (mul_right_inj' (left_ne_zero_of_mul_eq_one hsign)).symm
  rw [hcancel, hxv, hkv]
  rcases hparts with ⟨hn, hm⟩ | ⟨hn, hm, heven⟩
  · by_cases hk0 : (k * 2 ^ y.exp : ℚ) = 0
    · right; left
      simp [hk0, hm]
    · left
      have hpos := abs_pos.mpr hk0
      simpa [hn, hm] using hpos
  · have habs : |k| < 2 ^ 53 := by
      rw [Int.abs_eq_natAbs, hk]
      exact_mod_cast hy.mant_lt
    rw [hm]
    rcases significand_closest hn hd habs hy.le_exp with h | h | ⟨h, hs, ho⟩
    · exact .inl h
    · exact .inr (.inl h)
    · exact .inr (.inr ⟨h, heven hs, by omega⟩)

/-! ## Integers -/

/-- A ratio whose exponent is below the greatest one is not too large. -/
theorem exists_round? (neg : Bool) (h : exponentFor num den < maxExp) :
    ∃ x, round? neg num den = some x := by
  simp only [round?]
  split_ifs <;> first | exact ⟨_, rfl⟩ | omega

/-- The exponent of a natural of at most `52 + k` bits, if that is not the least one. -/
theorem exponentFor_lt {n : Nat} {k : Int} (hk : minExp < k) (hn : n ≠ 0)
    (h : (n : ℚ) < 2 ^ (k + 52)) : exponentFor n 1 < k := by
  rcases (exponentFor_spec hn one_ne_zero).2.2 with he | he
  · omega
  · have := two_zpow_lt_iff.mp (he.trans_lt (by simpa using h))
    omega

/-- An integer of 64 bits is not too large. -/
theorem exists_ofInt? {i : Int} (h : i.natAbs ≤ 2 ^ 64) : ∃ x, ofInt? i = some x := by
  by_cases hi : i.natAbs = 0
  · exact ⟨_, by simp [ofInt?, round?, hi]; rfl⟩
  · refine exists_round? _ ((exponentFor_lt (k := 13) (by decide) hi ?_).trans (by decide))
    have h' : (i.natAbs : ℚ) ≤ 2 ^ 64 := by exact_mod_cast h
    exact h'.trans_lt (by norm_num)

/-- A natural is not rounded to zero. -/
theorem mant_ne_zero_of_round? {neg : Bool} {n : Nat} {x : Binary64} (hn : n ≠ 0)
    (h : round? neg n 1 = some x) : x.mant ≠ 0 := by
  obtain ⟨-, -, ⟨h0, -⟩ | ⟨-, hm, -⟩⟩ := round?_eq_some one_pos h
  · exact absurd h0 hn
  have hsig : significand n 1 ≠ 0 := by
    rcases (significand_bounds hn one_pos).2 with he | hs
    · have hup := (exponentFor_spec hn one_ne_zero).2.1
      have hone : (1 : ℚ) ≤ n := by exact_mod_cast Nat.one_le_iff_ne_zero.mpr hn
      have hlow : (2 : ℚ) ^ (minExp + 53) ≤ 2 ^ (0 : Int) := two_zpow_le_iff.mpr (by decide)
      rw [he, Nat.cast_one, div_one] at hup
      rw [zpow_zero] at hlow
      linarith
    · omega
  intro hx
  rw [hx, Nat.cast_zero, zero_mul, eq_comm, mul_eq_zero] at hm
  exact hsig (by exact_mod_cast hm.resolve_right (two_zpow_pos _).ne')

/-- A natural below `2 ^ 53` is a significand at no positive exponent. -/
theorem significand_natCast {n : Nat} (hn : n ≠ 0) (h : n < 2 ^ 53) :
    (significand n 1 * 2 ^ exponentFor n 1 : ℚ) = n := by
  have h' : (n : ℚ) < 2 ^ 53 := by exact_mod_cast h
  have he : exponentFor n 1 < 1 := exponentFor_lt (by decide) hn (h'.trans_le (by norm_num))
  have hs : scaled n 1 (-exponentFor n 1) = (n <<< (-exponentFor n 1).toNat, 1) :=
    if_pos (by omega)
  have hratio := scaled_ratio n 1 (-exponentFor n 1)
  have hm : significand n 1 = (scaled n 1 (-exponentFor n 1)).1 := by
    simp [significand, hs, divNearestEven, Nat.mod_one]
  rw [hm]
  rw [hs] at hratio ⊢
  rw [Nat.cast_one, div_one, div_one] at hratio
  rw [hratio, mul_assoc, ← two_zpow_add, neg_add_cancel, zpow_zero, mul_one]

/-- An integer of at most 53 bits is a number itself. -/
theorem value_ofInt? {i : Int} {x : Binary64} (h : i.natAbs < 2 ^ 53) (hx : ofInt? i = some x) :
    x.value = i := by
  obtain ⟨-, hneg, hparts⟩ := round?_eq_some one_pos hx
  have hmag : (x.mant * 2 ^ x.exp : ℚ) = i.natAbs := by
    rcases hparts with ⟨hi, hm⟩ | ⟨hi, hm, -⟩
    · simp [hi, hm]
    · rw [hm, significand_natCast hi h]
  rw [value_eq, hmag, hneg, ← Int.cast_natCast, ← Int.cast_mul, Int.cast_inj, signOf]
  split_ifs with hi <;> simp at hi <;> omega

/-- Numbers nearest to something of at least 54 bits have as many. -/
theorem Nearest.abs_value_ge {x : Binary64} {q : ℚ} (h : x.Nearest q) (hq : 2 ^ 53 ≤ |q|) :
    2 ^ 53 ≤ |x.value| := by
  let y : Binary64 := ⟨decide (q < 0), 2 ^ 52, 1⟩
  have hy : y.Canonical :=
    ⟨by norm_num [y], .inl le_rfl, by norm_num [y, minExp], by norm_num [y, maxExp]⟩
  have hdist : |y.value - q| = |q| - 2 ^ 53 := by
    by_cases h0 : q < 0
    · have : y.value = -2 ^ 53 := by norm_num [y, value, h0]
      rw [abs_of_neg h0] at hq ⊢
      rw [this, abs_of_nonneg (by linarith)]
      ring
    · have : y.value = 2 ^ 53 := by norm_num [y, value, h0]
      rw [abs_of_nonneg (not_lt.mp h0)] at hq ⊢
      rw [this, abs_of_nonpos (by linarith)]
      ring
  have := h.le y hy
  have := abs_sub_abs_le_abs_sub q x.value
  rw [abs_sub_comm q] at this
  linarith

end Testbed.Binary64
