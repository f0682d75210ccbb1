import Mathlib.Data.List.TakeWhile

/-!
# Texts that end where another one begins

A text whose characters are all of one kind ends where the first character of another kind stands
(`append_inj_of_head`). So a number in decimal is known from its digits, whatever comes behind them
that is no digit (`decimal_append_inj`).
-/

namespace Testbed.Text

/-- Texts of one kind of characters end where another kind follows. -/
theorem append_inj_of_head {p : Char → Bool} {xs ys us vs : List Char}
    (hx : ∀ c ∈ xs, p c = true) (hy : ∀ c ∈ ys, p c = true) (hu : ∀ c ∈ us.head?, p c = false)
    (hv : ∀ c ∈ vs.head?, p c = false) (h : xs ++ us = ys ++ vs) : xs = ys ∧ us = vs := by
  have htake {xs us : List Char} (hx : ∀ c ∈ xs, p c = true) (hu : ∀ c ∈ us.head?, p c = false) :
      (xs ++ us).takeWhile p = xs := by
    rw [List.takeWhile_append_of_pos hx]
    cases us with
    | nil => simp
    | cons c us => simp [hu c rfl]
  have hxy : xs = ys := by rw [← htake hx hu, h, htake hy hv]
  subst hxy
  exact ⟨rfl, List.append_cancel_left h⟩

theorem isDigit_of_mem_decimal {n : Nat} {c : Char} (h : c ∈ (toString n).toList) :
    c.isDigit = true := by
  rw [Nat.toString_eq_repr, Nat.toList_repr] at h
  exact Nat.isDigit_of_mem_toDigits (by decide) (by decide) h

/-- A number in decimal is known from its digits, and they end where no digit follows. -/
theorem decimal_append_inj {n m : Nat} {us vs : List Char} (hu : ∀ c ∈ us.head?, c.isDigit = false)
    (hv : ∀ c ∈ vs.head?, c.isDigit = false)
    (h : (toString n).toList ++ us = (toString m).toList ++ vs) : n = m ∧ us = vs := by
  obtain ⟨hdigits, hrest⟩ := append_inj_of_head (fun _ => isDigit_of_mem_decimal)
    (fun _ => isDigit_of_mem_decimal) hu hv h
  simp only [Nat.toString_eq_repr, Nat.toList_repr] at hdigits
  refine ⟨?_, hrest⟩
  rw [← Nat.ofDigitChars_ten_toDigits (n := n), hdigits, Nat.ofDigitChars_ten_toDigits]

end Testbed.Text
