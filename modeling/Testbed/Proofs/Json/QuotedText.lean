import Mathlib.Tactic.SplitIfs
import Testbed.Json.Printer
import Testbed.Text.Utf8

/-!
# Quoted texts

A text in quotes ends at its closing quote, whatever it says: no character of it is written with a
quote in front, and each is read back from how it is written (`unescape?_escapeChar`). So the text
is known from its quoted form, and what comes behind it as well (`quoted_append_inj`).

Nothing in a quoted text is below U+0020 (`not_control_of_mem_quoted`).
-/

namespace Testbed.Json

/-- The character that the inside of a quoted text begins with, and what is behind it. -/
def unescape? : List Char → Option (Char × List Char)
  | [] | '"' :: _ => none
  | '\\' :: 'b' :: rest => some ('\x08', rest)
  | '\\' :: 'f' :: rest => some ('\x0c', rest)
  | '\\' :: 'n' :: rest => some ('\n', rest)
  | '\\' :: 'r' :: rest => some ('\r', rest)
  | '\\' :: 't' :: rest => some ('\t', rest)
  | '\\' :: 'u' :: _ :: _ :: a :: b :: rest =>
    some (Char.ofNat ((hexValue? a).getD 0 * 16 + (hexValue? b).getD 0), rest)
  | '\\' :: c :: rest => some (c, rest)
  | c :: rest => some (c, rest)

theorem hexValue?_digitChar : ∀ n < 16, hexValue? (Nat.digitChar n) = some n := by decide

/-- **A character is read back** from how it is written. -/
theorem unescape?_escapeChar (c : Char) (rest : List Char) :
    unescape? (escapeChar c ++ rest) = some (c, rest) := by
  unfold escapeChar
  split_ifs with _ hbackslash _ _ _ _ _ hcontrol
  case pos | pos | pos | pos | pos | pos | pos => subst c; rfl
  · have hhigh := hexValue?_digitChar (c.toNat / 16) (by omega)
    have hlow := hexValue?_digitChar (c.toNat % 16) (by omega)
    have hsum : c.toNat / 16 * 16 + c.toNat % 16 = c.toNat := by omega
    simp [unescape?, hhigh, hlow, hsum]
  · simp [unescape?, hbackslash]

theorem escapeChar_append_inj {c d : Char} {us vs : List Char}
    (h : escapeChar c ++ us = escapeChar d ++ vs) : c = d ∧ us = vs := by
  have hread := unescape?_escapeChar c us
  rw [h, unescape?_escapeChar] at hread
  simpa [eq_comm] using hread

/-- No character is written with a quote in front. -/
theorem escapeChar_append_ne_quote (c : Char) (us vs : List Char) :
    escapeChar c ++ us ≠ '"' :: vs := by
  intro h
  have hread := unescape?_escapeChar c us
  rw [h] at hread
  cases hread

theorem flatMap_escapeChar_append_inj {xs ys us vs : List Char}
    (h : xs.flatMap escapeChar ++ '"' :: us = ys.flatMap escapeChar ++ '"' :: vs) :
    xs = ys ∧ us = vs := by
  induction xs generalizing ys with
  | nil =>
    cases ys with
    | nil => exact ⟨rfl, (List.cons.inj h).2⟩
    | cons d ys =>
      rw [List.flatMap_cons, List.append_assoc] at h
      exact absurd h.symm (escapeChar_append_ne_quote d _ _)
  | cons c xs ih =>
    rw [List.flatMap_cons, List.append_assoc] at h
    cases ys with
    | nil => exact absurd h (escapeChar_append_ne_quote c _ _)
    | cons d ys =>
      rw [List.flatMap_cons, List.append_assoc] at h
      obtain ⟨hcd, hbehind⟩ := escapeChar_append_inj h
      obtain ⟨hxy, hrest⟩ := ih hbehind
      exact ⟨by rw [hcd, hxy], hrest⟩

/-- **A text is known from its quoted form**, which ends with its closing quote. -/
theorem quoted_append_inj {s t : String} {us vs : List Char}
    (h : quoted s ++ us = quoted t ++ vs) : s = t ∧ us = vs := by
  simp only [quoted, List.cons_append, List.append_assoc, List.nil_append, List.cons.injEq,
    true_and] at h
  obtain ⟨hchars, hrest⟩ := flatMap_escapeChar_append_inj h
  exact ⟨String.toList_inj.mp hchars, hrest⟩

/-! ## Control characters -/

theorem digitChar_ge : ∀ n < 16, 0x20 ≤ (Nat.digitChar n).toNat := by decide

theorem not_control_of_mem_escapeChar {c d : Char} (h : d ∈ escapeChar c) : 0x20 ≤ d.toNat := by
  have hpair {a b : Char} (ha : 0x20 ≤ a.toNat) (hb : 0x20 ≤ b.toNat) (hd : d ∈ [a, b]) :
      0x20 ≤ d.toNat := by
    simp only [List.mem_cons, List.not_mem_nil, or_false] at hd
    rcases hd with rfl | rfl <;> assumption
  unfold escapeChar at h
  split_ifs at h with _ _ _ _ _ _ _ hcontrol
  case pos | pos | pos | pos | pos | pos | pos => exact hpair (by decide) (by decide) h
  · have hhigh := digitChar_ge (c.toNat / 16) (by omega)
    have hlow := digitChar_ge (c.toNat % 16) (by omega)
    simp only [List.mem_cons, List.not_mem_nil, or_false] at h
    rcases h with rfl | rfl | rfl | rfl | rfl | rfl
    case inr.inr.inr.inr.inl => exact hhigh
    case inr.inr.inr.inr.inr => exact hlow
    all_goals decide
  · rw [List.mem_singleton.mp h]
    omega

/-- Nothing in a quoted text is a control character below the space. -/
theorem not_control_of_mem_quoted {s : String} {d : Char} (h : d ∈ quoted s) : 0x20 ≤ d.toNat := by
  simp only [quoted, List.mem_append, List.mem_cons, List.mem_flatMap, List.not_mem_nil,
    or_false] at h
  rcases h with (rfl | ⟨c, -, hd⟩) | rfl
  · decide
  · exact not_control_of_mem_escapeChar hd
  · decide

end Testbed.Json
