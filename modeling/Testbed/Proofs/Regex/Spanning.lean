import Testbed.Proofs.Regex.Searching

/-!
# Matches of a whole text

**Theorem (`matches_spanning`).** A pattern between the required start and the required end of a
text matches somewhere in the text if and only if the pattern matches the whole text.
-/

namespace Testbed.Regex

variable {text : Array Char} {R : Nat → Nat → Prop} {n i j : Nat}

/-! ## Places of matches -/

theorem rounds_le {size : Nat} (hR : ∀ i j, R i j → i ≤ size → j ≤ size) (h : Rounds R n i j)
    (hi : i ≤ size) : j ≤ size := by
  induction n generalizing i with
  | zero =>
    cases h
    exact hi
  | succ n ih =>
    obtain ⟨k, hk, hrest⟩ := h
    exact ih hrest (hR i k hk hi)

/-- A match that starts in a text ends there. -/
theorem Node.Matches.le {node : Node} (h : node.Matches text i j) (hi : i ≤ text.size) :
    j ≤ text.size := by
  induction node generalizing i j with
  | empty =>
    cases h
    exact hi
  | set s =>
    obtain ⟨rfl, c, hc, -⟩ := h
    exact (Array.getElem?_eq_some_iff.mp hc).1
  | look l =>
    obtain ⟨rfl, -⟩ := h
    exact hi
  | capture index body ih => exact ih h hi
  | seq a b iha ihb =>
    obtain ⟨k, hk, hj⟩ := h
    exact ihb hj (iha hk hi)
  | alt a b iha ihb =>
    obtain h | h := h
    · exact iha h hi
    · exact ihb h hi
  | loop low high greedy body ih =>
    obtain ⟨n, -, -, hrounds⟩ := h
    exact rounds_le (fun i j hij => ih hij) hrounds hi

/-! ## Whole texts -/

/-- A pattern that must match a whole text. -/
def Node.spanning (node : Node) : Node := .seqs [.look .textStart, node, .look .textEnd]

theorem textStart_holds (hi : i ≤ text.size) :
    Look.textStart.holds (Thread.before text i) text[i]? = true ↔ i = 0 := by
  cases i with
  | zero => simp [Look.holds, Thread.before]
  | succ i =>
    have hsome : text[i]? = some text[i] := Array.getElem?_eq_getElem hi
    simp [Look.holds, Thread.before, hsome]

theorem textEnd_holds (hi : i ≤ text.size) :
    Look.textEnd.holds (Thread.before text i) text[i]? = true ↔ i = text.size := by
  simp only [Look.holds, Option.isNone_iff_eq_none, Array.getElem?_eq_none_iff]
  omega

/-- **Theorem.** A pattern between the required start and the required end of a text matches
somewhere in the text if and only if it matches the whole text. -/
theorem matches_spanning (node : Node) (text : Array Char) :
    (∃ i j, i ≤ text.size ∧ node.spanning.Matches text i j) ↔ node.Matches text 0 text.size := by
  constructor
  · rintro ⟨i, j, hi, k, ⟨rfl, hstart⟩, m, hm, rfl, hend⟩
    obtain rfl := (textStart_holds hi).mp hstart
    obtain rfl := (textEnd_holds (hm.le hi)).mp hend
    exact hm
  · intro h
    have hstart := (textStart_holds (Nat.zero_le text.size)).mpr rfl
    have hend := (textEnd_holds (Nat.le_refl text.size)).mpr rfl
    exact ⟨0, text.size, Nat.zero_le _, 0, ⟨rfl, hstart⟩, text.size, h, rfl, hend⟩

end Testbed.Regex
