import Mathlib.Tactic.SplitIfs
import Testbed.Url.Path

/-!
# The end of a path

Segments `.` and `..` leave no trace in a path, and `..` takes the one before it away. What comes
last is safe: a text that ends in an asterisk makes a last segment that ends in one
(`getLast?_segmentsOf`).
-/

namespace Testbed.Url

theorem getLast?_splitAt {p : Char → Bool} {cs : List Char} {c : Char} (hp : p c = false)
    (h : cs.getLast? = some c) : ∃ s, (splitAt p cs).getLast? = some s ∧ s.getLast? = some c := by
  induction cs with
  | nil => cases h
  | cons d rest ih =>
    cases rest with
    | nil =>
      obtain rfl : d = c := by simpa using h
      exact ⟨[d], by simp [splitAt, hp], rfl⟩
    | cons e rest =>
      rw [List.getLast?_cons_cons] at h
      obtain ⟨s, hs, hc⟩ := ih h
      unfold splitAt
      cases hsplit : splitAt p (e :: rest) with
      | nil => simp [hsplit] at hs
      | cons part parts =>
        rw [hsplit] at hs
        split_ifs
        · exact ⟨s, by rw [List.getLast?_cons_cons]; exact hs, hc⟩
        · cases parts with
          | nil =>
            obtain rfl : part = s := by simpa using hs
            refine ⟨d :: part, rfl, ?_⟩
            rw [List.getLast?_cons, hc]
            rfl
          | cons q parts => exact ⟨s, by simpa using hs, hc⟩

theorem getLast?_percentEncode {inSet : Char → Bool} {cs : List Char} {c : Char}
    (hc : encodeChar inSet c = [c]) (h : cs.getLast? = some c) :
    (percentEncode inSet cs).getLast? = some c := by
  obtain ⟨front, rfl⟩ := List.getLast?_eq_some_iff.mp h
  simp [percentEncode, hc]

theorem getLast?_readPoints {cs : List Char} (h : cs.getLast? = some '*') :
    (readPoints cs).getLast? = some '*' := by
  have hcons {c : Char} {l : List Char} (hl : (readPoints l).getLast? = some '*') :
      (c :: readPoints l).getLast? = some '*' := by
    rw [List.getLast?_cons, hl]
    rfl
  fun_induction readPoints cs with
  | case1 rest ih =>
    cases rest with
    | nil => cases h
    | cons c rest => exact hcons (ih (by simpa using h))
  | case2 rest ih =>
    cases rest with
    | nil => cases h
    | cons c rest => exact hcons (ih (by simpa using h))
  | case3 c rest _ _ ih =>
    cases rest with
    | nil => exact h
    | cons d rest => exact hcons (ih (by simpa using h))
  | case4 => cases h

/-- A last segment that ends in an asterisk stays. -/
theorem getLast?_addSegments {segments parts : List (List Char)} {s : List Char}
    (h : parts.getLast? = some s) (hs : s.getLast? = some '*') :
    ∃ t, (addSegments false segments parts).getLast? = some t ∧ t.getLast? = some '*' := by
  induction parts generalizing segments with
  | nil => cases h
  | cons part rest ih =>
    cases rest with
    | nil =>
      obtain rfl : part = s := by simpa using h
      have hread := getLast?_readPoints hs
      have hkept : keptSegment false segments.isEmpty part = part := by
        unfold keptSegment
        split <;> simp
      refine ⟨part, ?_, hs⟩
      simp only [addSegments, hkept]
      rw [if_neg, if_neg]
      · simp
      · intro hdot
        rw [hdot] at hread
        cases hread
      · intro hdots
        rw [hdots] at hread
        cases hread
    | cons q rest =>
      rw [List.getLast?_cons_cons] at h
      exact ih h

theorem getLast?_pathText {segments : List (List Char)} {s : List Char} {c : Char}
    (h : segments.getLast? = some s) (hs : s.getLast? = some c) :
    (pathText segments).getLast? = some c := by
  obtain ⟨front, rfl⟩ := List.getLast?_eq_some_iff.mp h
  obtain ⟨text, rfl⟩ := List.getLast?_eq_some_iff.mp hs
  simp [pathText, List.getLast?_cons]

theorem getLast?_segmentsOf {cs : List Char} (h : cs.getLast? = some '*') :
    ∃ s, (segmentsOf true false cs).getLast? = some s ∧ s.getLast? = some '*' := by
  obtain ⟨s, hs, hc⟩ := getLast?_splitAt (p := fun c => c == '/' || (true && c == '\\')) rfl h
  refine getLast?_addSegments (s := percentEncode inPathSet s) ?_
    (getLast?_percentEncode (by decide) hc)
  rw [List.getLast?_map, hs]
  rfl

end Testbed.Url
