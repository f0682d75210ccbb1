import Testbed.Http.Route
import Testbed.Proofs.Regex.Compiled

/-!
# Routes by regular expressions

A route by a regular expression accepts a path if the pattern matches all of it. The pattern is
enclosed as text for that, so the route stands for the pattern only where the pattern stays whole.

**Theorem (`anchored_iff`).** For a pattern that makes an expression, a route can be made if and
only if the pattern does not swallow a parenthesis behind it, as a comment at its end does, has room
for two more levels of nesting, and is not too large where it is enclosed. The route then accepts
the paths that the pattern matches from the first to the last character. For a pattern that makes no
expression, a route can be made only if the pattern closes a group that it did not open, or is too
large alone.
-/

namespace Testbed.Http.PathMatcher

variable {budget : Regex.Budget} {p : String} {r : Regex} {m : PathMatcher}

theorem ofPattern_eq_ok_iff : ofPattern budget p = .ok m ↔
    ∃ r, Regex.compile budget ("^(?:" ++ p ++ ")$") = .ok r ∧ m = .pattern r := by
  unfold ofPattern anchored
  rcases Regex.compile budget ("^(?:" ++ p ++ ")$") with e | r
  · simp
  · simp [eq_comm]

theorem exists_ofPattern_iff : (∃ m, ofPattern budget p = .ok m) ↔
    ∃ r, Regex.compile budget ("^(?:" ++ p ++ ")$") = .ok r := by
  simp only [ofPattern_eq_ok_iff, exists_comm, exists_and_left, exists_eq, and_true]

/-- A route accepts the paths that its pattern matches from end to end. -/
theorem params?_isSome_iff (hr : Regex.compile budget p = .ok r)
    (hm : ofPattern budget p = .ok m) (path : String) :
    (m.params? path).isSome ↔ r.node.Matches path.toList.toArray 0 path.length := by
  obtain ⟨r', hr', rfl⟩ := ofPattern_eq_ok_iff.mp hm
  rw [Regex.eq_ofNode_of_compile_enclosed hr hr']
  simp only [params?, Option.isSome_map]
  rw [Regex.captures_isSome_iff]
  exact Regex.matches_spanning r.node path.toList.toArray

/-- **Theorem.** Whatever patterns the engine finds too large:

1. A route by a pattern that makes an expression can be made if and only if the pattern stays whole
   where it is enclosed, and is neither nested too deep nor too large there.
2. The expression is found in the paths of which the pattern matches a part, and the route accepts
   those that the pattern matches from end to end.
3. A route by any other pattern can be made only if the pattern closes a group that it did not open,
   or if it is too large but not where it is enclosed. -/
theorem anchored_iff (budget : Regex.Budget) (p : String) :
    (∀ r, Regex.compile budget p = .ok r →
      ((∃ m, ofPattern budget p = .ok m) ↔ (¬ ∃ a, Regex.Ast.parse (p ++ ")") = .ok a) ∧
        (∀ a, Regex.Ast.parse p = .ok a → a.tooDeep? 2 = none) ∧
        budget (anchored p) = true) ∧
      ∀ m, ofPattern budget p = .ok m → ∀ path,
        ((r.captures path).isSome ↔
          ∃ i j, i ≤ path.length ∧ r.node.Matches path.toList.toArray i j) ∧
        ((m.params? path).isSome ↔ r.node.Matches path.toList.toArray 0 path.length)) ∧
    ∀ e, Regex.compile budget p = .error e → (∃ m, ofPattern budget p = .ok m) →
      (∃ f, e = .faulty p f ∧ f.cause = .groupUnopened) ∨
      e = .tooLarge ∧ budget p = false ∧ budget (anchored p) = true := by
  refine ⟨fun r hr => ⟨?_, fun m hm path => ⟨?_, ?_⟩⟩, fun e he hm => ?_⟩
  · rw [exists_ofPattern_iff]
    exact Regex.compile_enclosed_iff hr
  · obtain ⟨-, a, node, -, -, rfl⟩ := Regex.compile_eq_ok_iff.mp hr
    exact Regex.captures_isSome_iff node path
  · exact params?_isSome_iff hr hm path
  · obtain ⟨r, hr⟩ := exists_ofPattern_iff.mp hm
    obtain hfault | ⟨rfl, hlarge⟩ := Regex.error_of_compile_enclosed he hr
    · exact .inl hfault
    · exact .inr ⟨rfl, hlarge, (Regex.compile_eq_ok_iff.mp hr).1⟩

/-- The pattern `/a|/b` stands for itself. The pattern `(?x)/a # all` ends in a comment and makes no
route. The text `/a)|(/b` is no pattern but makes a route, which accepts `/ax`. None of them is
large. -/
theorem unopened_group_escapes :
    let budget : Regex.Budget := fun pattern => decide (pattern.length ≤ 100)
    (∃ r m, Regex.compile budget "/a|/b" = .ok r ∧ ofPattern budget "/a|/b" = .ok m ∧
      ∀ path, (m.params? path).isSome ↔ r.node.Matches path.toList.toArray 0 path.length) ∧
    (∃ r, Regex.compile budget "(?x)/a # all" = .ok r ∧
      ¬ ∃ m, ofPattern budget "(?x)/a # all" = .ok m) ∧
    ∃ f m, Regex.compile budget "/a)|(/b" = .error (.faulty "/a)|(/b" f) ∧
      f.cause = .groupUnopened ∧ ofPattern budget "/a)|(/b" = .ok m ∧
      m.params? "/ax" = some [""] := by
  intro budget
  refine ⟨⟨_, _, rfl, rfl, fun path => ?_⟩, ⟨_, rfl, fun hm => ?_⟩, ?_⟩
  · exact (((anchored_iff budget "/a|/b").1 _ rfl).2 _ rfl path).2
  · exact (((anchored_iff budget "(?x)/a # all").1 _ rfl).1.mp hm).1 ⟨_, rfl⟩
  · obtain ⟨f, hf, hcause⟩ | ⟨hlarge, -⟩ := (anchored_iff budget "/a)|(/b").2 _ rfl ⟨_, rfl⟩
    · cases hf
      exact ⟨_, _, rfl, hcause, rfl, rfl⟩
    · cases hlarge

end Testbed.Http.PathMatcher
