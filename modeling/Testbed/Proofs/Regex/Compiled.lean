import Testbed.Proofs.Regex.Enclosed
import Testbed.Proofs.Regex.Spanning

/-!
# Expressions of enclosed patterns

**Theorem (`compile_enclosed_iff`).** A pattern that makes an expression makes one where it is
enclosed if and only if a parenthesis behind it is not read as a part of it, there is room for two
more levels of nesting, and it is not too large there. That expression is the one of the pattern
between the start and the end of a text.
-/

namespace Testbed.Regex

variable {budget : Budget} {p : String} {x y : Ast} {f : Fault} {node : Node} {r : Regex}

/-! ## Depth -/

mutual

theorem ClassTerm.tooDeep_of_succ (depth : Nat) :
    (t : ClassTerm) → t.tooDeep? (depth + 1) = none → t.tooDeep? depth = none
  | .empty _, _ | .literal _, _ | .range _ _ _, _ | .named _ _ _, _ | .letter _ _ _, _
  | .property _ _ _, _ => rfl
  | .bracketed _ _ body, h => by
    have hbody := body.tooDeep_of_succ (depth + 1)
    simp only [ClassTerm.tooDeep?] at h ⊢
    split at h
    · cases h
    · rw [if_neg (by omega)]
      exact hbody h
  | .union _ items, h => by
    have hitems := ClassTerm.tooDeepIn_of_succ (depth + 1) items
    simp only [ClassTerm.tooDeep?] at h ⊢
    split at h
    · cases h
    · rw [if_neg (by omega)]
      exact hitems h
  | .op _ _ left right, h => by
    have hleft := left.tooDeep_of_succ (depth + 1)
    have hright := right.tooDeep_of_succ (depth + 1)
    simp only [ClassTerm.tooDeep?] at h ⊢
    split at h
    · cases h
    · rw [if_neg (by omega)]
      rw [Option.or_eq_none_iff] at h ⊢
      exact ⟨hleft h.1, hright h.2⟩

theorem ClassTerm.tooDeepIn_of_succ (depth : Nat) : (items : List ClassTerm) →
    ClassTerm.tooDeepIn? (depth + 1) items = none → ClassTerm.tooDeepIn? depth items = none
  | [], _ => rfl
  | t :: rest, h => by
    simp only [ClassTerm.tooDeepIn?, Option.or_eq_none_iff] at h ⊢
    exact ⟨t.tooDeep_of_succ depth h.1, ClassTerm.tooDeepIn_of_succ depth rest h.2⟩

end

mutual

/-- What is not nested too deep inside one more part is not so outside. -/
theorem Ast.tooDeep_of_succ (depth : Nat) :
    (a : Ast) → a.tooDeep? (depth + 1) = none → a.tooDeep? depth = none
  | .empty _, _ | .flags _ _, _ | .literal _, _ | .dot _, _ | .assertion _ _, _
  | .letter _ _ _, _ | .property _ _ _, _ => rfl
  | .bracketed _ _ body, h => by
    have hbody := body.tooDeep_of_succ (depth + 1)
    simp only [Ast.tooDeep?] at h ⊢
    split at h
    · cases h
    · rw [if_neg (by omega)]
      exact hbody h
  | .repetition _ _ _ _ body, h | .group _ _ body, h => by
    have hbody := Ast.tooDeep_of_succ (depth + 1) body
    simp only [Ast.tooDeep?] at h ⊢
    split at h
    · cases h
    · rw [if_neg (by omega)]
      exact hbody h
  | .concat _ parts, h | .alternation _ parts, h => by
    have hparts := Ast.tooDeepIn_of_succ (depth + 1) parts
    simp only [Ast.tooDeep?] at h ⊢
    split at h
    · cases h
    · rw [if_neg (by omega)]
      exact hparts h

theorem Ast.tooDeepIn_of_succ (depth : Nat) : (parts : List Ast) →
    Ast.tooDeepIn? (depth + 1) parts = none → Ast.tooDeepIn? depth parts = none
  | [], _ => rfl
  | a :: rest, h => by
    simp only [Ast.tooDeepIn?, Option.or_eq_none_iff] at h ⊢
    exact ⟨a.tooDeep_of_succ depth h.1, Ast.tooDeepIn_of_succ depth rest h.2⟩

end

theorem tooDeep_enclosed (a : Ast) : a.enclosed.tooDeep? 0 = none ↔ a.tooDeep? 2 = none := by
  simp [Ast.enclosed, Ast.tooDeep?, Ast.tooDeepIn?, nestLimit]

/-! ## Meaning -/

/-- What a shape means, if it means anything. -/
def Ast.node? (a : Ast) : Option Node := (a.meaning {}).toOption.map Prod.fst

theorem meaning_of_node? (h : x.node? = some node) : ∃ w, x.meaning {} = .ok (node, w) := by
  unfold Ast.node? at h
  rcases hx : x.meaning {} with f | ⟨node', w⟩ <;> rw [hx] at h <;> cases h
  exact ⟨w, rfl⟩

theorem node?_of_bare_eq (h : x.bare = y.bare) : x.node? = y.node? := by
  rw [Ast.node?, meaning_of_bare_eq h, Ast.node?]

theorem bare_enclosed (a : Ast) : a.enclosed.bare = a.bare.enclosed := rfl

/-- Flags that are set in an enclosed pattern end with it. -/
theorem node?_enclosed (a : Ast) : a.enclosed.node? = a.node?.map Node.spanning := by
  have hset : ({} : Switches).set [] = {} := rfl
  simp only [Ast.node?, Ast.enclosed, Ast.meaning, Ast.meanings, ok_bind, hset]
  rcases a.meaning {} with f | ⟨node, w⟩ <;> rfl

theorem parse_eq_ok_iff : Ast.parse p = .ok x ↔ scan p = .ok x ∧ x.tooDeep? 0 = none := by
  rw [parse_eq]
  rcases scan p with f | a
  · simp
  · simp only
    rcases ha : a.tooDeep? 0 with _ | f
    · simp only [Except.ok.injEq]
      refine ⟨fun h => ⟨h, h ▸ ha⟩, fun h => h.1⟩
    · simp only [reduceCtorEq, Except.ok.injEq, false_iff, not_and]
      rintro rfl hnone
      rw [hnone] at ha
      cases ha

theorem compile_eq_ok_iff : compile budget p = .ok r ↔ budget p = true ∧
    ∃ a node, Ast.parse p = .ok a ∧ a.node? = some node ∧ r = ofNode node := by
  unfold compile
  rcases Ast.parse p with f | a
  · simp
  · rcases ha : a.meaning {} with f | ⟨node, w⟩
    · simp [Ast.node?, ha, Except.toOption]
    · cases budget p <;> simp [Ast.node?, ha, Except.toOption, eq_comm]

/-! ## Enclosed patterns -/

theorem scan_enclosed (p : String) : scan ("^(?:" ++ p ++ ")$") = (enclosure p).result :=
  (reads_enclosure p).result

theorem not_compile_of_scan (hf : scan p = .error f) : compile budget p ≠ .ok r := by
  rw [ne_eq, compile_eq_ok_iff]
  rintro ⟨-, a, node, ha, -⟩
  rw [(parse_eq_ok_iff.mp ha).1] at hf
  cases hf

/-- What makes an expression of a pattern that is read alone and then enclosed. -/
theorem compile_enclosed_of_scan (hx : scan p = .ok x) :
    compile budget ("^(?:" ++ p ++ ")$") = .ok r ↔ (∃ f, scan (p ++ ")") = .error f) ∧
      x.tooDeep? 2 = none ∧ budget ("^(?:" ++ p ++ ")$") = true ∧
      ∃ node, x.node? = some node ∧ r = ofNode node.spanning := by
  obtain ⟨x', hx', -⟩ | ⟨hbehind, y, hy, hbare⟩ := result_enclosed hx
  · obtain ⟨f, hf⟩ := enclosed_of_swallowed hx'
    rw [← scan_enclosed] at hf
    refine iff_of_false (not_compile_of_scan hf) ?_
    rintro ⟨⟨f', hf'⟩, -⟩
    rw [hx'] at hf'
    cases hf'
  · rw [← bare_enclosed] at hbare
    have hdepth : y.tooDeep? 0 = none ↔ x.tooDeep? 2 = none := by
      rw [tooDeep_of_bare_eq hbare, tooDeep_enclosed]
    have hnode : y.node? = x.node?.map Node.spanning := by
      rw [node?_of_bare_eq hbare, node?_enclosed]
    rw [← scan_enclosed] at hy
    simp only [compile_eq_ok_iff, parse_eq_ok_iff, hy, Except.ok.injEq]
    constructor
    · rintro ⟨hbudget, _, node, ⟨rfl, hshallow⟩, hmeans, hr⟩
      rw [hnode, Option.map_eq_some_iff] at hmeans
      obtain ⟨node, hmeans, rfl⟩ := hmeans
      exact ⟨hbehind, hdepth.mp hshallow, hbudget, node, hmeans, hr⟩
    · rintro ⟨-, hshallow, hbudget, node, hmeans, hr⟩
      refine ⟨hbudget, y, node.spanning, ⟨rfl, hdepth.mpr hshallow⟩, ?_, hr⟩
      rw [hnode, hmeans]
      rfl

/-- A parenthesis behind a pattern that can be read is read as a part of it if and only if the two
can be read. -/
theorem parse_behind_iff (h : Ast.parse p = .ok x) :
    (∃ y, Ast.parse (p ++ ")") = .ok y) ↔ ¬ ∃ f, scan (p ++ ")") = .error f := by
  obtain ⟨hscan, hshallow⟩ := parse_eq_ok_iff.mp h
  constructor
  · rintro ⟨y, hy⟩ ⟨f, hf⟩
    rw [(parse_eq_ok_iff.mp hy).1] at hf
    cases hf
  · intro hnot
    obtain ⟨x', hx', hbare⟩ | ⟨hf, -⟩ := result_enclosed hscan
    · exact ⟨x', parse_eq_ok_iff.mpr ⟨hx', (tooDeep_of_bare_eq hbare 0).mpr hshallow⟩⟩
    · exact absurd hf hnot

/-- The expression of an enclosed pattern. -/
theorem eq_ofNode_of_compile_enclosed {r' : Regex} (h : compile budget p = .ok r)
    (h' : compile budget ("^(?:" ++ p ++ ")$") = .ok r') : r' = ofNode r.node.spanning := by
  obtain ⟨-, a, node, ha, hnode, rfl⟩ := compile_eq_ok_iff.mp h
  obtain ⟨-, -, -, node', hnode', hr'⟩ :=
    (compile_enclosed_of_scan (parse_eq_ok_iff.mp ha).1).mp h'
  rw [hnode] at hnode'
  cases hnode'
  exact hr'

/-- **Theorem.** A pattern that makes an expression makes one where it is enclosed if and only if it
does not swallow a parenthesis behind it, leaves room for two more levels of nesting, and the text
that encloses it does not make it too large. -/
theorem compile_enclosed_iff (h : compile budget p = .ok r) :
    (∃ r', compile budget ("^(?:" ++ p ++ ")$") = .ok r') ↔
      (¬ ∃ a, Ast.parse (p ++ ")") = .ok a) ∧
      (∀ a, Ast.parse p = .ok a → a.tooDeep? 2 = none) ∧
      budget ("^(?:" ++ p ++ ")$") = true := by
  obtain ⟨-, a, node, ha, hnode, rfl⟩ := compile_eq_ok_iff.mp h
  rw [parse_behind_iff ha, Classical.not_not]
  simp only [compile_enclosed_of_scan (parse_eq_ok_iff.mp ha).1, ha, hnode, Except.ok.injEq,
    Option.some.injEq, forall_eq', exists_eq_left', exists_and_left, exists_eq, and_true]

/-- **Theorem.** A pattern that makes an expression only where it is enclosed closes a group that it
did not open, or is too large alone. -/
theorem error_of_compile_enclosed {e : Error} (h : compile budget p = .error e)
    (h' : compile budget ("^(?:" ++ p ++ ")$") = .ok r) :
    (∃ f, e = .faulty p f ∧ f.cause = .groupUnopened) ∨ e = .tooLarge ∧ budget p = false := by
  rcases hscan : scan p with f | x
  · have he : e = .faulty p f := by
      unfold compile at h
      rw [parse_eq, hscan] at h
      cases h
      rfl
    refine .inl ⟨f, he, Decidable.byContradiction fun hcause => ?_⟩
    obtain ⟨f', hf'⟩ := enclosed_of_fault hscan hcause
    rw [← scan_enclosed] at hf'
    exact not_compile_of_scan hf' h'
  · -- A pattern that is read alone means something, as it does where it is enclosed.
    obtain ⟨-, hshallow, -, node, hnode, -⟩ := (compile_enclosed_of_scan hscan).mp h'
    have hparse : Ast.parse p = .ok x :=
      parse_eq_ok_iff.mpr ⟨hscan, x.tooDeep_of_succ 0 (x.tooDeep_of_succ 1 hshallow)⟩
    obtain ⟨w, hmeans⟩ := meaning_of_node? hnode
    simp only [compile, hparse, hmeans] at h
    split at h
    · cases h
    · rename_i hbudget
      cases h
      exact .inr ⟨rfl, Bool.eq_false_iff.mpr hbudget⟩

end Testbed.Regex
