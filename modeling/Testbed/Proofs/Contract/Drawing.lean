import Mathlib.Data.List.Basic
import Testbed.Contract.Equality

/-!
# Which values a check draws

A check visits the pairs of `n` factories in lexicographic order and calls two factories for each of
them. So it is known for each pair how often each factory was called before (`callsBefore`), and with
that which values are drawn (`first?`, `second?`).

**Theorem (`checkEquality_eq`).** A check tests each pair in turn on the values that are known for
it, up to the first pair that fails, and calls nothing behind it.

One pair moves the calls on to those before the next pair (`checkPair_called`), and the theorem
follows by induction on the pairs that are left (`checkPairs_called`). Pairs are counted through, so
that the end of a row needs no induction of its own.
-/

namespace Testbed.Contract

variable {α : Type} {m : Behaviour α} {fs : List (Factory α)} {f : Factory α} {n i j k t : Nat}
  {calls : Nat → Nat}

/-! ## Calls -/

/-- The factories when each was called some number of times more. -/
def called (fs : List (Factory α)) (calls : Nat → Nat) : List (Factory α) :=
  fs.mapIdx fun k f => { f with calls := f.calls + calls k }

/-- One more call of a factory. -/
def callOf (calls : Nat → Nat) (i : Nat) : Nat → Nat :=
  fun k => if k = i then calls k + 1 else calls k

theorem getElem?_called (fs : List (Factory α)) (calls : Nat → Nat) (k : Nat) :
    (called fs calls)[k]? = fs[k]?.map fun f => { f with calls := f.calls + calls k } :=
  List.getElem?_mapIdx

theorem called_zero (fs : List (Factory α)) : called fs (fun _ => 0) = fs := by
  apply List.ext_getElem?
  intro k
  rw [getElem?_called]
  cases fs[k]? <;> rfl

theorem called_congr {calls calls' : Nat → Nat} (h : ∀ k < fs.length, calls k = calls' k) :
    called fs calls = called fs calls' := by
  apply List.ext_getElem?
  intro k
  rw [getElem?_called, getElem?_called]
  by_cases hk : k < fs.length
  · rw [h k hk]
  · rw [List.getElem?_eq_none (Nat.le_of_not_lt hk)]
    rfl

/-- A factory that is called gives its next value, and the others stay. -/
theorem draw_called (hf : fs[i]? = some f) :
    draw (called fs calls) i =
      some (f.instanceAt (f.calls + calls i), called fs (callOf calls i)) := by
  have hset : (called fs calls).set i { f with calls := f.calls + calls i + 1 } =
      called fs (callOf calls i) := by
    apply List.ext_getElem?
    intro k
    rw [List.getElem?_set, getElem?_called]
    by_cases hk : i = k
    · subst hk
      have hi : i < (called fs calls).length := by
        rw [called, List.length_mapIdx]
        exact (List.getElem?_eq_some_iff.mp hf).1
      rw [if_pos rfl, if_pos hi, getElem?_called, hf, Option.map_some, callOf, if_pos rfl]
      rfl
    · rw [if_neg hk, getElem?_called, callOf, if_neg (Ne.symm hk)]
  rw [draw, getElem?_called, hf, Option.map_some]
  exact congrArg some (Prod.ext rfl hset)

/-! ## Pairs -/

/-- How often a factory was called before a pair of `n` factories is visited: for each row before
once, in its own row for each column, and in the row that is begun for the columns before. -/
def callsBefore (n i j k : Nat) : Nat :=
  i + (if k < i then n else 0) + (if k = i then j else 0) + if k < j then 1 else 0

theorem callsBefore_succ (n i j k : Nat) :
    callOf (callOf (callsBefore n i j) i) j k = callsBefore n i (j + 1) k := by
  unfold callOf callsBefore
  split_ifs <;> omega

theorem callsBefore_row (i : Nat) (hk : k < n) :
    callsBefore n i n k = callsBefore n (i + 1) 0 k := by
  unfold callsBefore
  split_ifs <;> omega

/-- The number of the call of its row that a pair makes. -/
def firstCall (i j : Nat) : Nat := i + j + if i < j then 1 else 0

/-- The number of the call of its column that a pair of `n` factories makes. -/
def secondCall (n i j : Nat) : Nat := if i = j then 2 * i + 1 else i + if j < i then n else 0

def first? (fs : List (Factory α)) (i j : Nat) : Option α :=
  fs[i]?.map fun f => f.instanceAt (f.calls + firstCall i j)

def second? (fs : List (Factory α)) (i j : Nat) : Option α :=
  fs[j]?.map fun f => f.instanceAt (f.calls + secondCall fs.length i j)

/-- The test of a pair on the values that it draws. -/
def verdict (m : Behaviour α) (fs : List (Factory α)) (i j : Nat) : Except (Violation α) Unit :=
  match first? fs i j, second? fs i j with
  | some a, some b => if i = j then checkAlike m a b else checkApart m a b
  | _, _ => .ok ()

/-- Behind the calls before it, a pair draws its two values and moves on to the calls before the next
pair of its row. -/
theorem draw_pair (hi : i < fs.length) (hj : j < fs.length) :
    ∃ a b fs', first? fs i j = some a ∧ second? fs i j = some b ∧
      draw (called fs (callsBefore fs.length i j)) i = some (a, fs') ∧
      draw fs' j = some (b, called fs (callsBefore fs.length i (j + 1))) := by
  have hf := List.getElem?_eq_getElem hi
  have hg := List.getElem?_eq_getElem hj
  have hfirst : callsBefore fs.length i j i = firstCall i j := by
    unfold callsBefore firstCall
    split_ifs <;> omega
  have hsecond : callOf (callsBefore fs.length i j) i j = secondCall fs.length i j := by
    unfold callOf callsBefore secondCall
    split_ifs <;> omega
  have hcalls : callOf (callOf (callsBefore fs.length i j) i) j =
      callsBefore fs.length i (j + 1) := by
    funext k
    exact callsBefore_succ fs.length i j k
  refine ⟨fs[i].instanceAt (fs[i].calls + firstCall i j),
    fs[j].instanceAt (fs[j].calls + secondCall fs.length i j),
    called fs (callOf (callsBefore fs.length i j) i), ?_, ?_, ?_, ?_⟩
  · rw [first?, hf, Option.map_some]
  · rw [second?, hg, Option.map_some]
  · rw [draw_called hf, hfirst]
  · rw [draw_called hg, hsecond, hcalls]

/-- **One pair** is tested on the values that it draws, and is behind the calls before it. -/
theorem checkPair_called (m : Behaviour α) (hi : i < fs.length) (hj : j < fs.length) :
    checkPair m (called fs (callsBefore fs.length i j)) i j =
      (verdict m fs i j, called fs (callsBefore fs.length i (j + 1))) := by
  obtain ⟨a, b, fs', hfirst, hsecond, hdraw, hdraw'⟩ := draw_pair hi hj
  simp only [checkPair, hdraw, hdraw', verdict, hfirst, hsecond]

/-! ## All pairs -/

/-- The row and the column of a pair, counted through. -/
def place (n t : Nat) : Nat × Nat := (t / n, t % n)

theorem pairs_eq (n : Nat) : pairs n = (List.range (n * n)).map (place n) := by
  have hrows (rows : Nat) :
      ((List.range rows).flatMap fun i => (List.range n).map fun j => (i, j)) =
        (List.range (rows * n)).map (place n) := by
    induction rows with
    | zero => simp
    | succ rows ih =>
      rw [List.range_succ, List.flatMap_append, ih, Nat.add_mul, Nat.one_mul, List.range_add,
        List.map_append, List.map_map, List.flatMap_singleton]
      congr 1
      apply List.map_congr_left
      intro j hj
      have hj := List.mem_range.mp hj
      have hn : 0 < n := by omega
      simp [place, Nat.mul_comm rows n, Nat.mul_add_div hn, Nat.div_eq_of_lt hj, Nat.mod_eq_of_lt hj]
  exact hrows n

/-- The calls before a pair, counted through. -/
def callsAt (n t : Nat) : Nat → Nat := callsBefore n (t / n) (t % n)

/-- The test of a pair, counted through. -/
def verdictAt (m : Behaviour α) (fs : List (Factory α)) (t : Nat) : Except (Violation α) Unit :=
  verdict m fs (t / fs.length) (t % fs.length)

theorem place_lt (ht : t < n * n) : t / n < n ∧ t % n < n := by
  have hn : 0 < n := by
    by_contra hn
    have hzero : n = 0 := by omega
    simp [hzero] at ht
  exact ⟨Nat.div_lt_of_lt_mul ht, Nat.mod_lt t hn⟩

/-- Behind a pair are the calls before the next pair, in the same row or not. -/
theorem called_callsAt_succ (ht : t < fs.length * fs.length) :
    called fs (callsBefore fs.length (t / fs.length) (t % fs.length + 1)) =
      called fs (callsAt fs.length (t + 1)) := by
  obtain ⟨-, hcolumn⟩ := place_lt ht
  apply called_congr
  intro k hk
  have hsplit : t + 1 = fs.length * (t / fs.length) + (t % fs.length + 1) := by
    rw [← Nat.add_assoc, Nat.div_add_mod]
  unfold callsAt
  by_cases hrow : t % fs.length + 1 < fs.length
  · have hdiv : (t + 1) / fs.length = t / fs.length := by
      rw [hsplit, Nat.mul_add_div (by omega), Nat.div_eq_of_lt hrow, Nat.add_zero]
    have hmod : (t + 1) % fs.length = t % fs.length + 1 := by
      rw [hsplit, Nat.mul_add_mod, Nat.mod_eq_of_lt hrow]
    rw [hdiv, hmod]
  · have hend : t % fs.length + 1 = fs.length := by omega
    rw [hend, ← Nat.mul_succ] at hsplit
    have hdiv : (t + 1) / fs.length = t / fs.length + 1 := by
      rw [hsplit, Nat.mul_div_cancel_left _ (by omega)]
    have hmod : (t + 1) % fs.length = 0 := by
      rw [hsplit, Nat.mul_mod_right]
    rw [hdiv, hmod, hend]
    exact callsBefore_row _ hk

/-- **Many pairs** are tested one after the other, up to the first that fails. -/
theorem checkPairs_called (m : Behaviour α) (fs : List (Factory α)) (len t : Nat)
    (h : t + len ≤ fs.length * fs.length) :
    checkPairs m (called fs (callsAt fs.length t)) ((List.range' t len).map (place fs.length)) =
      match (List.range' t len).find? fun u => !(verdictAt m fs u).toBool with
      | none => (.ok (), called fs (callsAt fs.length (t + len)))
      | some u => (verdictAt m fs u, called fs (callsAt fs.length (u + 1))) := by
  induction len generalizing t with
  | zero => rfl
  | succ len ih =>
    have ht : t < fs.length * fs.length := by omega
    obtain ⟨hi, hj⟩ := place_lt ht
    have hstep : checkPair m (called fs (callsAt fs.length t)) (t / fs.length) (t % fs.length) =
        (verdictAt m fs t, called fs (callsAt fs.length (t + 1))) := by
      rw [← called_callsAt_succ ht]
      exact checkPair_called m hi hj
    rw [List.range'_succ, List.map_cons, place, checkPairs, hstep]
    cases hv : verdictAt m fs t with
    | error v =>
      rw [List.find?_cons_of_pos (by rw [hv]; rfl)]
      simp only [hv]
    | ok u =>
      rw [List.find?_cons_of_neg (by rw [hv]; simp [Except.toBool])]
      rw [show t + (len + 1) = t + 1 + len by omega]
      exact ih (t + 1) (by omega)

theorem called_callsAt_zero (fs : List (Factory α)) : called fs (callsAt fs.length 0) = fs := by
  have hnone : callsAt fs.length 0 = fun _ => 0 := by
    funext k
    simp [callsAt, callsBefore]
  rw [hnone, called_zero]

/-- **A check tests the pairs in turn on the values that are known for them.** If none fails, each
factory was called twice for each factory there is. -/
theorem checkEquality_eq (m : Behaviour α) (fs : List (Factory α)) :
    checkEquality m fs =
      match (List.range (fs.length * fs.length)).find? fun t => !(verdictAt m fs t).toBool with
      | none => (.ok (), called fs fun _ => 2 * fs.length)
      | some t => (verdictAt m fs t, called fs (callsAt fs.length (t + 1))) := by
  have hend : called fs (callsAt fs.length (0 + fs.length * fs.length)) =
      called fs fun _ => 2 * fs.length := by
    apply called_congr
    intro k hk
    have hn : 0 < fs.length := by omega
    rw [callsAt, Nat.zero_add, Nat.mul_div_cancel _ hn, Nat.mul_mod_right, callsBefore, if_pos hk,
      if_neg (Nat.ne_of_lt hk), if_neg (Nat.not_lt_zero k)]
    omega
  have hrun := checkPairs_called m fs (fs.length * fs.length) 0 (Nat.le_of_eq (Nat.zero_add _))
  rw [called_callsAt_zero, hend] at hrun
  rw [checkEquality, pairs_eq, List.range_eq_range']
  exact hrun

theorem checkEquality_ok_iff (m : Behaviour α) (fs : List (Factory α)) :
    (checkEquality m fs).1 = .ok () ↔
      ∀ i < fs.length, ∀ j < fs.length, verdict m fs i j = .ok () := by
  rw [checkEquality_eq]
  cases hfind : (List.range (fs.length * fs.length)).find? fun t =>
      !(verdictAt m fs t).toBool with
  | none =>
    refine iff_of_true rfl ?_
    intro i hi j hj
    have hlt : fs.length * i + j < fs.length * fs.length := by
      have hrows : fs.length * (i + 1) ≤ fs.length * fs.length := Nat.mul_le_mul_left _ hi
      rw [Nat.mul_succ] at hrows
      omega
    have hpass := List.find?_eq_none.mp hfind _ (List.mem_range.mpr hlt)
    have hn : 0 < fs.length := by omega
    rw [verdictAt, Nat.mul_add_div hn, Nat.div_eq_of_lt hj, Nat.add_zero, Nat.mul_add_mod,
      Nat.mod_eq_of_lt hj] at hpass
    cases hv : verdict m fs i j with
    | ok u => rfl
    | error v => simp [hv, Except.toBool] at hpass
  | some t =>
    have hfail := List.find?_some hfind
    obtain ⟨hi, hj⟩ := place_lt (List.mem_range.mp (List.mem_of_find?_eq_some hfind))
    apply iff_of_false
    · intro hok
      simp only at hok
      simp [hok, Except.toBool] at hfail
    · intro hall
      have hok : verdictAt m fs t = .ok () := hall _ hi _ hj
      simp [hok, Except.toBool] at hfail

theorem called_of_checkEquality_ok (h : (checkEquality m fs).1 = .ok ()) :
    (checkEquality m fs).2 = called fs fun _ => 2 * fs.length := by
  rw [checkEquality_eq] at h ⊢
  cases hfind : (List.range (fs.length * fs.length)).find? fun t =>
      !(verdictAt m fs t).toBool with
  | none => rfl
  | some t =>
    have hfail := List.find?_some hfind
    rw [hfind] at h
    simp only at h
    simp [h, Except.toBool] at hfail

end Testbed.Contract
