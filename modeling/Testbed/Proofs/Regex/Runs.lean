import Testbed.Proofs.Regex.Longer.Steps

/-!
# Runs of the reader

A run takes steps (`Reads`) until all is read or a step fails. How many steps it is given does not
matter once there is one for each character, so a reading has a result (`result`).

**Theorem (`Joined.reads`).** What is read alone is read the same before more text.

**Theorem (`depth_le_count`).** A reading that comes to a result finds a closing parenthesis for
each group that is open.
-/

namespace Testbed.Regex

variable {t l : List Char} {a : Char} {base : List Frame} {r r' s e : Reading} {x : Ast}

namespace Reading

/-- Past what free spacing skips. -/
def skipped (r : Reading) : Reading := { r with cursor := r.cursor.skip }

/-- What a reading comes to. -/
def result (r : Reading) : Except Fault Ast := r.run (r.cursor.rest.length + 1)

theorem run_succ (n : Nat) (r : Reading) :
    r.run (n + 1) = match r.skipped.cursor.rest with
      | [] => r.skipped.finish
      | a :: _ => match r.skipped.step a with
        | .ok s => s.run n
        | .error f => .error f := rfl

/-- A step leaves less to be read. -/
theorem length_lt_of_step (hr : r.skipped.cursor.rest = a :: l) (hs : r.skipped.step a = .ok s) :
    s.cursor.rest.length < r.cursor.rest.length := by
  have hstep := (step_suffix hs).length_le
  have hskip : r.skipped.cursor.rest.length ≤ r.cursor.rest.length :=
    r.cursor.skip_suffix.length_le
  rw [hr, List.tail_cons] at hstep
  rw [hr, List.length_cons] at hskip
  omega

theorem run_eq (n m : Nat) (hn : r.cursor.rest.length < n) (hm : r.cursor.rest.length < m) :
    r.run n = r.run m := by
  induction n generalizing m r with
  | zero => cases hn
  | succ n ih =>
    obtain ⟨m, rfl⟩ : ∃ k, m = k + 1 := ⟨m - 1, by omega⟩
    rw [run_succ, run_succ]
    rcases hr : r.skipped.cursor.rest with _ | ⟨a, l⟩
    · rfl
    · simp only
      rcases hs : r.skipped.step a with f | s
      · rfl
      · have hlength := length_lt_of_step hr hs
        exact ih m (by omega) (by omega)

theorem result_of_nil (hr : r.skipped.cursor.rest = []) : r.result = r.skipped.finish := by
  rw [result, run_succ, hr]

theorem result_of_error {f : Fault} (hr : r.skipped.cursor.rest = a :: l)
    (hs : r.skipped.step a = .error f) : r.result = .error f := by
  rw [result, run_succ, hr]
  simp only [hs]

theorem result_of_ok (hr : r.skipped.cursor.rest = a :: l) (hs : r.skipped.step a = .ok s) :
    r.result = s.result := by
  have hlength := length_lt_of_step hr hs
  rw [result, run_succ, hr]
  simp only [hs]
  exact run_eq _ _ hlength (Nat.lt_succ_self _)

/-! ## Runs -/

/-- Whether a reading leads to another one by steps. -/
inductive Reads : Reading → Reading → Prop where
  | here (r : Reading) : Reads r r
  | step {r s e : Reading} {a : Char} {l : List Char} (rest : r.skipped.cursor.rest = a :: l)
      (made : r.skipped.step a = .ok s) (further : Reads s e) : Reads r e

theorem Reads.result (h : Reads r e) : r.result = e.result := by
  induction h with
  | here r => rfl
  | step rest made _ ih => rw [result_of_ok rest made, ih]

/-- Where a run ends: all is read, or a step fails. -/
def Stops (r : Reading) : Prop :=
  r.skipped.cursor.rest = [] ∨
    ∃ a l f, r.skipped.cursor.rest = a :: l ∧ r.skipped.step a = .error f

theorem exists_reads (r : Reading) : ∃ e, Reads r e ∧ Stops e := by
  obtain ⟨n, hn⟩ : ∃ n, r.cursor.rest.length < n := ⟨_, Nat.lt_succ_self _⟩
  induction n generalizing r with
  | zero => cases hn
  | succ n ih =>
    rcases hr : r.skipped.cursor.rest with _ | ⟨a, l⟩
    · exact ⟨r, .here r, .inl hr⟩
    · rcases hs : r.skipped.step a with f | s
      · exact ⟨r, .here r, .inr ⟨a, l, f, hr, hs⟩⟩
      · obtain ⟨e, hreads, hstops⟩ := ih s (by have := length_lt_of_step hr hs; omega)
        exact ⟨e, .step hr hs hreads, hstops⟩

theorem grouped_nil : Grouped [] := nofun

theorem Joined.skipped (ht : Closing t) (h : Joined t base r r') :
    Joined t base r.skipped r'.skipped := h.skip ht

/-- **Theorem.** What is read alone is read the same before more text. -/
theorem Joined.reads (ht : Closing t) (hbase : Grouped base) (h : Joined t base r r')
    (hreads : Reads r e) : ∃ e', Reads r' e' ∧ Joined t base e e' := by
  induction hreads generalizing r' with
  | here r => exact ⟨r', .here r', h⟩
  | @step r s e a l rest made _ ih =>
    have hskip := h.skipped ht
    have hmade : ∃ s', r'.skipped.step a = .ok s' ∧ Joined t base s s' := by
      -- A closing needs a case of its own: what it closes was opened in the pattern, since the
      -- closing succeeds alone.
      by_cases ha : a = ')'
      · subst ha
        exact hskip.closeGroup hbase rest made
      · have honward := hskip.step ht hbase rest ha
        rw [made] at honward
        generalize r'.skipped.step a = x' at honward
        cases honward with
        | joined hs => exact ⟨_, rfl, hs⟩
    obtain ⟨s', hs', hjoined⟩ := hmade
    obtain ⟨e', hreads', he⟩ := ih hjoined
    exact ⟨e', .step (hskip.cursor.cons rest) hs' hreads', he⟩

/-! ## Open groups -/

/-- Frames as a run stacks them: branches stand directly above a group, or at the bottom. -/
inductive Stacked : List Frame → Prop where
  | nil : Stacked []
  | group {outer : Sequence} {span : Span} {kind : GroupKind} {free : Bool} {rest : List Frame}
      (h : Stacked rest) : Stacked (.group outer span kind free :: rest)
  | branches {start : Position} {done : List Ast} {rest : List Frame} (h : Stacked rest)
      (grouped : Grouped rest) : Stacked (.branches start done :: rest)

/-- What the frames below the content of a stack are. -/
theorem Stacked.content (h : Stacked r.frames) (p : Position) :
    Stacked (r.content p).2 ∧ Grouped (r.content p).2 ∧ depth (r.content p).2 = depth r.frames := by
  rcases hfs : r.frames with _ | ⟨⟨outer, span, kind, free⟩ | ⟨start, done⟩, rest⟩
  · have hgrouped : Grouped r.frames := by rw [hfs]; exact nofun
    rw [content_of_grouped hgrouped, hfs]
    exact ⟨.nil, nofun, rfl⟩
  · have hgrouped : Grouped r.frames := by rw [hfs]; exact nofun
    rw [content_of_grouped hgrouped]
    exact ⟨h, hgrouped, by rw [hfs]⟩
  · rw [content_of_branches hfs]
    rw [hfs] at h
    cases h with
    | branches hrest grouped => exact ⟨hrest, grouped, rfl⟩

theorem eq_nil_of_depth {fs : List Frame} (h : Grouped fs) (hdepth : depth fs = 0) : fs = [] := by
  rcases fs with _ | ⟨⟨outer, span, kind, free⟩ | ⟨start, done⟩, rest⟩
  · rfl
  · simp [depth] at hdepth
  · exact absurd rfl (h start done rest)

theorem Stacked.bar (h : Stacked r.frames) :
    Stacked r.bar.frames ∧ depth r.bar.frames = depth r.frames := by
  rcases hfs : r.frames with _ | ⟨⟨outer, span, kind, free⟩ | ⟨start, done⟩, rest⟩
  · have hgrouped : Grouped r.frames := by rw [hfs]; exact nofun
    rw [frames_bar_of_grouped hgrouped]
    exact ⟨.branches h hgrouped, by rw [hfs]; rfl⟩
  · have hgrouped : Grouped r.frames := by rw [hfs]; exact nofun
    rw [frames_bar_of_grouped hgrouped]
    exact ⟨.branches h hgrouped, by rw [hfs]; rfl⟩
  · rw [frames_bar_of_branches hfs]
    rw [hfs] at h
    cases h with
    | branches hrest grouped => exact ⟨.branches hrest grouped, rfl⟩

theorem frames_of_sign {low : Nat} {high : Option Nat} (hs : r.sign low high = .ok s) :
    s.frames = r.frames := by
  rw [sign_eq] at hs
  rcases hx : r.operand with f | ⟨body, before⟩ <;> rw [hx] at hs <;> cases hs
  rfl

theorem frames_of_counted (hs : r.counted = .ok s) : s.frames = r.frames := by
  rw [counted_eq] at hs
  rcases hx : r.operand with f | ⟨body, before⟩ <;> simp only [hx, Except.bind] at hs
  · cases hs
  · rcases hb : bounds r.cursor.loc r.cursor.advance with f | ⟨n, c⟩ <;> simp only [hb] at hs
    · cases hs
    · split at hs
      · cases hs
      · cases hs
        rfl

/-- What a step other than a closing does to the frames. -/
theorem frames_of_step (hs : r.step a = .ok s) (ha : a ≠ ')') :
    s.frames = r.frames ∨ s.frames = r.bar.frames ∨
      ∃ outer span kind free, s.frames = .group outer span kind free :: r.frames := by
  unfold step at hs
  split at hs
  · rw [openGroup_eq] at hs
    rcases hx : Opening.read r.names r.cursor with f | ⟨x, c⟩ <;> rw [hx] at hs <;> cases hs
    cases x with
    | capture name => exact .inr (.inr ⟨_, _, _, _, rfl⟩)
    | plain signs => exact .inr (.inr ⟨_, _, _, _, rfl⟩)
    | flags signs => exact .inl rfl
  · exact absurd rfl ha
  · cases hs
    exact .inr (.inl rfl)
  · rcases hx : Bracket.read r.cursor with f | ⟨x, c⟩ <;> rw [hx] at hs <;> cases hs
    exact .inl rfl
  · exact .inl (frames_of_sign hs)
  · exact .inl (frames_of_sign hs)
  · exact .inl (frames_of_sign hs)
  · exact .inl (frames_of_counted hs)
  · rcases hx : Atom.read r.cursor with f | ⟨x, c⟩ <;> rw [hx] at hs <;> cases hs
    exact .inl rfl

theorem Stacked.step (h : Stacked r.frames) (hs : r.step a = .ok s) (ha : a ≠ ')') :
    Stacked s.frames ∧ depth r.frames ≤ depth s.frames := by
  obtain hfs | hfs | ⟨outer, span, kind, free, hfs⟩ := frames_of_step hs ha
  · rw [hfs]
    exact ⟨h, Nat.le_refl _⟩
  · rw [hfs]
    exact ⟨h.bar.1, Nat.le_of_eq h.bar.2.symm⟩
  · rw [hfs]
    exact ⟨.group h, (List.sublist_cons_self _ _).countP_le⟩

theorem Stacked.close (h : Stacked r.frames) (hs : r.closeGroup = .ok s) :
    Stacked s.frames ∧ depth r.frames = depth s.frames + 1 := by
  obtain ⟨hstacked, -, hdepth⟩ := h.content r.cursor.loc
  unfold closeGroup at hs
  rcases hx : r.content r.cursor.loc with ⟨body, fs⟩
  rw [hx] at hs hstacked hdepth
  rcases fs with _ | ⟨⟨outer, span, kind, free⟩ | ⟨start, done⟩, rest⟩
  · cases hs
  · cases hs
    cases hstacked with
    | group hrest => exact ⟨hrest, by rw [← hdepth]; simp [depth]⟩
  · cases hs

/-- The whole pattern is read only if no group is open. -/
theorem Stacked.finish (h : Stacked r.frames) (hx : r.finish = .ok x) : depth r.frames = 0 := by
  obtain ⟨-, hgrouped, hdepth⟩ := h.content r.cursor.loc
  unfold Reading.finish at hx
  rcases hc : r.content r.cursor.loc with ⟨body, fs⟩
  rw [hc] at hx hgrouped hdepth
  rcases fs with _ | ⟨⟨outer, span, kind, free⟩ | ⟨start, done⟩, rest⟩
  · exact hdepth.symm
  · cases hx
  · exact absurd rfl (hgrouped start done rest)

theorem depth_le_count_run {n : Nat} (hn : r.cursor.rest.length < n) (h : Stacked r.frames)
    (hx : r.run n = .ok x) : depth r.frames ≤ r.skipped.cursor.rest.count ')' := by
  induction n generalizing r with
  | zero => cases hn
  | succ n ih =>
    rw [run_succ] at hx
    rcases hr : r.skipped.cursor.rest with _ | ⟨a, l⟩ <;> rw [hr] at hx
    · show depth r.skipped.frames ≤ _
      rw [Stacked.finish h (r := r.skipped) hx]
      exact Nat.zero_le _
    · rcases hs : r.skipped.step a with f | s <;> simp only [hs] at hx
      · cases hx
      · have hlength := length_lt_of_step hr hs
        have hsuffix : s.skipped.cursor.rest <:+ l := by
          have := step_suffix hs
          rw [hr] at this
          exact s.cursor.skip_suffix.trans this
        have hcount := hsuffix.sublist.count_le ')'
        -- A closing takes one parenthesis and one group. Other steps open groups, or take
        -- parentheses that close nothing, as in a class.
        by_cases ha : a = ')'
        · subst ha
          obtain ⟨hstacked, hdepth⟩ := Stacked.close h (r := r.skipped) hs
          have hrest := ih (by omega) hstacked hx
          rw [List.count_cons_self]
          show depth r.skipped.frames ≤ _
          omega
        · obtain ⟨hstacked, hdepth⟩ := Stacked.step h (r := r.skipped) hs ha
          have hrest := ih (by omega) hstacked hx
          rw [List.count_cons_of_ne ha]
          show depth r.skipped.frames ≤ _
          omega

/-- **Theorem.** A reading that comes to a result finds a closing parenthesis for each group that is
open. -/
theorem depth_le_count (h : Stacked r.frames) (hx : r.result = .ok x) :
    depth r.frames ≤ r.skipped.cursor.rest.count ')' :=
  depth_le_count_run (Nat.lt_succ_self _) h hx

/-- A run keeps frames stacked. -/
theorem Stacked.reads (h : Stacked r.frames) (hreads : Reads r e) : Stacked e.frames := by
  induction hreads with
  | here r => exact h
  | @step r s e a l rest made _ ih =>
    refine ih ?_
    by_cases ha : a = ')'
    · subst ha
      exact (Stacked.close h (r := r.skipped) made).1
    · exact (Stacked.step h (r := r.skipped) made ha).1

end Reading
end Testbed.Regex
