import Testbed.Proofs.Http.Departure
import Testbed.Proofs.Pace

/-!
# The course of a wait

While a handler waits, the server may begin to close and the client may leave, each at some instant
or never (`Scene`). What the wait meets in its rounds follows from when it looks (`Scene.vigil`).

**Theorem (`wait_answers`).** A wait is over at its first look if the server is closing or the
client has left. It fails only in a round that finds neither and reads the clock afterwards, so
nothing that happened before the last look is missed; a wait without a limit does not fail. No slice
is longer than 20 milliseconds or goes beyond the limit. If a slice that is not broken off lasts,
the wait ends after no more rounds than such slices cover the limit, and one.

A round goes on or ends the wait (`Vigil.round_cases`); the rounds of a wait go on but for the last
(`Vigil.runFrom_course`).
-/

namespace Testbed.Http

namespace Vigil

variable {v : Vigil} {limit : Option Duration} {fuel k : Nat} {now slice : Duration}

/-! ## Slices -/

theorem slice?_eq_none : slice? limit now = none ↔ ∃ d, limit = some d ∧ d ≤ now := by
  cases limit with
  | none => simp [slice?]
  | some d => simp [slice?]

theorem slice?_of_lt {d : Duration} (h : now < d) :
    slice? (some d) now = some ((d.remaining now).shorter longestSlice) :=
  if_neg (Duration.not_le.mpr h)

/-- **A slice** is not longer than the longest, and ends at the limit at the latest. -/
theorem slice_bounded (h : slice? limit now = some slice) :
    slice ≤ longestSlice ∧ ∀ d, limit = some d → now < d ∧ now + slice ≤ d := by
  cases limit with
  | none =>
    cases h
    exact ⟨Nat.le_refl _, fun d hd => by cases hd⟩
  | some d =>
    have hlt : now < d := by
      by_contra hup
      have hnone : slice? (some d) now = none :=
        slice?_eq_none.mpr ⟨d, rfl, Nat.le_of_not_lt hup⟩
      rw [hnone] at h
      cases h
    rw [slice?_of_lt hlt, Duration.shorter_comm] at h
    cases h
    refine ⟨Duration.shorter_le_left _ _, ?_⟩
    rintro d' ⟨⟩
    exact ⟨hlt, Duration.add_shorter_remaining_le _ hlt⟩

/-! ## Rounds -/

/-- A round after which the wait goes on: it finds nothing, there is time left, and the slice is not
broken off. -/
structure GoesOn (v : Vigil) (limit : Option Duration) (k : Nat) : Prop where
  closing : v.closing k = false
  gone : v.gone k = false
  inTime : ∃ slice, slice? limit (v.clock k) = some slice
  woken : v.woken k = false

/-- How a wait can end in a round. -/
inductive EndsIn (v : Vigil) (limit : Option Duration) (k : Nat) : Ending → Prop where
  | found (h : v.closing k = true ∨ v.gone k = true) : EndsIn v limit k .closed
  | expired (closing : v.closing k = false) (gone : v.gone k = false)
      (late : slice? limit (v.clock k) = none) : EndsIn v limit k .expired
  | woken (h : v.woken k = true) : EndsIn v limit k .closed

theorem EndsIn.ne_unfinished {e : Ending} (h : v.EndsIn limit k e) : e ≠ .unfinished := by
  rintro rfl
  cases h

theorem runFrom_goesOn (h : v.GoesOn limit k) (hslice : slice? limit (v.clock k) = some slice)
    (fuel : Nat) :
    v.runFrom limit (fuel + 1) k =
      let rest := v.runFrom limit fuel (k + 1)
      { rest with slices := slice :: rest.slices } := by
  simp [runFrom, h.closing, h.gone, h.woken, hslice]

/-- **A round** goes on or ends the wait. -/
theorem round_cases (v : Vigil) (limit : Option Duration) (k : Nat) :
    v.GoesOn limit k ∨ ∃ e slices, v.EndsIn limit k e ∧ slices.length ≤ 1 ∧
      (∀ slice ∈ slices, slice? limit (v.clock k) = some slice) ∧
      ∀ fuel, v.runFrom limit (fuel + 1) k = ⟨e, k + 1, slices⟩ := by
  by_cases hfound : v.closing k = true ∨ v.gone k = true
  · refine .inr ⟨.closed, [], .found hfound, Nat.zero_le _, by simp, fun fuel => ?_⟩
    simp [runFrom, hfound]
  · obtain ⟨hclosing, hgone⟩ := not_or.mp hfound
    rw [Bool.not_eq_true] at hclosing hgone
    cases hslice : slice? limit (v.clock k) with
    | none =>
      refine .inr ⟨.expired, [], .expired hclosing hgone hslice, Nat.zero_le _, by simp,
        fun fuel => ?_⟩
      simp [runFrom, hclosing, hgone, hslice]
    | some slice =>
      cases hwoken : v.woken k with
      | false => exact .inl ⟨hclosing, hgone, ⟨slice, hslice⟩, hwoken⟩
      | true =>
        refine .inr ⟨.closed, [slice], .woken hwoken, Nat.le_refl _, by simp, fun fuel => ?_⟩
        simp [runFrom, hclosing, hgone, hslice, hwoken]

/-! ## Runs -/

/-- **The rounds of a wait** go on but for the last, which ends it unless no more are allowed. -/
theorem runFrom_course (v : Vigil) (limit : Option Duration) (fuel k : Nat) :
    (v.runFrom limit fuel k).ending = .unfinished ∧ (v.runFrom limit fuel k).rounds = k + fuel ∧
        (∀ j < fuel, v.GoesOn limit (k + j)) ∨
      ∃ n < fuel, (v.runFrom limit fuel k).rounds = k + n + 1 ∧
        (∀ j < n, v.GoesOn limit (k + j)) ∧
        v.EndsIn limit (k + n) (v.runFrom limit fuel k).ending := by
  induction fuel generalizing k with
  | zero => exact .inl ⟨rfl, rfl, fun j hj => absurd hj (Nat.not_lt_zero j)⟩
  | succ fuel ih =>
    rcases round_cases v limit k with hgoes | ⟨e, slices, hend, -, -, hrun⟩
    · obtain ⟨slice, hslice⟩ := hgoes.inTime
      have hstep {n : Nat} (hrest : ∀ j < n, v.GoesOn limit (k + 1 + j)) :
          ∀ j < n + 1, v.GoesOn limit (k + j) := by
        intro j hj
        cases j with
        | zero => exact hgoes
        | succ j =>
          rw [Nat.add_comm j 1, ← Nat.add_assoc]
          exact hrest j (Nat.lt_of_succ_lt_succ hj)
      rw [runFrom_goesOn hgoes hslice]
      rcases ih (k + 1) with ⟨hending, hrounds, hall⟩ | ⟨n, hn, hrounds, hall, hend⟩
      · exact .inl ⟨hending, by rw [hrounds, Nat.add_right_comm, Nat.add_assoc], hstep hall⟩
      · refine .inr ⟨n + 1, Nat.succ_lt_succ hn, ?_, hstep hall, ?_⟩
        · rw [hrounds, Nat.add_right_comm k 1 n, ← Nat.add_assoc]
        · rwa [Nat.add_right_comm k 1 n] at hend
    · rw [hrun]
      exact .inr ⟨0, Nat.succ_pos fuel, rfl, fun j hj => absurd hj (Nat.not_lt_zero j), hend⟩

/-- A wait that has ended makes no more rounds, however many it may. -/
theorem runFrom_add (h : (v.runFrom limit fuel k).ending ≠ .unfinished) (more : Nat) :
    v.runFrom limit (fuel + more) k = v.runFrom limit fuel k := by
  induction fuel generalizing k with
  | zero => exact absurd rfl h
  | succ fuel ih =>
    rw [Nat.add_right_comm]
    rcases round_cases v limit k with hgoes | ⟨e, slices, -, -, -, hrun⟩
    · obtain ⟨slice, hslice⟩ := hgoes.inTime
      rw [runFrom_goesOn hgoes hslice] at h ⊢
      rw [runFrom_goesOn hgoes hslice, ih h]
    · rw [hrun, hrun]

/-- There is a slice between any two rounds. -/
theorem rounds_le_slices (v : Vigil) (limit : Option Duration) (fuel k : Nat) :
    (v.runFrom limit fuel k).rounds ≤ k + (v.runFrom limit fuel k).slices.length + 1 := by
  induction fuel generalizing k with
  | zero => exact Nat.le_succ _
  | succ fuel ih =>
    rcases round_cases v limit k with hgoes | ⟨e, slices, -, -, -, hrun⟩
    · obtain ⟨slice, hslice⟩ := hgoes.inTime
      have hrest := ih (k + 1)
      simp only [runFrom_goesOn hgoes hslice, List.length_cons]
      omega
    · rw [hrun]
      exact Nat.succ_le_succ (Nat.le_add_right _ _)

/-- The slices of a wait are those of its readings. -/
theorem slice?_of_mem (v : Vigil) (limit : Option Duration) (fuel k : Nat) {j : Nat}
    (h : (v.runFrom limit fuel k).slices[j]? = some slice) :
    slice? limit (v.clock (k + j)) = some slice := by
  induction fuel generalizing k j with
  | zero => simp [runFrom] at h
  | succ fuel ih =>
    rcases round_cases v limit k with hgoes | ⟨e, slices, -, hone, hslices, hrun⟩
    · obtain ⟨first, hfirst⟩ := hgoes.inTime
      rw [runFrom_goesOn hgoes hfirst] at h
      cases j with
      | zero => exact hfirst.trans h
      | succ j =>
        rw [Nat.add_comm j 1, ← Nat.add_assoc]
        exact ih (k + 1) h
    · rw [hrun] at h
      obtain ⟨hj, rfl⟩ := List.getElem?_eq_some_iff.mp h
      obtain rfl : j = 0 := Nat.lt_one_iff.mp (Nat.lt_of_lt_of_le hj hone)
      exact hslices _ (List.getElem_mem hj)

/-- A wait whose slices last goes on as often as the longest of them cover its limit, at most. -/
theorem goesOn_le {d : Duration} {n : Nat} (h : ∀ k < n, v.GoesOn (some d) k)
    (hlasts : ∀ k slice, v.GoesOn (some d) k → slice? (some d) (v.clock k) = some slice →
      v.clock k + slice ≤ v.clock (k + 1)) :
    n ≤ d.nanos ⌈/⌉ longestSlice.nanos := by
  have hbelow : ∀ k < n, v.clock k < d := by
    intro k hk
    obtain ⟨slice, hslice⟩ := (h k hk).inTime
    exact ((slice_bounded hslice).2 d rfl).1
  refine Duration.rounds_le (by decide) hbelow fun k hk => ?_
  have hk' : k < n := Nat.lt_of_succ_lt hk
  rw [Duration.shorter_comm]
  exact hlasts k _ (h k hk') (slice?_of_lt (hbelow k hk'))

end Vigil

/-! ## Scenes -/

/-- The scene of a wait. Its instants are counted in the order in which they come; the clock may
show the same at many of them. -/
structure Scene where
  /-- The exchange of the handler when the wait begins. -/
  exchange : Exchange
  live : exchange.Live
  /-- When the server begins to close, if it does. -/
  closes : Option Nat
  /-- When the client leaves, if it does. -/
  leaves : Option Nat
  /-- What the clock shows, from the beginning of the wait. -/
  reading : Nat → Duration
  reading_mono : ∀ {s t}, s ≤ t → reading s ≤ reading t
  /-- When the handler asks whether the server is closing, by round. -/
  asks : Nat → Nat
  /-- When it looks for the client. -/
  looks : Nat → Nat
  /-- When it reads the clock. -/
  reads : Nat → Nat
  /-- When its slice of sleep is over. -/
  rises : Nat → Nat
  asks_le_looks : ∀ k, asks k ≤ looks k
  looks_le_reads : ∀ k, looks k ≤ reads k
  reads_le_rises : ∀ k, reads k ≤ rises k
  rises_le_asks : ∀ k, rises k ≤ asks (k + 1)

namespace Scene

variable {s : Scene} {t u : Nat}

/-- The exchange at an instant of the wait. -/
def exchangeAt (s : Scene) (t : Nat) : Exchange :=
  let x := if s.closes.any (· ≤ t) then s.exchange.close else s.exchange
  if s.leaves.any (· ≤ t) then x.leave else x

/-- What the handler meets in its rounds. -/
def vigil (s : Scene) : Vigil where
  closing k := (s.exchangeAt (s.asks k)).closing
  gone k := (s.exchangeAt (s.looks k)).clientGone
  clock k := s.reading (s.reads k)
  woken k := (s.exchangeAt (s.rises k)).closing

/-- The server is closing or the client has left. -/
def Over (s : Scene) (t : Nat) : Prop :=
  (s.exchangeAt t).closing = true ∨ (s.exchangeAt t).listening = false

theorem closing_exchangeAt (s : Scene) (t : Nat) :
    (s.exchangeAt t).closing = (s.exchange.closing || s.closes.any (· ≤ t)) := by
  unfold exchangeAt
  split_ifs <;> simp_all [Exchange.leave, Exchange.close]

theorem listening_exchangeAt (s : Scene) (t : Nat) :
    (s.exchangeAt t).listening = (s.exchange.listening && !s.leaves.any (· ≤ t)) := by
  unfold exchangeAt
  split_ifs <;> simp_all [Exchange.leave, Exchange.close]

/-- What has happened stays so. -/
theorem any_le_mono {moment : Option Nat} (h : t ≤ u) (ht : moment.any (· ≤ t) = true) :
    moment.any (· ≤ u) = true := by
  cases moment with
  | none => cases ht
  | some m => exact decide_eq_true ((of_decide_eq_true ht).trans h)

theorem closing_mono (h : t ≤ u) (ht : (s.exchangeAt t).closing = true) :
    (s.exchangeAt u).closing = true := by
  rw [closing_exchangeAt, Bool.or_eq_true] at ht ⊢
  exact ht.imp_right (any_le_mono h)

theorem left_mono (h : t ≤ u) (ht : (s.exchangeAt t).listening = false) :
    (s.exchangeAt u).listening = false := by
  rw [listening_exchangeAt, Bool.and_eq_false_iff, Bool.not_eq_false'] at ht ⊢
  exact ht.imp_right (any_le_mono h)

theorem clientGone_exchangeAt (s : Scene) (t : Nat) :
    (s.exchangeAt t).clientGone = !(s.exchangeAt t).listening := by
  have hclose : s.exchange.close.Live := s.live.move .close
  refine Exchange.Live.clientGone ?_
  unfold exchangeAt
  split_ifs
  · exact hclose.move .leave
  · exact hclose
  · exact s.live.move .leave
  · exact s.live

theorem closing_vigil (s : Scene) (k : Nat) :
    s.vigil.closing k = (s.exchangeAt (s.asks k)).closing := rfl

theorem gone_vigil (s : Scene) (k : Nat) :
    s.vigil.gone k = !(s.exchangeAt (s.looks k)).listening := s.clientGone_exchangeAt (s.looks k)

/-- A round that begins when the wait is over finds that out. -/
theorem Over.found {k : Nat} (h : s.Over (s.asks k)) :
    s.vigil.closing k = true ∨ s.vigil.gone k = true := by
  refine h.imp_right fun hleft => ?_
  rw [gone_vigil, left_mono (s.asks_le_looks k) hleft, Bool.not_false]

theorem Over.not_goesOn {limit : Option Duration} {k : Nat} (h : s.Over (s.asks k)) :
    ¬s.vigil.GoesOn limit k := by
  intro hgoes
  rcases h.found with hclosing | hgone
  · exact Bool.false_ne_true (hgoes.closing.symm.trans hclosing)
  · exact Bool.false_ne_true (hgoes.gone.symm.trans hgone)

/-- What ends a wait has happened by then. -/
theorem over_of_closed {limit : Option Duration} {k : Nat} (h : s.vigil.EndsIn limit k .closed) :
    s.Over (s.rises k) := by
  have hrises : s.looks k ≤ s.rises k := (s.looks_le_reads k).trans (s.reads_le_rises k)
  cases h with
  | found h =>
    rcases h with hclosing | hgone
    · exact .inl (closing_mono ((s.asks_le_looks k).trans hrises) hclosing)
    · rw [gone_vigil, Bool.not_eq_true'] at hgone
      exact .inr (left_mono hrises hgone)
  | woken h => exact .inl h

/-- **A wait that fails** found the server not closing and the client there, and its limit
reached. -/
theorem expired_inv {limit : Option Duration} {k : Nat} (h : s.vigil.EndsIn limit k .expired) :
    (s.exchangeAt (s.asks k)).closing = false ∧ (s.exchangeAt (s.looks k)).listening = true ∧
      (∀ t ≤ s.asks k, ¬s.Over t) ∧ ∃ d, limit = some d ∧ d ≤ s.reading (s.reads k) := by
  cases h with
  | expired hclosing hgone hlate =>
    rw [closing_vigil] at hclosing
    rw [gone_vigil, Bool.not_eq_false'] at hgone
    refine ⟨hclosing, hgone, fun t ht hover => ?_, Vigil.slice?_eq_none.mp hlate⟩
    rcases hover with hclosed | hleft
    · exact Bool.false_ne_true (hclosing.symm.trans (closing_mono ht hclosed))
    · have hlooks := left_mono (ht.trans (s.asks_le_looks k)) hleft
      exact Bool.false_ne_true (hlooks.symm.trans hgone)

/-- A slice that is not broken off lasts as long as it should. -/
def Lasting (s : Scene) (limit : Duration) : Prop :=
  ∀ k slice, Vigil.slice? (some limit) (s.reading (s.reads k)) = some slice →
    (s.exchangeAt (s.rises k)).closing = false →
    s.reading (s.reads k) + slice ≤ s.reading (s.rises k)

theorem exists_end {d : Duration} (h : s.Lasting d) :
    ∃ r : Vigil.Run, r.ending ≠ .unfinished ∧
      r.rounds ≤ d.nanos ⌈/⌉ Vigil.longestSlice.nanos + 1 ∧
      ∀ rounds, d.nanos ⌈/⌉ Vigil.longestSlice.nanos < rounds →
        s.vigil.run (some d) rounds = r := by
  have hlasts : ∀ k slice, s.vigil.GoesOn (some d) k →
      Vigil.slice? (some d) (s.vigil.clock k) = some slice →
      s.vigil.clock k + slice ≤ s.vigil.clock (k + 1) := by
    intro k slice hgoes hslice
    have hnext : s.rises k ≤ s.reads (k + 1) := (s.rises_le_asks k).trans
      ((s.asks_le_looks (k + 1)).trans (s.looks_le_reads (k + 1)))
    exact Nat.le_trans (h k slice hslice hgoes.woken) (s.reading_mono hnext)
  rcases Vigil.runFrom_course s.vigil (some d) (d.nanos ⌈/⌉ Vigil.longestSlice.nanos + 1) 0 with
    ⟨-, -, hall⟩ | ⟨n, hn, hrounds, -, hend⟩
  · simp only [Nat.zero_add] at hall
    exact absurd (Vigil.goesOn_le hall hlasts) (Nat.not_succ_le_self _)
  · refine ⟨_, hend.ne_unfinished, ?_, fun rounds hlt => ?_⟩
    · rw [hrounds, Nat.zero_add]
      exact hn
    · obtain ⟨more, rfl⟩ := Nat.exists_eq_add_of_le (Nat.succ_le_of_lt hlt)
      exact Vigil.runFrom_add hend.ne_unfinished more

/-- **A wait answers.** Take any scene and any limit or none.

1. If the server is closing or the client has left when the wait begins, it is over at its first
   look.
2. What ends a wait has happened by then.
3. A wait fails only in a round in which the server was found not closing, the client was found to
   be there, and the clock read after both had reached the limit; so it has a limit, and nothing
   that happened before the round is missed.
4. A round that begins when the wait is over is the last, unless the wait failed before.
5. There is a slice between any two rounds. It is not longer than 20 milliseconds, begins before the
   limit and does not go beyond it.
6. If the slices last, a wait with a limit ends, however many rounds more it may make, and makes no
   more of them than slices of 20 milliseconds cover the limit, and one. -/
theorem wait_answers (s : Scene) (limit : Option Duration) :
    (s.Over (s.asks 0) → ∀ rounds, s.vigil.run limit (rounds + 1) = ⟨.closed, 1, []⟩) ∧
    (∀ rounds, let r := s.vigil.run limit (rounds + 1)
      (r.ending = .closed → s.Over (s.rises (r.rounds - 1))) ∧
      (r.ending = .expired →
        (s.exchangeAt (s.asks (r.rounds - 1))).closing = false ∧
        (s.exchangeAt (s.looks (r.rounds - 1))).listening = true ∧
        (∀ t ≤ s.asks (r.rounds - 1), ¬s.Over t) ∧
        ∃ d, limit = some d ∧ d ≤ s.reading (s.reads (r.rounds - 1))) ∧
      (∀ k ≤ rounds, s.Over (s.asks k) → r.ending ≠ .unfinished ∧ r.rounds ≤ k + 1) ∧
      r.rounds ≤ r.slices.length + 1 ∧
      ∀ k slice, r.slices[k]? = some slice →
        slice ≤ .ofMillis 20 ∧ ∀ d, limit = some d →
          s.reading (s.reads k) < d ∧ s.reading (s.reads k) + slice ≤ d) ∧
    ∀ d, limit = some d → s.Lasting d →
      ∃ r : Vigil.Run, r.ending ≠ .unfinished ∧
        r.rounds ≤ d.nanos ⌈/⌉ (Duration.ofMillis 20).nanos + 1 ∧
        ∀ rounds, d.nanos ⌈/⌉ (Duration.ofMillis 20).nanos < rounds →
          s.vigil.run limit rounds = r := by
  refine ⟨?_, ?_, ?_⟩
  · intro hover rounds
    simp [Vigil.run, Vigil.runFrom, hover.found]
  · intro rounds r
    have hslices : ∀ k slice, r.slices[k]? = some slice →
        slice ≤ .ofMillis 20 ∧ ∀ d, limit = some d →
          s.reading (s.reads k) < d ∧ s.reading (s.reads k) + slice ≤ d := by
      intro k slice hslice
      have hk := Vigil.slice?_of_mem s.vigil limit (rounds + 1) 0 hslice
      rw [Nat.zero_add] at hk
      exact Vigil.slice_bounded hk
    have hcount := Vigil.rounds_le_slices s.vigil limit (rounds + 1) 0
    rw [Nat.zero_add] at hcount
    rcases Vigil.runFrom_course s.vigil limit (rounds + 1) 0 with
      ⟨hending, -, hall⟩ | ⟨n, hn, hrounds, hall, hend⟩
    · change r.ending = .unfinished at hending
      refine ⟨?_, ?_, ?_, hcount, hslices⟩
      · simp [hending]
      · simp [hending]
      · intro k hk hover
        have hgoes := hall k (Nat.lt_succ_of_le hk)
        rw [Nat.zero_add] at hgoes
        exact absurd hgoes hover.not_goesOn
    · change r.rounds = 0 + n + 1 at hrounds
      change s.vigil.EndsIn limit (0 + n) r.ending at hend
      rw [Nat.zero_add] at hrounds hend
      have hlast : r.rounds - 1 = n := by rw [hrounds, Nat.add_sub_cancel]
      rw [hlast]
      refine ⟨?_, ?_, ?_, hcount, hslices⟩
      · intro he
        exact over_of_closed (he ▸ hend)
      · intro he
        exact expired_inv (he ▸ hend)
      · intro k _ hover
        refine ⟨hend.ne_unfinished, ?_⟩
        by_contra hlt
        have hgoes := hall k (by omega)
        rw [Nat.zero_add] at hgoes
        exact hover.not_goesOn hgoes
  · rintro d rfl hlasting
    exact exists_end hlasting

/-- The client leaves in the second round, between the two questions: the wait of 30 milliseconds is
over, after one whole slice. -/
theorem departure_between_questions :
    ∃ s : Scene, s.Lasting (.ofMillis 30) ∧ s.leaves = some (s.asks 1 + 1) ∧ s.closes = none ∧
      ∀ rounds, 2 < rounds → s.vigil.run (some (.ofMillis 30)) rounds =
        ⟨.closed, 2, [.ofMillis 20]⟩ := by
  let s : Scene :=
    { exchange := .start .plain false
      live := .inl (Exchange.open_start .plain false)
      closes := none
      leaves := some 5
      reading := fun t => .ofMillis (20 * ((t + 1) / 4))
      reading_mono := fun {s t} h => by
        change 20 * ((s + 1) / 4) * 1000000 ≤ 20 * ((t + 1) / 4) * 1000000
        omega
      asks := fun k => 4 * k
      looks := fun k => 4 * k + 1
      reads := fun k => 4 * k + 2
      rises := fun k => 4 * k + 3
      asks_le_looks := fun k => by omega
      looks_le_reads := fun k => by omega
      reads_le_rises := fun k => by omega
      rises_le_asks := fun k => by omega }
  have hlasting : s.Lasting (.ofMillis 30) := by
    intro k slice hslice _
    have hle : slice.nanos ≤ 20000000 := (Vigil.slice_bounded hslice).1
    change 20 * ((4 * k + 2 + 1) / 4) * 1000000 + slice.nanos ≤
      20 * ((4 * k + 3 + 1) / 4) * 1000000
    omega
  obtain ⟨r, -, -, hr⟩ := (wait_answers s (some (.ofMillis 30))).2.2 _ rfl hlasting
  have htwo : (Duration.ofMillis 30).nanos ⌈/⌉ (Duration.ofMillis 20).nanos = 2 := by
    rw [Nat.ceilDiv_eq_add_pred_div]
    decide
  rw [htwo] at hr
  refine ⟨s, hlasting, rfl, rfl, fun rounds hlt => ?_⟩
  rw [hr rounds hlt, ← hr 3 (by decide)]
  decide

end Scene
end Testbed.Http
