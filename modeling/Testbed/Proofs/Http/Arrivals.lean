import Testbed.Proofs.Http.Reaching

/-!
# Sequential handlers advance once per arrival

Requests come to handlers that share counters, recorders and switchers, and make their visits in any
order: one visit of one request at a time (`Bench`).

**Theorem (`advances_once_per_arrival`).** A sequential handler applies its handlers one after the
other, arrival by arrival, and then the last one again and again, whatever became of those before.
A request arrives only where it was led: every router, switcher and sequential handler on the way
has called the next station, and so has every `all` whose elements before it have returned. So a
request that stops earlier advances no counter further down, and nothing is recorded of it there.

The proof keeps three facts from deed to deed (`Bench.Sound.act`): a counter is the number of visits
of its handler, the stations that are left of each request are still to be reached in order and
unvisited (`Left`), and of a request that has ended nothing is left.
-/

namespace Testbed.Http

/-! ## The bench -/

/-- Requests on their way through handlers that share their state, in any number and any order. -/
structure Bench where
  shared : Shared
  /-- The requests, by number. -/
  walks : List Walk
  /-- The visits that were made, the first one first. -/
  visits : List Visit

/-- One thing that happens at the bench. -/
inductive Deed where
  /-- A request comes and is given to a handler. -/
  | come (root : Handler) (exchange : Exchange)
  /-- A request makes its next visit. -/
  | visit (number : Nat) (patience : Patience)
  /-- Something happens to the exchange of a request that is not a visit. -/
  | touch (number : Nat) (move : Move)
  /-- A switcher gets a target. -/
  | setTarget (switcher : String) (target : Handler)
  /-- A recorder is used through one of its clones. -/
  | use (recorder : String) (act : Recorder.Act)

/-- The handler that a request is given to. -/
def Deed.root? : Deed → Option Handler
  | .come root _ => some root
  | _ => none

namespace Bench

/-- The bench before any request comes: nothing was counted. -/
def start (recorders : List (String × Recorder)) (switchers : List (String × Handler)) : Bench :=
  ⟨⟨[], recorders, switchers⟩, [], []⟩

def act (b : Bench) : Deed → Bench
  | .come root x => { b with walks := b.walks ++ [⟨root, x, [⟨[], root⟩]⟩] }
  | .visit number patience =>
    match b.walks[number]? with
    | some ⟨root, x, t :: rest⟩ =>
      let v : Visit := ⟨number, patience, b.shared, root, x, t, rest⟩
      ⟨v.outcome.1, b.walks.set number v.onward, b.visits ++ [v]⟩
    | _ => b
  | .touch number m =>
    { b with walks := b.walks.modify number fun w => { w with exchange := w.exchange.move m } }
  | .setTarget name target => { b with shared := b.shared.setTarget name target }
  | .use name a => { b with shared := b.shared.setRecorder name ((b.shared.recorder name).act a) }

def after (b : Bench) (ds : List Deed) : Bench := ds.foldl act b

@[simp] theorem after_nil (b : Bench) : b.after [] = b := rfl

@[simp] theorem after_cons (b : Bench) (d : Deed) (ds : List Deed) :
    b.after (d :: ds) = (b.act d).after ds := rfl

theorem act_visit {b : Bench} {v : Visit} (hshared : v.shared = b.shared)
    (hv : b.walks[v.number]? = some ⟨v.root, v.exchange, v.station :: v.rest⟩) :
    b.act (.visit v.number v.patience) =
      ⟨v.outcome.1, b.walks.set v.number v.onward, b.visits ++ [v]⟩ := by
  simp only [act, hv, ← hshared]

end Bench

def Visit.Ends (v : Visit) : Prop := ∃ ending x, v.outcome.2 = .ended ending x

/-- What is known of a visit from those before it. -/
structure Visit.Due (v : Visit) (roots : List Handler) (earlier : List Visit) : Prop where
  root : roots[v.number]? = some v.root
  reached : Reached v.number v.root earlier v.station
  once (u : Visit) : u ∈ earlier → u.number = v.number → u.station.place = v.station.place →
    ∃ job, u.outcome.2 = .waiting job
  count (counter : Nat) : v.shared.count counter = earlier.countP (·.arrivesAt counter)

/-- A bench that requests have come to, each given to its handler. -/
structure Bench.Sound (roots : List Handler) (b : Bench) : Prop where
  given : b.walks.map Walk.root = roots
  left (number : Nat) (w : Walk) : b.walks[number]? = some w →
    Left number w.root b.visits w.stations
  count (counter : Nat) : b.shared.count counter = b.visits.countP (·.arrivesAt counter)
  ended (v : Visit) : v ∈ b.visits → v.Ends →
    ∃ w, b.walks[v.number]? = some w ∧ w.stations = []
  due (earlier : List Visit) (v : Visit) (later : List Visit) :
    b.visits = earlier ++ v :: later →
      v.Due roots earlier ∧ (v.Ends → ∀ u ∈ later, u.number ≠ v.number)

/-- Where a list with one more member is split, either this one stands at the split or behind it. -/
theorem concat_split {α : Type} {l earlier later : List α} {a b : α}
    (h : l ++ [a] = earlier ++ b :: later) :
    (l = earlier ∧ a = b ∧ later = []) ∨
      ∃ between, later = between ++ [a] ∧ l = earlier ++ b :: between := by
  rcases List.eq_nil_or_concat later with rfl | ⟨between, c, rfl⟩
  · obtain ⟨hl, hab⟩ := List.append_inj' h rfl
    exact .inl ⟨hl, List.singleton_inj.mp hab, rfl⟩
  · rw [List.concat_eq_append, ← List.cons_append, ← List.append_assoc] at h
    obtain ⟨hl, hac⟩ := List.append_inj' h rfl
    exact .inr ⟨between, by rw [List.concat_eq_append, List.singleton_inj.mp hac], hl⟩

namespace Bench

variable {b : Bench} {roots : List Handler}

theorem Sound.number_lt (h : b.Sound roots) {v : Visit} (hv : v ∈ b.visits) :
    v.number < b.walks.length := by
  obtain ⟨earlier, later, hvs⟩ := List.append_of_mem hv
  obtain ⟨hlt, -⟩ := List.getElem?_eq_some_iff.mp (h.due earlier v later hvs).1.root
  rwa [← h.given, List.length_map] at hlt

theorem Sound.come (h : b.Sound roots) (root : Handler) (x : Exchange) :
    Sound (roots ++ [root]) (b.act (.come root x)) where
  given := by simp [act, h.given]
  left := by
    intro number w hw
    have hw : (b.walks ++ [_])[number]? = some w := hw
    rw [List.getElem?_append] at hw
    split_ifs at hw with hlt
    · exact h.left number w hw
    · have hw := List.mem_of_getElem? hw
      rw [List.mem_singleton] at hw
      rw [hw]
      refine .first fun v hv hnumber => hlt ?_
      rw [← hnumber]
      exact h.number_lt hv
  count := h.count
  ended := by
    intro v hv hends
    obtain ⟨w, hw, hstations⟩ := h.ended v hv hends
    refine ⟨w, ?_, hstations⟩
    exact (List.getElem?_append_left (List.getElem?_eq_some_iff.mp hw).1).trans hw
  due := by
    intro earlier v later hvs
    obtain ⟨hdue, hlater⟩ := h.due earlier v later hvs
    refine ⟨{ hdue with root := ?_ }, hlater⟩
    exact (List.getElem?_append_left (List.getElem?_eq_some_iff.mp hdue.root).1).trans hdue.root

theorem Sound.touch (h : b.Sound roots) (number : Nat) (m : Move) :
    Sound roots (b.act (.touch number m)) := by
  -- No request loses its handler or its stations.
  have hkept (n : Nat) : (b.act (.touch number m)).walks[n]?.map (fun w => (w.root, w.stations)) =
      b.walks[n]?.map fun w => (w.root, w.stations) := by
    show (b.walks.modify number _)[n]?.map _ = _
    rw [List.getElem?_modify]
    cases b.walks[n]? with
    | none => rfl
    | some w =>
      by_cases hn : number = n <;> simp [hn]
  refine ⟨?_, fun n w hw => ?_, h.count, fun v hv hends => ?_, h.due⟩
  · rw [← h.given]
    refine List.ext_getElem? fun n => ?_
    have hroot := congrArg (Option.map Prod.fst) (hkept n)
    rw [Option.map_map, Option.map_map] at hroot
    rw [List.getElem?_map, List.getElem?_map]
    exact hroot
  · have hn := hkept n
    rw [hw, Option.map_some, eq_comm, Option.map_eq_some_iff] at hn
    obtain ⟨w', hw', heq⟩ := hn
    obtain ⟨hroot, hstations⟩ := Prod.mk.inj heq
    rw [← hroot, ← hstations]
    exact h.left n w' hw'
  · obtain ⟨w, hw, hstations⟩ := h.ended v hv hends
    have hn := hkept v.number
    rw [hw, Option.map_some, Option.map_eq_some_iff] at hn
    obtain ⟨w', hw', heq⟩ := hn
    exact ⟨w', hw', (Prod.mk.inj heq).2.trans hstations⟩

theorem Sound.visit {v : Visit} (h : b.Sound roots)
    (hw : b.walks[v.number]? = some ⟨v.root, v.exchange, v.station :: v.rest⟩)
    (hs : v.shared = b.shared) :
    Sound roots ⟨v.outcome.1, b.walks.set v.number v.onward, b.visits ++ [v]⟩ := by
  have hleft := h.left v.number _ hw
  obtain ⟨hlt, hget⟩ := List.getElem?_eq_some_iff.mp hw
  have hroot : roots[v.number]? = some v.root := by
    rw [← h.given, List.getElem?_map, hw]
    rfl
  -- A request that has ended makes no more visits.
  have hother (u : Visit) (hu : u ∈ b.visits) (hends : u.Ends) : v.number ≠ u.number := by
    obtain ⟨w, hw', hstations⟩ := h.ended u hu hends
    intro hn
    rw [← hn, hw] at hw'
    cases hw'
    cases hstations
  refine ⟨?_, fun n w hn => ?_, fun counter => ?_, fun u hu hends => ?_,
    fun earlier u later hsplit => ?_⟩
  · obtain ⟨hlt', hget'⟩ := List.getElem?_eq_some_iff.mp hroot
    show (b.walks.set v.number v.onward).map Walk.root = roots
    rw [List.map_set, Visit.root_onward, h.given, ← hget', List.set_getElem_self]
  · have hn : (b.walks.set v.number v.onward)[n]? = some w := hn
    rw [List.getElem?_set] at hn
    split_ifs at hn with hnumber
    · cases hn
      rw [Visit.root_onward, ← hnumber]
      exact hleft.onward
    · exact (h.left n w hn).other hnumber
  · show v.outcome.1.count counter = (b.visits ++ [v]).countP _
    rw [v.count_outcome, hs, h.count, List.countP_append, List.countP_singleton]
  · rcases List.mem_append.mp hu with hu | hu
    · obtain ⟨w, hw', hstations⟩ := h.ended u hu hends
      exact ⟨w, (List.getElem?_set_ne (hother u hu hends)).trans hw', hstations⟩
    · rw [List.mem_singleton] at hu
      obtain ⟨ending, x, hend⟩ := hends
      rw [hu] at hend ⊢
      exact ⟨v.onward, List.getElem?_set_self hlt, by rw [Visit.onward_of_ended hend]⟩
  · obtain ⟨rfl, rfl, rfl⟩ | ⟨between, rfl, hvs⟩ := concat_split hsplit
    · have hcount (counter : Nat) :
          v.shared.count counter = b.visits.countP (·.arrivesAt counter) := by rw [hs, h.count]
      exact ⟨⟨hroot, hleft.ahead.reached, fun _ => hleft.once, hcount⟩, by simp⟩
    · obtain ⟨hdue, hlater⟩ := h.due earlier u between hvs
      refine ⟨hdue, fun hends y hy => ?_⟩
      rcases List.mem_append.mp hy with hy | hy
      · exact hlater hends y hy
      · rw [List.mem_singleton.mp hy]
        exact hother u (by rw [hvs]; simp) hends

/-- **One deed** leaves a bench sound. -/
theorem Sound.act (h : b.Sound roots) (d : Deed) : Sound (roots ++ d.root?.toList) (b.act d) := by
  cases d with
  | come root x => exact h.come root x
  | touch number m =>
    simp only [Deed.root?, Option.toList_none, List.append_nil]
    exact h.touch number m
  | visit number patience =>
    simp only [Deed.root?, Option.toList_none, List.append_nil, Bench.act]
    split
    · rename_i root x t rest hw
      exact h.visit (v := ⟨number, patience, b.shared, root, x, t, rest⟩) hw rfl
    · exact h
  | setTarget | use =>
    simp only [Deed.root?, Option.toList_none, List.append_nil]
    exact ⟨h.given, h.left, h.count, h.ended, h.due⟩

theorem sound_start (recorders : List (String × Recorder)) (switchers : List (String × Handler)) :
    Sound [] (start recorders switchers) where
  given := rfl
  left := by simp [start]
  count := fun _ => rfl
  ended := by simp [start]
  due := by simp [start]

/-- **Many deeds** leave a bench sound. -/
theorem Sound.after (h : b.Sound roots) (ds : List Deed) :
    Sound (roots ++ ds.filterMap Deed.root?) (b.after ds) := by
  induction ds generalizing b roots with
  | nil => simpa using h
  | cons d ds ih =>
    have := ih (h.act d)
    rw [List.append_assoc] at this
    cases hd : d.root? <;> simpa [List.filterMap_cons, hd] using this

end Bench

/-! ## Jobs at the bench -/

/-- A request has come as far as a job. -/
def Walk.StandsAt (w : Walk) : Job.Progress → Prop
  | .next job | .waiting job => w.job = job
  | .ended _ x => w.exchange = x ∧ w.stations = []

/-- A run of a job is a number of visits. -/
theorem Bench.exists_visits (patience : Patience) (number fuel : Nat) {b : Bench} {w : Walk}
    (hw : b.walks[number]? = some w) :
    ∃ n, ∃ w' : Walk, let b' := b.after (List.replicate n (.visit number patience))
      b'.walks[number]? = some w' ∧ b'.shared = (Job.runFor patience fuel b.shared w.job).1 ∧
        w'.StandsAt (Job.runFor patience fuel b.shared w.job).2 := by
  induction fuel generalizing b w with
  | zero => exact ⟨0, w, hw, rfl, rfl⟩
  | succ fuel ih =>
    obtain ⟨root, x, stations⟩ := w
    cases stations with
    | nil => exact ⟨0, _, hw, rfl, rfl, rfl⟩
    | cons t rest =>
      let v : Visit := ⟨number, patience, b.shared, root, x, t, rest⟩
      have hact : b.act (.visit number patience) =
          ⟨v.outcome.1, b.walks.set number v.onward, b.visits ++ [v]⟩ :=
        act_visit (v := v) rfl hw
      have hw' : (b.walks.set number v.onward)[number]? = some v.onward :=
        List.getElem?_set_self (List.getElem?_eq_some_iff.mp hw).1
      have houtcome : Job.step patience b.shared (Walk.job ⟨root, x, t :: rest⟩) = v.outcome := rfl
      rw [Job.runFor, houtcome]
      -- One visit stands for the first step, and the others follow it.
      rcases ho : v.outcome with ⟨shared, job | ⟨ending, y⟩ | job⟩ <;> rw [ho] at hact
      · have hjob : v.onward.job = job := Visit.job_onward (.inl (by rw [ho]))
        obtain ⟨n, w', hrun⟩ := ih (b := ⟨shared, _, _⟩) hw'
        refine ⟨n + 1, w', ?_⟩
        rw [List.replicate_succ, after_cons, hact, ← hjob]
        exact hrun
      · refine ⟨1, v.onward, ?_⟩
        rw [List.replicate_one, after_cons, hact]
        exact ⟨hw', rfl, by rw [Visit.onward_of_ended (by rw [ho])]; exact ⟨rfl, rfl⟩⟩
      · refine ⟨1, v.onward, ?_⟩
        rw [List.replicate_one, after_cons, hact]
        exact ⟨hw', rfl, Visit.job_onward (.inr (by rw [ho]))⟩

/-- **Sequential handlers advance once per arrival.** Let requests come and make their visits, in
any number and in any order, whatever else is done to their exchanges, to recorders and to
switchers.

1. A counter is the number of visits of its sequential handler.

Take any visit, with the visits before it and those behind it.

2. Its request was given to a handler from which its station is reached: at each station on the way
   there the next one was called, and what was called before that one has returned. It was not
   visited before, unless it waits.
3. If it is the visit of a sequential handler, and if there were `k` arrivals before, then the
   handler with the number `k` is applied, or the last one if there is none with this number.
4. It advances the counter that it arrives at, and no other one; it gives a recorder the request if
   it is a visit of that recorder, and touches no other one.
5. If it ends its request, this request makes no visit behind it.

Finally, a run of a job is a number of visits, by which the request comes as far as the job does. -/
theorem Bench.advances_once_per_arrival (recorders : List (String × Recorder))
    (switchers : List (String × Handler)) (ds : List Deed) :
    let b := (start recorders switchers).after ds
    (∀ counter, b.shared.count counter = b.visits.countP (·.arrivesAt counter)) ∧
    (∀ earlier (v : Visit) later, b.visits = earlier ++ v :: later →
      ((ds.filterMap Deed.root?)[v.number]? = some v.root ∧
        Reached v.number v.root earlier v.station ∧
        ∀ u ∈ earlier, u.number = v.number → u.station.place = v.station.place →
          ∃ job, u.outcome.2 = .waiting job) ∧
      (∀ counter handlers, v.station.handler = .sequential counter handlers → handlers ≠ [] →
        let i := min (earlier.countP (·.arrivesAt counter)) (handlers.length - 1)
        ∃ handler, handlers[i]? = some handler ∧
          v.calls = [⟨.nth i :: v.station.place, handler⟩] ∧
          v.outcome = (v.shared.advance counter,
            .next ⟨v.exchange, handler :: v.rest.map Station.handler⟩)) ∧
      (∀ counter, v.outcome.1.count counter =
        v.shared.count counter + if v.arrivesAt counter then 1 else 0) ∧
      (∀ name, (v.station.handler = .record name →
          v.outcome.1.recorder name = (v.shared.recorder name).record v.exchange.request) ∧
        (v.station.handler ≠ .record name →
          v.outcome.1.recorder name = v.shared.recorder name)) ∧
      (v.Ends → ∀ u ∈ later, u.number ≠ v.number)) ∧
    ∀ number (w : Walk) patience, b.walks[number]? = some w →
      ∃ n, ∃ w' : Walk, let b' := b.after (List.replicate n (.visit number patience))
        b'.walks[number]? = some w' ∧ b'.shared = (w.job.run patience b.shared).1 ∧
          w'.StandsAt (w.job.run patience b.shared).2 := by
  intro b
  have h : Sound ([] ++ ds.filterMap Deed.root?) b := (sound_start recorders switchers).after ds
  rw [List.nil_append] at h
  refine ⟨h.count, fun earlier v later hvs => ?_, fun number w patience hw => ?_⟩
  · obtain ⟨hdue, hlater⟩ := h.due earlier v later hvs
    refine ⟨⟨hdue.root, hdue.reached, hdue.once⟩, fun counter handlers hv hne => ?_,
      v.count_outcome, fun name => ⟨fun hv => ?_, Visit.recorder_outcome⟩, hlater⟩
    · rw [← hdue.count]
      exact Visit.outcome_sequential hv hne
    · rw [Visit.outcome_record hv, Shared.record, Shared.recorder_setRecorder, if_pos rfl]
  · exact exists_visits patience number _ hw

/-- A handler that breaks off has had its turn all the same: the next request is given to the one
behind it. Nothing was recorded of the first, which was to make one more visit. -/
theorem Bench.second_arrival_goes_on :
    let turns : Handler := .sequential 0 [.script (.finish .aborted), .status 201]
    let root : Handler := .all [turns, .record "r"]
    let x : Exchange := .start .plain false
    let ds : List Deed := [.come root x, .visit 0 .limited, .visit 0 .limited, .visit 0 .limited,
      .visit 0 .limited, .come root x, .visit 1 .limited, .visit 1 .limited]
    let b := (start [] []).after ds
    b.shared.count 0 = 2 ∧ (b.shared.recorder "r").count = 0 ∧
    ∃ earlier, ∃ v : Visit, ∃ later, b.visits = earlier ++ v :: later ∧ v.number = 1 ∧
      Reached 1 root earlier v.station ∧ v.outcome.2 = .next ⟨x, [.status 201, .record "r"]⟩ := by
  intro turns root x ds b
  obtain ⟨hcount, hvisit, -⟩ := advances_once_per_arrival [] [] ds
  let first := (start [] []).after (ds.take 6)
  let called : List Station := [⟨[.element 0], turns⟩, ⟨[.element 1], .record "r"⟩]
  let v₀ : Visit := ⟨1, .limited, first.shared, root, x, ⟨[], root⟩, []⟩
  let v : Visit := ⟨1, .limited, first.shared, root, x, ⟨[.element 0], turns⟩, called.tail⟩
  have hfirst : first.walks[1]? = some ⟨root, x, [⟨[], root⟩]⟩ := rfl
  have hsecond : (first.walks.set 1 v₀.onward)[1]? = some ⟨root, x, called⟩ :=
    List.getElem?_set_self (List.getElem?_eq_some_iff.mp hfirst).1
  have hsplit : b.visits = (first.visits ++ [v₀]) ++ v :: [] := by
    let second : Bench := ⟨first.shared, first.walks.set 1 v₀.onward, first.visits ++ [v₀]⟩
    have hact : first.act (.visit 1 .limited) = second := act_visit (v := v₀) rfl hfirst
    have hact' : (second.act (.visit 1 .limited)).visits = second.visits ++ [v] :=
      congrArg visits (act_visit (b := second) (v := v) rfl hsecond)
    change ((first.act (.visit 1 .limited)).act (.visit 1 .limited)).visits = _
    rw [hact, hact']
  have hearlier : (first.visits ++ [v₀]).countP (·.arrivesAt 0) = 1 := by decide
  obtain ⟨⟨-, hreached, -⟩, hturn, -⟩ := hvisit _ _ _ hsplit
  obtain ⟨handler, hhandler, -, houtcome⟩ :=
    hturn 0 [.script (.finish .aborted), .status 201] rfl (by simp)
  rw [hearlier] at hhandler
  cases hhandler
  refine ⟨(hcount 0).trans (by decide), by decide, _, v, _, hsplit, rfl, hreached, ?_⟩
  rw [houtcome]
  rfl

end Testbed.Http
