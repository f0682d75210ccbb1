import Mathlib.Tactic.SplitIfs
import Testbed.Proofs.Http.Course
import Testbed.Proofs.Http.Recording

/-!
# Where a request is

A job forgets where in the first handler its tasks come from. Here each task keeps its place
(`Station`): the branches that lead to it. A step of a job is a visit of its first station
(`Visit`), which calls other stations (`Station.calls`) before the request goes on.

The stations are only a reading of jobs: what is left to visit behind a step has as its handlers the
tasks of the job that the step leads to (`Visit.job_onward`).
-/

namespace Testbed.Http

/-! ## Stations -/

/-- Whether a route takes a request. -/
def Route.takes {τ : Type} (r : Route τ) (path method : String) : Bool :=
  (r.matcher.params? path).isSome && r.acceptsMethod method

/-- The branch from a handler to one that it calls, counted from zero. -/
inductive Branch where
  /-- An element of an `all`. -/
  | element (i : Nat)
  /-- One of the handlers of a sequential one. -/
  | nth (i : Nat)
  /-- The target of a route. -/
  | route (i : Nat)
  /-- The target of a switcher. -/
  | target
deriving DecidableEq, Repr

/-- A handler at its place: the branches that lead there from the first handler, the last branch
first. -/
structure Station where
  place : List Branch
  handler : Handler

/-- The stations that are called at a station, in order: all elements, the handler that is next in
a sequential one, the target of the first route that takes the request, or the present target of a
switcher. -/
def Station.calls (shared : Shared) (request : Request) (t : Station) : List Station :=
  match t.handler with
  | .script _ | .record _ => []
  | .all handlers => handlers.mapIdx fun i h => ⟨.element i :: t.place, h⟩
  | .sequential counter handlers =>
    let i := min (shared.count counter) (handlers.length - 1)
    handlers[i]?.toList.map fun h => ⟨.nth i :: t.place, h⟩
  | .router routes =>
    let i := routes.findIdx (·.takes request.path request.method)
    routes[i]?.toList.map fun r => ⟨.route i :: t.place, r.target⟩
  | .switch name => (shared.target? name).toList.map fun h => ⟨.target :: t.place, h⟩

/-- A request on its way, and the stations that are left. -/
structure Walk where
  /-- The handler that it was given to. -/
  root : Handler
  exchange : Exchange
  stations : List Station

/-- The job of a request on its way. -/
def Walk.job (w : Walk) : Job := ⟨w.exchange, w.stations.map Station.handler⟩

/-- One visit of a station. -/
structure Visit where
  /-- The number of the request. -/
  number : Nat
  patience : Patience
  /-- What the handlers share when it begins. -/
  shared : Shared
  root : Handler
  exchange : Exchange
  station : Station
  /-- The stations that were left besides. -/
  rest : List Station

namespace Visit

def job (v : Visit) : Job := ⟨v.exchange, v.station.handler :: v.rest.map Station.handler⟩

/-- What the step leads to. -/
def outcome (v : Visit) : Shared × Job.Progress := v.job.step v.patience v.shared

def calls (v : Visit) : List Station := v.station.calls v.shared v.exchange.request

/-- The way on: through the stations that are called, or to an end. A station that waits stays. -/
def onward (v : Visit) : Walk :=
  match v.outcome.2 with
  | .next job => ⟨v.root, job.exchange, v.calls ++ v.rest⟩
  | .ended _ x => ⟨v.root, x, []⟩
  | .waiting job =>
    ⟨v.root, job.exchange, job.tasks.head?.toList.map (Station.mk v.station.place) ++ v.rest⟩

end Visit

/-! ## Stations and jobs -/

def Selection.target? {τ : Type} : Selection τ → Option τ
  | .route _ target => some target
  | _ => none

/-- The target is that of the first route that takes the request. -/
theorem target?_selectRoute {τ : Type} (path method : String) (routes : List (Route τ)) :
    (selectRoute path method routes).target? =
      routes[routes.findIdx (·.takes path method)]?.map Route.target := by
  induction routes with
  | nil => rfl
  | cons r rest ih =>
    rw [selectRoute, List.findIdx_cons]
    cases hp : r.matcher.params? path with
    | none => simpa [Route.takes, hp] using ih
    | some params =>
      cases hm : r.acceptsMethod method with
      | true => simp [Route.takes, hp, hm, Selection.target?]
      | false =>
        simp only [Route.takes, hp, hm, Option.isSome_some, Bool.and_false, cond_false,
          List.getElem?_cons_succ, Bool.false_eq_true, if_false]
        simp only [Route.takes] at ih
        rw [← ih]
        cases selectRoute path method rest <;> rfl

theorem map_handler_mapIdx (place : List Branch) (handlers : List Handler) :
    (handlers.mapIdx fun i h => Station.mk (.element i :: place) h).map Station.handler =
      handlers := by
  refine List.ext_getElem? fun i => ?_
  rw [List.getElem?_map, List.getElem?_mapIdx, Option.map_map]
  exact Option.map_id'

namespace Visit

variable {v : Visit} {job : Job}

/-- What is called comes in front of what was left. -/
theorem tasks_of_next (h : v.outcome.2 = .next job) :
    job.tasks = (v.calls ++ v.rest).map Station.handler := by
  obtain ⟨number, patience, shared, root, x, ⟨place, handler⟩, rest⟩ := v
  rw [List.map_append]
  simp only [outcome, Visit.job] at h
  simp only [calls, Station.calls]
  cases handler with
  | script s =>
    simp only [Job.step] at h
    split at h <;> cases h
    rfl
  | all handlers =>
    cases h
    exact congrArg (· ++ _) (map_handler_mapIdx place handlers).symm
  | sequential counter handlers =>
    simp only [Job.step] at h
    split at h <;> cases h
    rename_i next hnext
    simp [hnext]
  | router routes =>
    simp only [Job.step] at h
    have htarget := target?_selectRoute x.request.path x.request.method routes
    split at h <;> cases h
    · rename_i params target hselect
      rw [hselect] at htarget
      obtain ⟨r, hr, rfl⟩ := Option.map_eq_some_iff.mp htarget.symm
      simp [hr]
    · rename_i hnone
      have hnone : (selectRoute x.request.path x.request.method routes).target? = none := by
        cases hselect : selectRoute x.request.path x.request.method routes with
        | route params target => exact absurd hselect (hnone params target)
        | _ => rfl
      rw [hnone, eq_comm, Option.map_eq_none_iff] at htarget
      simp [htarget]
  | record name =>
    cases h
    rfl
  | switch name =>
    simp only [Job.step] at h
    split at h <;> cases h <;> rename_i htarget <;> simp [htarget]

/-- Where a step waits, the station stays, with what is left of its script. -/
theorem tasks_of_waiting (h : v.outcome.2 = .waiting job) :
    ∃ handler, job.tasks = handler :: v.rest.map Station.handler := by
  obtain ⟨number, patience, shared, root, x, ⟨place, handler⟩, rest⟩ := v
  simp only [outcome, Visit.job] at h
  cases handler with
  | script s =>
    simp only [Job.step] at h
    split at h <;> cases h
    exact ⟨_, rfl⟩
  | all | record => cases h
  | sequential | router | switch =>
    simp only [Job.step] at h
    split at h <;> cases h

theorem onward_of_next (h : v.outcome.2 = .next job) :
    v.onward = ⟨v.root, job.exchange, v.calls ++ v.rest⟩ := by
  rw [onward, h]

theorem onward_of_ended {ending : Ending} {x : Exchange} (h : v.outcome.2 = .ended ending x) :
    v.onward = ⟨v.root, x, []⟩ := by
  rw [onward, h]

theorem onward_of_waiting (h : v.outcome.2 = .waiting job) : ∃ handler,
    job.tasks = handler :: v.rest.map Station.handler ∧
      v.onward = ⟨v.root, job.exchange, ⟨v.station.place, handler⟩ :: v.rest⟩ := by
  obtain ⟨handler, htasks⟩ := tasks_of_waiting h
  refine ⟨handler, htasks, ?_⟩
  simp only [onward, h, htasks]
  rfl

/-- **The way on is that of the job.** -/
theorem job_onward (h : v.outcome.2 = .next job ∨ v.outcome.2 = .waiting job) :
    v.onward.job = job := by
  rcases h with h | h
  · rw [onward_of_next h, Walk.job, ← tasks_of_next h]
  · obtain ⟨handler, htasks, honward⟩ := onward_of_waiting h
    rw [honward, Walk.job, List.map_cons, ← htasks]

@[simp] theorem root_onward (v : Visit) : v.onward.root = v.root := by
  unfold onward
  split <;> rfl

/-! ## What a visit leaves behind -/

/-- Whether a visit is that of a sequential handler with a counter. -/
def arrivesAt (counter : Nat) (v : Visit) : Bool :=
  match v.station.handler with
  | .sequential c _ => c == counter
  | _ => false

theorem count_advance (s : Shared) (counter c : Nat) :
    (s.advance counter).count c = s.count c + if c = counter then 1 else 0 := by
  by_cases h : c = counter <;> simp [Shared.advance, Shared.count, Shared.lookup_put, h]

theorem count_outcome (v : Visit) (counter : Nat) :
    v.outcome.1.count counter = v.shared.count counter + if v.arrivesAt counter then 1 else 0 := by
  obtain ⟨number, patience, shared, root, x, ⟨place, handler⟩, rest⟩ := v
  cases handler with
  | script s =>
    simp only [outcome, Visit.job, Job.step]
    split <;> rfl
  | all handlers => rfl
  | sequential c handlers =>
    have hadvance := count_advance shared c counter
    simp only [outcome, Visit.job, Job.step, arrivesAt, beq_iff_eq, eq_comm (a := c)]
    split <;> exact hadvance
  | router routes | switch name =>
    simp only [outcome, Visit.job, Job.step]
    split <;> rfl
  | record name => rfl

/-- A sequential handler calls the one that is next, and the last one again and again. -/
theorem outcome_sequential {counter : Nat} {handlers : List Handler}
    (h : v.station.handler = .sequential counter handlers) (hne : handlers ≠ []) :
    let i := min (v.shared.count counter) (handlers.length - 1)
    ∃ handler, handlers[i]? = some handler ∧ v.calls = [⟨.nth i :: v.station.place, handler⟩] ∧
      v.outcome = (v.shared.advance counter,
        .next ⟨v.exchange, handler :: v.rest.map Station.handler⟩) := by
  intro i
  have hlt : i < handlers.length := by
    have := List.length_pos_iff.mpr hne
    omega
  refine ⟨_, List.getElem?_eq_getElem hlt, ?_, ?_⟩
  · simp only [calls, Station.calls, h, List.getElem?_eq_getElem hlt, i]
    rfl
  · simp only [outcome, Visit.job, h, Job.step, List.getElem?_eq_getElem hlt, i]

theorem outcome_record {name : String} (h : v.station.handler = .record name) :
    v.outcome = (v.shared.record name v.exchange.request,
      .next ⟨v.exchange, v.rest.map Station.handler⟩) := by
  simp only [outcome, Visit.job, h, Job.step]

theorem recorder_outcome {name : String} (h : v.station.handler ≠ .record name) :
    v.outcome.1.recorder name = v.shared.recorder name := by
  have hseen : (Shared.Act.work v.patience v.job).seenBy name = [] := by
    unfold Visit.job
    cases hv : v.station.handler with
    | record name' =>
      have : name ≠ name' := by
        rintro rfl
        exact h hv
      simp [Shared.Act.seenBy, this]
    | _ => rfl
  rw [outcome, Shared.recorder_step, hseen]
  rfl

end Visit
end Testbed.Http
