import Testbed.Proofs.Http.Recording
import Testbed.Proofs.Http.Routing

/-!
# Handlers that spare a recorder

**Theorem (`runFor_rests`).** A handler in which a recorder does not stand (`Handler.Spares`) leaves
it alone, whatever it does and however far it has come: each step of it makes tasks that spare the
recorder of tasks that do (`spares_step`).

**Theorem (`first_run_rests`).** Let a recorder stand first in the chain of one route, and nowhere
else (`Placed`). Then the first run of a call gives it the request if this goes to the route,
whatever the rest of the chain does, and nothing otherwise; and what is left to do spares it.
-/

namespace Testbed.Http

/-! ## Handlers without a recorder -/

/-- A handler in which a recorder does not stand. A switcher counts by its targets, which are not
part of it. -/
inductive Handler.Spares (name : String) : Handler → Prop where
  | script (s : Script) : Spares name (.script s)
  | all {handlers : List Handler} (h : ∀ k ∈ handlers, Spares name k) : Spares name (.all handlers)
  | sequential (counter : Nat) {handlers : List Handler} (h : ∀ k ∈ handlers, Spares name k) :
      Spares name (.sequential counter handlers)
  | router {routes : List (Route Handler)} (h : ∀ r ∈ routes, Spares name r.target) :
      Spares name (.router routes)
  | record {other : String} (h : other ≠ name) : Spares name (.record other)
  | switch (switcher : String) : Spares name (.switch switcher)

/-- No target of a switcher has the recorder in it. -/
def Shared.Spares (name : String) (s : Shared) : Prop :=
  ∀ switcher h, s.target? switcher = some h → h.Spares name

namespace Job

variable {name : String} {patience : Patience} {shared : Shared} {job : Job}

/-- What is left to do after some steps. -/
def Progress.tasks : Progress → List Handler
  | .next job => job.tasks
  | .ended _ _ => []
  | .waiting job => job.tasks

/-- After some steps a recorder is in a certain state, and what is left to do spares it. -/
structure Rests (name : String) (r : Recorder) (p : Shared × Progress) : Prop where
  recorder : p.1.recorder name = r
  shared : p.1.Spares name
  tasks : ∀ h ∈ p.2.tasks, h.Spares name

theorem mem_of_selectRoute {path method : String} {routes : List (Route Handler)}
    {params : List String} {target : Handler}
    (h : selectRoute path method routes = .route params target) :
    ∃ r ∈ routes, r.target = target := by
  induction routes with
  | nil => cases h
  | cons r rest ih =>
    have hrest (h : selectRoute path method rest = .route params target) :
        ∃ r' ∈ r :: rest, r'.target = target := by
      obtain ⟨r', hr', htarget⟩ := ih h
      exact ⟨r', .tail _ hr', htarget⟩
    rw [selectRoute] at h
    split at h
    · exact hrest h
    · split at h
      · cases h
        exact ⟨r, .head _, rfl⟩
      · split at h
        · cases h
        · exact hrest h

theorem switchers_step (patience : Patience) (shared : Shared) (job : Job) :
    (job.step patience shared).1.switchers = shared.switchers := by
  obtain ⟨x, tasks⟩ := job
  match tasks with
  | [] | .all _ :: _ | .record _ :: _ => rfl
  | .script script :: rest =>
    simp only [step]
    rcases script.play patience x with ⟨⟨_ | _ | _⟩ | _, y⟩ <;> rfl
  | .sequential counter handlers :: rest =>
    simp only [step]
    split <;> rfl
  | .router routes :: rest =>
    simp only [step]
    split <;> rfl
  | .switch switcher :: rest =>
    simp only [step]
    split <;> rfl

/-- What a step makes of tasks that spare a recorder spares it. -/
theorem spares_step (patience : Patience) (hshared : shared.Spares name)
    (hjob : ∀ h ∈ job.tasks, h.Spares name) :
    ∀ h ∈ (job.step patience shared).2.tasks, h.Spares name := by
  obtain ⟨x, tasks⟩ := job
  match tasks with
  | [] => simp [step, Progress.tasks]
  | task :: rest =>
    obtain ⟨htask, hrest⟩ := List.forall_mem_cons.mp hjob
    cases htask with
    | script script =>
      simp only [step]
      rcases script.play patience x with ⟨⟨_ | _ | _⟩ | s, y⟩
      · exact hrest
      · simp [Progress.tasks]
      · simp [Progress.tasks]
      · exact List.forall_mem_cons.mpr ⟨.script s, hrest⟩
    | all h => exact List.forall_mem_append.mpr ⟨h, hrest⟩
    | sequential counter h =>
      simp only [step]
      split
      · rename_i k hk
        exact List.forall_mem_cons.mpr ⟨h k (List.mem_of_getElem? hk), hrest⟩
      · simp [Progress.tasks]
    | @router routes h =>
      simp only [step]
      split
      · rename_i params target hroute
        obtain ⟨r, hr, rfl⟩ := mem_of_selectRoute hroute
        exact List.forall_mem_cons.mpr ⟨h r hr, hrest⟩
      · exact hrest
    | record h => exact hrest
    | switch switcher =>
      simp only [step]
      split
      · rename_i k hk
        exact List.forall_mem_cons.mpr ⟨hshared _ k hk, hrest⟩
      · exact hrest

theorem step_rests (patience : Patience) (hshared : shared.Spares name)
    (hjob : ∀ h ∈ job.tasks, h.Spares name) :
    Rests name (shared.recorder name) (job.step patience shared) := by
  refine ⟨?_, ?_, spares_step patience hshared hjob⟩
  · have hseen : (Shared.Act.work patience job).seenBy name = [] := by
      obtain ⟨x, tasks⟩ := job
      match tasks with
      | [] => rfl
      | task :: rest =>
        cases hjob task (.head _) with
        | record h => exact if_neg h.symm
        | _ => rfl
    rw [Shared.recorder_step, hseen]
    rfl
  · intro switcher h htarget
    rw [Shared.target?, switchers_step] at htarget
    exact hshared switcher h htarget

/-- **A job that spares a recorder** never touches it. -/
theorem runFor_rests (patience : Patience) (hshared : shared.Spares name)
    (hjob : ∀ h ∈ job.tasks, h.Spares name) (fuel : Nat) :
    Rests name (shared.recorder name) (runFor patience fuel shared job) := by
  induction fuel generalizing shared job with
  | zero => exact ⟨rfl, hshared, hjob⟩
  | succ fuel ih =>
    have hstep := step_rests patience hshared hjob
    rw [runFor]
    rcases hs : job.step patience shared with ⟨shared', next | ⟨ending, x⟩ | next⟩ <;>
      rw [hs] at hstep
    · obtain ⟨hrecorder, hshared', htasks⟩ := hstep
      rw [← hrecorder]
      exact ih hshared' htasks
    · exact hstep
    · exact hstep

end Job

/-! ## The first run -/

/-- Whether a request goes to a registration behind some others: it takes the request, and none of
them does. -/
def Registration.gets (before : List Registration) (g : Registration) (request : Request) : Bool :=
  before.all (fun h => !h.takes request.path request.method) &&
    g.takes request.path request.method

/-- A recorder stands first in the chain of one registration, and nowhere else. -/
structure Placed (name : String) (before : List Registration) (g : Registration)
    (behind : List Registration) : Prop where
  chain : ∃ rest, g.target = .all (.record name :: rest) ∧ ∀ h ∈ rest, h.Spares name
  others : ∀ h ∈ before ++ behind, h.target.Spares name

section

variable {name : String} {before behind : List Registration} {g : Registration} {request : Request}

theorem firstTaking_of_gets (h : g.gets before request = true) :
    firstTaking (before ++ g :: behind) request.path request.method = some g := by
  simp only [Registration.gets, Bool.and_eq_true, List.all_eq_true, Bool.not_eq_true'] at h
  have hbefore : before.find? (·.takes request.path request.method) = none :=
    List.find?_eq_none.mpr fun k hk => by simp [h.1 k hk]
  rw [firstTaking, List.find?_append, hbefore, Option.none_or]
  exact List.find?_cons_of_pos h.2

theorem mem_of_not_gets {k : Registration} (h : g.gets before request = false)
    (hk : firstTaking (before ++ g :: behind) request.path request.method = some k) :
    k ∈ before ++ behind := by
  rw [firstTaking, List.find?_append] at hk
  cases hbefore : before.find? (·.takes request.path request.method) with
  | some k' =>
    rw [hbefore, Option.some_or, Option.some.injEq] at hk
    exact List.mem_append_left _ (hk ▸ List.mem_of_find?_eq_some hbefore)
  | none =>
    have hnone : ∀ k ∈ before, k.takes request.path request.method = false :=
      fun k hk => by simpa using List.find?_eq_none.mp hbefore k hk
    have htakes : ¬ g.takes request.path request.method = true := fun htakes => by
      have hgets : g.gets before request = true := by
        rw [Registration.gets, htakes, Bool.and_true, List.all_eq_true]
        exact fun k hk => by rw [hnone k hk]; rfl
      rw [hgets] at h
      cases h
    rw [hbefore, Option.none_or] at hk
    change firstTaking (g :: behind) _ _ = _ at hk
    rw [firstTaking_cons, if_neg htakes] at hk
    exact List.mem_append_right _ (List.mem_of_find?_eq_some hk)

theorem Placed.three_le_stepLimit (placed : Placed name before g behind) (shared : Shared)
    (x : Exchange) : 3 ≤ Job.stepLimit shared
      ⟨x, [.router ((before ++ g :: behind).map Registration.route)]⟩ := by
  obtain ⟨rest, htarget, -⟩ := placed.chain
  have hmem : g.route ∈ (before ++ g :: behind).map Registration.route :=
    List.mem_map_of_mem (List.mem_append_right _ (.head _))
  have hweight := Job.weight_le_routeWeights
    (Job.switcherWeight shared shared.switchers.length) hmem
  change Job.weight _ g.target ≤ _ at hweight
  rw [htarget] at hweight
  simp only [Job.weight, Job.weights] at hweight
  simp only [Job.stepLimit, Job.weights, Job.weight]
  omega

/-- **The first run of a call** gives the request to the recorder if it goes to its registration,
whatever becomes of it then, and otherwise does not touch the recorder. -/
theorem Placed.first_run_rests (placed : Placed name before g behind) (patience : Patience)
    {shared : Shared} (hshared : shared.Spares name) (x : Exchange) :
    Job.Rests name
      (if g.gets before x.request then (shared.recorder name).record x.request
        else shared.recorder name)
      (Job.run patience shared
        ⟨x, [.router ((before ++ g :: behind).map Registration.route)]⟩) := by
  have hfirst := router_applies_first patience shared (before ++ g :: behind) x []
  -- There are steps enough for the router, the chain and the recorder.
  obtain ⟨n, hn⟩ := Nat.exists_eq_add_of_le' (placed.three_le_stepLimit shared x)
  rw [Job.run, hn]
  cases hgets : g.gets before x.request with
  | true =>
    obtain ⟨rest, htarget, hrest⟩ := placed.chain
    have hrouter := (hfirst.1 g (firstTaking_of_gets hgets)).runFor
    rw [htarget] at hrouter
    have hchain := (Job.leads_all patience shared (g.prepare x) (.record name :: rest) []).runFor
    have hrecorder : (shared.record name x.request).recorder name =
        (shared.recorder name).record x.request := by
      rw [Shared.record, Shared.recorder_setRecorder, if_pos rfl]
    have hrecorded : (shared.record name x.request).Spares name := hshared
    rw [hrouter, hchain, if_pos rfl, ← hrecorder]
    exact Job.runFor_rests patience hrecorded (List.forall_mem_append.mpr ⟨hrest, by simp⟩) n
  | false =>
    rw [if_neg (by simp)]
    cases hk : firstTaking (before ++ g :: behind) x.request.path x.request.method with
    | some k =>
      rw [(hfirst.1 k hk).runFor]
      exact Job.runFor_rests patience hshared
        (List.forall_mem_singleton.mpr (placed.others k (mem_of_not_gets hgets hk))) _
    | none =>
      rw [(hfirst.2 hk).1.runFor]
      exact Job.runFor_rests patience hshared (by simp) _

end

end Testbed.Http
