import Testbed.Http.Job

/-!
# One step of a job after another

A job that makes a step without ending becomes another job, and what becomes of that one becomes of
the first (`Leads`). So the run of a job is known from its steps, without a count of them.
-/

namespace Testbed.Http
namespace Job

variable {patience : Patience} {shared : Shared} {job : Job} {x y : Exchange}

/-! ## Runs with more steps -/

/-- A run that stops of itself is the same when more steps are allowed. -/
theorem runFor_of_le {m n : Nat} (h : m ≤ n)
    (hstop : ∀ next, (runFor patience m shared job).2 ≠ .next next) :
    runFor patience n shared job = runFor patience m shared job := by
  induction m generalizing n shared job with
  | zero => exact absurd rfl (hstop job)
  | succ m ih =>
    obtain ⟨n, rfl⟩ : ∃ k, n = k + 1 := ⟨n - 1, by omega⟩
    simp only [runFor] at hstop ⊢
    rcases hs : job.step patience shared with ⟨shared', next | ⟨ending, x⟩ | waiting⟩ <;>
      simp only [hs] at hstop ⊢
    exact ih (Nat.le_of_succ_le_succ h) hstop

theorem weights_append (ofSwitcher : String → Nat) (hs ks : List Handler) :
    weights ofSwitcher (hs ++ ks) = weights ofSwitcher hs + weights ofSwitcher ks := by
  induction hs with
  | nil => simp [weights]
  | cons h hs ih => simp [weights, ih, Nat.add_assoc]

theorem weight_le_routeWeights (ofSwitcher : String → Nat) {routes : List (Route Handler)}
    {r : Route Handler} (h : r ∈ routes) :
    weight ofSwitcher r.target ≤ routeWeights ofSwitcher routes := by
  induction routes with
  | nil => cases h
  | cons s rest ih =>
    obtain ⟨method, matcher, target⟩ := s
    rw [routeWeights]
    rcases List.mem_cons.mp h with rfl | h
    · exact Nat.le_add_right _ _
    · exact Nat.le_trans (ih h) (Nat.le_add_left _ _)

/-! ## Steps -/

/-- One step leads from a job to another, and what becomes of that one becomes of the first. -/
structure Leads (patience : Patience) (shared : Shared) (job next : Job) : Prop where
  step : job.step patience shared = (shared, .next next)
  runFor (fuel : Nat) :
    runFor patience (fuel + 1) shared job = Job.runFor patience fuel shared next
  run : (∀ later, (next.run patience shared).2 ≠ .next later) →
    job.run patience shared = next.run patience shared

theorem leads_of_step {next : Job} (h : job.step patience shared = (shared, .next next))
    (hlimit : next.stepLimit shared < job.stepLimit shared) : Leads patience shared job next := by
  have hrunFor (fuel : Nat) :
      runFor patience (fuel + 1) shared job = runFor patience fuel shared next := by
    simp only [Job.runFor, h]
  refine ⟨h, hrunFor, fun hstop => ?_⟩
  obtain ⟨n, hn⟩ : ∃ n, job.stepLimit shared = n + 1 := ⟨job.stepLimit shared - 1, by omega⟩
  rw [Job.run, hn, hrunFor]
  exact runFor_of_le (by omega) hstop

/-- A job that leads to one that ends, ends like that one. -/
theorem Leads.ended {next : Job} {ending : Ending} (h : Leads patience shared job next)
    (hnext : next.run patience shared = (shared, .ended ending y)) :
    job.run patience shared = (shared, .ended ending y) :=
  (h.run fun later hlater => by rw [hnext] at hlater; cases hlater).trans hnext

/-- Handlers that run one after another are taken apart. -/
theorem leads_all (patience : Patience) (shared : Shared) (x : Exchange)
    (handlers rest : List Handler) :
    Leads patience shared ⟨x, .all handlers :: rest⟩ ⟨x, handlers ++ rest⟩ := by
  apply leads_of_step rfl
  simp only [stepLimit, weights, weight, weights_append]
  omega

/-- A script that ends well is done. -/
theorem leads_script {s : Script} (h : s.play patience x = (.ended .done, y))
    (shared : Shared) (rest : List Handler) :
    Leads patience shared ⟨x, .script s :: rest⟩ ⟨y, rest⟩ := by
  apply leads_of_step
  · simp only [Job.step, h]
  · simp only [stepLimit, weights, weight]
    omega

end Job
end Testbed.Http
