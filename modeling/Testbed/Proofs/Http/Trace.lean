import Testbed.Http.Server
import Testbed.Proofs.Http.Course

/-!
# Traces

The operations that a script or a job carries out, in order (`trace`). Whatever a handler is put
together from and whatever it makes of the answers to its operations, the exchange that it leaves is
the one after these operations (`exchange_run`).
-/

namespace Testbed.Http

/-- The operations that a script carries out. -/
def Script.trace (patience : Patience) : Script → Exchange → List Move
  | .finish _, _ => []
  | .call op next, x =>
    if patience.breaksOff op then []
    else
      match x.perform patience op with
      | some (reply, y) => .op op :: trace patience (next reply) y
      | none => []

theorem Script.play_eq_after (patience : Patience) (s : Script) (x : Exchange) :
    (s.play patience x).2 = x.after (s.trace patience x) := by
  induction s generalizing x with
  | finish ending => rfl
  | call op next ih =>
    cases hbreaks : patience.breaksOff op with
    | true => simp [play, trace, hbreaks]
    | false =>
      cases h : x.perform patience op with
      | none => simp [play, trace, hbreaks, h]
      | some p =>
        obtain ⟨reply, y⟩ := p
        simp only [play, trace, hbreaks, h, ih, Exchange.after_cons, Exchange.move,
          Bool.false_eq_true, if_false]
        rw [Exchange.act_of_perform h]

theorem Script.eq_op_of_mem_trace {patience : Patience} {s : Script} {x : Exchange} {m : Move}
    (h : m ∈ s.trace patience x) : ∃ op, m = .op op := by
  induction s generalizing x with
  | finish ending => cases h
  | call op next ih =>
    simp only [trace] at h
    split_ifs at h
    · cases h
    · cases hp : x.perform patience op with
      | none => simp [hp] at h
      | some p =>
        rw [hp, List.mem_cons] at h
        rcases h with rfl | h
        · exact ⟨op, rfl⟩
        · exact ih _ h

namespace Job

/-- The exchange that a step or a run leads to. -/
def Progress.exchange : Progress → Exchange
  | .next job => job.exchange
  | .ended _ x => x
  | .waiting job => job.exchange

/-- The operations of one step. -/
def stepTrace (patience : Patience) (job : Job) : List Move :=
  match job.tasks with
  | .script s :: _ => s.trace patience job.exchange
  | .router routes :: _ =>
    match selectRoute job.exchange.request.path job.exchange.request.method routes with
    | .route params _ => if params.isEmpty then [] else [.op (.setParams params)]
    | selection => [.op (.setStatus (refusal selection))]
  | _ => []

/-- The operations of some steps. -/
def traceFor (patience : Patience) : Nat → Shared → Job → List Move
  | 0, _, _ => []
  | fuel + 1, shared, job =>
    job.stepTrace patience ++
      match job.step patience shared with
      | (shared, .next job) => traceFor patience fuel shared job
      | _ => []

/-- The operations of a run. -/
def trace (patience : Patience) (shared : Shared) (job : Job) : List Move :=
  traceFor patience (job.stepLimit shared) shared job

theorem exchange_step (patience : Patience) (shared : Shared) (job : Job) :
    (job.step patience shared).2.exchange = job.exchange.after (job.stepTrace patience) := by
  obtain ⟨x, tasks⟩ := job
  match tasks with
  | [] => rfl
  | .script s :: rest =>
    have h := s.play_eq_after patience x
    simp only [step, stepTrace]
    rw [← h]
    rcases s.play patience x with ⟨⟨_ | _ | _⟩ | _, y⟩ <;> rfl
  | .all handlers :: rest => rfl
  | .sequential counter handlers :: rest =>
    simp only [step, stepTrace]
    split <;> rfl
  | .router routes :: rest =>
    simp only [step, stepTrace]
    cases selectRoute x.request.path x.request.method routes with
    | route params target => cases params <;> rfl
    | _ => rfl
  | .record name :: rest => rfl
  | .switch name :: rest =>
    simp only [step, stepTrace]
    split <;> rfl

theorem exchange_runFor (patience : Patience) (fuel : Nat) (shared : Shared) (job : Job) :
    (runFor patience fuel shared job).2.exchange =
      job.exchange.after (traceFor patience fuel shared job) := by
  induction fuel generalizing shared job with
  | zero => rfl
  | succ fuel ih =>
    have h := exchange_step patience shared job
    simp only [runFor, traceFor, Exchange.after_append, ← h]
    rcases job.step patience shared with ⟨shared', _ | _ | _⟩
    · exact ih shared' _
    · rfl
    · rfl

/-- **A run is its operations.** -/
theorem exchange_run (patience : Patience) (shared : Shared) (job : Job) :
    (job.run patience shared).2.exchange = job.exchange.after (job.trace patience shared) :=
  exchange_runFor patience _ shared job

theorem eq_op_of_mem_stepTrace {patience : Patience} {job : Job} {m : Move}
    (h : m ∈ job.stepTrace patience) : ∃ op, m = .op op := by
  obtain ⟨x, tasks⟩ := job
  match tasks with
  | .script s :: rest => exact Script.eq_op_of_mem_trace h
  | .router routes :: rest =>
    simp only [stepTrace] at h
    split at h
    · split_ifs at h
      · cases h
      · exact ⟨_, List.mem_singleton.mp h⟩
    · exact ⟨_, List.mem_singleton.mp h⟩
  | [] | .all _ :: _ | .sequential _ _ :: _ | .record _ :: _ | .switch _ :: _ => cases h

theorem eq_op_of_mem_trace {patience : Patience} {shared : Shared} {job : Job} {m : Move}
    (h : m ∈ job.trace patience shared) : ∃ op, m = .op op := by
  unfold trace at h
  generalize job.stepLimit shared = fuel at h
  induction fuel generalizing shared job with
  | zero => cases h
  | succ fuel ih =>
    rw [traceFor, List.mem_append] at h
    rcases h with h | h
    · exact eq_op_of_mem_stepTrace h
    · split at h
      · exact ih h
      · cases h

end Job
end Testbed.Http
