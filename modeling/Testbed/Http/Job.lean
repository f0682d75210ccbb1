import Testbed.Http.Shared

/-!
# Jobs

A handler at work on an exchange (`Job`): the handlers that are still to run, in order. Each step
takes the first of them apart or carries it out (`Job.step`); since the first handler that does not
end well ends the whole job, nothing else has to be remembered.

**Targets of switchers** are looked up in the step that reaches the switcher. A later change of
target does not touch a job that has passed it.

**Running.** `Job.run` makes steps up to the end of the job or a wait that is not over. The number
of steps is bounded by the size of the handlers, with the targets of switchers counted in as often
as they can be reached; only a switcher that reaches itself has no end, and runs out of steps.
-/

namespace Testbed.Http

/-- A handler at work: what is left to do, and the exchange so far. -/
structure Job where
  exchange : Exchange
  tasks : List Handler

namespace Job

def start (h : Handler) (x : Exchange) : Job := ⟨x, [h]⟩

/-- What a step leads to. -/
inductive Progress where
  | next (job : Job)
  | ended (ending : Ending) (exchange : Exchange)
  /-- The first task waits for the end of the exchange. -/
  | waiting (job : Job)

/-- The status that answers a request which no route accepts. -/
def refusal (s : Selection Handler) : UInt16 :=
  match s with
  | .otherMethod => 405
  | _ => 404

def step (patience : Patience) (shared : Shared) (job : Job) : Shared × Progress :=
  let x := job.exchange
  match job.tasks with
  | [] => (shared, .ended .done x)
  | .script s :: rest =>
    match s.play patience x with
    | (.ended .done, x) => (shared, .next ⟨x, rest⟩)
    | (.ended ending, x) => (shared, .ended ending x)
    | (.waiting s, x) => (shared, .waiting ⟨x, .script s :: rest⟩)
  | .all handlers :: rest => (shared, .next ⟨x, handlers ++ rest⟩)
  | .sequential counter handlers :: rest =>
    let k := shared.count counter
    let shared := shared.advance counter
    match handlers[min k (handlers.length - 1)]? with
    | some h => (shared, .next ⟨x, h :: rest⟩)
    | none => (shared, .ended (.failed (.failed "sequential handler list is empty")) x)
  | .router routes :: rest =>
    match selectRoute x.request.path x.request.method routes with
    | .route params target => (shared, .next ⟨x.withParams params, target :: rest⟩)
    | s => (shared, .next ⟨x.setStatus (refusal s), rest⟩)
  | .record name :: rest => (shared.record name x.request, .next ⟨x, rest⟩)
  | .switch name :: rest =>
    match shared.target? name with
    | some h => (shared, .next ⟨x, h :: rest⟩)
    | none => (shared, .next ⟨x, rest⟩)

/-- Makes steps, at most a number of them. -/
def runFor (patience : Patience) : Nat → Shared → Job → Shared × Progress
  | 0, shared, job => (shared, .next job)
  | fuel + 1, shared, job =>
    match job.step patience shared with
    | (shared, .next job) => runFor patience fuel shared job
    | (shared, progress) => (shared, progress)

mutual

/-- How many steps a handler takes at most, given what a switcher counts for. -/
def weight (ofSwitcher : String → Nat) : Handler → Nat
  | .script _ => 1
  | .all handlers => 1 + weights ofSwitcher handlers
  | .sequential _ handlers => 1 + weights ofSwitcher handlers
  | .router routes => 1 + routeWeights ofSwitcher routes
  | .record _ => 1
  | .switch name => 1 + ofSwitcher name

def weights (ofSwitcher : String → Nat) : List Handler → Nat
  | [] => 0
  | h :: rest => weight ofSwitcher h + weights ofSwitcher rest

def routeWeights (ofSwitcher : String → Nat) : List (Route Handler) → Nat
  | [] => 0
  | ⟨_, _, target⟩ :: rest => weight ofSwitcher target + routeWeights ofSwitcher rest

end

/-- What a switcher counts for when its targets reach `depth` further switchers. -/
def switcherWeight (shared : Shared) : Nat → String → Nat
  | 0, _ => 0
  | depth + 1, name =>
    match shared.target? name with
    | some h => weight (switcherWeight shared depth) h
    | none => 0

/-- How many steps a job takes at most, unless a switcher reaches itself. -/
def stepLimit (shared : Shared) (job : Job) : Nat :=
  weights (switcherWeight shared shared.switchers.length) job.tasks + 1

/-- Makes steps up to the end of a job or a wait that is neither over nor run out. -/
def run (patience : Patience) (shared : Shared) (job : Job) : Shared × Progress :=
  runFor patience (job.stepLimit shared) shared job

/-- The exchange of a job that has ended: a failure that can still be answered gives its status. -/
def conclude (ending : Ending) (x : Exchange) : Exchange :=
  match ending with
  | .done => x.finish
  | .failed reason => (x.fail reason.status).finish
  | .aborted => x.abandon

end Job
end Testbed.Http
