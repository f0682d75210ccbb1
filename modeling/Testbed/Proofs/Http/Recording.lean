import Mathlib.Tactic.SplitIfs
import Testbed.Http.Job

/-!
# Nothing recorded is lost

A recorder is used through any number of clones and by any number of handlers at work, in any order
(`Shared.Act`). Each use is one act: a wait counts when it is over.

**Theorem (`requests_conserved`).** The requests that were taken from a recorder so far, in order,
followed by those in its queue, are those that were in the queue at first, followed by those that
were recorded while it was enabled (`kept`), in order.

The proof has two parts. One act of a recorder takes from the front of the queue what it gives out
and puts what it keeps at the end (`taken_append_act`), and so do many (`consumed_append_after`). Of
all that handlers do, a recorder sees only what concerns its name (`recorder_after`).
-/

namespace Testbed.Http

namespace Recorder

variable {r : Recorder}

/-! ## Acts -/

/-- One use of a recorder. -/
inductive Act where
  | record (request : Request)
  | setEnabled (enabled : Bool)
  | count
  /-- Wants a request; the wait is over. -/
  | require (wait : Duration)
  /-- Wants no request; the wait is over. -/
  | requireNone
deriving DecidableEq, Repr

def act (r : Recorder) : Act → Recorder
  | .record request => r.record request
  | .setEnabled enabled => r.setEnabled enabled
  | .count => r
  | .require wait => (r.require wait).2
  | .requireNone => r.requireNone.2

def after (r : Recorder) (as : List Act) : Recorder := as.foldl act r

/-- What an act takes: the request that it is given, or the one that was there although none was
wanted. -/
def taken (r : Recorder) : Act → List Request
  | .require wait => (r.require wait).1.toOption.toList
  | .requireNone =>
    match r.requireNone.1 with
    | .ok () => []
    | .error _ => r.queue.head?.toList
  | _ => []

/-- What some acts take, in order. -/
def consumed (r : Recorder) : List Act → List Request
  | [] => []
  | a :: as => r.taken a ++ (r.act a).consumed as

/-- The requests recorded while the recorder is enabled, in order; it is enabled at first or not. -/
def kept : Bool → List Act → List Request
  | _, [] => []
  | true, .record request :: as => request :: kept true as
  | false, .record _ :: as => kept false as
  | _, .setEnabled enabled :: as => kept enabled as
  | enabled, _ :: as => kept enabled as

/-! ## What an act does -/

section Waits

variable {request : Request} {rest : List Request}

theorem require_cons (h : r.queue = request :: rest) (wait : Duration) :
    r.require wait = (.ok request, { r with queue := rest }) := by
  simp [require, pop, h]

theorem require_nil (h : r.queue = []) (wait : Duration) :
    r.require wait = (.error (.timeout wait), r) := by
  simp [require, pop, h]

/-- A request that was not wanted is named, and taken. -/
theorem requireNone_cons (h : r.queue = request :: rest) :
    r.requireNone = (.error (.unexpected request.method request.path),
      { r with queue := rest }) := by
  simp [requireNone, pop, h]

theorem requireNone_nil (h : r.queue = []) : r.requireNone = (.ok (), r) := by
  simp [requireNone, pop, h]

end Waits

/-- The switch after an act. -/
def Act.switch (enabled : Bool) : Act → Bool
  | .setEnabled b => b
  | _ => enabled

theorem enabled_act (r : Recorder) (a : Act) : (r.act a).enabled = a.switch r.enabled := by
  cases a with
  | record request => cases he : r.enabled <;> simp [act, record, he, Act.switch]
  | setEnabled enabled => rfl
  | count => rfl
  | require wait =>
    cases hq : r.queue with
    | nil => rw [act, require_nil hq]; rfl
    | cons request rest => rw [act, require_cons hq]; rfl
  | requireNone =>
    cases hq : r.queue with
    | nil => rw [act, requireNone_nil hq]; rfl
    | cons request rest => rw [act, requireNone_cons hq]; rfl

theorem kept_cons (enabled : Bool) (a : Act) (as : List Act) :
    kept enabled (a :: as) = kept enabled [a] ++ kept (a.switch enabled) as := by
  cases a <;> cases enabled <;> rfl

/-- **One act**: what it takes comes from the front, and what it keeps goes to the end. -/
theorem taken_append_act (r : Recorder) (a : Act) :
    r.taken a ++ (r.act a).queue = r.queue ++ kept r.enabled [a] := by
  cases a with
  | record request => cases he : r.enabled <;> simp [taken, act, record, kept, he]
  | setEnabled enabled => simp [taken, act, setEnabled, kept]
  | count => simp [taken, act, kept]
  | require wait =>
    cases hq : r.queue with
    | nil => simp [taken, act, require_nil hq, hq, kept, Except.toOption]
    | cons request rest => simp [taken, act, require_cons hq, kept, Except.toOption]
  | requireNone =>
    cases hq : r.queue with
    | nil => simp [taken, act, requireNone_nil hq, hq, kept]
    | cons request rest => simp [taken, act, requireNone_cons hq, hq, kept]

/-- **Many acts** take from the front and keep at the end. -/
theorem consumed_append_after (r : Recorder) (as : List Act) :
    r.consumed as ++ (r.after as).queue = r.queue ++ kept r.enabled as := by
  induction as generalizing r with
  | nil => simp [consumed, after, kept]
  | cons a as ih =>
    calc r.consumed (a :: as) ++ (r.after (a :: as)).queue
        = r.taken a ++ ((r.act a).consumed as ++ ((r.act a).after as).queue) :=
          List.append_assoc ..
      _ = r.taken a ++ ((r.act a).queue ++ kept (r.act a).enabled as) := by rw [ih]
      _ = r.queue ++ (kept r.enabled [a] ++ kept (a.switch r.enabled) as) := by
          rw [← List.append_assoc, taken_append_act, List.append_assoc, enabled_act]
      _ = r.queue ++ kept r.enabled (a :: as) := by rw [← kept_cons]

end Recorder

namespace Shared

/-! ## Recorders by name -/

theorem lookup_put {κ ν : Type} [DecidableEq κ] (key key' : κ) (value : ν) (l : List (κ × ν)) :
    (put key value l).lookup key' = if key' = key then some value else l.lookup key' := by
  have hcons (k : κ) (v : ν) (rest : List (κ × ν)) :
      ((k, v) :: rest).lookup key' = if key' = k then some v else rest.lookup key' := by
    by_cases h : key' = k <;> simp [List.lookup_cons, h, beq_eq_false_iff_ne.mpr]
  induction l with
  | nil => exact hcons key value []
  | cons entry rest ih =>
    obtain ⟨k, v⟩ := entry
    by_cases hk : k = key
    · rw [put, if_pos hk, hcons, hcons, hk]
      split_ifs <;> rfl
    · rw [put, if_neg hk, hcons, hcons, ih]
      split_ifs with h h' <;> simp_all

theorem recorder_setRecorder (s : Shared) (name name' : String) (r : Recorder) :
    (s.setRecorder name r).recorder name' = if name' = name then r else s.recorder name' := by
  by_cases h : name' = name <;> simp [setRecorder, recorder, lookup_put, h]

/-- What happens to the recorders that handlers share. -/
inductive Act where
  /-- A recorder is used through one of its clones. -/
  | use (name : String) (act : Recorder.Act)
  /-- A handler at work makes a step. -/
  | work (patience : Patience) (job : Job)

def act (s : Shared) : Act → Shared
  | .use name a => s.setRecorder name ((s.recorder name).act a)
  | .work patience job => (job.step patience s).1

def after (s : Shared) (as : List Act) : Shared := as.foldl act s

/-- What a recorder sees of an act. -/
def Act.seenBy (name : String) : Act → List Recorder.Act
  | .use name' a => if name = name' then [a] else []
  | .work _ ⟨x, .record name' :: _⟩ => if name = name' then [.record x.request] else []
  | .work _ _ => []

/-- A step of a handler touches a recorder only to record the request of its exchange. -/
theorem recorder_step (patience : Patience) (s : Shared) (job : Job) (name : String) :
    (job.step patience s).1.recorder name =
      (s.recorder name).after ((Act.work patience job).seenBy name) := by
  obtain ⟨x, tasks⟩ := job
  match tasks with
  | [] | .all _ :: _ => rfl
  | .script script :: rest =>
    simp only [Job.step]
    rcases script.play patience x with ⟨⟨_ | _ | _⟩ | _, y⟩ <;> rfl
  | .sequential counter handlers :: rest =>
    simp only [Job.step]
    split <;> rfl
  | .router routes :: rest =>
    simp only [Job.step]
    split <;> rfl
  | .record name' :: rest =>
    simp only [Job.step, Shared.record, recorder_setRecorder, Act.seenBy]
    by_cases h : name = name'
    · simp [h, Recorder.after, Recorder.act]
    · simp [h, Recorder.after]
  | .switch name' :: rest =>
    simp only [Job.step]
    split <;> rfl

theorem recorder_act (s : Shared) (a : Act) (name : String) :
    (s.act a).recorder name = (s.recorder name).after (a.seenBy name) := by
  cases a with
  | use name' a =>
    simp only [act, recorder_setRecorder, Act.seenBy]
    by_cases h : name = name'
    · simp [h, Recorder.after]
    · simp [h, Recorder.after]
  | work patience job => exact recorder_step patience s job name

/-- **A recorder is what was done with it**, whatever else handlers do. -/
theorem recorder_after (s : Shared) (as : List Act) (name : String) :
    (s.after as).recorder name = (s.recorder name).after (as.flatMap (·.seenBy name)) := by
  induction as generalizing s with
  | nil => rfl
  | cons a as ih =>
    show ((s.act a).after as).recorder name = _
    rw [ih, recorder_act, List.flatMap_cons, Recorder.after, Recorder.after, Recorder.after,
      List.foldl_append]

/-- **Nothing recorded is lost, doubled or reordered.** Let recorders be used through their clones
and by handlers at work, in any order. Then for every recorder:

1. What was taken from it, followed by its queue, is its first queue followed by what was recorded
   while it was enabled.
2. It counts the difference of the two.
3. A wait for a request gives the oldest one, or runs out of time, and then nothing is there and
   nothing changes.
4. A wait for no request fails exactly when it takes one, the oldest, and names its method and path.
5. Switching and counting leave the queue as it is, and so does recording while disabled. -/
theorem requests_conserved (s : Shared) (name : String) (as : List Act) :
    let r := s.recorder name
    let seen := as.flatMap (·.seenBy name)
    let r' := (s.after as).recorder name
    r.consumed seen ++ r'.queue = r.queue ++ Recorder.kept r.enabled seen ∧
    r'.count = r.count + (Recorder.kept r.enabled seen).length - (r.consumed seen).length ∧
    (∀ wait, (∃ request, r'.queue = request :: (r'.require wait).2.queue ∧
        (r'.require wait).1 = .ok request ∧ r'.taken (.require wait) = [request]) ∨
      r'.queue = [] ∧ r'.require wait = (.error (.timeout wait), r') ∧
        r'.taken (.require wait) = []) ∧
    ((∃ request, r'.queue = request :: r'.requireNone.2.queue ∧
        r'.requireNone.1 = .error (.unexpected request.method request.path) ∧
        r'.taken .requireNone = [request]) ∨
      r'.queue = [] ∧ r'.requireNone = (.ok (), r') ∧ r'.taken .requireNone = []) ∧
    (∀ enabled, (r'.setEnabled enabled).queue = r'.queue) ∧ r'.act .count = r' ∧
    (r'.enabled = false → ∀ request, r'.record request = r') := by
  intro r seen r'
  have hall : r.consumed seen ++ r'.queue = r.queue ++ Recorder.kept r.enabled seen := by
    show _ ++ ((s.after as).recorder name).queue = _
    rw [recorder_after, Recorder.consumed_append_after]
  refine ⟨hall, ?_, fun wait => ?_, ?_, fun _ => rfl, rfl, fun he request => ?_⟩
  · have hlength := congrArg List.length hall
    rw [List.length_append, List.length_append] at hlength
    exact (Nat.sub_eq_of_eq_add' hlength.symm).symm
  · cases hq : r'.queue with
    | nil =>
      right
      simp [Recorder.taken, Recorder.require_nil hq, Except.toOption]
    | cons request rest =>
      left
      exact ⟨request, by simp [Recorder.taken, Recorder.require_cons hq, Except.toOption]⟩
  · cases hq : r'.queue with
    | nil =>
      right
      simp [Recorder.taken, Recorder.requireNone_nil hq]
    | cons request rest =>
      left
      exact ⟨request, by simp [Recorder.taken, Recorder.requireNone_cons hq, hq]⟩
  · simp [Recorder.record, he]

/-- A clone and a handler record, with the recorder disabled in between, and a wait for no request
takes the first: the second is left, and what came while it was disabled was never there. -/
theorem dropped_while_disabled :
    let root : Url := ⟨"http", none, "/", none, none⟩
    let first : Request := .make "GET" root [] []
    let second : Request := .make "PUT" root [] []
    let handle (request : Request) : Act := .work .limited ⟨.start request false, [.record "r"]⟩
    let as : List Act := [.use "r" (.record first), .use "r" (.setEnabled false), handle first,
      .use "r" (.setEnabled true), .use "other" (.record first), handle second,
      .use "r" .requireNone]
    let r := (fresh.after as).recorder "r"
    [first] ++ r.queue = [first, second] ∧ r.count = 1 := by
  intro root first second handle as r
  obtain ⟨hall, hcount, -⟩ := requests_conserved fresh "r" as
  exact ⟨hall, hcount⟩

end Shared
end Testbed.Http
