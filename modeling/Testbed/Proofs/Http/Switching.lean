import Mathlib.Data.List.Induction
import Testbed.Proofs.Http.Course
import Testbed.Proofs.Http.Sparing

/-!
# Targets apply to whole requests

Requests come to handlers, take their steps and are touched from outside, while switchers get other
targets and recorders are used, all of it in any order (`Junction`). A step carries out one
operation of a script, or takes one handler apart (`Job.substep`).

**Theorem (`target_for_whole_request`).** A request that is given to a switcher is as good as given
to the target that the switcher has when the request reaches it: from then on there is no difference
in anything. Later targets are for later requests.

A step reads of the state that handlers share no more than the counter of the sequential handler
before it, or the target of the switcher before it (`substep_congr`). So what a request does is the
same with or without other targets of a switcher that it does not stand before
(`Parallel.act`), and what all requests do is the same if none of them does (`Alike.act`).
-/

namespace Testbed.Http

/-! ## Single operations -/

namespace Job

variable {patience : Patience} {s s' : Shared} {job : Job} {name : String}

/-- Takes one step, in which at most one operation of a script is carried out. -/
def substep (patience : Patience) (shared : Shared) (job : Job) : Shared × Progress :=
  match job.tasks with
  | .script (.call op next) :: rest =>
    if patience.breaksOff op then (shared, .ended .aborted job.exchange)
    else
      match job.exchange.perform patience op with
      | some (reply, x) => (shared, .next ⟨x, .script (next reply) :: rest⟩)
      | none => (shared, .waiting job)
  | _ => job.step patience shared

/-- The request stands before a switcher. -/
def Progress.Before (name : String) (p : Progress) : Prop := ∃ rest, p.tasks = .switch name :: rest

/-- What a step reads of the counters. -/
def count? (shared : Shared) (job : Job) : Option Nat :=
  match job.tasks with
  | .sequential counter _ :: _ => some (shared.count counter)
  | _ => none

theorem switchers_substep (patience : Patience) (s : Shared) (job : Job) :
    (job.substep patience s).1.switchers = s.switchers := by
  unfold substep
  split
  · split
    · rfl
    · split <;> rfl
  · exact switchers_step patience s job

/-- **What a step sees** is a counter, or the target of a switcher. -/
theorem step_congr (hcount : job.count? s = job.count? s')
    (htarget : ∀ name, (Progress.next job).Before name → s.target? name = s'.target? name) :
    (job.step patience s).2 = (job.step patience s').2 := by
  obtain ⟨x, tasks⟩ := job
  match tasks with
  | [] | .all _ :: _ | .record _ :: _ => rfl
  | .script script :: rest =>
    simp only [step]
    split <;> rfl
  | .sequential counter handlers :: rest =>
    have hcounter : s.count counter = s'.count counter := Option.some.inj hcount
    simp only [step, hcounter]
    split <;> rfl
  | .router routes :: rest =>
    simp only [step]
    split <;> rfl
  | .switch name :: rest =>
    have hname := htarget name ⟨rest, rfl⟩
    simp only [step, hname]
    split <;> rfl

theorem substep_congr (hcount : job.count? s = job.count? s')
    (htarget : ∀ name, (Progress.next job).Before name → s.target? name = s'.target? name) :
    (job.substep patience s).2 = (job.substep patience s').2 := by
  unfold substep
  split
  · split
    · rfl
    · split <;> rfl
  · exact step_congr hcount htarget

/-- A step at a switcher leads to its target and changes nothing else. -/
theorem substep_switch {target : Handler} (h : s.target? name = some target) (x : Exchange)
    (rest : List Handler) :
    Job.substep patience s ⟨x, .switch name :: rest⟩ = (s, .next ⟨x, target :: rest⟩) := by
  simp [substep, step, h]

end Job

theorem Shared.target?_setTarget (s : Shared) (key other : String) (target : Handler) :
    (s.setTarget key target).target? other =
      if other = key then some target else s.target? other :=
  lookup_put key other target s.switchers

/-- What handlers share is the same but for the target of one switcher. -/
structure Shared.AgreeBut (name : String) (s s' : Shared) : Prop where
  counters : s.counters = s'.counters
  recorders : s.recorders = s'.recorders
  targets (other : String) : other ≠ name → s.target? other = s'.target? other

namespace Shared.AgreeBut

variable {name : String} {s s' : Shared}

theorem count? (h : s.AgreeBut name s') (job : Job) : job.count? s = job.count? s' := by
  have hcount (counter : Nat) : s.count counter = s'.count counter := by
    rw [Shared.count, Shared.count, h.counters]
  unfold Job.count?
  split
  · rw [hcount]
  · rfl

theorem recorder (h : s.AgreeBut name s') (r : String) : s.recorder r = s'.recorder r := by
  rw [Shared.recorder, Shared.recorder, h.recorders]

theorem setRecorder (h : s.AgreeBut name s') (key : String) (r : Recorder) :
    (s.setRecorder key r).AgreeBut name (s'.setRecorder key r) where
  counters := h.counters
  recorders := by rw [Shared.setRecorder, Shared.setRecorder, h.recorders]
  targets := h.targets

theorem setTarget (h : s.AgreeBut name s') (key : String) (target : Handler) :
    (s.setTarget key target).AgreeBut name (s'.setTarget key target) where
  counters := h.counters
  recorders := h.recorders
  targets := by
    intro other hother
    rw [target?_setTarget, target?_setTarget, h.targets other hother]

theorem setTarget_left (h : s.AgreeBut name s') (target : Handler) :
    (s.setTarget name target).AgreeBut name s' where
  counters := h.counters
  recorders := h.recorders
  targets := by
    intro other hother
    rw [target?_setTarget, if_neg hother, h.targets other hother]

theorem step (h : s.AgreeBut name s') (patience : Patience) (job : Job) :
    (job.step patience s).1.AgreeBut name (job.step patience s').1 := by
  have hother (other : String) (hne : other ≠ name) :
      (job.step patience s).1.target? other = (job.step patience s').1.target? other := by
    rw [Shared.target?, Shared.target?, Job.switchers_step, Job.switchers_step]
    exact h.targets other hne
  obtain ⟨counters, recorders, switchers⟩ := s
  obtain ⟨counters', recorders', switchers'⟩ := s'
  obtain rfl : counters = counters' := h.counters
  obtain rfl : recorders = recorders' := h.recorders
  suffices hsame : (job.step patience ⟨counters, recorders, switchers⟩).1.counters =
        (job.step patience ⟨counters, recorders, switchers'⟩).1.counters ∧
      (job.step patience ⟨counters, recorders, switchers⟩).1.recorders =
        (job.step patience ⟨counters, recorders, switchers'⟩).1.recorders from
    ⟨hsame.1, hsame.2, hother⟩
  obtain ⟨x, tasks⟩ := job
  cases tasks with
  | nil => exact ⟨rfl, rfl⟩
  | cons task rest =>
    cases task with
    | all | record => exact ⟨rfl, rfl⟩
    | script script =>
      simp only [Job.step]
      split <;> exact ⟨rfl, rfl⟩
    | sequential counter handlers =>
      simp only [Job.step, Shared.count]
      split <;> exact ⟨rfl, rfl⟩
    | router routes =>
      simp only [Job.step]
      split <;> exact ⟨rfl, rfl⟩
    | switch other =>
      simp only [Job.step]
      constructor <;> split <;> split <;> rfl

/-- A step keeps the agreement. -/
theorem substep (h : s.AgreeBut name s') (patience : Patience) (job : Job) :
    (job.substep patience s).1.AgreeBut name (job.substep patience s').1 := by
  unfold Job.substep
  split
  · split
    · exact h
    · split <;> exact h
  · exact h.step patience job

end Shared.AgreeBut

/-! ## Junctions -/

/-- Requests on their way through handlers that share their state, in any number. -/
structure Junction where
  shared : Shared
  /-- How far each request has come, by number. -/
  requests : List Job.Progress

namespace Job.Progress

/-- Takes a step of a request that has not ended. -/
def advance (patience : Patience) (shared : Shared) : Progress → Shared × Progress
  | .next job | .waiting job => job.substep patience shared
  | .ended ending x => (shared, .ended ending x)

/-- A request after something happened to its exchange that is not a step. -/
def touch (m : Move) : Progress → Progress
  | .next job => .next { job with exchange := job.exchange.move m }
  | .waiting job => .waiting { job with exchange := job.exchange.move m }
  | .ended ending x => .ended ending (x.move m)

/-- What the next step of a request reads of the counters. -/
def count? (shared : Shared) : Progress → Option Nat
  | .next job | .waiting job => job.count? shared
  | .ended _ _ => none

end Job.Progress

namespace Junction

/-- One thing that happens at a junction. -/
inductive Act where
  /-- A request comes and is given to a handler. -/
  | come (root : Handler) (exchange : Exchange)
  /-- A request takes its next step. -/
  | step (number : Nat) (patience : Patience)
  /-- Something happens to the exchange of a request that is not a step. -/
  | touch (number : Nat) (move : Move)
  /-- A switcher gets a target, through any of its clones. -/
  | setTarget (switcher : String) (target : Handler)
  /-- A recorder is used through one of its clones. -/
  | use (recorder : String) (act : Recorder.Act)

/-- It is a step of a request. -/
def Act.Steps (number : Nat) : Act → Prop
  | .step n _ => n = number
  | _ => False

/-- The request that comes. -/
def Act.arrival? : Act → Option Job.Progress
  | .come root x => some (.next (.start root x))
  | _ => none

/-- What becomes of a request, given what handlers share. -/
def Act.effect (number : Nat) (shared : Shared) : Act → Job.Progress → Job.Progress
  | .step n patience, p => if n = number then (p.advance patience shared).2 else p
  | .touch n m, p => if n = number then p.touch m else p
  | _, p => p

/-- The target that a switcher gets. -/
def Act.target? (name : String) : Act → Option Handler
  | .setTarget switcher target => if switcher = name then some target else none
  | _ => none

/-- The junction before any request comes: nothing was counted. -/
def start (recorders : List (String × Recorder)) (switchers : List (String × Handler)) :
    Junction :=
  ⟨⟨[], recorders, switchers⟩, []⟩

/-- The junction after something happened. -/
def act (j : Junction) : Act → Junction
  | .come root x => { j with requests := j.requests ++ [.next (.start root x)] }
  | .step number patience =>
    match j.requests[number]? with
    | some p =>
      let (shared, p) := p.advance patience j.shared
      ⟨shared, j.requests.set number p⟩
    | none => j
  | .touch number m => { j with requests := j.requests.modify number (.touch m) }
  | .setTarget name target => { j with shared := j.shared.setTarget name target }
  | .use name a => { j with shared := j.shared.setRecorder name ((j.shared.recorder name).act a) }

/-- The junction after some things happened. -/
def after (j : Junction) (as : List Act) : Junction := as.foldl act j

/-- The target of a switcher after some things happened: the last one that it got, or else the
first one that it had. -/
def lastTarget (name : String) (initial : Handler) (as : List Act) : Handler :=
  (as.filterMap (Act.target? name)).getLast?.getD initial

/-- What happens, without the targets that a switcher gets. -/
def withoutTargets (name : String) (as : List Act) : List Act :=
  as.filter fun a => (a.target? name).isNone

/-- Among some things that happen, a request takes a step at a switcher. -/
def Passes (j : Junction) (name : String) (number : Nat) (as : List Act) : Prop :=
  ∃ earlier a later p, as = earlier ++ a :: later ∧ a.Steps number ∧
    (j.after earlier).requests[number]? = some p ∧ p.Before name

/-- What a request reads of the counters in one thing that happens. -/
def countRead (j : Junction) (number : Nat) : Act → Option Nat
  | .step n _ => if n = number then j.requests[number]?.bind (·.count? j.shared) else none
  | _ => none

/-- What a request reads of the counters while some things happen. -/
def countsRead (j : Junction) (number : Nat) : List Act → List Nat
  | [] => []
  | a :: as => (j.countRead number a).toList ++ countsRead (j.act a) number as

@[simp] theorem after_nil (j : Junction) : j.after [] = j := rfl

@[simp] theorem after_cons (j : Junction) (a : Act) (as : List Act) :
    j.after (a :: as) = (j.act a).after as := rfl

theorem after_append (j : Junction) (as bs : List Act) :
    j.after (as ++ bs) = (j.after as).after bs := List.foldl_append

variable {j j' : Junction} {name : String} {number : Nat} {p : Job.Progress} {as : List Act}

theorem act_step (h : j.requests[number]? = some p) (patience : Patience) :
    j.act (.step number patience) =
      ⟨(p.advance patience j.shared).1, j.requests.set number (p.advance patience j.shared).2⟩ := by
  simp only [act, h]

theorem act_step_none (h : j.requests[number]? = none) (patience : Patience) :
    j.act (.step number patience) = j := by
  simp only [act, h]

/-- **What becomes of each request** in one thing that happens. -/
theorem requests_act (j : Junction) (a : Act) (number : Nat) :
    (j.act a).requests[number]? = (j.requests[number]?.map (a.effect number j.shared)).or
      (if number = j.requests.length then a.arrival? else none) := by
  cases a with
  | come root x =>
    have hid : (Act.come root x).effect number j.shared = id := rfl
    rw [hid, Option.map_id_fun, id, act, Act.arrival?, List.getElem?_append]
    rcases Nat.lt_trichotomy number j.requests.length with h | h | h
    · rw [if_pos h, if_neg (Nat.ne_of_lt h), Option.or_none]
    · simp [h]
    · have hnone : [Job.Progress.next (.start root x)][number - j.requests.length]? = none := by
        rw [List.getElem?_eq_none_iff, List.length_singleton]
        omega
      rw [if_neg (Nat.not_lt_of_gt h), if_neg (Nat.ne_of_gt h), Option.or_none, hnone,
        List.getElem?_eq_none (Nat.le_of_lt h)]
  | step n patience =>
    simp only [Act.arrival?, ite_self, Option.or_none]
    by_cases hn : n = number
    · have heffect (p : Job.Progress) : (Act.step n patience).effect number j.shared p =
          (p.advance patience j.shared).2 := if_pos hn
      rcases h : j.requests[number]? with - | p
      · rw [hn, act_step_none h, h]
        rfl
      · have hlt := (List.getElem?_eq_some_iff.mp h).1
        rw [Option.map_some, heffect, hn, act_step h, List.getElem?_set_self hlt]
    · have hid : (Act.step n patience).effect number j.shared = id := funext fun _ => if_neg hn
      rw [hid, Option.map_id_fun, id]
      rcases h : j.requests[n]? with - | p
      · rw [act_step_none h]
      · rw [act_step h, List.getElem?_set_ne hn]
  | touch n m =>
    simp only [Act.arrival?, ite_self, Option.or_none]
    rw [act, List.getElem?_modify]
    rfl
  | setTarget | use =>
    simp only [Act.arrival?, ite_self, Option.or_none]
    exact Option.map_id'.symm

theorem length_act (j : Junction) (a : Act) :
    (j.act a).requests.length = j.requests.length + a.arrival?.toList.length := by
  cases a with
  | come root x => exact List.length_append
  | step n patience =>
    rcases h : j.requests[n]? with - | p
    · rw [act_step_none h]
      rfl
    · rw [act_step h]
      exact List.length_set
  | touch n m => exact List.length_modify ..
  | setTarget | use => rfl

theorem switchers_advance (patience : Patience) (s : Shared) (p : Job.Progress) :
    (p.advance patience s).1.switchers = s.switchers := by
  cases p with
  | next job | waiting job => exact Job.switchers_substep patience s job
  | ended => rfl

/-! ## Targets -/

/-- **What happens to a target**: it is replaced, or it stays. -/
theorem target?_act (j : Junction) (name : String) (a : Act) :
    (j.act a).shared.target? name = (a.target? name).or (j.shared.target? name) := by
  cases a with
  | come | touch | use => rfl
  | step number patience =>
    rcases h : j.requests[number]? with - | p
    · rw [act_step_none h]
      rfl
    · rw [act_step h]
      exact congrArg (List.lookup name) (switchers_advance patience j.shared p)
  | setTarget switcher target =>
    rw [act, Act.target?, Shared.target?_setTarget]
    by_cases hn : name = switcher
    · rw [if_pos hn, if_pos hn.symm, Option.some_or]
    · rw [if_neg hn, if_neg (Ne.symm hn), Option.none_or]

/-- **The target of a switcher** is the last one that it got. -/
theorem target?_after {initial : Handler} (h : j.shared.target? name = some initial)
    (as : List Act) : (j.after as).shared.target? name = some (lastTarget name initial as) := by
  induction as using List.reverseRecOn with
  | nil => exact h
  | append_singleton as a ih =>
    rw [after_append, after_cons, after_nil, target?_act, ih, lastTarget, lastTarget,
      List.filterMap_append, List.getLast?_append]
    cases ha : a.target? name <;> simp [ha]

/-! ## A request before a switcher -/

/-- Two junctions are the same but for the tasks of one request, which has not begun with them. -/
structure Twins (number : Nat) (tasks tasks' : List Handler) (j j' : Junction) : Prop where
  shared : j.shared = j'.shared
  length : j.requests.length = j'.requests.length
  others (n : Nat) : n ≠ number → j.requests[n]? = j'.requests[n]?
  request : ∃ x, j.requests[number]? = some (.next ⟨x, tasks⟩) ∧
    j'.requests[number]? = some (.next ⟨x, tasks'⟩)

variable {tasks tasks' : List Handler}

/-- What is not a step of a request does not look at its tasks. -/
theorem Twins.act (h : Twins number tasks tasks' j j') {a : Act} (ha : ¬a.Steps number) :
    Twins number tasks tasks' (j.act a) (j'.act a) where
  shared := by
    cases a with
    | come | touch => exact h.shared
    | step n patience =>
      have hn := h.others n ha
      rcases hp : j.requests[n]? with - | p
      · rw [act_step_none hp, act_step_none (hn ▸ hp), h.shared]
      · rw [act_step hp, act_step (hn ▸ hp), h.shared]
    | setTarget | use => simp only [Junction.act, h.shared]
  length := by rw [length_act, length_act, h.length]
  others := by
    intro n hn
    rw [requests_act, requests_act, h.others n hn, h.length, h.shared]
  request := by
    obtain ⟨x, hx, hx'⟩ := h.request
    have heffect : ∃ y, ∀ ts, a.effect number j.shared (.next ⟨x, ts⟩) = .next ⟨y, ts⟩ := by
      cases a with
      | come | setTarget | use => exact ⟨x, fun _ => rfl⟩
      | step n patience => exact ⟨x, fun _ => if_neg ha⟩
      | touch n m =>
        by_cases hn : n = number
        · exact ⟨x.move m, fun _ => if_pos hn⟩
        · exact ⟨x, fun _ => if_neg hn⟩
    obtain ⟨y, hy⟩ := heffect
    refine ⟨y, ?_, ?_⟩
    · rw [requests_act, hx, Option.map_some, hy, Option.some_or]
    · rw [requests_act, hx', Option.map_some, ← h.shared, hy, Option.some_or]

theorem Twins.after (h : Twins number tasks tasks' j j') {as : List Act}
    (has : ∀ a ∈ as, ¬a.Steps number) : Twins number tasks tasks' (j.after as) (j'.after as) := by
  induction as generalizing j j' with
  | nil => exact h
  | cons a as ih =>
    have ha := has a List.mem_cons_self
    exact ih (h.act ha) fun b hb => has b (List.mem_cons_of_mem a hb)

/-- Two requests that come at the same time to the same place. -/
theorem twins_come (j : Junction) (root root' : Handler) (x : Exchange) :
    Twins j.requests.length [root] [root'] (j.act (.come root x)) (j.act (.come root' x)) where
  shared := rfl
  length := by rw [length_act, length_act]; rfl
  others := by
    intro n hn
    rw [requests_act, requests_act, if_neg hn, if_neg hn]
    rfl
  request := ⟨x, List.getElem?_concat_length, List.getElem?_concat_length⟩

/-- **A step at a switcher** leads to its target, and nothing else changes. -/
theorem act_step_switch {x : Exchange} {rest : List Handler} {target : Handler}
    (hx : j.requests[number]? = some (.next ⟨x, .switch name :: rest⟩))
    (ht : j.shared.target? name = some target) (patience : Patience) :
    j.act (.step number patience) =
      { j with requests := j.requests.set number (.next ⟨x, target :: rest⟩) } := by
  rw [act_step hx, Job.Progress.advance, Job.substep_switch ht]

/-- A request that takes its step at a switcher is its twin with the target. -/
theorem Twins.step_switch {target : Handler} {rest : List Handler}
    (h : Twins number (.switch name :: rest) (target :: rest) j j')
    (ht : j.shared.target? name = some target) (patience : Patience) :
    j.act (.step number patience) = j' := by
  obtain ⟨x, hx, hx'⟩ := h.request
  rw [act_step_switch hx ht]
  refine congrArg₂ Junction.mk h.shared (List.ext_getElem? fun n => ?_)
  by_cases hn : n = number
  · rw [hn, hx', List.getElem?_set_self (List.getElem?_eq_some_iff.mp hx).1]
  · rw [← h.others n hn, List.getElem?_set_ne (Ne.symm hn)]

/-! ## Later targets -/

theorem not_passes_nil : ¬j.Passes name number [] := by
  rintro ⟨earlier, a, later, p, heq, -⟩
  cases earlier <;> cases heq

/-- A request takes a step at the switcher at once or later. -/
theorem passes_cons {a : Act} : j.Passes name number (a :: as) ↔
    (a.Steps number ∧ ∃ p, j.requests[number]? = some p ∧ p.Before name) ∨
      (j.act a).Passes name number as := by
  constructor
  · rintro ⟨earlier, b, later, p, heq, hb, hp, hbefore⟩
    cases earlier with
    | nil =>
      cases heq
      exact .inl ⟨hb, p, hp, hbefore⟩
    | cons c earlier =>
      cases heq
      exact .inr ⟨earlier, b, later, p, rfl, hb, hp, hbefore⟩
  · rintro (⟨ha, p, hp, hbefore⟩ | ⟨earlier, b, later, p, rfl, hb, hp, hbefore⟩)
    · exact ⟨[], a, as, p, rfl, ha, hp, hbefore⟩
    · exact ⟨a :: earlier, b, later, p, rfl, hb, hp, hbefore⟩

/-- What happens first is a target of the switcher, which is left out, or it is kept. -/
theorem withoutTargets_cons (name : String) (a : Act) (as : List Act) :
    (∃ target, a = .setTarget name target ∧
      withoutTargets name (a :: as) = withoutTargets name as) ∨
    withoutTargets name (a :: as) = a :: withoutTargets name as := by
  cases a with
  | come | step | touch | use => exact .inr rfl
  | setTarget switcher target =>
    by_cases hname : switcher = name
    · exact .inl ⟨target, by rw [hname], by simp [withoutTargets, Act.target?, hname]⟩
    · exact .inr (by simp [withoutTargets, Act.target?, hname])

theorem advance_congr {s s' : Shared} (hcount : p.count? s = p.count? s')
    (htarget : ∀ other, p.Before other → s.target? other = s'.target? other)
    (patience : Patience) : (p.advance patience s).2 = (p.advance patience s').2 := by
  cases p with
  | next job | waiting job => exact Job.substep_congr hcount htarget
  | ended => rfl

/-- **What a request sees** of the others is what its steps see of the shared state. -/
theorem Act.effect_congr {a : Act} {s s' : Shared}
    (hcount : a.Steps number → p.count? s = p.count? s')
    (htarget : a.Steps number → ∀ other, p.Before other → s.target? other = s'.target? other) :
    a.effect number s p = a.effect number s' p := by
  cases a with
  | come | touch | setTarget | use => rfl
  | step n patience =>
    by_cases hn : n = number
    · rw [effect, effect, if_pos hn, if_pos hn]
      exact advance_congr (hcount hn) (htarget hn) patience
    · rw [effect, effect, if_neg hn, if_neg hn]

/-- Two junctions are the same to one request, but for the target of a switcher. -/
structure Parallel (name : String) (number : Nat) (j j' : Junction) : Prop where
  length : j.requests.length = j'.requests.length
  request : j.requests[number]? = j'.requests[number]?
  targets (other : String) : other ≠ name → j.shared.target? other = j'.shared.target? other

theorem countRead_of_steps {a : Act} (ha : a.Steps number) (hp : j.requests[number]? = some p) :
    j.countRead number a = p.count? j.shared := by
  cases a with
  | step n patience =>
    obtain rfl : n = number := ha
    rw [countRead, if_pos rfl, hp]
    rfl
  | come | touch | setTarget | use => cases ha

/-- A request that is not before the switcher and reads the same count takes the same step. -/
theorem Parallel.act (h : Parallel name number j j') {a : Act}
    (hread : j.countRead number a = j'.countRead number a)
    (hpass : a.Steps number → ∀ p, j.requests[number]? = some p → ¬p.Before name) :
    Parallel name number (j.act a) (j'.act a) where
  length := by rw [length_act, length_act, h.length]
  request := by
    rw [requests_act, requests_act, ← h.request, h.length]
    rcases hp : j.requests[number]? with - | p
    · rfl
    · have heffect : a.effect number j.shared p = a.effect number j'.shared p := by
        apply Act.effect_congr
        · intro ha
          rw [← countRead_of_steps ha hp, hread, countRead_of_steps ha (h.request ▸ hp)]
        · intro ha other hbefore
          apply h.targets other
          rintro rfl
          exact hpass ha p hp hbefore
      rw [Option.map_some, Option.map_some, heffect]
  targets := by
    intro other hother
    rw [target?_act, target?_act, h.targets other hother]

theorem Parallel.setTarget (h : Parallel name number j j') (target : Handler) :
    Parallel name number (j.act (.setTarget name target)) j' where
  length := h.length
  request := h.request
  targets := by
    intro other hother
    rw [target?_act, Act.target?, if_neg (Ne.symm hother), Option.none_or, h.targets other hother]

theorem length_count? {s s' : Shared} (job : Job) :
    (job.count? s).toList.length = (job.count? s').toList.length := by
  unfold Job.count?
  split <;> rfl

/-- Where a count is read in one of the junctions, one is read in the other. -/
theorem Parallel.length_countRead (h : Parallel name number j j') (a : Act) :
    (j.countRead number a).toList.length = (j'.countRead number a).toList.length := by
  cases a with
  | come | touch | setTarget | use => rfl
  | step n patience =>
    by_cases hn : n = number
    · rw [countRead, countRead, if_pos hn, if_pos hn, ← h.request]
      rcases j.requests[number]? with - | ⟨job⟩ | - | ⟨job⟩
      · rfl
      · exact length_count? job
      · rfl
      · exact length_count? job
    · rw [countRead, countRead, if_neg hn, if_neg hn]

/-- **Without the targets that a switcher gets** a request does the same, if it is not before this
switcher in one of its steps. -/
theorem Parallel.after (h : Parallel name number j j')
    (hread : j.countsRead number as = j'.countsRead number (withoutTargets name as))
    (hpass : ¬j.Passes name number as) :
    Parallel name number (j.after as) (j'.after (withoutTargets name as)) := by
  induction as generalizing j j' with
  | nil => exact h
  | cons a as ih =>
    rw [passes_cons, not_or] at hpass
    obtain ⟨hfirst, hlater⟩ := hpass
    obtain ⟨target, rfl, hleft⟩ | hkept := withoutTargets_cons name a as
    · rw [hleft] at hread ⊢
      exact ih (h.setTarget target) hread hlater
    · rw [hkept, countsRead, countsRead] at hread
      obtain ⟨hhead, hrest⟩ := List.append_inj hread (h.length_countRead a)
      have hcount : j.countRead number a = j'.countRead number a := by
        simpa using congrArg List.head? hhead
      rw [hkept, after_cons, after_cons]
      have hbehind : Parallel name number (j.act a) (j'.act a) := by
        apply h.act hcount
        intro hs p hp hbefore
        exact hfirst ⟨hs, p, hp, hbefore⟩
      exact ih hbehind hrest hlater

/-- Two junctions are the same but for the target of a switcher. -/
structure Alike (name : String) (j j' : Junction) : Prop where
  requests : j.requests = j'.requests
  shared : j.shared.AgreeBut name j'.shared

/-- If no request takes a step at the switcher, all take the same. -/
theorem Alike.act (h : Alike name j j') {a : Act}
    (hpass : ∀ number p, a.Steps number → j.requests[number]? = some p → ¬p.Before name) :
    Alike name (j.act a) (j'.act a) where
  requests := by
    apply List.ext_getElem?
    intro number
    rw [requests_act, requests_act, ← h.requests]
    rcases hp : j.requests[number]? with - | p
    · rfl
    · have heffect : a.effect number j.shared p = a.effect number j'.shared p := by
        apply Act.effect_congr
        · intro ha
          cases p with
          | next job | waiting job => exact h.shared.count? job
          | ended => rfl
        · intro ha other hbefore
          apply h.shared.targets other
          rintro rfl
          exact hpass number p ha hp hbefore
      rw [Option.map_some, Option.map_some, heffect]
  shared := by
    cases a with
    | come | touch => exact h.shared
    | setTarget switcher target => exact h.shared.setTarget switcher target
    | use r a =>
      rw [Junction.act, Junction.act, h.shared.recorder]
      exact h.shared.setRecorder r _
    | step n patience =>
      rcases hp : j.requests[n]? with - | p
      · rw [act_step_none hp, act_step_none (h.requests ▸ hp)]
        exact h.shared
      · rw [act_step hp, act_step (h.requests ▸ hp)]
        cases p with
        | next job | waiting job => exact h.shared.substep patience job
        | ended => exact h.shared

theorem Alike.setTarget (h : Alike name j j') (target : Handler) :
    Alike name (j.act (.setTarget name target)) j' where
  requests := h.requests
  shared := h.shared.setTarget_left target

/-- **Without the targets that a switcher gets** all requests do the same, if none of them is before
this switcher in one of its steps. -/
theorem Alike.after (h : Alike name j j') (hpass : ∀ number, ¬j.Passes name number as) :
    Alike name (j.after as) (j'.after (withoutTargets name as)) := by
  induction as generalizing j j' with
  | nil => exact h
  | cons a as ih =>
    simp only [passes_cons, not_or] at hpass
    obtain ⟨target, rfl, hleft⟩ | hkept := withoutTargets_cons name a as
    · rw [hleft, after_cons]
      exact ih (h.setTarget target) fun number => (hpass number).2
    · rw [hkept, after_cons, after_cons]
      have hbehind : Alike name (j.act a) (j'.act a) := by
        apply h.act
        intro number p hs hp hbefore
        exact (hpass number).1 ⟨hs, p, hp, hbefore⟩
      exact ih hbehind fun number => (hpass number).2

/-! ## Runs -/

variable {job : Job} {patience : Patience}

/-- A request has come as far as a job: it goes on with it, or waited in it. -/
def Holds (j : Junction) (number : Nat) (job : Job) : Prop :=
  j.requests[number]? = some (.next job) ∨ j.requests[number]? = some (.waiting job)

theorem Holds.act_step (h : j.Holds number job) (patience : Patience) :
    j.act (.step number patience) = ⟨(job.substep patience j.shared).1,
      j.requests.set number (job.substep patience j.shared).2⟩ := by
  rcases h with h | h <;> exact Junction.act_step h patience

theorem Holds.lt (h : j.Holds number job) : number < j.requests.length := by
  rcases h with h | h <;> exact (List.getElem?_eq_some_iff.mp h).1

/-- **A step of a job** is a number of steps of a request, and at least one. -/
theorem Holds.exists_steps (h : j.Holds number job) (patience : Patience) :
    ∃ n, j.after (List.replicate (n + 1) (.step number patience)) =
      ⟨(job.step patience j.shared).1,
        j.requests.set number (job.step patience j.shared).2⟩ := by
  obtain ⟨x, tasks⟩ := job
  match tasks with
  | [] | .all _ :: _ | .sequential _ _ :: _ | .router _ :: _ | .record _ :: _ | .switch _ :: _ =>
    exact ⟨0, h.act_step patience⟩
  | .script script :: rest =>
    induction script generalizing j x with
    | finish ending => exact ⟨0, h.act_step patience⟩
    | call op next ih =>
      by_cases hbreaks : patience.breaksOff op = true
      · refine ⟨0, (h.act_step patience).trans ?_⟩
        simp only [Job.substep, Job.step, Script.play, hbreaks, if_true]
      rcases hperform : x.perform patience op with - | ⟨reply, y⟩
      · refine ⟨0, (h.act_step patience).trans ?_⟩
        simp only [Job.substep, Job.step, Script.play, hperform, if_neg hbreaks]
      · have hstep : Job.step patience j.shared ⟨x, .script (.call op next) :: rest⟩ =
            Job.step patience j.shared ⟨y, .script (next reply) :: rest⟩ := by
          simp only [Job.step, Script.play, hperform, if_neg hbreaks]
        have hfirst : j.act (.step number patience) =
            ⟨j.shared, j.requests.set number (.next ⟨y, .script (next reply) :: rest⟩)⟩ := by
          rw [h.act_step]
          simp only [Job.substep, hperform, if_neg hbreaks]
        have hnext : (j.act (.step number patience)).Holds number
            ⟨y, .script (next reply) :: rest⟩ := by
          rw [hfirst]
          exact .inl (List.getElem?_set_self h.lt)
        obtain ⟨n, hn⟩ := ih reply y hnext
        refine ⟨n + 1, ?_⟩
        rw [List.replicate_succ, after_cons, hn, hfirst, hstep, List.set_set]

/-- Many steps of a job are a number of steps of a request. -/
theorem Holds.exists_steps_runFor (h : j.Holds number job) (patience : Patience) (fuel : Nat) :
    ∃ n, j.after (List.replicate (n + 1) (.step number patience)) =
      ⟨(Job.runFor patience (fuel + 1) j.shared job).1,
        j.requests.set number (Job.runFor patience (fuel + 1) j.shared job).2⟩ := by
  induction fuel generalizing j job with
  | zero =>
    obtain ⟨n, hn⟩ := h.exists_steps patience
    refine ⟨n, hn.trans ?_⟩
    rw [Job.runFor]
    rcases job.step patience j.shared with ⟨shared, job' | _ | _⟩ <;> rfl
  | succ fuel ih =>
    obtain ⟨n, hn⟩ := h.exists_steps patience
    rw [Job.runFor]
    rcases hstep : job.step patience j.shared with ⟨shared, job' | ⟨ending, y⟩ | job'⟩
    · rw [hstep] at hn
      have hnext : Holds ⟨shared, j.requests.set number (.next job')⟩ number job' :=
        .inl (List.getElem?_set_self h.lt)
      obtain ⟨m, hm⟩ := ih hnext
      refine ⟨n + 1 + m, ?_⟩
      rw [Nat.add_assoc, ← List.replicate_append_replicate, after_append, hn, hm, List.set_set]
    · exact ⟨n, by rw [hn, hstep]⟩
    · exact ⟨n, by rw [hn, hstep]⟩

/-! ## Whole requests -/

/-- **A target applies to whole requests.** Let requests come to handlers and take their steps, in
any number and in any order, while switchers get targets and recorders are used. Take a switcher
that there is from the beginning, and its last target so far, or its first one if it got none.

1. A request that takes its step at the switcher goes on with this target in its place. Nothing else
   changes.
2. A request that is given to the switcher is, from its first step to its end, as good as given to
   the last target before its first step. Whatever happens then, to it and to others, leads to the
   same as if it had come with this target, its first step apart.
3. What the switcher gets later makes no difference to a request that takes no step at the switcher
   and reads the same counts: without the later targets it has come as far. Only through the
   counters do other requests, which may go to other targets, reach it.
4. If no request takes a step at the switcher, the later targets make no difference at all, but for
   the target.
5. A run of a job is a number of steps. -/
theorem target_for_whole_request (recorders : List (String × Recorder))
    (switchers : List (String × Handler)) (name : String) (initial : Handler)
    (hname : switchers.lookup name = some initial) (as : List Act) :
    let j := (start recorders switchers).after as
    (∀ number x rest patience, j.requests[number]? = some (.next ⟨x, .switch name :: rest⟩) →
      j.act (.step number patience) =
        { j with requests :=
            j.requests.set number (.next ⟨x, lastTarget name initial as :: rest⟩) }) ∧
    (∀ x bs patience cs, (∀ b ∈ bs, ¬b.Steps j.requests.length) →
      j.after (.come (.switch name) x :: bs ++ .step j.requests.length patience :: cs) =
        j.after (.come (lastTarget name initial (as ++ bs)) x :: bs ++ cs)) ∧
    (∀ number bs, ¬j.Passes name number bs →
      j.countsRead number bs = j.countsRead number (withoutTargets name bs) →
        (j.after bs).requests[number]? = (j.after (withoutTargets name bs)).requests[number]?) ∧
    (∀ bs, (∀ number, ¬j.Passes name number bs) →
      let j₁ := j.after bs
      let j₂ := j.after (withoutTargets name bs)
      j₁.requests = j₂.requests ∧ j₁.shared.counters = j₂.shared.counters ∧
        j₁.shared.recorders = j₂.shared.recorders) ∧
    ∀ number job patience, j.Holds number job →
      ∃ n, j.after (List.replicate n (.step number patience)) =
        ⟨(job.run patience j.shared).1, j.requests.set number (job.run patience j.shared).2⟩ := by
  intro j
  have htarget (bs : List Act) : (j.after bs).shared.target? name =
      some (lastTarget name initial (as ++ bs)) := by
    have hstart : (start recorders switchers).shared.target? name = some initial := hname
    rw [← after_append]
    exact target?_after hstart (as ++ bs)
  refine ⟨?_, ?_, ?_, ?_, ?_⟩
  · intro number x rest patience hx
    have ht := htarget []
    rw [List.append_nil] at ht
    exact act_step_switch hx ht patience
  · intro x bs patience cs hbs
    -- Up to the first step, a request given to the target makes no difference.
    have htwins := (twins_come j (.switch name) (lastTarget name initial (as ++ bs)) x).after hbs
    have ht : ((j.act (.come (.switch name) x)).after bs).shared.target? name =
        some (lastTarget name initial (as ++ bs)) := by
      have hcome := htarget (.come (.switch name) x :: bs)
      rw [after_cons] at hcome
      rw [hcome, lastTarget, lastTarget, List.filterMap_append, List.filterMap_append]
      rfl
    rw [List.cons_append, List.cons_append, after_cons, after_cons, after_append, after_append,
      after_cons, htwins.step_switch ht]
  · intro number bs hpass hread
    have h : Parallel name number j j := ⟨rfl, rfl, fun _ _ => rfl⟩
    exact (h.after hread hpass).request
  · intro bs hpass
    have h : Alike name j j := ⟨rfl, rfl, rfl, fun _ _ => rfl⟩
    have hafter := h.after hpass
    exact ⟨hafter.requests, hafter.shared.counters, hafter.shared.recorders⟩
  · intro number job patience hjob
    obtain ⟨n, hn⟩ := hjob.exists_steps_runFor patience
      (Job.weights (Job.switcherWeight j.shared j.shared.switchers.length) job.tasks)
    exact ⟨n + 1, hn⟩

/-- A request waits in the target that it was given to, and the switcher gets another one, which
answers the next request. When the server closes, the first request goes on and ends as its target
says. -/
theorem retargeted_while_waiting :
    let held : Handler := .all [.hang, .status 201]
    let x : Exchange := .start .plain false
    let steps (number : Nat) : List Act := List.replicate 5 (.step number .limited)
    let change : List Act := [.setTarget "s" (.status 202), .touch 0 .close, .step 0 .limited]
    let whole : List Act := [.step 0 .limited, .step 0 .limited, .setTarget "s" (.status 202),
      .come (.switch "s") x] ++ steps 1 ++ [.touch 0 .close] ++ steps 0
    let status : Job.Progress → Option UInt16
      | .ended .done y => some y.status
      | _ => none
    let j := (start [] [("s", .status 500)]).after [.setTarget "s" held]
    let j₀ := j.after
      [.come (.switch "s") x, .step 0 .limited, .step 0 .limited, .step 0 .limited]
    (j.after (.come (.switch "s") x :: .step 0 .limited :: whole) =
        j.after (.come held x :: whole) ∧
      (j.after (.come held x :: whole)).requests.map status = [some 201, some 202]) ∧
      (¬j₀.Passes "s" 0 change ∧ (j₀.after change).requests[0]? =
        (j₀.after (withoutTargets "s" change)).requests[0]?) := by
  intro held x steps change whole status j j₀
  have htarget : lastTarget "s" (.status 500) ([.setTarget "s" held] ++ []) = held := by
    simp [lastTarget, Act.target?]
  have hlookup : [("s", Handler.status 500)].lookup "s" = some (.status 500) :=
    List.lookup_cons_self
  obtain ⟨-, hwhole, -⟩ := target_for_whole_request [] _ "s" _ hlookup [.setTarget "s" held]
  obtain ⟨-, -, hlater, -⟩ := target_for_whole_request [] _ "s" _ hlookup
    [.setTarget "s" held, .come (.switch "s") x, .step 0 .limited, .step 0 .limited,
      .step 0 .limited]
  have hgiven := hwhole x [] .limited whole (by simp)
  rw [htarget] at hgiven
  have hpass : ¬j₀.Passes "s" 0 change := by
    rw [passes_cons, passes_cons, passes_cons]
    rintro (⟨h, -⟩ | ⟨h, -⟩ | ⟨-, p, hp, rest, hrest⟩ | h)
    · cases h
    · cases h
    · cases hp
      cases hrest
    · exact not_passes_nil h
  exact ⟨⟨hgiven, by decide⟩, hpass, hlater 0 change hpass (by decide)⟩

end Junction
end Testbed.Http
