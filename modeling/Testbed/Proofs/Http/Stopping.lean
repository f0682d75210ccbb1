import Testbed.Proofs.Http.Sparing
import Testbed.Proofs.Http.Trace

/-!
# Where a run stops

The steps of a run are bounded by a number that is worked out before the first of them
(`Job.stepLimit`). This is enough for every handler, unless a switcher reaches itself.

**Theorem (`run_stops`).** Let the switchers be in layers, so that the target of each mentions only
switchers of lower layers. Then a run ends, or stops at a wait that is neither over nor run out.

The weight of the tasks that are left gets smaller in every step that leads to another one
(`weights_step_lt`), as long as a switcher counts for no less than its target. The weight of a
switcher does, since it does not depend on how deep its target is followed once that is deep enough
for its layer (`switcherWeight_eq`).

**Theorem (`run_script`).** The run of a single script stops where the script does.
-/

namespace Testbed.Http

/-! ## Switchers in layers -/

/-- A switcher stands somewhere in a handler. -/
inductive Handler.Mentions (name : String) : Handler → Prop where
  | switch : Mentions name (.switch name)
  | all {handlers : List Handler} {k : Handler} (hk : k ∈ handlers) (h : Mentions name k) :
      Mentions name (.all handlers)
  | sequential (counter : Nat) {handlers : List Handler} {k : Handler} (hk : k ∈ handlers)
      (h : Mentions name k) : Mentions name (.sequential counter handlers)
  | router {routes : List (Route Handler)} {r : Route Handler} (hr : r ∈ routes)
      (h : Mentions name r.target) : Mentions name (.router routes)

/-- Each switcher has a layer, and its target mentions only switchers of lower ones. -/
structure Shared.Layered (layer : String → Nat) (shared : Shared) : Prop where
  lt {name : String} {h : Handler} (htarget : shared.target? name = some h) :
    layer name < shared.switchers.length
  mentions {name other : String} {h k : Handler} (htarget : shared.target? name = some h)
    (hmentions : h.Mentions other) (hother : shared.target? other = some k) :
    layer other < layer name

theorem Shared.layered_fresh : Shared.fresh.Layered fun _ => 0 where
  lt := by
    intro name h htarget
    cases htarget
  mentions := by
    intro name other h k htarget
    cases htarget

/-! ## Waiting -/

/-- A script stops only at a wait that is neither over nor run out. -/
theorem Script.exists_wait_of_play {patience : Patience} {s rest : Script} {x y : Exchange}
    (h : s.play patience x = (.waiting rest, y)) :
    ∃ limit next, rest = .call (.wait limit) next ∧ patience.runsOut limit = false ∧
      y.isClosed = false := by
  induction s generalizing x with
  | finish ending => cases h
  | call op next ih =>
    simp only [play] at h
    split at h
    · cases h
    · split at h
      · exact ih _ h
      · rename_i hperform
        cases op with
        | wait limit =>
          simp only [Exchange.perform] at hperform
          split_ifs at hperform with hclosed hruns
          cases h
          exact ⟨limit, next, rfl, Bool.eq_false_iff.mpr hruns, Bool.eq_false_iff.mpr hclosed⟩
        | _ => cases hperform

namespace Job

variable {patience : Patience} {shared : Shared} {job next : Job} {x y : Exchange}
  {w v : String → Nat} {layer : String → Nat}

/-- The first task is a script at a wait that is neither over nor run out. -/
def Waits (patience : Patience) (job : Job) : Prop :=
  ∃ limit next rest, job.tasks = .script (.call (.wait limit) next) :: rest ∧
    patience.runsOut limit = false ∧ job.exchange.isClosed = false

/-! ## Weights -/

mutual

theorem weight_congr : (h : Handler) → (∀ name, h.Mentions name → w name = v name) →
    weight w h = weight v h
  | .script _, _ | .record _, _ => rfl
  | .switch name, hwv => by rw [weight, weight, hwv name .switch]
  | .all handlers, hwv => by
    rw [weight, weight, weights_congr handlers fun k hk name h => hwv name (.all hk h)]
  | .sequential counter handlers, hwv => by
    rw [weight, weight,
      weights_congr handlers fun k hk name h => hwv name (.sequential counter hk h)]
  | .router routes, hwv => by
    rw [weight, weight, routeWeights_congr routes fun r hr name h => hwv name (.router hr h)]

theorem weights_congr : (hs : List Handler) →
    (∀ h ∈ hs, ∀ name, h.Mentions name → w name = v name) → weights w hs = weights v hs
  | [], _ => rfl
  | h :: rest, hwv => by
    rw [weights, weights, weight_congr h (hwv h (.head _)),
      weights_congr rest fun k hk => hwv k (.tail _ hk)]

theorem routeWeights_congr : (routes : List (Route Handler)) →
    (∀ r ∈ routes, ∀ name, r.target.Mentions name → w name = v name) →
      routeWeights w routes = routeWeights v routes
  | [], _ => rfl
  | ⟨method, matcher, target⟩ :: rest, hwv => by
    rw [routeWeights, routeWeights, weight_congr target (hwv _ (.head _)),
      routeWeights_congr rest fun r hr => hwv r (.tail _ hr)]

end

theorem weight_le_weights (w : String → Nat) {h : Handler} {hs : List Handler} (hmem : h ∈ hs) :
    weight w h ≤ weights w hs := by
  induction hs with
  | nil => cases hmem
  | cons k rest ih =>
    rw [weights]
    rcases List.mem_cons.mp hmem with rfl | hmem
    · exact Nat.le_add_right _ _
    · exact Nat.le_trans (ih hmem) (Nat.le_add_left _ _)

theorem switcherWeight_of_none {name : String} (h : shared.target? name = none) (depth : Nat) :
    switcherWeight shared depth name = 0 := by
  cases depth with
  | zero => rfl
  | succ depth => simp only [switcherWeight, h]

/-- The weight of a switcher is the same at all depths beyond its layer. -/
theorem switcherWeight_eq (h : shared.Layered layer) {name : String} {m n : Nat}
    (hm : layer name < m) (hn : layer name < n) :
    switcherWeight shared m name = switcherWeight shared n name := by
  induction m generalizing name n with
  | zero => exact absurd hm (Nat.not_lt_zero _)
  | succ m ih =>
    cases n with
    | zero => exact absurd hn (Nat.not_lt_zero _)
    | succ n =>
      cases htarget : shared.target? name with
      | none => rw [switcherWeight_of_none htarget, switcherWeight_of_none htarget]
      | some target =>
        simp only [switcherWeight, htarget]
        apply weight_congr
        intro other hmentions
        cases hother : shared.target? other with
        | none => rw [switcherWeight_of_none hother, switcherWeight_of_none hother]
        | some k =>
          have hlt := h.mentions htarget hmentions hother
          exact ih (by omega) (by omega)

/-- A switcher counts for no less than its target. -/
def Covers (w : String → Nat) (shared : Shared) : Prop :=
  ∀ name h, shared.target? name = some h → weight w h ≤ w name

theorem covers_switcherWeight (h : shared.Layered layer) :
    Covers (switcherWeight shared shared.switchers.length) shared := by
  intro name target htarget
  have hlayer := h.lt htarget
  obtain ⟨depth, hdepth⟩ : ∃ depth, shared.switchers.length = depth + 1 :=
    ⟨shared.switchers.length - 1, by omega⟩
  have hweight : switcherWeight shared (depth + 1) name =
      weight (switcherWeight shared depth) target := by
    simp only [switcherWeight, htarget]
  rw [hdepth] at hlayer ⊢
  rw [hweight]
  apply Nat.le_of_eq
  apply weight_congr
  intro other hmentions
  cases hother : shared.target? other with
  | none => rw [switcherWeight_of_none hother, switcherWeight_of_none hother]
  | some k =>
    have hlt := h.mentions htarget hmentions hother
    exact switcherWeight_eq h (by omega) (by omega)

theorem covers_step (h : Covers w shared) (patience : Patience) (job : Job) :
    Covers w (job.step patience shared).1 := by
  intro name target htarget
  rw [Shared.target?, switchers_step] at htarget
  exact h name target htarget

/-! ## One step -/

/-- **A step that leads to another** makes the tasks that are left lighter. -/
theorem weights_step_lt (hw : Covers w shared) (h : (job.step patience shared).2 = .next next) :
    weights w next.tasks < weights w job.tasks := by
  obtain ⟨x, tasks⟩ := job
  match tasks with
  | [] => cases h
  | .script script :: rest =>
    simp only [step] at h
    rcases hplay : script.play patience x with ⟨⟨_ | _ | _⟩ | _, y⟩ <;> rw [hplay] at h <;> cases h
    simp only [weights, weight]
    omega
  | .all handlers :: rest =>
    cases h
    simp only [weights, weight, weights_append]
    omega
  | .sequential counter handlers :: rest =>
    simp only [step] at h
    split at h
    · rename_i k hk
      cases h
      have hle := weight_le_weights w (List.mem_of_getElem? hk)
      simp only [weights, weight]
      omega
    · cases h
  | .router routes :: rest =>
    simp only [step] at h
    split at h
    · rename_i params target hroute
      cases h
      obtain ⟨r, hr, rfl⟩ := mem_of_selectRoute hroute
      have hle := weight_le_routeWeights w hr
      simp only [weights, weight]
      omega
    · cases h
      simp only [weights, weight]
      omega
  | .record recorder :: rest =>
    cases h
    simp only [weights, weight]
    omega
  | .switch name :: rest =>
    simp only [step] at h
    split at h
    · rename_i k hk
      cases h
      have hle := hw name k hk
      simp only [weights, weight]
      omega
    · cases h
      simp only [weights, weight]
      omega

theorem waits_step (h : (job.step patience shared).2 = .waiting next) : next.Waits patience := by
  obtain ⟨x, tasks⟩ := job
  match tasks with
  | [] | .all _ :: _ | .record _ :: _ => cases h
  | .script script :: rest =>
    simp only [step] at h
    rcases hplay : script.play patience x with ⟨⟨_ | _ | _⟩ | waiting, y⟩ <;> rw [hplay] at h <;>
      cases h
    obtain ⟨limit, next, rfl, hruns, hclosed⟩ := Script.exists_wait_of_play hplay
    exact ⟨limit, next, rest, rfl, hruns, hclosed⟩
  | .sequential _ _ :: _ | .router _ :: _ | .switch _ :: _ =>
    simp only [step] at h
    split at h <;> cases h

/-! ## Runs -/

/-- The run of a job ends, or it waits. -/
def Stops (patience : Patience) (p : Progress) : Prop :=
  (∃ ending x, p = .ended ending x) ∨ ∃ job, p = .waiting job ∧ job.Waits patience

/-- Steps that are no fewer than the weight of the tasks are enough. -/
theorem runFor_stops (hw : Covers w shared) {fuel : Nat} (hfuel : weights w job.tasks < fuel) :
    Stops patience (runFor patience fuel shared job).2 := by
  induction fuel generalizing shared job with
  | zero => exact absurd hfuel (Nat.not_lt_zero _)
  | succ fuel ih =>
    have hcovers := covers_step hw patience job
    rw [runFor]
    rcases hstep : job.step patience shared with ⟨shared', next | ⟨ending, x⟩ | waiting⟩
    · rw [hstep] at hcovers
      have hlt : weights w next.tasks < weights w job.tasks := weights_step_lt hw (by rw [hstep])
      exact ih hcovers (by omega)
    · exact .inl ⟨ending, x, rfl⟩
    · exact .inr ⟨waiting, rfl, waits_step (by rw [hstep])⟩

/-- **Every run stops**, unless a switcher reaches itself: it ends, or it waits. -/
theorem run_stops (h : shared.Layered layer) (patience : Patience) (job : Job) :
    Stops patience (job.run patience shared).2 :=
  runFor_stops (covers_switcherWeight h) (Nat.lt_succ_self _)

/-- The run of a single script is that of the script. -/
theorem run_script {script : Script} {ending : Ending}
    (h : script.play patience x = (.ended ending, y)) (shared : Shared) :
    run patience shared ⟨x, [.script script]⟩ = (shared, .ended ending y) := by
  cases ending <;> simp [run, stepLimit, weights, weight, runFor, step, h]

theorem trace_script (patience : Patience) (shared : Shared) (x : Exchange) (script : Script) :
    trace patience shared ⟨x, [.script script]⟩ = script.trace patience x := by
  rcases h : script.play patience x with ⟨⟨_ | _ | _⟩ | _, y⟩ <;>
    simp [trace, stepLimit, weights, weight, traceFor, stepTrace, step, h]

end Job
end Testbed.Http
