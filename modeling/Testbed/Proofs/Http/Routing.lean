import Testbed.Proofs.Http.Running
import Testbed.Proofs.Text.LetterCase

/-!
# Which route a request takes

Routes are registered one after another (`Registration`), each for a method in any case or for all
methods. A registration accepts a path by its matcher, and takes a request if it accepts both path
and method.

**Theorem (`router_applies_first`).** A router hands a request to the target of the first
registration that takes it, once, and does nothing else but set the parameters of the path, if the
matcher of that registration has groups. What becomes of the target becomes of the router. If no
registration takes the request, only the status changes: 405 if some registration accepts the path,
404 if none does.

Registrations that are skipped leave no trace: the search for a route has no state but the verdict
that the path was accepted for another method (`selectRoute_eq`).
-/

namespace Testbed.Http

/-! ## Matchers -/

namespace PathMatcher

def groups : PathMatcher → Nat
  | exact _ => 0
  | pattern regex => regex.node.groups

def accepts (m : PathMatcher) (path : String) : Bool :=
  match m with
  | exact expected => expected == path
  | pattern regex => (regex.captures path).isSome

/-- What the groups capture of a path, in the order of their numbers; nothing for a group that took
no part. -/
def captured (m : PathMatcher) (path : String) : List (Option String) :=
  match m with
  | exact _ => []
  | pattern regex => (regex.captures path).getD []

theorem params?_eq (m : PathMatcher) (path : String) :
    m.params? path =
      if m.accepts path then some ((m.captured path).map fun g => g.getD "") else none := by
  cases m with
  | exact expected => simp [params?, accepts, captured]
  | pattern regex => cases h : regex.captures path <;> simp [params?, accepts, captured, h]

/-- Every group has its place among what is captured. -/
theorem length_captured {m : PathMatcher} {path : String} (h : m.accepts path = true) :
    (m.captured path).length = m.groups := by
  cases m with
  | exact expected => rfl
  | pattern regex =>
    simp only [accepts, Option.isSome_iff_exists] at h
    obtain ⟨groups, hgroups⟩ := h
    have hlength := hgroups
    simp only [Regex.captures, Option.map_eq_some_iff] at hlength
    obtain ⟨thread, -, rfl⟩ := hlength
    simp [captured, hgroups, PathMatcher.groups]

end PathMatcher

/-! ## Registrations -/

/-- What a route is registered with: the method is given in any case. -/
structure Registration where
  method : Option String
  matcher : PathMatcher
  target : Handler

namespace Registration

def route (g : Registration) : Route Handler := .make g.method g.matcher g.target

/-- Whether a request is taken: its path is accepted, and so is its method, whatever the case of
ASCII letters. -/
def takes (g : Registration) (path method : String) : Bool :=
  g.matcher.accepts path && g.method.all (Exchange.sameName · method)

/-- A route takes the methods that its registration takes, in whatever case that was given. -/
theorem acceptsMethod_route (g : Registration) (method : String) :
    g.route.acceptsMethod method = g.method.all (Exchange.sameName · method) := by
  unfold route Route.make Route.acceptsMethod
  cases g.method with
  | none => rfl
  | some wanted =>
    have hcase (name : String) :
        (name.map Char.toUpper).map Char.toLower = name.map Char.toLower := by
      simp only [String.map_map, Function.comp_def, Text.toLower_toUpper]
    simp [Exchange.sameName, hcase]

end Registration

/-! ## The search for a route -/

/-- The first registration that takes a request. -/
def firstTaking (regs : List Registration) (path method : String) : Option Registration :=
  regs.find? (·.takes path method)

theorem firstTaking_cons (g : Registration) (rest : List Registration) (path method : String) :
    firstTaking (g :: rest) path method =
      if g.takes path method then some g else firstTaking rest path method := by
  cases h : g.takes path method <;> simp [firstTaking, h]

/-- What is selected among some registrations. -/
def selection (regs : List Registration) (path method : String) : Selection Handler :=
  match firstTaking regs path method with
  | some g => .route ((g.matcher.captured path).map fun c => c.getD "") g.target
  | none => if regs.any (·.matcher.accepts path) then .otherMethod else .noPath

/-- **The first registration that takes a request is selected**, whatever was skipped. -/
theorem selectRoute_eq (regs : List Registration) (path method : String) :
    selectRoute path method (regs.map Registration.route) = selection regs path method := by
  induction regs with
  | nil => rfl
  | cons g rest ih =>
    have hparams : g.route.matcher.params? path = _ := g.matcher.params?_eq path
    rw [List.map_cons, selectRoute, hparams, g.acceptsMethod_route, ih]
    unfold selection
    rw [firstTaking_cons, Registration.takes, List.any_cons]
    cases g.matcher.accepts path with
    | false => simp
    | true =>
      cases g.method.all (Exchange.sameName · method) with
      | true => rfl
      | false =>
        -- A later route is taken as it is; if there is none, the method was the reason.
        rcases firstTaking rest path method with _ | h
        · cases rest.any (·.matcher.accepts path) <;> rfl
        · rfl

/-! ## Routers -/

variable {regs : List Registration} {g : Registration} {x : Exchange}

/-- An exchange on its way to the target of a registration: the parameters of its path are what the
groups capture, the empty text for a group that took no part, and stay if there are no groups. -/
def Registration.prepare (g : Registration) (x : Exchange) : Exchange :=
  { x with params := if g.matcher.groups = 0 then x.params
      else (g.matcher.captured x.request.path).map fun c => c.getD "" }

/-- An exchange that no registration takes: its path is accepted for other methods, or not at
all. -/
def refused (regs : List Registration) (x : Exchange) : Exchange :=
  { x with status := if regs.any (·.matcher.accepts x.request.path) then 405 else 404 }

theorem withParams_captured (h : g.matcher.accepts x.request.path = true) :
    x.withParams ((g.matcher.captured x.request.path).map fun c => c.getD "") = g.prepare x := by
  rw [Exchange.withParams, Registration.prepare, ← PathMatcher.length_captured h]
  by_cases hcaptured : g.matcher.captured x.request.path = []
  · simp [hcaptured]
  · simp [hcaptured, Exchange.setParams]

theorem step_router_of_taking (h : firstTaking regs x.request.path x.request.method = some g)
    (patience : Patience) (shared : Shared) (rest : List Handler) :
    Job.step patience shared ⟨x, .router (regs.map Registration.route) :: rest⟩ =
      (shared, .next ⟨g.prepare x, g.target :: rest⟩) := by
  have htakes := List.find?_some h
  rw [Registration.takes, Bool.and_eq_true] at htakes
  simp only [Job.step, selectRoute_eq, selection, h]
  rw [withParams_captured htakes.1]

theorem step_router_of_none (h : firstTaking regs x.request.path x.request.method = none)
    (patience : Patience) (shared : Shared) (rest : List Handler) :
    Job.step patience shared ⟨x, .router (regs.map Registration.route) :: rest⟩ =
      (shared, .next ⟨refused regs x, rest⟩) := by
  simp only [Job.step, selectRoute_eq, selection, h, refused]
  cases regs.any (·.matcher.accepts x.request.path) <;> rfl

/-- **A router hands a request to the first route that takes it.** Take any registrations, any
exchange so far, and anything that is still to do.

1. If some registration takes the request, the target of the first such is the next task, once. The
   exchange changes in the parameters of the path alone, and the run goes on and ends as that of the
   target.
2. If none takes it, no task comes up. The status becomes 405 or 404, nothing else changes, and the
   router ends well. -/
theorem router_applies_first (patience : Patience) (shared : Shared) (regs : List Registration)
    (x : Exchange) (rest : List Handler) :
    let router : Handler := .router (regs.map Registration.route)
    (∀ g, firstTaking regs x.request.path x.request.method = some g →
      Job.Leads patience shared ⟨x, router :: rest⟩ ⟨g.prepare x, g.target :: rest⟩) ∧
    (firstTaking regs x.request.path x.request.method = none →
      Job.Leads patience shared ⟨x, router :: rest⟩ ⟨refused regs x, rest⟩ ∧
        (Job.start router x).run patience shared = (shared, .ended .done (refused regs x))) := by
  intro router
  constructor
  · intro g hg
    apply Job.leads_of_step (step_router_of_taking hg patience shared rest)
    have hmem : g.route ∈ regs.map Registration.route :=
      List.mem_map_of_mem (List.mem_of_find?_eq_some hg)
    have hweight := Job.weight_le_routeWeights
      (Job.switcherWeight shared shared.switchers.length) hmem
    simp only [Job.stepLimit, Job.weights, Job.weight]
    change Job.weight _ g.target ≤ _ at hweight
    omega
  · intro hnone
    have hleads (rest : List Handler) :
        Job.Leads patience shared ⟨x, router :: rest⟩ ⟨refused regs x, rest⟩ := by
      apply Job.leads_of_step (step_router_of_none hnone patience shared rest)
      simp only [Job.stepLimit, Job.weights, Job.weight]
      omega
    have hend : Job.run patience shared ⟨refused regs x, []⟩ =
        (shared, .ended .done (refused regs x)) := rfl
    refine ⟨hleads rest, ?_⟩
    rw [Job.start, (hleads []).run (by simp [hend]), hend]

/-- A route for another method captures something and is skipped, and the one parameter is that of
the route behind it, whose group takes no part. A request with a third method is refused. -/
theorem skipped_route_unseen :
    ∃ first second, PathMatcher.ofPattern (fun _ => true) "/(a)" = .ok first ∧
      PathMatcher.ofPattern (fun _ => true) "/a(b)?" = .ok second ∧
      let delete : Registration := ⟨some "delete", first, .status 201⟩
      let get : Registration := ⟨some "Get", second, .status 202⟩
      let router : Handler := .router ([delete, get].map Registration.route)
      let x (method : String) : Exchange :=
        { Exchange.start ⟨method, ⟨"http", none, "/a", none, none⟩, [], []⟩ false with
          params := ["old", "older"] }
      (Job.start router (x "GET")).run .limited .fresh =
        (.fresh, .ended .done { x "GET" with params := [""], status := 202 }) ∧
      (Job.start router (x "POST")).run .limited .fresh =
        (.fresh, .ended .done { x "POST" with status := 405 }) := by
  refine ⟨_, _, rfl, rfl, ?_⟩
  intro delete get router x
  have hget : get.takes "/a" "GET" = true := by
    have hpath : get.matcher.accepts "/a" = true := by decide +kernel
    have hmethod : Exchange.sameName "Get" "GET" = true :=
      (Text.map_beq_map _ _ _).trans (by decide)
    rw [Registration.takes, hpath, Option.all_some, hmethod]
    rfl
  have hfirst : firstTaking [delete, get] "/a" "GET" = some get := by
    have hdelete : delete.takes "/a" "GET" = false := by decide +kernel
    simp [firstTaking_cons, hdelete, hget]
  have hnone : firstTaking [delete, get] "/a" "POST" = none := by
    have hdelete : delete.takes "/a" "POST" = false := by decide +kernel
    have hget : get.takes "/a" "POST" = false := by decide +kernel
    simp [firstTaking, hdelete, hget]
  have hleads := (router_applies_first .limited .fresh [delete, get] (x "GET") []).1 get hfirst
  have hprepare : get.prepare (x "GET") = { x "GET" with params := [""] } := by decide +kernel
  have hrefused : refused [delete, get] (x "POST") = { x "POST" with status := 405 } := by
    decide +kernel
  rw [hprepare] at hleads
  refine ⟨(hleads.run ?_).trans rfl, ?_⟩
  · intro later h
    cases h
  · rw [← hrefused]
    exact ((router_applies_first .limited .fresh [delete, get] (x "POST") []).2 hnone).2

end Testbed.Http
