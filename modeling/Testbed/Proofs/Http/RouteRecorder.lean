import Mathlib.Data.List.Basic
import Mathlib.Data.List.Induction
import Testbed.Proofs.Http.Session
import Testbed.Proofs.Http.Sparing

/-!
# The recorder of a route

The handler of a recorder stands first in the chain of one route of a server, and nowhere else
(`Placed`). Requests come in any number, and their handlers begin and go on whenever they do
(`Flows`). Nobody else uses this recorder or that of the server.

**Theorem (`recorder_sees_route`).** When every handler has begun, the recorder holds exactly those
requests of the server's recorder that go to its route. They are in the same order if the handlers
began in the order of their requests, as they do when each request is answered before the next is
sent.

A call gives its request to the recorder in its first run or never. So what the recorder holds, with
what it will be given by the calls that have not begun (`Traffic.due`), changes by the requests that
come and in its order only (`Sees`).
-/

namespace Testbed.Http

/-! ## Traffic -/

theorem Recorder.ite_record {r : Recorder} (h : r.enabled = true) (b : Bool) (request : Request) :
    (if b then r.record request else r) = ⟨r.queue ++ if b then [request] else [], true⟩ := by
  obtain ⟨queue, enabled⟩ := r
  cases h
  cases b <;> simp [record]

namespace Server

variable {name : String} {patience : Patience} {s s' : Server} {call : Call}

theorem advance_rests {r : Recorder} (h : Job.Rests name r (call.job.run patience s.shared)) :
    (s.advance patience call).1.shared.recorder name = r ∧
      (s.advance patience call).1.shared.Spares name ∧
      ∀ next ∈ (s.advance patience call).2.left, ∀ k ∈ next.job.tasks, k.Spares name := by
  obtain ⟨hrecorder, hshared, htasks⟩ := h
  unfold advance
  rcases hrun : call.job.run patience s.shared with ⟨shared, job | ⟨ending, x⟩ | job⟩ <;>
    rw [hrun] at hrecorder hshared htasks
  · exact ⟨hrecorder, hshared, List.forall_mem_singleton.mpr htasks⟩
  · obtain ⟨es, hs, -⟩ := noteEnd_spec { s with shared } call.logged (Job.conclude ending x)
    simp only [hs]
    exact ⟨hrecorder, hshared, by simp [Standing.left]⟩
  · obtain ⟨es, hs, -⟩ := noteHead_spec { s with shared } call.logged job.exchange
    simp only [hs]
    exact ⟨hrecorder, hshared, List.forall_mem_singleton.mpr htasks⟩

/-- A server with the calls that are going on. -/
structure Traffic where
  server : Server
  /-- The calls whose handlers have not begun, in the order in which their requests came. -/
  waiting : List Call
  /-- The calls whose handlers have begun. -/
  begun : List Call

/-- What may become of a server, by the requests that have come. Handlers begin in the order of
their requests, if that is asked for. Nobody but the handlers touches the recorder of a name, and no
switcher is set to a target with this recorder in it. -/
inductive Flows (first : Server) (name : String) (inOrder : Prop) :
    List Incoming → Traffic → Prop where
  | started : Flows first name inOrder [] ⟨first, [], []⟩
  /-- A request comes, and is taken in or refused. -/
  | came {is : List Incoming} {s s' : Server} {waiting begun : List Call} {i : Incoming}
      {call : Option Call} (flows : Flows first name inOrder is ⟨s, waiting, begun⟩)
      (h : s.accept i = (s', call)) :
      Flows first name inOrder (is ++ [i]) ⟨s', waiting ++ call.toList, begun⟩
  /-- The handler of a call begins. -/
  | began {is : List Incoming} {s s' : Server} {before behind begun : List Call} {call : Call}
      {patience : Patience} {standing : Standing}
      (flows : Flows first name inOrder is ⟨s, before ++ call :: behind, begun⟩)
      (order : inOrder → before = []) (h : s.advance patience call = (s', standing)) :
      Flows first name inOrder is ⟨s', before ++ behind, begun ++ standing.left⟩
  /-- The handler of a call goes on. -/
  | resumed {is : List Incoming} {s s' : Server} {waiting before behind : List Call} {call : Call}
      {patience : Patience} {standing : Standing}
      (flows : Flows first name inOrder is ⟨s, waiting, before ++ call :: behind⟩)
      (h : s.advance patience call = (s', standing)) :
      Flows first name inOrder is ⟨s', waiting, before ++ (standing.left ++ behind)⟩
  /-- The client of a waiting call leaves, or the call learns that the server is closing. -/
  | touchedWaiting {is : List Incoming} {s : Server} {before behind begun : List Call} {call : Call}
      {m : Move} (flows : Flows first name inOrder is ⟨s, before ++ call :: behind, begun⟩)
      (h : m = .leave ∨ m = .close) :
      Flows first name inOrder is ⟨s, before ++ call.touch m :: behind, begun⟩
  /-- The client of another call takes a chunk or leaves, or the call learns that the server is
  closing. -/
  | touchedBegun {is : List Incoming} {s : Server} {waiting before behind : List Call} {call : Call}
      {m : Move} (flows : Flows first name inOrder is ⟨s, waiting, before ++ call :: behind⟩)
      (h : m = .receive ∨ m = .leave ∨ m = .close) :
      Flows first name inOrder is ⟨s, waiting, before ++ call.touch m :: behind⟩
  /-- Time passes, the server begins to close, and what handlers share changes elsewhere. -/
  | passed {is : List Incoming} {s : Server} {waiting begun : List Call}
      (flows : Flows first name inOrder is ⟨s, waiting, begun⟩) (now : Nat) (closing : Bool)
      (shared : Shared) (recorder : shared.recorder name = s.shared.recorder name)
      (spares : shared.Spares name) :
      Flows first name inOrder is ⟨{ s with now, closing, shared }, waiting, begun⟩

/-- The server when some requests were dispatched, one after another. -/
def dispatches (s : Server) (is : List Incoming) : Server :=
  is.foldl (fun s i => (s.dispatch i).1) s

theorem Flows.dispatch {first : Server} {inOrder : Prop} {is : List Incoming} {begun : List Call}
    (flows : Flows first name inOrder is ⟨s, [], begun⟩) (i : Incoming) :
    ∃ begun', Flows first name inOrder (is ++ [i]) ⟨(s.dispatch i).1, [], begun'⟩ := by
  unfold Server.dispatch
  rcases haccept : s.accept i with ⟨t, _ | call⟩
  · exact ⟨begun, .came flows haccept⟩
  · have hcame : Flows first name inOrder (is ++ [i]) ⟨t, [] ++ call :: [], begun⟩ :=
      .came flows haccept
    rcases hadvance : t.advance .limited call with ⟨t', x | next⟩ <;> simp only [hadvance] <;>
      exact ⟨_, .began hcame (fun _ => rfl) hadvance⟩

theorem flows_dispatches (first : Server) (name : String) (inOrder : Prop) (is : List Incoming) :
    ∃ begun, Flows first name inOrder is ⟨first.dispatches is, [], begun⟩ := by
  induction is using List.reverseRecOn with
  | nil => exact ⟨[], .started⟩
  | append_singleton is i ih =>
    obtain ⟨begun, flows⟩ := ih
    rw [dispatches, List.foldl_append]
    exact flows.dispatch i

/-! ## What traffic keeps -/

/-- The requests that a recorder holds, and those that it will be given by calls that wait. -/
def Traffic.due (name : String) (before : List Registration) (g : Registration) (t : Traffic) :
    List Request :=
  (t.server.shared.recorder name).queue ++
    (t.waiting.map (·.job.exchange.request)).filter (g.gets before)

/-- What traffic keeps up, when some requests have reached the handler. -/
structure Sees (first : Server) (name : String) (before : List Registration) (g : Registration)
    (inOrder : Prop) (requests : List Request) (t : Traffic) : Prop where
  server : ∃ shared now closing, t.server =
    { first with recorder := ⟨requests, true⟩, shared, now, closing, log := t.server.log }
  spares : t.server.shared.Spares name
  waiting : ∀ call ∈ t.waiting, call.job.tasks = [first.handler]
  begun : ∀ call ∈ t.begun, ∀ h ∈ call.job.tasks, h.Spares name
  enabled : (t.server.shared.recorder name).enabled = true
  complete : (t.due name before g).Perm (requests.filter (g.gets before))
  ordered : inOrder → t.due name before g = requests.filter (g.gets before)

variable {first : Server} {before behind : List Registration} {g : Registration} {inOrder : Prop}
  {requests : List Request} {waiting begun ws vs : List Call}

theorem Sees.started (h : first.recorder = .fresh) (hshared : first.shared.Spares name)
    (hfresh : first.shared.recorder name = .fresh) :
    Sees first name before g inOrder [] ⟨first, [], []⟩ where
  server := ⟨first.shared, first.now, first.closing, by
    change first = { first with recorder := .fresh }
    rw [← h]⟩
  spares := hshared
  waiting := by simp
  begun := by simp
  enabled := by rw [hfresh]; rfl
  complete := by simp [Traffic.due, hfresh, Recorder.fresh]
  ordered := by simp [Traffic.due, hfresh, Recorder.fresh]

/-- A request that is taken in is due if it goes to the route. -/
theorem Sees.accepted (h : Sees first name before g inOrder requests ⟨s, waiting, begun⟩)
    (request : Request) : Sees first name before g inOrder (requests ++ [request])
      ⟨s.taking request, waiting ++ [⟨.start s.handler (.start request s.closing), false⟩],
        begun⟩ := by
  obtain ⟨shared, now, closing, hs⟩ := h.server
  dsimp only at hs
  have hdue : Traffic.due name before g ⟨s.taking request,
      waiting ++ [⟨.start s.handler (.start request s.closing), false⟩], begun⟩ =
      Traffic.due name before g ⟨s, waiting, begun⟩ ++ [request].filter (g.gets before) := by
    simp [Traffic.due, taking, Job.start, Exchange.start]
  refine ⟨⟨shared, now, closing, ?_⟩, h.spares, ?_, h.begun, h.enabled, ?_, fun horder => ?_⟩
  · dsimp only
    rw [hs]
    rfl
  · have hhandler : s.handler = first.handler := by rw [hs]
    refine List.forall_mem_append.mpr ⟨h.waiting, List.forall_mem_singleton.mpr ?_⟩
    rw [Job.start, hhandler]
  · rw [hdue, List.filter_append]
    exact h.complete.append_right _
  · rw [hdue, List.filter_append, h.ordered horder]

/-- What the recorder holds and will be given stays, but for its order. -/
theorem Sees.carried {t t' : Traffic} (h : Sees first name before g inOrder requests t)
    (hserver : ∃ shared now closing log,
      t'.server = { t.server with shared, now, closing, log })
    (hspares : t'.server.shared.Spares name)
    (hwaiting : ∀ call ∈ t'.waiting, call.job.tasks = [first.handler])
    (hbegun : ∀ call ∈ t'.begun, ∀ k ∈ call.job.tasks, k.Spares name)
    (henabled : (t'.server.shared.recorder name).enabled = true)
    (hdue : (t'.due name before g).Perm (t.due name before g))
    (hordered : inOrder → t'.due name before g = t.due name before g) :
    Sees first name before g inOrder requests t' := by
  obtain ⟨shared, now, closing, hs⟩ := h.server
  obtain ⟨shared', now', closing', log', hs'⟩ := hserver
  refine ⟨⟨shared', now', closing', ?_⟩, hspares, hwaiting, hbegun, henabled,
    hdue.trans h.complete, fun horder => (hordered horder).trans (h.ordered horder)⟩
  rw [hs', hs]

theorem Sees.began {standing : Standing} (placed : Placed name before g behind)
    (hhandler : first.handler = .router ((before ++ g :: behind).map Registration.route))
    (h : Sees first name before g inOrder requests ⟨s, ws ++ call :: vs, begun⟩)
    (horder : inOrder → ws = []) (hs : s.advance patience call = (s', standing)) :
    Sees first name before g inOrder requests ⟨s', ws ++ vs, begun ++ standing.left⟩ := by
  have hwaiting := h.waiting
  rw [List.forall_mem_append, List.forall_mem_cons] at hwaiting
  have hrun : call.job.run patience s.shared = Job.run patience s.shared ⟨call.job.exchange,
      [.router ((before ++ g :: behind).map Registration.route)]⟩ := by
    rw [← hhandler, ← hwaiting.2.1]
  obtain ⟨hrecorder, hspares, htasks⟩ := advance_rests
    (hrun ▸ placed.first_run_rests patience h.spares call.job.exchange)
  obtain ⟨shared, es, hserver, -⟩ := advance_spec patience s call
  rw [hs] at hrecorder hspares htasks hserver
  dsimp only at hrecorder hspares htasks hserver
  have henabled : (s.shared.recorder name).enabled = true := h.enabled
  have hqueue : s'.shared.recorder name = ⟨(s.shared.recorder name).queue ++
      [call.job.exchange.request].filter (g.gets before), true⟩ := by
    rw [hrecorder, Recorder.ite_record henabled, List.filter_singleton]
    cases g.gets before call.job.exchange.request <;> rfl
  refine h.carried ⟨shared, s.now, s.closing, s.log ++ es, hserver⟩ hspares ?_ ?_ ?_ ?_ ?_
  · exact List.forall_mem_append.mpr ⟨hwaiting.1, hwaiting.2.2⟩
  · exact List.forall_mem_append.mpr ⟨h.begun, htasks⟩
  · dsimp only
    rw [hqueue]
  · -- What was due behind the calls that wait longer stands before them now.
    have hmiddle : (ws.map (·.job.exchange.request) ++ call.job.exchange.request ::
        vs.map (·.job.exchange.request)).Perm (call.job.exchange.request ::
          (ws ++ vs).map (·.job.exchange.request)) := by
      rw [List.map_append]
      exact List.perm_middle
    simp only [Traffic.due, hqueue, List.append_assoc, ← List.filter_append, List.singleton_append,
      List.map_append, List.map_cons]
    rw [← List.map_append]
    exact (hmiddle.symm.filter _).append_left _
  · intro hin
    simp only [Traffic.due, hqueue, horder hin, List.append_assoc, ← List.filter_append,
      List.singleton_append, List.nil_append, List.map_cons]

theorem Sees.resumed {standing : Standing}
    (h : Sees first name before g inOrder requests ⟨s, waiting, ws ++ call :: vs⟩)
    (hs : s.advance patience call = (s', standing)) :
    Sees first name before g inOrder requests ⟨s', waiting, ws ++ (standing.left ++ vs)⟩ := by
  have hbegun := h.begun
  rw [List.forall_mem_append, List.forall_mem_cons] at hbegun
  obtain ⟨hrecorder, hspares, htasks⟩ := advance_rests
    (Job.runFor_rests patience h.spares hbegun.2.1 _)
  obtain ⟨shared, es, hserver, -⟩ := advance_spec patience s call
  rw [hs] at hrecorder hspares htasks hserver
  dsimp only at hrecorder hspares htasks hserver
  refine h.carried ⟨shared, s.now, s.closing, s.log ++ es, hserver⟩ hspares h.waiting ?_ ?_ ?_ ?_
  · rw [List.forall_mem_append, List.forall_mem_append]
    exact ⟨hbegun.1, htasks, hbegun.2.2⟩
  · dsimp only
    rw [hrecorder]
    exact h.enabled
  · simp [Traffic.due, hrecorder]
  · simp [Traffic.due, hrecorder]

theorem Sees.touchedWaiting (h : Sees first name before g inOrder requests
      ⟨s, ws ++ call :: vs, begun⟩) (m : Move) :
    Sees first name before g inOrder requests ⟨s, ws ++ call.touch m :: vs, begun⟩ := by
  have hwaiting := h.waiting
  rw [List.forall_mem_append, List.forall_mem_cons] at hwaiting
  have hdue : Traffic.due name before g ⟨s, ws ++ call.touch m :: vs, begun⟩ =
      Traffic.due name before g ⟨s, ws ++ call :: vs, begun⟩ := by
    simp [Traffic.due, Call.touch, Exchange.request_move]
  refine h.carried ⟨_, _, _, _, rfl⟩ h.spares ?_ h.begun h.enabled (hdue ▸ .refl _) fun _ => hdue
  rw [List.forall_mem_append, List.forall_mem_cons]
  exact hwaiting

theorem Sees.touchedBegun (h : Sees first name before g inOrder requests
      ⟨s, waiting, ws ++ call :: vs⟩) (m : Move) :
    Sees first name before g inOrder requests ⟨s, waiting, ws ++ call.touch m :: vs⟩ := by
  have hbegun := h.begun
  rw [List.forall_mem_append, List.forall_mem_cons] at hbegun
  refine h.carried ⟨_, _, _, _, rfl⟩ h.spares h.waiting ?_ h.enabled (.refl _) fun _ => rfl
  rw [List.forall_mem_append, List.forall_mem_cons]
  exact hbegun

theorem Sees.passed (h : Sees first name before g inOrder requests ⟨s, waiting, begun⟩) (now : Nat)
    (closing : Bool) {shared : Shared} (hrecorder : shared.recorder name = s.shared.recorder name)
    (hspares : shared.Spares name) : Sees first name before g inOrder requests
      ⟨{ s with now, closing, shared }, waiting, begun⟩ := by
  have hdue : Traffic.due name before g ⟨{ s with now, closing, shared }, waiting, begun⟩ =
      Traffic.due name before g ⟨s, waiting, begun⟩ := by
    simp [Traffic.due, hrecorder]
  refine h.carried ⟨shared, now, closing, s.log, rfl⟩ hspares h.waiting h.begun ?_
    (hdue ▸ .refl _) fun _ => hdue
  dsimp only
  rw [hrecorder]
  exact h.enabled

theorem Sees.came {is : List Incoming} {i : Incoming} {call : Option Call}
    (h : Sees first name before g inOrder (first.reached is) ⟨s, waiting, begun⟩)
    (hs : s.accept i = (s', call)) :
    Sees first name before g inOrder (first.reached (is ++ [i]))
      ⟨s', waiting ++ call.toList, begun⟩ := by
  obtain ⟨shared, now, closing, hserver⟩ := h.server
  dsimp only at hserver
  have hr : i.request? s.scheme s.port = i.request? first.scheme first.port := by
    rw [hserver]
    rfl
  unfold accept at hs
  rw [hr] at hs
  cases hi : i.request? first.scheme first.port with
  | none =>
    rw [hi] at hs
    cases hs
    have hreached : first.reached (is ++ [i]) = first.reached is := by simp [reached, hi]
    rw [hreached, Option.toList_none, List.append_nil]
    exact h
  | some request =>
    rw [hi] at hs
    cases hs
    have hreached : first.reached (is ++ [i]) = first.reached is ++ [request] := by
      simp [reached, hi]
    rw [hreached]
    exact h.accepted request

/-- **What all traffic keeps up.** -/
theorem Flows.sees {is : List Incoming} {t : Traffic} (placed : Placed name before g behind)
    (hhandler : first.handler = .router ((before ++ g :: behind).map Registration.route))
    (hfirst : first.recorder = .fresh) (hshared : first.shared.Spares name)
    (hfresh : first.shared.recorder name = .fresh) (h : Flows first name inOrder is t) :
    Sees first name before g inOrder (first.reached is) t := by
  induction h with
  | started => exact .started hfirst hshared hfresh
  | came _ hs ih => exact ih.came hs
  | began _ order hs ih => exact ih.began placed hhandler order hs
  | resumed _ hs ih => exact ih.resumed hs
  | touchedWaiting _ _ ih => exact ih.touchedWaiting _
  | touchedBegun _ _ ih => exact ih.touchedBegun _
  | passed _ now closing _ recorder spares ih => exact ih.passed now closing recorder spares

/-- **A recorder in one route sees the requests of this route.** Let the handler of a recorder that
is fresh stand first in the chain of one route and nowhere else, and requests come.

1. When each was dispatched before the next, it holds those requests of the server's recorder that
   go to the route, in order, whatever the rest of the chain did.
2. While calls go on in any way, it holds the same requests but for those whose handlers have not
   begun, and in the same order if the handlers begin in the order of their requests. -/
theorem recorder_sees_route {name : String} {before behind : List Registration} {g : Registration}
    (placed : Placed name before g behind) (secure : Bool) (port : UInt16) {shared : Shared}
    (hfresh : shared.recorder name = .fresh) (hshared : shared.Spares name) :
    let handler : Handler := .router ((before ++ g :: behind).map Registration.route)
    let first := (Server.create handler secure port shared).start
    (∀ is, let s := first.dispatches is
      s.recorder = ⟨first.reached is, true⟩ ∧
      s.shared.recorder name = ⟨s.recorder.queue.filter (g.gets before), true⟩) ∧
    ∀ inOrder is t, Flows first name inOrder is t →
      let own := t.server.shared.recorder name
      let waiting := t.waiting.map (·.job.exchange.request)
      t.server.recorder = ⟨first.reached is, true⟩ ∧ own.enabled = true ∧
      (own.queue ++ waiting.filter (g.gets before)).Perm
        (t.server.recorder.queue.filter (g.gets before)) ∧
      (inOrder → own.queue ++ waiting.filter (g.gets before) =
        t.server.recorder.queue.filter (g.gets before)) := by
  intro handler first
  have hsees (inOrder : Prop) (is : List Incoming) (t : Traffic)
      (h : Flows first name inOrder is t) :
      Sees first name before g inOrder (first.reached is) t :=
    h.sees placed rfl rfl hshared hfresh
  have hrecorder {inOrder : Prop} {requests : List Request} {t : Traffic}
      (h : Sees first name before g inOrder requests t) : t.server.recorder = ⟨requests, true⟩ := by
    obtain ⟨shared', now, closing, hs⟩ := h.server
    rw [hs]
  refine ⟨fun is => ?_, fun inOrder is t h => ?_⟩
  · obtain ⟨begun, flows⟩ := flows_dispatches first name True is
    have h := hsees True is _ flows
    have hqueue : ((first.dispatches is).shared.recorder name).queue =
        (first.reached is).filter (g.gets before) := by
      simpa [Traffic.due] using h.ordered trivial
    refine ⟨hrecorder h, ?_⟩
    rw [hrecorder h, ← hqueue, ← h.enabled]
  · have h := hsees inOrder is t h
    dsimp only
    rw [hrecorder h]
    exact ⟨rfl, h.enabled, h.complete, h.ordered⟩

/-- A request for another route, one with another method, one whose handler breaks off behind the
recorder, and a broken one. -/
theorem one_of_three_seen :
    let other : Registration := ⟨none, .exact "/other", .status 200⟩
    let poll : Registration :=
      ⟨some "get", .exact "/poll", .all [.record "polls", .script (.finish .aborted)]⟩
    let handler : Handler := .router ([other, poll].map Registration.route)
    let incoming (method path : String) : Incoming :=
      .make method path [("Host", Utf8.encode "[::1]")] []
    let request (method path : String) : Request :=
      .make method ⟨"http", some (.ofHost (.ipv6 [0, 0, 0, 0, 0, 0, 0, 1])), path, none, none⟩
        [("Host", "[::1]")] []
    let broken : Incoming := { incoming "GET" "/poll" with body := none }
    let s := (Server.create handler false 80 .fresh).start.dispatches
      [incoming "GET" "/other", incoming "PUT" "/poll", incoming "GET" "/poll", broken]
    s.recorder.queue = [request "GET" "/other", request "PUT" "/poll", request "GET" "/poll"] ∧
    (s.shared.recorder "polls").queue = [request "GET" "/poll"] := by
  intro other poll handler incoming request broken s
  have placed : Placed "polls" [other] poll [] :=
    ⟨⟨[.script (.finish .aborted)], rfl, List.forall_mem_singleton.mpr (.script _)⟩,
      List.forall_mem_singleton.mpr (.script _)⟩
  have hshared : Shared.fresh.Spares "polls" := fun _ _ h => by cases h
  obtain ⟨hdispatches, -⟩ := recorder_sees_route placed false 80 rfl hshared
  generalize hfirst : (Server.create (.router (([other] ++ poll :: []).map Registration.route))
    false 80 .fresh).start = first at hdispatches
  obtain ⟨hall, hown⟩ := hdispatches
    [incoming "GET" "/other", incoming "PUT" "/poll", incoming "GET" "/poll", broken]
  have hs : s = first.dispatches
      [incoming "GET" "/other", incoming "PUT" "/poll", incoming "GET" "/poll", broken] := by
    rw [← hfirst]
    rfl
  have hreached : first.reached
      [incoming "GET" "/other", incoming "PUT" "/poll", incoming "GET" "/poll", broken] =
      [request "GET" "/other", request "PUT" "/poll", request "GET" "/poll"] := by
    rw [← hfirst]
    decide +kernel
  have hother : poll.gets [other] (request "GET" "/other") = false := by decide +kernel
  have hput : poll.gets [other] (request "PUT" "/poll") = false := by decide +kernel
  have hget : poll.gets [other] (request "GET" "/poll") = true := by
    have hskipped : other.takes "/poll" "GET" = false := by decide +kernel
    have hpath : poll.matcher.accepts "/poll" = true := by decide +kernel
    have hmethod : Exchange.sameName "get" "GET" = true :=
      (Text.map_beq_map _ _ _).trans (by decide)
    have htakes : poll.takes "/poll" "GET" = true := by
      rw [Registration.takes, hpath, Option.all_some, hmethod]
      rfl
    have hupper : "GET".map Char.toUpper = "GET" :=
      String.toList_inj.mp (by rw [String.toList_map]; decide)
    simp [Registration.gets, request, Request.make, Request.path, hupper, hskipped, htakes]
  rw [hs, hown, hall, hreached]
  simp [hother, hput, hget]

end Server
end Testbed.Http
