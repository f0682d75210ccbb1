import Testbed.Proofs.Http.Outcome

/-!
# The log of a session

A session with a server: requests come one after another, each answered before the next is sent
(`Session`). A request is answered when its handler has ended or the head of its response was sent.
In the second case its call goes on: it wakes from its waits, and its client takes chunks or leaves,
whenever they do. Time passes, and the state that handlers share may be changed from outside.

**Theorem (`log_wellFormed`).** The log of a session that was closed, however often, begins with the
start of the server and ends with its stop, and has in between for every request that reached the
handler its arrival and directly behind it its completion, in order. The server's recorder holds
these requests, in order, each before its handler starts. A request that is refused leaves no trace.

A call that goes on logs its completion once and touches nothing else that the server keeps
(`advance_spec`). From this each step of a session keeps the log well formed (`WellKept`), and the
calls that are left when the server closes have nothing to log any more (`drain_of_logged`).
-/

namespace Testbed.Http

def Call.touch (call : Call) (m : Move) : Call :=
  { call with job := { call.job with exchange := call.job.exchange.move m } }

namespace Server

variable {s s' : Server} {call : Call}

/-! ## What a call leaves behind -/

/-- What is logged of a request by a call, of which the completion was logged before or not, and is
logged afterwards or not. -/
def Logs (s : Server) (request : Request) : Bool → Bool → List Event → Prop
  | false, true, es => ∃ status outcome,
    es = [.completed s.port request.method request.path status outcome s.now]
  | true, false, _ => False
  | _, _, es => es = []

theorem Logs.of_logged {request : Request} {logged : Bool} {es : List Event}
    (h : s.Logs request true logged es) : logged = true ∧ es = [] := by
  cases logged with
  | true => exact ⟨rfl, h⟩
  | false => exact h.elim

theorem noteHead_spec (s : Server) (logged : Bool) (x : Exchange) :
    ∃ es, (s.noteHead logged x).1 = { s with log := s.log ++ es } ∧
      s.Logs x.request logged (s.noteHead logged x).2 es := by
  cases logged with
  | true => exact ⟨[], by simp [noteHead], by simp [noteHead, Logs]⟩
  | false =>
    cases hd : x.delivered with
    | none => exact ⟨[], by simp [noteHead, hd], by simp [noteHead, hd, Logs]⟩
    | some head =>
      simp only [noteHead, hd, complete, record, Bool.false_eq_true, if_false]
      exact ⟨_, rfl, _, _, rfl⟩

theorem noteEnd_spec (s : Server) (logged : Bool) (x : Exchange) :
    ∃ es, s.noteEnd logged x = { s with log := s.log ++ es } ∧ s.Logs x.request logged true es := by
  obtain ⟨es, hs, hes⟩ := s.noteHead_spec logged x
  rcases hn : s.noteHead logged x with ⟨t, _ | _⟩ <;> rw [hn] at hs hes <;> subst hs
  · cases logged with
    | true => exact hes.elim
    | false =>
      have hnil : es = [] := hes
      subst hnil
      simp only [noteEnd, hn, List.append_nil, complete, record]
      exact ⟨_, rfl, _, _, rfl⟩
  · exact ⟨es, by simp only [noteEnd, hn], hes⟩

/-- **A call that goes on** logs its completion once, and changes nothing else but the state that
handlers share. -/
theorem advance_spec (patience : Patience) (s : Server) (call : Call) :
    ∃ shared es, (s.advance patience call).1 = { s with shared, log := s.log ++ es } ∧
      match (s.advance patience call).2 with
      | .ended _ => s.Logs call.job.exchange.request call.logged true es
      | .waiting next => next.job.exchange.request = call.job.exchange.request ∧
        s.Logs call.job.exchange.request call.logged next.logged es := by
  have hx := call.job.exchange_run patience s.shared
  have hreq := Exchange.request_after call.job.exchange (call.job.trace patience s.shared)
  rw [← hx] at hreq
  unfold advance
  rcases hrun : call.job.run patience s.shared with ⟨shared, job | ⟨ending, x⟩ | job⟩ <;>
    rw [hrun] at hreq
  · refine ⟨shared, [], by simp, hreq, ?_⟩
    cases call.logged <;> rfl
  · obtain ⟨es, hs, hes⟩ := noteEnd_spec { s with shared } call.logged (Job.conclude ending x)
    rw [Exchange.request_conclude, show x.request = _ from hreq] at hes
    exact ⟨shared, es, hs, hes⟩
  · obtain ⟨es, hs, hes⟩ := noteHead_spec { s with shared } call.logged job.exchange
    rw [show job.exchange.request = _ from hreq] at hes
    exact ⟨shared, es, hs, hreq, hes⟩

theorem advance_of_logged (patience : Patience) (s : Server) (h : call.logged = true) :
    ∃ shared, (s.advance patience call).1 = { s with shared } ∧
      ∀ next, (s.advance patience call).2 = .waiting next → next.logged = true := by
  obtain ⟨shared, es, hs, hes⟩ := advance_spec patience s call
  refine ⟨shared, ?_⟩
  rcases hstanding : (s.advance patience call).2 with x | next <;> rw [hstanding, h] at hes
  · have hnil : es = [] := hes
    subst hnil
    exact ⟨by simpa using hs, fun next hnext => by cases hnext⟩
  · obtain ⟨hl, rfl⟩ := hes.2.of_logged
    refine ⟨by simpa using hs, fun next' hnext => ?_⟩
    cases hnext
    exact hl

theorem drain_of_logged {calls : List Call} (h : ∀ call ∈ calls, call.logged = true) (s : Server) :
    ∃ shared, (s.drain calls).1 = { s with shared } := by
  induction calls generalizing s with
  | nil => exact ⟨s.shared, rfl⟩
  | cons call rest ih =>
    rw [List.forall_mem_cons] at h
    have hl : (wake call).logged = true := h.1
    obtain ⟨shared, hs, -⟩ := advance_of_logged .limited s hl
    obtain ⟨shared', hs'⟩ := ih h.2 (s.advance .limited (wake call)).1
    refine ⟨shared', ?_⟩
    show ((s.advance .limited (wake call)).1.drain rest).1 = _
    rw [hs', hs]

/-! ## Sessions -/

/-- Closes a server some times; some calls are going on at first. -/
def closeTimes (calls : List Call) : Nat → Server → Server
  | 0, s => s
  | n + 1, s => closeTimes calls n (s.close calls).1

/-- The calls that are left of one that went on. -/
def Standing.left : Standing → List Call
  | .ended _ => []
  | .waiting call => [call]

/-- A server in a session. -/
structure Session where
  server : Server
  /-- The call of the request that is not answered yet. -/
  pending : Option Call
  /-- The calls that are answered and go on. -/
  answered : List Call

/-- A session after its pending call has gone on to a wait or its end. -/
def Session.settle (server : Server) (answered : List Call) : Standing → Session
  | .ended _ => ⟨server, none, answered⟩
  | .waiting call =>
    if call.logged then ⟨server, none, answered ++ [call]⟩ else ⟨server, some call, answered⟩

/-- The sessions with a server, by the requests that have come. -/
inductive Visited (first : Server) : List Incoming → Session → Prop where
  | started : Visited first [] ⟨first, none, []⟩
  /-- A request comes, and is taken in or refused. -/
  | came {is : List Incoming} {s s' : Server} {calls : List Call} {i : Incoming}
      {pending : Option Call} (visited : Visited first is ⟨s, none, calls⟩)
      (h : s.accept i = (s', pending)) : Visited first (is ++ [i]) ⟨s', pending, calls⟩
  /-- The pending call goes on. -/
  | advanced {is : List Incoming} {s s' : Server} {call : Call} {calls : List Call}
      {patience : Patience} {standing : Standing}
      (visited : Visited first is ⟨s, some call, calls⟩)
      (h : s.advance patience call = (s', standing)) :
      Visited first is (.settle s' calls standing)
  /-- An answered call goes on. -/
  | resumed {is : List Incoming} {s s' : Server} {pending : Option Call} {call : Call}
      {before behind : List Call} {patience : Patience} {standing : Standing}
      (visited : Visited first is ⟨s, pending, before ++ call :: behind⟩)
      (h : s.advance patience call = (s', standing)) :
      Visited first is ⟨s', pending, before ++ (standing.left ++ behind)⟩
  /-- The client of an answered call takes a chunk or leaves. -/
  | touched {is : List Incoming} {s : Server} {pending : Option Call} {call : Call}
      {before behind : List Call} {m : Move}
      (visited : Visited first is ⟨s, pending, before ++ call :: behind⟩)
      (h : m = .receive ∨ m = .leave) :
      Visited first is ⟨s, pending, before ++ call.touch m :: behind⟩
  /-- Time passes, and what handlers share changes. -/
  | passed {is : List Incoming} {s : Server} {pending : Option Call} {calls : List Call}
      (visited : Visited first is ⟨s, pending, calls⟩) (now : Nat) (shared : Shared) :
      Visited first is ⟨{ s with now, shared }, pending, calls⟩

/-! ## What a session keeps -/

/-- What was logged of a request that reached the handler. -/
structure Served where
  request : Request
  arrived : Nat
  status : UInt16
  outcome : Outcome
  completed : Nat

def Served.events (port : UInt16) (r : Served) : List Event :=
  [.received port r.request.method r.request.path r.arrived,
    .completed port r.request.method r.request.path r.status r.outcome r.completed]

/-- The events of some requests, in order. -/
def Tells (port : UInt16) (requests : List Request) (es : List Event) : Prop :=
  ∃ served : List Served, served.map Served.request = requests ∧
    es = served.flatMap (Served.events port)

theorem tells_nil (port : UInt16) : Tells port [] [] := ⟨[], rfl, rfl⟩

theorem Tells.concat {port : UInt16} {requests : List Request} {es : List Event}
    (h : Tells port requests es) (r : Served) :
    Tells port (requests ++ [r.request]) (es ++ r.events port) := by
  obtain ⟨served, rfl, rfl⟩ := h
  exact ⟨served ++ [r], by simp, by simp⟩

def reached (s : Server) (is : List Incoming) : List Request :=
  is.filterMap (·.request? s.scheme s.port)

/-- What a session keeps up, when some requests have reached the handler. -/
structure WellKept (first : Server) (requests : List Request) (σ : Session) : Prop where
  server : ∃ shared now, σ.server =
    { first with recorder := ⟨requests, true⟩, shared, now, log := σ.server.log }
  answered : ∀ call ∈ σ.answered, call.logged = true
  /-- When every request is answered, its completion stands behind its arrival. -/
  idle : σ.pending = none → ∃ es, σ.server.log = first.log ++ es ∧ Tells first.port requests es
  /-- Of a request that is not answered, only the arrival was logged. -/
  busy : ∀ call, σ.pending = some call → call.logged = false ∧ ∃ before es now,
    requests = before ++ [call.job.exchange.request] ∧ Tells first.port before es ∧
    σ.server.log = first.log ++ es ++ [.received first.port call.job.exchange.request.method
      call.job.exchange.request.path now]

variable {first : Server} {requests : List Request} {σ : Session} {pending : Option Call}
  {calls : List Call} {patience : Patience}

theorem WellKept.started (h : first.recorder = .fresh) : WellKept first [] ⟨first, none, []⟩ where
  server := ⟨first.shared, first.now, by
    change first = { first with recorder := .fresh }
    rw [← h]⟩
  answered := by simp
  idle := fun _ => ⟨[], by simp, tells_nil _⟩
  busy := by simp

/-- The server behind a request that is taken in. -/
def taking (s : Server) (request : Request) : Server :=
  { s with
    recorder := s.recorder.record request
    log := s.log ++ [.received s.port request.method request.path s.now] }

theorem WellKept.accepted (h : WellKept first requests ⟨s, none, calls⟩) (request : Request) :
    WellKept first (requests ++ [request]) ⟨s.taking request,
      some ⟨.start s.handler (.start request s.closing), false⟩, calls⟩ := by
  obtain ⟨shared, now, hs⟩ := h.server
  obtain ⟨es, hlog, hes⟩ := h.idle rfl
  dsimp only at hs hlog
  rw [hs]
  refine ⟨⟨shared, now, rfl⟩, h.answered, by simp, fun call hcall => ?_⟩
  cases hcall
  exact ⟨rfl, requests, es, now, rfl, hes, by rw [← hlog]; rfl⟩

theorem WellKept.completed (h : WellKept first requests ⟨s, some call, calls⟩)
    {es : List Event} (hes : s.Logs call.job.exchange.request false true es) (shared : Shared)
    (more : List Call) (hmore : ∀ call ∈ more, call.logged = true) :
    WellKept first requests ⟨{ s with shared, log := s.log ++ es }, none, calls ++ more⟩ := by
  obtain ⟨-, before, es', now', hr, hes', hlog⟩ := h.busy call rfl
  obtain ⟨status, outcome, rfl⟩ := hes
  obtain ⟨shared', now, hs⟩ := h.server
  dsimp only at hs hlog
  refine ⟨⟨shared, now, by rw [hs]⟩, List.forall_mem_append.mpr ⟨h.answered, hmore⟩, ?_, by simp⟩
  intro _
  refine ⟨_, ?_, hr ▸ hes'.concat ⟨call.job.exchange.request, now', status, outcome, now⟩⟩
  rw [hs, hlog]
  simp [Served.events]

theorem WellKept.advanced {standing : Standing}
    (h : WellKept first requests ⟨s, some call, calls⟩)
    (hs : s.advance patience call = (s', standing)) :
    WellKept first requests (.settle s' calls standing) := by
  obtain ⟨hl, before, es, now, hr, htells, hlog⟩ := h.busy call rfl
  obtain ⟨shared, es', hs', hes⟩ := advance_spec patience s call
  rw [hs, hl] at hes
  rw [hs] at hs'
  dsimp only at hs' hlog
  subst hs'
  cases standing with
  | ended x => simpa [Session.settle] using h.completed hes shared [] (by simp)
  | waiting next =>
    obtain ⟨hreq, hes⟩ := hes
    cases hnext : next.logged with
    | true =>
      rw [hnext] at hes
      simpa [Session.settle, hnext] using
        h.completed hes shared [next] (List.forall_mem_singleton.mpr hnext)
    | false =>
      have hnil : es' = [] := by simpa [hnext, Logs] using hes
      obtain ⟨shared', now', hserver⟩ := h.server
      dsimp only at hserver
      simp only [Session.settle, hnext, hnil, List.append_nil, Bool.false_eq_true, if_false]
      refine ⟨⟨shared, now', by rw [hserver]⟩, h.answered, by simp, fun call' hcall => ?_⟩
      cases hcall
      exact ⟨hnext, before, es, now, by rw [hreq, hr], htells, by rw [hreq]; exact hlog⟩

/-- The answered calls change, and with them what handlers share; time passes. -/
theorem WellKept.unlogged {calls' : List Call} (h : WellKept first requests ⟨s, pending, calls⟩)
    (now : Nat) (shared : Shared) (hcalls : ∀ call ∈ calls', call.logged = true) :
    WellKept first requests ⟨{ s with now, shared }, pending, calls'⟩ := by
  obtain ⟨shared', now', hs⟩ := h.server
  dsimp only at hs
  exact ⟨⟨shared, now, by dsimp only; rw [hs]⟩, hcalls, h.idle, h.busy⟩

theorem WellKept.replaced {before behind : List Call}
    (h : WellKept first requests ⟨s, pending, before ++ call :: behind⟩) (shared : Shared)
    (more : List Call) (hmore : call.logged = true → ∀ next ∈ more, next.logged = true) :
    WellKept first requests ⟨{ s with shared }, pending, before ++ (more ++ behind)⟩ := by
  have hcalls := h.answered
  rw [List.forall_mem_append, List.forall_mem_cons] at hcalls
  refine h.unlogged s.now shared ?_
  rw [List.forall_mem_append, List.forall_mem_append]
  exact ⟨hcalls.1, hmore hcalls.2.1, hcalls.2.2⟩

theorem WellKept.resumed {before behind : List Call} {standing : Standing}
    (h : WellKept first requests ⟨s, pending, before ++ call :: behind⟩)
    (hs : s.advance patience call = (s', standing)) :
    WellKept first requests ⟨s', pending, before ++ (standing.left ++ behind)⟩ := by
  have hcall : call.logged = true := h.answered call (by simp)
  obtain ⟨shared, hserver, hnext⟩ := advance_of_logged patience s hcall
  rw [hs] at hserver hnext
  dsimp only at hserver
  subst hserver
  refine h.replaced shared standing.left fun _ => ?_
  cases standing with
  | ended x => simp [Standing.left]
  | waiting next => exact List.forall_mem_singleton.mpr (hnext next rfl)

theorem WellKept.came {is : List Incoming}
    (h : WellKept first (first.reached is) ⟨s, none, calls⟩) (i : Incoming) :
    match i.request? first.scheme first.port with
    | none => s.accept i = (s, none) ∧ first.reached (is ++ [i]) = first.reached is
    | some request =>
      s.accept i = (s.taking request,
        some ⟨.start s.handler (.start request s.closing), false⟩) ∧
      first.reached (is ++ [i]) = first.reached is ++ [request] := by
  obtain ⟨shared, now, hs⟩ := h.server
  have hr : i.request? s.scheme s.port = i.request? first.scheme first.port := by
    dsimp only at hs
    rw [hs]
    rfl
  cases hi : i.request? first.scheme first.port with
  | none => exact ⟨by simp [accept, hr, hi], by simp [reached, hi]⟩
  | some request => exact ⟨by simp [accept, hr, hi, record, taking], by simp [reached, hi]⟩

/-- **What every session keeps up.** -/
theorem Visited.wellKept {is : List Incoming} (hfirst : first.recorder = .fresh)
    (h : Visited first is σ) : WellKept first (first.reached is) σ := by
  induction h with
  | started => exact .started hfirst
  | @came is s s' calls i standing _ hs ih =>
    have hcame := ih.came i
    split at hcame
    · obtain ⟨haccept, hr⟩ := hcame
      cases hs.symm.trans haccept
      rwa [hr]
    · obtain ⟨haccept, hr⟩ := hcame
      cases hs.symm.trans haccept
      rw [hr]
      exact ih.accepted _
  | advanced _ hs ih => exact ih.advanced hs
  | resumed _ hs ih => exact ih.resumed hs
  | @touched is s pending call before behind m _ _ ih =>
    exact ih.replaced s.shared [call.touch m] fun h => List.forall_mem_singleton.mpr h
  | passed _ now shared ih => exact ih.unlogged now shared ih.answered

/-! ## The close -/

theorem WellKept.drained (h : WellKept first requests ⟨s, pending, calls⟩)
    (hends : ∀ call ∈ pending, ∃ x, (s.advance .limited (wake call)).2 = .ended x) :
    WellKept first requests ⟨(s.drain (pending.toList ++ calls)).1, none, []⟩ := by
  cases pending with
  | none =>
    obtain ⟨shared, hs⟩ := drain_of_logged h.answered s
    show WellKept first requests ⟨(s.drain calls).1, none, []⟩
    rw [hs]
    exact h.unlogged s.now shared (by simp)
  | some call =>
    have hwake : WellKept first requests ⟨s, some (wake call), calls⟩ :=
      ⟨h.server, h.answered, by simp, fun _ hcall => by cases hcall; exact h.busy call rfl⟩
    obtain ⟨x, hx⟩ := hends call rfl
    rcases hadvance : s.advance .limited (wake call) with ⟨t, standing⟩
    rw [hadvance] at hx
    cases hx
    obtain ⟨shared, ht⟩ := drain_of_logged h.answered t
    have hdrain : (s.drain (call :: calls)).1 = (t.drain calls).1 := by simp [drain, hadvance]
    show WellKept first requests ⟨(s.drain (call :: calls)).1, none, []⟩
    rw [hdrain, ht]
    exact (hwake.advanced hadvance).unlogged t.now shared (by simp)

theorem closeTimes_of_closing (h : s.closing = true) (calls : List Call) (n : Nat) :
    closeTimes calls n s = s := by
  induction n with
  | zero => rfl
  | succ n ih => simp [closeTimes, close, h, ih]

theorem closeTimes_succ {calls : List Call} (h : s.closing = false)
    (hdrain : (s.beginClose.drain calls).1.closing = true) (n : Nat) :
    closeTimes calls (n + 1) s = (s.beginClose.drain calls).1.record (.lifecycle .serverStopped
      (s.beginClose.drain calls).1.port (s.beginClose.drain calls).1.now) := by
  have hclose : (s.close calls).1 = (s.beginClose.drain calls).1.record (.lifecycle .serverStopped
      (s.beginClose.drain calls).1.port (s.beginClose.drain calls).1.now) := by
    simp [close, h]
  rw [closeTimes, hclose]
  exact closeTimes_of_closing (by exact hdrain) calls n

/-- **The log of a session is well formed.** Whenever a session has come so far, the server's
recorder holds the requests that have reached the handler. If all are answered, then the next one is
refused without a trace, or recorded and logged before its handler starts. Closes, one or more,
leave a log of the start, then of the arrival and the completion of each of these requests, then of
the stop. The headers of every head are taken to fit the header map: where they do not, building the
response breaks off, and the request is not answered (`Server.advance?`). -/
theorem log_wellFormed (handler : Handler) (secure : Bool) (port : UInt16) (shared : Shared)
    (is : List Incoming) (s : Server) (pending : Option Call) (calls : List Call)
    (visited : Visited (Server.create handler secure port shared).start is ⟨s, pending, calls⟩) :
    let first := (Server.create handler secure port shared).start
    s.recorder.queue = first.reached is ∧
    (pending = none → ∀ i : Incoming,
      (match i.request? first.scheme first.port with
      | none => s.accept i = (s, none) ∧ s.dispatch i = (s, some (.ofStatus 400)) ∧
        first.reached (is ++ [i]) = first.reached is
      | some request => ∃ t, s.accept i =
          (t, some ⟨.start handler (.start request false), false⟩) ∧
        t.recorder.queue = first.reached is ++ [request] ∧
        t.log = s.log ++ [.received port request.method request.path s.now] ∧
        first.reached (is ++ [i]) = first.reached is ++ [request]) ∧
      ∀ s' response, s.dispatch i = (s', some response) →
        Visited first (is ++ [i]) ⟨s', none, calls⟩) ∧
    ((∀ call ∈ pending, ∃ x, (s.beginClose.advance .limited (wake call)).2 = .ended x) →
      ∀ n, let t := closeTimes (pending.toList ++ calls) (n + 1) s
        t.recorder.queue = first.reached is ∧ ∃ es, Tells port (first.reached is) es ∧
          t.log = [.lifecycle .serverStarted port 0] ++ es ++
            [.lifecycle .serverStopped port t.now]) := by
  intro first
  have h : WellKept first (first.reached is) ⟨s, pending, calls⟩ := visited.wellKept rfl
  obtain ⟨shared', now, hs⟩ := h.server
  dsimp only at hs
  refine ⟨by rw [hs], fun hnone i => ?_, fun hends n => ?_⟩
  · subst hnone
    refine ⟨?_, fun s' response hdispatch => ?_⟩
    · have hcame := h.came i
      cases hi : i.request? first.scheme first.port with
      | none =>
        obtain ⟨haccept, hr⟩ := hi ▸ hcame
        exact ⟨haccept, by simp [dispatch, haccept, refusal], hr⟩
      | some request =>
        obtain ⟨haccept, hr⟩ := hi ▸ hcame
        refine ⟨s.taking request, haccept.trans ?_, ?_, ?_, hr⟩ <;> rw [hs] <;> rfl
    · unfold dispatch at hdispatch
      rcases haccept : s.accept i with ⟨t, _ | call⟩ <;> rw [haccept] at hdispatch
      · cases hdispatch
        exact .came visited haccept
      · rcases hadvance : t.advance .limited call with ⟨t', x | next⟩ <;>
          simp only [hadvance] at hdispatch
        · cases hdispatch
          exact .advanced (.came visited haccept) hadvance
        · cases hdispatch
  · -- The calls that are left end in a server that closes, so the invariant is taken over to one.
    have hclosing : WellKept first.beginClose (first.reached is) ⟨s.beginClose, pending, calls⟩ :=
      ⟨⟨shared', now, congrArg beginClose hs⟩, h.answered, h.idle, h.busy⟩
    have hdrained := hclosing.drained hends
    obtain ⟨es, hlog, hes⟩ := hdrained.idle rfl
    obtain ⟨shared'', now', ht⟩ := hdrained.server
    dsimp only at hlog ht
    have hclose : s.closing = false := by rw [hs]; rfl
    have hdrain : (s.beginClose.drain (pending.toList ++ calls)).1.closing = true := by rw [ht]; rfl
    rw [closeTimes_succ hclose hdrain n]
    refine ⟨by simp only [record]; rw [ht], es, hes, ?_⟩
    simp only [record, hlog]
    rw [ht]
    rfl

/-- A stream that waits for the close, a broken request, and a handler that breaks off. -/
theorem log_of_abort_behind_stream :
    let rest : Script := .call (.wait none) fun _ => .finish .done
    let stream : Script := .call .setChunked fun _ => .call (.write [97]) fun _ => rest
    let handler : Handler := .sequential 0 [.script stream, .script (.finish .aborted)]
    let first := (Server.create handler false 80 .fresh).start
    let incoming : Incoming := .make "GET" "/x" [("Host", Utf8.encode "[::1]")] []
    let broken : Incoming := { incoming with body := none }
    let request : Request :=
      .make "GET" ⟨"http", some (.ofHost (.ipv6 [0, 0, 0, 0, 0, 0, 0, 1])), "/x", none, none⟩
        [("Host", "[::1]")] []
    let waiting : Call := ⟨⟨{ Exchange.start request false with
      chunked := true
      headPending := false
      receiving := false
      delivered := some ⟨200, [], .stream⟩
      underway := [[97]] }, [.script rest]⟩, true⟩
    let received : Event := .received 80 request.method request.path 0
    let s : Server := { first with
      recorder := ⟨[request, request], true⟩
      shared := ⟨[(0, 2)], [], []⟩
      log := [.lifecycle .serverStarted 80 0,
        received, .completed 80 request.method request.path 200 .responded 0,
        received, .completed 80 request.method request.path 500 .handlerAborted 0] }
    Visited first [incoming, broken, incoming] ⟨s, none, [waiting]⟩ ∧
    s.recorder.queue = first.reached [incoming, broken, incoming] ∧
    ∃ es, Tells 80 [request, request] es ∧
      (closeTimes [waiting] 2 s).log = s.log ++ [.lifecycle .serverStopped 80 0] ∧
      s.log = .lifecycle .serverStarted 80 0 :: es := by
  intro rest stream handler first incoming broken request waiting received s
  have hrequest : incoming.request? first.scheme first.port = some request := by decide +kernel
  let s₁ : Server := { first with
    recorder := ⟨[request], true⟩
    shared := ⟨[(0, 1)], [], []⟩
    log := s.log.take 3 }
  have haccept {is : List Incoming} {s : Server} {calls : List Call}
      (h : Visited first is ⟨s, none, calls⟩) : s.accept incoming =
        (s.taking request, some ⟨.start s.handler (.start request s.closing), false⟩) := by
    have hcame := (h.wellKept rfl).came incoming
    rw [hrequest] at hcame
    exact hcame.1
  have hstream : (first.taking request).advance (.below ⟨0⟩)
      ⟨.start handler (.start request false), false⟩ = (s₁, .waiting waiting) := rfl
  have hfirst : Visited first [incoming] ⟨s₁, none, [waiting]⟩ :=
    .advanced (.came .started (haccept .started)) hstream
  have hbroken : Visited first [incoming, broken] ⟨s₁, none, [waiting]⟩ := .came hfirst rfl
  have habort : (s₁.taking request).advance .limited
      ⟨.start handler (.start request false), false⟩ =
        (s, .ended (Exchange.start request false).abandon) := rfl
  have hlast : Visited first [incoming, broken, incoming] ⟨s, none, [waiting]⟩ :=
    .advanced (.came hbroken (haccept hbroken)) habort
  obtain ⟨hqueue, -, hclosed⟩ := log_wellFormed handler false 80 .fresh _ _ _ _ hlast
  obtain ⟨-, es, htells, hlog⟩ := hclosed (by simp) 1
  rw [← hqueue] at htells
  exact ⟨hlast, hqueue, es, htells, rfl, List.append_inj_left' hlog rfl⟩

end Server
end Testbed.Http
