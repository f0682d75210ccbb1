import Testbed.Proofs.Http.Delivery
import Testbed.Proofs.Http.Stopping

/-!
# How requests are answered

A request that is taken in goes on as a call: it carries out operations up to a wait, goes on from
there when the wait is over, and ends. In between the client takes chunks and the server begins to
close (`Life`).

**Theorem (`dispatch_answers`).** What the handler did and how it ended decide the answer. If it has
written to a streamed response, the head is the one of the first such write, however it ended. If it
has not, the head is the pending one when it ended well, the bare status of its failure when it
failed, and none when it broke off (`decision`). The completion of the request is logged once, as
aborted if and only if there is no head (`verdict`). A head with more headers than a header map can
hold is not answered (`Capacity.Holds`).

That handlers come to an end, or to a wait, is a matter of runs (`Job.run_stops`, `Job.run_script`).
The rest of the proof is in two parts. What becomes of an exchange under the operations of a run is a matter of
its course (`conclude_run`). Along the life of a call, nothing is logged of it but its head
(`Noted`), and a head that was sent stays.
-/

namespace Testbed.Http

/-! ## What decides the answer -/

/-- The head that answers a request, by what the handler did and how it ended. -/
def decision (ms : List Move) (ending : Ending) : Option Head :=
  if Move.streamed ms ≠ [] then some (Move.streamHead ms)
  else match ending with
    | .done => some ⟨Move.statusSet ms, Move.headersSet ms,
        if .op .setChunked ∈ ms then .stream else .full (Move.written ms).flatten⟩
    | .failed reason => some ⟨reason.status, [], .full []⟩
    | .aborted => none

/-- The answer to a request. -/
def answer (ms : List Move) (ending : Ending) : Response :=
  match decision ms ending with
  | some head => .ofHead head ((Move.streamed ms).filter (!·.isEmpty))
  | none => .ofStatus 500

/-- The status and the outcome that are logged for a request. -/
def verdict (ms : List Move) (ending : Ending) : UInt16 × Outcome :=
  match decision ms ending with
  | some head => (head.status, .responded)
  | none => (500, .handlerAborted)

variable {ms : List Move} {ending : Ending}

theorem decision_of_streamed (h : Move.streamed ms ≠ []) (ending : Ending) :
    decision ms ending = some (Move.streamHead ms) := if_pos h

theorem decision_eq_none_iff :
    decision ms ending = none ↔ Move.streamed ms = [] ∧ ending = .aborted := by
  unfold decision
  by_cases h : Move.streamed ms = []
  · cases ending <;> simp [h]
  · simp [h]

theorem outcome_verdict_iff :
    (verdict ms ending).2 = .handlerAborted ↔ Move.streamed ms = [] ∧ ending = .aborted := by
  rw [← decision_eq_none_iff]
  cases h : decision ms ending <;> simp [verdict, h]

/-! ## What becomes of an exchange -/

namespace Exchange

variable {x : Exchange} {head : Head}

theorem request_conclude (ending : Ending) (x : Exchange) :
    (Job.conclude ending x).request = x.request := by
  cases ending with
  | done => exact (commit_frame x).1
  | failed reason => exact (commit_frame _).1.trans (request_move x (.fail reason.status))
  | aborted => rfl

/-- A head that was sent stays. -/
theorem delivered_stays (h : x.Open ∨ x.Streaming) (hd : x.delivered = some head)
    (ns : List Move) : (x.after ns).delivered = some head ∧
      ∀ ending, (Job.conclude ending (x.after ns)).delivered = some head := by
  rcases h with ho | hs
  · rw [ho.delivered] at hd
    cases hd
  · obtain ⟨hs', hd'⟩ := hs.after ns
    refine ⟨hd'.trans hd, fun ending => ?_⟩
    rw [hs'.conclude]
    exact hd'.trans hd

/-- The end of an exchange of which nothing was sent. -/
theorem Open.conclude (h : x.Open) (hl : x.listening = true) (ending : Ending) :
    (Job.conclude ending x).delivered = (match ending with
      | .done => some x.pendingHead
      | .failed reason => some ⟨reason.status, [], .full []⟩
      | .aborted => none) ∧ (Job.conclude ending x).underway = [] := by
  cases ending with
  | done => exact ⟨delivered_commit h.headPending hl, (commit_frame x).2.2.trans h.underway⟩
  | failed reason =>
    have hf : x.fail reason.status =
        { x with status := reason.status, headers := [], buffer := [], chunked := false } := by
      simp [fail, h.isCommitted]
    show (x.fail reason.status).commit.2.delivered = _ ∧
      (x.fail reason.status).commit.2.underway = []
    rw [hf, (commit_frame _).2.2]
    exact ⟨delivered_commit h.headPending hl, h.underway⟩
  | aborted => exact ⟨h.delivered, h.underway⟩

end Exchange

/-- **The moves and the ending decide.** -/
theorem conclude_run (request : Request) (closing : Bool) (hms : ∀ m ∈ ms, m.isSteady = true)
    (ending : Ending) :
    let c := (Course.start request closing).run ms
    let x := Job.conclude ending c.exchange
    x.delivered = decision ms ending ∧
      c.received ++ x.underway = (Move.streamed ms).filter (!·.isEmpty) ∧ x.sending = false := by
  intro c x
  have hsending : x.sending = false := by cases ending <;> rfl
  rcases Course.collecting_or_sending request closing hms with h | h
  · obtain ⟨hd, hu⟩ := h.exchange.conclude h.listening ending
    refine ⟨hd.trans ?_, ?_, hsending⟩
    · unfold decision
      rw [if_neg (not_not_intro h.streamed), h.pendingHead]
    · rw [h.received, h.streamed]
      exact hu
  · have hx : x = _ := h.exchange.conclude ending
    rw [hx, decision_of_streamed h.streamed]
    exact ⟨h.delivered, h.chunks, rfl⟩

namespace Server

variable {s s' : Server} {first call : Call} {taken : List Bytes} {es : List Event}
  {request : Request} {closing : Bool} {patience : Patience}

/-! ## What is logged of a call -/

/-- The life of a call, up to one of its waits: what was done, the chunks that the client has taken,
and what was logged. -/
inductive Life (first : Call) : List Move → List Bytes → List Event → Call → Prop where
  | accepted : Life first [] [] [] first
  /-- It goes on to the next wait. -/
  | advanced {ms : List Move} {taken : List Bytes} {es : List Event} {call next : Call}
      {s s' : Server} {patience : Patience} (life : Life first ms taken es call)
      (h : s.advance patience call = (s', .waiting next)) :
      Life first (ms ++ call.job.trace patience s.shared) taken (es ++ s'.log.drop s.log.length)
        next
  /-- The client takes a chunk. -/
  | took {ms : List Move} {taken : List Bytes} {es : List Event} {call : Call} {chunk : Bytes}
      {x : Exchange} (life : Life first ms taken es call)
      (h : call.job.exchange.receive? = some (chunk, x)) :
      Life first (ms ++ [.receive]) (taken ++ [chunk]) es ⟨⟨x, call.job.tasks⟩, call.logged⟩
  /-- It learns that the server is closing. -/
  | woken {ms : List Move} {taken : List Bytes} {es : List Event} {call : Call}
      (life : Life first ms taken es call) : Life first (ms ++ [.close]) taken es (wake call)

/-- The exchange of a call is the one after its moves, and at most its head is logged. -/
structure Noted (request : Request) (closing : Bool) (ms : List Move) (taken : List Bytes)
    (es : List Event) (call : Call) : Prop where
  steady : ∀ m ∈ ms, m.isSteady = true
  exchange : ((Course.start request closing).run ms).exchange = call.job.exchange
  received : ((Course.start request closing).run ms).received = taken
  unlogged : call.logged = false → es = []
  logged : call.logged = true → ∃ head port now, call.job.exchange.delivered = some head ∧
    es = [.completed port request.method request.path head.status .responded now]

theorem noted_start (handler : Handler) (request : Request) (closing : Bool) :
    Noted request closing [] [] [] ⟨.start handler (.start request closing), false⟩ where
  steady := by simp
  exchange := rfl
  received := rfl
  unlogged := fun _ => rfl
  logged := by simp

theorem Noted.request_eq (h : Noted request closing ms taken es call) :
    call.job.exchange.request = request := by
  rw [← h.exchange, Course.exchange_run, Exchange.request_after]
  rfl

theorem Noted.open_or_streaming (h : Noted request closing ms taken es call) :
    call.job.exchange.Open ∨ call.job.exchange.Streaming := by
  rw [← h.exchange, Course.exchange_run]
  exact (Exchange.open_start request closing).after ms

/-- More moves, of which nothing is logged. -/
theorem Noted.moved (h : Noted request closing ms taken es call) {job : Job} {ns : List Move}
    (chunks : List Bytes) (hns : ∀ m ∈ ns, m.isSteady = true)
    (hjob : job.exchange = call.job.exchange.after ns)
    (hchunks : (((Course.start request closing).run ms).run ns).received = taken ++ chunks) :
    Noted request closing (ms ++ ns) (taken ++ chunks) es ⟨job, call.logged⟩ where
  steady := List.forall_mem_append.mpr ⟨h.steady, hns⟩
  exchange := by rw [Course.run_append, Course.exchange_run, h.exchange, hjob]
  received := by rw [Course.run_append, hchunks]
  unlogged := h.unlogged
  logged := by
    intro hl
    obtain ⟨head, port, now, hd, he⟩ := h.logged hl
    refine ⟨head, port, now, ?_, he⟩
    show job.exchange.delivered = some head
    rw [hjob]
    exact (Exchange.delivered_stays h.open_or_streaming hd ns).1

theorem steady_trace (patience : Patience) (shared : Shared) (job : Job) :
    ∀ m ∈ job.trace patience shared, m.isSteady = true := by
  intro m hm
  obtain ⟨op, rfl⟩ := Job.eq_op_of_mem_trace hm
  rfl

/-- No run takes a chunk. -/
theorem received_run_trace (c : Course) (patience : Patience) (shared : Shared) (job : Job) :
    (c.run (job.trace patience shared)).received = c.received := by
  refine Course.received_run (fun hm => ?_) c
  obtain ⟨op, h⟩ := Job.eq_op_of_mem_trace hm
  cases h

/-- The head is logged once. -/
theorem Noted.noteHead (h : Noted request closing ms taken es call) (s : Server) :
    Noted request closing ms taken
      (es ++ (s.noteHead call.logged call.job.exchange).1.log.drop s.log.length)
      ⟨call.job, (s.noteHead call.logged call.job.exchange).2⟩ := by
  have hr := h.request_eq
  obtain ⟨job, logged⟩ := call
  cases logged with
  | true => simpa [Server.noteHead] using h
  | false =>
    cases hd : job.exchange.delivered with
    | none => simpa [Server.noteHead, hd] using h
    | some head =>
      simp only [Server.noteHead, hd, h.unlogged, complete, record, List.drop_left, List.nil_append,
        Bool.false_eq_true, if_false]
      exact { h with
        unlogged := fun hl => by cases hl
        logged := fun _ => ⟨head, s.port, s.now, hd, by rw [hr]⟩ }

theorem Noted.advance (h : Noted request closing ms taken es call) {next : Call}
    (hs : s.advance patience call = (s', .waiting next)) :
    Noted request closing (ms ++ call.job.trace patience s.shared) taken
      (es ++ s'.log.drop s.log.length) next := by
  have hx := call.job.exchange_run patience s.shared
  have hmoved {job : Job} (hjob : job.exchange = _) :=
    h.moved [] (steady_trace patience s.shared call.job) hjob (by
      rw [received_run_trace, h.received, List.append_nil])
  rw [List.append_nil] at hmoved
  unfold Server.advance at hs
  rcases hrun : call.job.run patience s.shared with ⟨shared, job | ⟨ending, x⟩ | job⟩ <;>
    rw [hrun] at hs hx
  · cases hs
    simpa using hmoved hx
  · cases hs
  · cases hs
    exact (hmoved hx).noteHead { s with shared }

theorem Noted.took (h : Noted request closing ms taken es call) {chunk : Bytes} {x : Exchange}
    (hx : call.job.exchange.receive? = some (chunk, x)) :
    Noted request closing (ms ++ [.receive]) (taken ++ [chunk]) es
      ⟨⟨x, call.job.tasks⟩, call.logged⟩ := by
  refine h.moved [chunk] (List.forall_mem_singleton.mpr rfl) ?_ ?_
  · simp [Exchange.move, hx]
  · show _ ++ Exchange.handed _ .receive = _
    rw [h.received, h.exchange]
    simp [Exchange.handed, hx]

theorem Noted.woken (h : Noted request closing ms taken es call) :
    Noted request closing (ms ++ [.close]) taken es (wake call) := by
  have hclose : (wake call).job.exchange = call.job.exchange.after [.close] := rfl
  have := h.moved [] (List.forall_mem_singleton.mpr rfl) hclose (by
    rw [Course.received_run (by simp), h.received, List.append_nil])
  rwa [List.append_nil] at this

/-- **A call is what it has done**, as long as it lives. -/
theorem Life.noted {handler : Handler}
    (life : Life ⟨.start handler (.start request closing), false⟩ ms taken es call) :
    Noted request closing ms taken es call := by
  induction life with
  | accepted => exact noted_start handler request closing
  | advanced _ h ih => exact ih.advance h
  | took _ h ih => exact ih.took h
  | woken _ ih => exact ih.woken

/-! ## The answer -/

theorem ofExchange_eq_answer {x : Exchange} (hd : x.delivered = decision ms ending)
    (hu : x.underway = (Move.streamed ms).filter (!·.isEmpty)) :
    Response.ofExchange x = answer ms ending := by
  unfold answer
  cases h : decision ms ending <;> simp [Response.ofExchange, hd, h, hu]

/-- The completion of a call of which nothing was logged. -/
theorem noteEnd_of_unlogged {x : Exchange} (hd : x.delivered = decision ms ending) (s : Server) :
    s.noteEnd false x = s.complete x.request (verdict ms ending).1 (verdict ms ending).2 := by
  unfold verdict
  rw [← hd]
  cases hx : x.delivered <;> simp [noteEnd, noteHead, hx]

/-- What becomes of a call that goes on to its end. -/
theorem Noted.conclude (h : Noted request closing ms taken es call) {shared shared' : Shared}
    {x : Exchange} (hrun : call.job.run patience shared = (shared', .ended ending x)) :
    let ns := ms ++ call.job.trace patience shared
    let y := Job.conclude ending x
    y.delivered = decision ns ending ∧
      taken ++ y.underway = (Move.streamed ns).filter (!·.isEmpty) ∧ y.sending = false ∧
      y.request = request ∧ ∀ head, call.job.exchange.delivered = some head →
        y.delivered = some head := by
  intro ns y
  have hx : x = call.job.exchange.after (call.job.trace patience shared) := by
    rw [← Job.exchange_run, hrun]
    rfl
  have hsteady : ∀ m ∈ ns, m.isSteady = true :=
    List.forall_mem_append.mpr ⟨h.steady, steady_trace patience shared call.job⟩
  have hexchange : ((Course.start request closing).run ns).exchange = x := by
    rw [Course.run_append, Course.exchange_run, h.exchange, hx]
  have hreceived : ((Course.start request closing).run ns).received = taken := by
    rw [Course.run_append, received_run_trace, h.received]
  obtain ⟨hd, hu, hs⟩ := conclude_run request closing hsteady ending
  rw [hexchange] at hd hu hs
  rw [hreceived] at hu
  refine ⟨hd, hu, hs, ?_, fun head hhead => ?_⟩
  · rw [Exchange.request_conclude, hx, Exchange.request_after, h.request_eq]
  · show (Job.conclude ending x).delivered = some head
    rw [hx]
    exact (Exchange.delivered_stays h.open_or_streaming hhead _).2 ending

/-- The completion of a call is logged once. -/
theorem Noted.noteEnd (h : Noted request closing ms taken es call) {shared shared' : Shared}
    {x : Exchange} (hrun : call.job.run patience shared = (shared', .ended ending x)) (s : Server) :
    let verdict := Http.verdict (ms ++ call.job.trace patience shared) ending
    ∃ port now, es ++ (s.noteEnd call.logged (Job.conclude ending x)).log.drop s.log.length =
      [.completed port request.method request.path verdict.1 verdict.2 now] := by
  intro verdict
  obtain ⟨hd, -, -, hr, hstays⟩ := h.conclude hrun
  cases hl : call.logged with
  | true =>
    obtain ⟨head, port, now, hhead, he⟩ := h.logged hl
    have hv : verdict = (head.status, .responded) := by
      show Http.verdict _ ending = _
      unfold Http.verdict
      rw [← hd, hstays head hhead]
    refine ⟨port, now, ?_⟩
    simp [Server.noteEnd, Server.noteHead, he, hv]
  | false =>
    refine ⟨s.port, s.now, ?_⟩
    rw [noteEnd_of_unlogged hd, h.unlogged hl, complete, record, List.drop_left, hr]
    rfl

/-- A header map can hold the headers of a head, if there is one. -/
def Capacity.Holds (capacity : Capacity) (head : Option Head) : Prop :=
  ∀ h, head = some h → capacity (Response.headersOf h.headers) = true

theorem Capacity.all_admits_iff {capacity : Capacity} {head : Option Head} :
    head.all capacity.admits = true ↔ capacity.Holds head :=
  Option.all_eq_true _ _

theorem advance?_of_run (capacity : Capacity) (s : Server) {shared : Shared} {x : Exchange}
    {head : Option Head} (hrun : call.job.run patience s.shared = (shared, .ended ending x))
    (hhead : (Job.conclude ending x).delivered = head) :
    (¬capacity.Holds head → s.advance? capacity patience call = none) ∧
    (capacity.Holds head → s.advance? capacity patience call =
      some ({ s with shared }.noteEnd call.logged (Job.conclude ending x),
        .ended (Job.conclude ending x))) := by
  rw [← Capacity.all_admits_iff, ← hhead]
  simp only [advance?, Server.advance, hrun]
  exact ⟨fun hlarge => if_neg hlarge, fun hfits => if_pos hfits⟩

/-- **How a request is answered.** Let a request be taken in, and let its job be at any point.

1. A job of a single script ends as the script does, and its operations are those of the script.
2. Whatever handlers a job is put together from, its run ends, or stops at a wait that is neither
   over nor run out, unless a switcher reaches itself.
3. When the handler has ended, what it has done and how it ended decide the head, the chunks, and
   the status and outcome of the completion that is logged. A head with more headers than a header
   map can hold is not answered.
4. So it is however often the handler waits and whatever the client takes in between; one completion
   is logged.
5. The outcome is that the handler aborted if and only if it broke off and has written nothing to a
   streamed response. -/
theorem dispatch_answers (capacity : Capacity) (s : Server) (incoming : Incoming)
    (request : Request) (hrequest : incoming.request? s.scheme s.port = some request) :
    let first : Call := ⟨.start s.handler (.start request s.closing), false⟩
    let received : Event := .received s.port request.method request.path s.now
    (s.accept incoming = ({ s with
      recorder := s.recorder.record request
      log := s.log ++ [received] }, some first)) ∧
    (∀ (patience : Patience) (shared : Shared) (x : Exchange) (script : Script) ending y,
      script.play patience x = (.ended ending, y) →
        Job.run patience shared ⟨x, [.script script]⟩ = (shared, .ended ending y) ∧
        Job.trace patience shared ⟨x, [.script script]⟩ = script.trace patience x) ∧
    (∀ (patience : Patience) (shared : Shared) (layer : String → Nat) (job : Job),
      shared.Layered layer →
        (∃ ending x, (job.run patience shared).2 = .ended ending x) ∨
        ∃ x limit next rest,
          (job.run patience shared).2 = .waiting ⟨x, .script (.call (.wait limit) next) :: rest⟩ ∧
          patience.runsOut limit = false ∧ x.isClosed = false) ∧
    (∀ shared ending x, first.job.run .limited s.shared = (shared, .ended ending x) →
      let ms := first.job.trace .limited s.shared
      let verdict := verdict ms ending
      (¬capacity.Holds (decision ms ending) → s.dispatch? capacity incoming = none) ∧
      (capacity.Holds (decision ms ending) → s.dispatch? capacity incoming =
        some ({ s with
          recorder := s.recorder.record request
          shared := shared
          log := s.log ++ [received,
            .completed s.port request.method request.path verdict.1 verdict.2 s.now] },
          some (answer ms ending)))) ∧
    (∀ ms taken es call, Life first ms taken es call → ∀ (t : Server) patience shared ending x,
      call.job.run patience t.shared = (shared, .ended ending x) →
      let ns := ms ++ call.job.trace patience t.shared
      let verdict := verdict ns ending
      (¬capacity.Holds (decision ns ending) → t.advance? capacity patience call = none) ∧
      (capacity.Holds (decision ns ending) →
        ∃ t' y, t.advance? capacity patience call = some (t', .ended y) ∧
          y.delivered = decision ns ending ∧
          taken ++ y.underway = (Move.streamed ns).filter (!·.isEmpty) ∧ y.sending = false ∧
          (taken = [] → Response.ofExchange y = answer ns ending) ∧
          ∃ port now, es ++ t'.log.drop t.log.length =
            [.completed port request.method request.path verdict.1 verdict.2 now])) ∧
    ∀ ms ending, (verdict ms ending).2 = .handlerAborted ↔
      Move.streamed ms = [] ∧ ending = .aborted := by
  intro first received
  have haccept : s.accept incoming = ({ s with
      recorder := s.recorder.record request
      log := s.log ++ [received] }, some first) := by
    simp only [accept, hrequest]
    rfl
  refine ⟨haccept, ?_, ?_, ?_, ?_, fun ms ending => outcome_verdict_iff⟩
  · intro patience shared x script ending y hplay
    exact ⟨Job.run_script hplay shared, Job.trace_script patience shared x script⟩
  · intro patience shared layer job hlayered
    obtain hended | ⟨⟨x, tasks⟩, hrun, limit, next, rest, rfl, hruns, hclosed⟩ :=
      Job.run_stops hlayered patience job
    · exact .inl hended
    · exact .inr ⟨x, limit, next, rest, hrun, hruns, hclosed⟩
  · intro shared ending x hrun ms verdict
    obtain ⟨hd, hu, -, hr, -⟩ := (noted_start s.handler request s.closing).conclude hrun
    have hadvance := advance?_of_run capacity { s with
      recorder := s.recorder.record request
      log := s.log ++ [received] } hrun hd
    constructor
    · intro hlarge
      simp only [dispatch?, haccept, hadvance.1 hlarge]
    · intro hfits
      simp only [dispatch?, haccept, hadvance.2 hfits]
      rw [noteEnd_of_unlogged hd, hr, ofExchange_eq_answer hd hu]
      simp only [complete, record, List.append_assoc, List.cons_append, List.nil_append]
      rfl
  · intro ms taken es call life t patience shared ending x hrun ns verdict
    have h := life.noted
    obtain ⟨hd, hu, hs, -, -⟩ := h.conclude hrun
    have hadvance := advance?_of_run capacity t hrun hd
    refine ⟨hadvance.1, fun hfits => ?_⟩
    refine ⟨{ t with shared }.noteEnd call.logged (Job.conclude ending x), Job.conclude ending x,
      hadvance.2 hfits, hd, hu, hs, fun ht => ?_, h.noteEnd hrun { t with shared }⟩
    rw [ht] at hu
    exact ofExchange_eq_answer hd hu

/-- A handler that writes a chunk, waits, sets a status and breaks off. Whether the wait runs out of
time, or ends with the close of the server when the client has taken the chunk, makes no
difference. -/
theorem abort_behind_chunk :
    let rest : Script := .call (.wait (some (.ofSecs 1))) fun _ =>
      .call (.setStatus 404) fun _ => .finish .aborted
    let script : Script := .call .setChunked fun _ => .call (.write [97]) fun _ => rest
    let s : Server := .create (.script script) false 80 .fresh
    let capacity : Capacity := fun headers =>
      decide ((headers.map Prod.fst).eraseDups.length ≤ 24576)
    let incoming : Incoming := .make "GET" "/x" [("Host", Utf8.encode "[::1]")] []
    let request : Request :=
      .make "GET" ⟨"http", some (.ofHost (.ipv6 [0, 0, 0, 0, 0, 0, 0, 1])), "/x", none, none⟩
        [("Host", "[::1]")] []
    let first : Call := ⟨.start s.handler (.start request false), false⟩
    let x : Exchange := { Exchange.start request false with
      chunked := true
      headPending := false
      receiving := false
      delivered := some ⟨200, [], .stream⟩ }
    let woken : Call := wake ⟨⟨x, [.script rest]⟩, true⟩
    let completed : Event := .completed 80 request.method "/x" 200 .responded 0
    (∃ t, s.dispatch? capacity incoming = some (t, some ⟨200, [], .chunks [[97]]⟩) ∧
      t.log = [.received 80 request.method "/x" 0, completed]) ∧
    ((∃ ending y, (first.job.run .limited .fresh).2 = .ended ending y) ∨
      ∃ y limit next rest,
        (first.job.run .limited .fresh).2 =
          .waiting ⟨y, .script (.call (.wait limit) next) :: rest⟩ ∧
        Patience.limited.runsOut limit = false ∧ y.isClosed = false) ∧
    Life first [.op .setChunked, .op (.write [97]), .receive, .close] [[97]] [completed] woken ∧
    ∃ t y, s.advance? capacity .limited woken = some (t, .ended y) ∧ t.log = [] ∧
      y.delivered = some ⟨200, [], .stream⟩ ∧ y.underway = [] ∧ y.sending = false := by
  intro rest script s capacity incoming request first x woken completed
  have hall := dispatch_answers capacity s incoming request (by decide +kernel)
  have hrun := (hall.2.1 .limited .fresh (.start request false) script .aborted _ rfl).1
  have hfits (head : Head) (hhead : head.headers = []) : capacity.Holds (some head) := by
    rintro _ ⟨⟩
    rw [hhead]
    decide
  have hdispatch := (hall.2.2.2.1 _ _ _ hrun).2 (hfits ⟨200, [], .stream⟩ rfl)
  have hstops := hall.2.2.1 .limited .fresh _ first.job Shared.layered_fresh
  have hwait : s.advance (.below ⟨0⟩) first =
      (s.record completed, .waiting ⟨⟨{ x with underway := [[97]] }, [.script rest]⟩, true⟩) := rfl
  have life : Life first [.op .setChunked, .op (.write [97]), .receive, .close] [[97]] [completed]
      woken := .woken (.took (.advanced .accepted hwait) rfl)
  obtain ⟨t, y, hend, hd, hu, hs, -, port, now, hlog⟩ :=
    (hall.2.2.2.2.1 _ _ _ _ life s .limited _ _ _ rfl).2 (hfits ⟨200, [], .stream⟩ rfl)
  refine ⟨⟨_, hdispatch.trans rfl, rfl⟩, hstops, life, t, y, hend, ?_, hd.trans rfl, ?_, hs⟩
  · simpa [s, create] using congrArg List.length hlog
  · exact (List.cons.inj (hu.trans rfl : [97] :: y.underway = [[97]])).2

end Server
end Testbed.Http
