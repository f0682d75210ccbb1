import Testbed.Proofs.Http.Outcome

/-!
# The status in the log

The completion of a request is logged with the status of its head, or with 500 when there is none.
The response takes the status of the head too, but only if HTTP has it: any other one is sent as 500
(`Response.statusOf`).

**Theorem (`logged_status_iff`).** The logged status is that of the response if and only if the
status which the handler chose lies between 100 and 999. A handler chooses the status that is
pending when its head is sent; the status of a failure, and the 500 of a handler that broke off, are
not its choice and always agree (`chosenStatus`).
-/

namespace Testbed.Http

/-- The status that a handler chose for its response, unless it failed or broke off before its head
was sent. -/
def chosenStatus (ms : List Move) (ending : Ending) : Option UInt16 :=
  if Move.streamed ms ≠ [] then some (Move.statusSet (Move.unsent ms))
  else match ending with
    | .done => some (Move.statusSet ms)
    | .failed _ | .aborted => none

namespace Response

theorem statusOf_eq_self_iff {code : UInt16} : statusOf code = code ↔ 100 ≤ code ∧ code ≤ 999 := by
  unfold statusOf
  split_ifs with h
  · exact iff_of_true rfl h
  · refine iff_of_false ?_ h
    rintro rfl
    exact h (by decide)

theorem statusOf_failure (reason : Failure) : statusOf reason.status = reason.status := by
  cases reason <;> rfl

theorem status_ofExchange {x : Exchange} {head : Head} (h : x.delivered = some head) :
    (Response.ofExchange x).status = statusOf head.status := by
  simp [Response.ofExchange, h, ofHead]

end Response

variable {ms : List Move} {ending : Ending}

/-- What is logged agrees with what is answered, unless the handler chose a status that HTTP does
not have. -/
theorem status_answer_iff : (verdict ms ending).1 = (answer ms ending).status ↔
    ∀ code, chosenStatus ms ending = some code → 100 ≤ code ∧ code ≤ 999 := by
  have hchosen (code : UInt16) :
      code = Response.statusOf code ↔ ∀ c, some code = some c → 100 ≤ c ∧ c ≤ 999 := by
    rw [eq_comm, Response.statusOf_eq_self_iff]
    simp
  unfold verdict answer decision chosenStatus
  by_cases h : Move.streamed ms = []
  · cases ending with
    | done => simpa [h, Response.ofHead] using hchosen (Move.statusSet ms)
    | failed reason => simp [h, Response.ofHead, Response.statusOf_failure]
    | aborted => simp [h, Response.ofStatus]
  · simpa [h, Response.ofHead, Move.streamHead] using hchosen (Move.statusSet (Move.unsent ms))

namespace Server

variable {first call : Call} {taken : List Bytes} {es : List Event} {request : Request}
  {closing : Bool} {patience : Patience}

theorem status_ofExchange_eq_answer {x : Exchange} (hd : x.delivered = decision ms ending) :
    (Response.ofExchange x).status = (answer ms ending).status := by
  unfold answer
  cases h : decision ms ending with
  | none => simp [Response.ofExchange, hd, h]
  | some head => exact Response.status_ofExchange (hd.trans h)

theorem Noted.status_of_mem (h : Noted request closing ms taken es call) {e : Event} (he : e ∈ es) :
    ∃ head, call.job.exchange.delivered = some head ∧ e.status = some head.status := by
  cases hl : call.logged with
  | false =>
    rw [h.unlogged hl] at he
    cases he
  | true =>
    obtain ⟨head, port, now, hd, hes⟩ := h.logged hl
    rw [hes, List.mem_singleton] at he
    exact ⟨head, hd, by rw [he]; rfl⟩

/-- What a dispatched request whose handler ends is answered, and what is logged of it. -/
theorem dispatch_of_ended {s : Server} {incoming : Incoming} {shared : Shared} {x : Exchange}
    (hrequest : incoming.request? s.scheme s.port = some request)
    (hrun : (Job.start s.handler (.start request s.closing)).run .limited s.shared =
      (shared, .ended ending x))
    (hd : (Job.conclude ending x).delivered = decision ms ending) :
    (s.dispatch incoming).2 = some (.ofExchange (Job.conclude ending x)) ∧
      (s.dispatch incoming).1.log = s.log ++ [.received s.port request.method request.path s.now,
        .completed s.port (Job.conclude ending x).request.method
          (Job.conclude ending x).request.path (verdict ms ending).1
          (verdict ms ending).2 s.now] := by
  simp only [dispatch, accept, hrequest, Server.advance, record, hrun, noteEnd_of_unlogged hd,
    complete, List.append_assoc, List.cons_append, List.nil_append, and_self]

/-- **When the log tells the status.** Let a request be taken in. When its handler has ended,
however often it waited, the one completion that is logged carries the status of the response if and
only if the status that the handler chose lies between 100 and 999; that holds in particular of a
request that is dispatched at once. What is logged while the handler still waits carries the status
of the head that was sent, and the response has the status that HTTP makes of it. The headers of the
head are taken to fit the header map: where they do not, building the response breaks off, and there
is neither a response nor an event (`Server.advance?`). -/
theorem logged_status_iff (s : Server) (incoming : Incoming) (request : Request)
    (hrequest : incoming.request? s.scheme s.port = some request) :
    let first : Call := ⟨.start s.handler (.start request s.closing), false⟩
    (∀ shared ending x, first.job.run .limited s.shared = (shared, .ended ending x) →
      ∃ response received completed, (s.dispatch incoming).2 = some response ∧
        (s.dispatch incoming).1.log = s.log ++ [received, completed] ∧
        completed.kind = .requestCompleted ∧
        (completed.status = some response.status ↔
          ∀ code, chosenStatus (first.job.trace .limited s.shared) ending = some code →
            100 ≤ code ∧ code ≤ 999)) ∧
    ∀ ms taken es call, Life first ms taken es call →
      (∀ e ∈ es, ∃ head, call.job.exchange.delivered = some head ∧ e.status = some head.status ∧
        (Response.ofExchange call.job.exchange).status = Response.statusOf head.status) ∧
      ∀ (t : Server) patience shared ending x,
        call.job.run patience t.shared = (shared, .ended ending x) →
        ∃ t' y completed, t.advance patience call = (t', .ended y) ∧
          es ++ t'.log.drop t.log.length = [completed] ∧ completed.kind = .requestCompleted ∧
          (completed.status = some (Response.ofExchange y).status ↔
            ∀ code, chosenStatus (ms ++ call.job.trace patience t.shared) ending = some code →
              100 ≤ code ∧ code ≤ 999) := by
  intro first
  refine ⟨fun shared ending x hrun => ?_, fun ms taken es call life => ?_⟩
  · obtain ⟨hd, -, -, -, -⟩ := (noted_start s.handler request s.closing).conclude hrun
    obtain ⟨hanswer, hlog⟩ := dispatch_of_ended hrequest hrun hd
    refine ⟨_, _, _, hanswer, hlog, rfl, ?_⟩
    rw [status_ofExchange_eq_answer hd, ← status_answer_iff]
    exact Option.some_inj
  · have h := life.noted
    refine ⟨fun e he => ?_, fun t patience shared ending x hrun => ?_⟩
    · obtain ⟨head, hd, hstatus⟩ := h.status_of_mem he
      exact ⟨head, hd, hstatus, Response.status_ofExchange hd⟩
    · obtain ⟨hd, -, -, -, -⟩ := h.conclude hrun
      obtain ⟨port, now, hlog⟩ := h.noteEnd hrun { t with shared }
      refine ⟨_, Job.conclude ending x, _, by simp only [Server.advance, hrun], hlog, rfl, ?_⟩
      rw [status_ofExchange_eq_answer hd, ← status_answer_iff]
      exact Option.some_inj

/-- A handler that begins a stream with a status below 100 and waits. Its completion is logged with
that status, before the wait and behind it, and the response has 500. -/
theorem low_status_logged :
    let rest : Script := .call (.wait (some (.ofSecs 1))) fun _ =>
      .call (.setStatus 200) fun _ => .finish .done
    let script : Script := .call (.setStatus 99) fun _ => .call .setChunked fun _ =>
      .call (.write [97]) fun _ => rest
    let s : Server := .create (.script script) false 80 .fresh
    let incoming : Incoming := .make "GET" "/x" [("Host", Utf8.encode "[::1]")] []
    let request : Request :=
      .make "GET" ⟨"http", some (.ofHost (.ipv6 [0, 0, 0, 0, 0, 0, 0, 1])), "/x", none, none⟩
        [("Host", "[::1]")] []
    let first : Call := ⟨.start s.handler (.start request false), false⟩
    let x : Exchange := { Exchange.start request false with
      status := 99
      chunked := true
      headPending := false
      receiving := false
      delivered := some ⟨99, [], .stream⟩
      underway := [[97]] }
    let completed : Event := .completed 80 request.method "/x" 99 .responded 0
    (∃ response received completed, (s.dispatch incoming).2 = some response ∧
      (s.dispatch incoming).1.log = [received, completed] ∧
      completed.status ≠ some response.status) ∧
    Life first [.op (.setStatus 99), .op .setChunked, .op (.write [97])] [] [completed]
      ⟨⟨x, [.script rest]⟩, true⟩ ∧
    completed.status = some 99 ∧ (Response.ofExchange x).status = 500 := by
  intro rest script s incoming request first x completed
  obtain ⟨hdispatch, hlife⟩ := logged_status_iff s incoming request (by decide +kernel)
  have hwait : s.advance (.below ⟨0⟩) first =
      (s.record completed, .waiting ⟨⟨x, [.script rest]⟩, true⟩) := rfl
  have life : Life first [.op (.setStatus 99), .op .setChunked, .op (.write [97])] [] [completed]
      ⟨⟨x, [.script rest]⟩, true⟩ := .advanced .accepted hwait
  refine ⟨?_, life, rfl, ?_⟩
  · obtain ⟨response, received, completed, hanswer, hlog, -, hiff⟩ := hdispatch _ _ _ rfl
    refine ⟨response, received, completed, hanswer, hlog, fun h => ?_⟩
    exact absurd (hiff.mp h 99 rfl).1 (by decide)
  · obtain ⟨head, hd, -, hstatus⟩ := (hlife _ _ _ _ life).1 completed (List.mem_singleton_self _)
    rw [hstatus, ← Option.some.inj hd]
    rfl

end Server
end Testbed.Http
