import Testbed.Proofs.Http.Departure

/-!
# The ends that an exchange holds

A write looks whether the head was sent and whether chunks can be sent, and a commit of a streamed
response looks whether the receiver of chunks is there. Each of them has an answer for the case that
it is not so: a failed write, a lost client, an empty body.

**Theorem (`guards_unreached`).** Until the handler ends, none of these cases occurs, whatever the
handler does and whenever the client leaves, be it in the middle of a commit. What has been sent
belongs to a streamed response, so a write is collected, or goes out as a chunk, or has no client.

The ends are the same in every state that a handler can bring about (`HoldsEnds`): the exchange is
open, and holds them all, or it is streaming, and has given the receiver away.
-/

namespace Testbed.Http

namespace Exchange

variable {x : Exchange}

/-- Chunks can be sent. The receiver of chunks is there before the commit, and what is committed is
a streamed response that has given it away. -/
structure HoldsEnds (x : Exchange) : Prop where
  sending : x.sending = true
  receiving : x.isCommitted = false → x.receiving = true
  given : x.isCommitted = true → x.chunked = true ∧ x.receiving = false

theorem Live.holdsEnds (h : x.Live) : x.HoldsEnds := by
  rcases h with ho | hs
  · refine ⟨ho.sending, fun _ => ho.receiving, fun hc => ?_⟩
    rw [ho.isCommitted] at hc
    cases hc
  · refine ⟨hs.sending, fun hc => ?_, fun _ => ⟨hs.chunked, hs.receiving⟩⟩
    rw [hs.isCommitted] at hc
    cases hc

namespace HoldsEnds

theorem write_collected (h : x.HoldsEnds) (hc : x.chunked = false) (data : Bytes) :
    x.write data = (.ok (), { x with buffer := x.buffer ++ data }) := by
  have hopen : x.isCommitted = false := by
    by_contra hcommitted
    have := (h.given (by simpa using hcommitted)).1
    rw [hc] at this
    cases this
  simp [write, hc, hopen]

theorem takeBody (h : x.HoldsEnds) (hc : x.chunked = true) (hopen : x.isCommitted = false) :
    x.takeBody = (.stream, { x with receiving := false }) := by
  simp [Exchange.takeBody, hc, h.receiving hopen]

theorem commit (h : x.HoldsEnds) (hc : x.chunked = true) :
    x.commit = if x.isCommitted then (.ok (), x) else
      (if x.listening then .ok () else .error .disconnected,
        { x with
          headPending := false
          headers := []
          receiving := false
          delivered := if x.listening then some ⟨x.status, x.headers, .stream⟩
            else x.delivered }) := by
  by_cases hp : x.headPending = true
  · have hopen : x.isCommitted = false := by simp [isCommitted, hp]
    cases hl : x.listening <;> simp [Exchange.commit, h.takeBody hc hopen, hp, hl, hopen]
  · have hsent : x.headPending = false := by simpa using hp
    simp [commit_of_sent hsent, isCommitted, hsent]

/-- A commit that succeeds or fails keeps the sender of chunks and gives the receiver away. -/
theorem committed (h : x.HoldsEnds) (hc : x.chunked = true) :
    x.commit.2.HoldsEnds ∧ x.commit.2.isCommitted = true ∧ x.commit.2.listening = x.listening := by
  rw [h.commit hc]
  by_cases hcommitted : x.isCommitted = true
  · rw [if_pos hcommitted]
    exact ⟨h, hcommitted, rfl⟩
  · rw [if_neg hcommitted]
    refine ⟨⟨h.sending, fun hopen => ?_, fun _ => ⟨hc, rfl⟩⟩, rfl, rfl⟩
    cases hopen

theorem sendChunk (h : x.HoldsEnds) (hc : x.isCommitted = true) (data : Bytes) :
    x.sendChunk data = if x.listening then (.ok (), { x with underway := x.underway ++ [data] })
      else (.error .disconnected, x) := by
  simp [Exchange.sendChunk, hasReceiver, h.sending, (h.given hc).2]

/-- **A write fails only for want of a client.** -/
theorem write_answer (h : x.HoldsEnds) (data : Bytes) :
    (x.write data).1 = .ok () ∨ (x.write data).1 = .error .disconnected ∧ x.listening = false := by
  cases hc : x.chunked with
  | false =>
    left
    rw [h.write_collected hc]
  | true =>
    obtain ⟨hends, hcommitted, hl⟩ := h.committed hc
    have hanswer : x.commit.1 = .ok () ∨ x.commit.1 = .error .disconnected ∧
        x.listening = false := by
      rw [h.commit hc]
      by_cases hx : x.isCommitted = true <;> cases hlistening : x.listening <;> simp [hx]
    rcases hx : x.commit with ⟨answer, y⟩
    rw [hx] at hends hcommitted hl hanswer
    rcases hanswer with rfl | ⟨rfl, hleft⟩
    · -- The head is with the client or lost, and the chunk goes the same way.
      simp only [write, hc, hx, if_true]
      split_ifs
      · exact .inl rfl
      · rw [hends.sendChunk hcommitted, hl]
        cases x.listening <;> simp
    · right
      simp [write, hc, hx, hleft]

end HoldsEnds
end Exchange

namespace Flow

variable {f : Flow} {left : Bool}

theorem Watched.live_of_running (h : f.Watched left) (hp : f.phase.running = true) :
    f.exchange.Live := by
  cases hphase : f.phase with
  | idle => exact h.live hphase
  | sending data => exact .inr (h.streaming hphase)
  | leaving | gone =>
    rw [hphase] at hp
    cases hp

/-- **No guard is reached.** Let a handler and the transport take turns at an exchange in any order,
the server close at any time, and the client leave at any time or stay. Until the handler ends:

1. Chunks can be sent; the receiver of chunks is there until the head is sent; and if it is sent,
   the response is a streamed one and the receiver was given away.
2. A write that is not streamed is collected, and no write fails because the response was sent.
3. A write fails only if the client has left, also when it is as far as its chunk: the sender of
   chunks is never missing, neither before the commit of a write nor behind it.
4. A streamed response whose head was not sent has its chunks for its body, and so has the head that
   is sent for it by a write or at the end. -/
theorem guards_unreached (request : Request) (closing : Bool) (hs : List Happening) :
    let f := (start request closing).after hs
    let x := f.exchange
    (f.phase.running = true →
      x.sending = true ∧ (x.isCommitted = false → x.receiving = true) ∧
        (x.isCommitted = true → x.chunked = true ∧ x.receiving = false)) ∧
    (f.phase = .idle → ∀ data,
      (x.chunked = false → x.write data = (.ok (), { x with buffer := x.buffer ++ data })) ∧
      ∀ reason, (x.write data).1 ≠ .error (.failed reason)) ∧
    ((f.phase = .idle → ∀ data,
        ((x.write data).1 = .error .disconnected → .leave ∈ hs) ∧
        (x.chunked = true → x.commit.2.sending = true)) ∧
      ∀ data, f.phase = .sending data →
        (x.sendChunk data).1 = .error .disconnected → .leave ∈ hs) ∧
    (f.phase.running = true → x.chunked = true → x.isCommitted = false →
      x.takeBody = (.stream, { x with receiving := false }) ∧
      (∀ head, x.commit.2.delivered = some head → head.body = .stream) ∧
      ∀ head, x.finish.delivered = some head → head.body = .stream) := by
  intro f x
  have h : f.Watched (decide (.leave ∈ hs)) := (watched_start request closing).after hs
  have hends (hp : f.phase.running = true) : x.HoldsEnds := (h.live_of_running hp).holdsEnds
  have hidle (hp : f.phase = .idle) : x.HoldsEnds := hends (by rw [hp]; rfl)
  have hleft (hl : x.listening = false) : .leave ∈ hs := by
    have hlistening : x.listening = !decide (.leave ∈ hs) := h.listening
    rw [hl] at hlistening
    simpa using hlistening
  refine ⟨?_, ?_, ⟨?_, ?_⟩, ?_⟩
  · intro hp
    exact ⟨(hends hp).sending, (hends hp).receiving, (hends hp).given⟩
  · intro hp data
    refine ⟨fun hc => (hidle hp).write_collected hc data, fun reason hw => ?_⟩
    rcases (hidle hp).write_answer data with hok | ⟨hgone, -⟩
    · rw [hok] at hw
      cases hw
    · rw [hgone] at hw
      cases hw
  · intro hp data
    refine ⟨fun hw => ?_, fun hc => ((hidle hp).committed hc).1.sending⟩
    rcases (hidle hp).write_answer data with hok | ⟨-, hl⟩
    · rw [hok] at hw
      cases hw
    · exact hleft hl
  · intro data hp hw
    have hstreaming := h.streaming hp
    rw [(Exchange.Live.holdsEnds (.inr hstreaming)).sendChunk hstreaming.isCommitted] at hw
    split_ifs at hw with hl
    exact hleft (by simpa using hl)
  · intro hp hc hopen
    have hbody (head : Head) (hd : x.commit.2.delivered = some head) : head.body = .stream := by
      have hnone : x.delivered = none := by
        rcases h.live_of_running hp with ho | hstreaming
        · exact ho.delivered
        · rw [hstreaming.isCommitted] at hopen
          cases hopen
      rw [(hends hp).commit hc, hopen, hnone] at hd
      cases hl : x.listening with
      | true =>
        simp only [hl, if_true, Bool.false_eq_true, if_false, Option.some.injEq] at hd
        rw [← hd]
      | false => simp [hl] at hd
    exact ⟨(hends hp).takeBody hc hopen, hbody, hbody⟩

/-- The client leaves before the first write of a streamed response: the commit fails halfway, the
receiver of chunks is given away all the same, and the writes behind it have no client. -/
theorem commit_fails_halfway :
    let hs : List Happening := [.turn (.op .setChunked), .leave, .turn (.op (.write [104]))]
    let x := ((start .plain false).after hs).exchange
    (x.delivered = none ∧ x.isCommitted = true) ∧
      (x.sending = true ∧ x.receiving = false ∧ x.chunked = true) ∧
      (x.write [105]).1 = .error .disconnected ∧
      (x.write [105]).1 ≠ .error (.failed "response was already sent") := by
  intro hs x
  obtain ⟨hends, hwrite, -, -⟩ := guards_unreached .plain false hs
  obtain ⟨hsending, -, hgiven⟩ := hends rfl
  obtain ⟨hchunked, hreceiving⟩ := hgiven rfl
  exact ⟨⟨rfl, rfl⟩, ⟨hsending, hreceiving, hchunked⟩, rfl, (hwrite rfl [105]).2 _⟩

end Flow
end Testbed.Http
