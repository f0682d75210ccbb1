import Testbed.Http.Vigil
import Testbed.Proofs.Http.Streaming

/-!
# The departure of a client

Handler and transport take turns at an exchange, and between any two turns the client may leave or
the server begin to close (`Happening`). When the client leaves, the receivers of head and chunks go
with it; where the handler finds out depends on which of them it still has to do with.

**Theorem (`departure_noticed`).** Until the handler ends, it can tell that the client is gone
exactly if the client has left: a wait is then over at its first look, unless its deadline is beyond
what the clock can tell, and a streamed write fails, unless it is empty and the head was sent
before. As long as the client is there no streamed write fails.

A commit that fails gives the receiver of chunks away as one that succeeds does, so the exchange
goes on as a stream either way (`Live.commit`). In both states of an exchange the handler can tell
(`Live.clientGone`), and a turn keeps it in one of them (`Watched.step`). A handler that breaks off
at a wait takes the turn of its end there.
-/

namespace Testbed.Http

namespace Exchange

variable {x : Exchange}

/-! ## Exchanges that go on -/

/-- The head can still be sent, or chunks can. -/
def Live (x : Exchange) : Prop := x.Open ∨ x.Streaming

theorem Live.move (h : x.Live) (m : Move) : (x.move m).Live := by
  rcases h with ho | hs
  · rcases ho.move m with ho' | ⟨hc, data, rfl⟩
    · exact .inl ho'
    · exact .inr (ho.streaming_write hc data)
  · exact .inr (hs.move m).1

/-- As long as an exchange goes on, the handler can tell whether the client has left. -/
theorem Live.clientGone (h : x.Live) : x.clientGone = !x.listening := by
  rcases h with ho | hs
  · simp [Exchange.clientGone, ho.headPending, ho.receiving]
  · simp [Exchange.clientGone, hs.headPending, hs.receiving, hs.sending]

theorem Streaming.hasReceiver (h : x.Streaming) : x.hasReceiver = x.listening := by
  simp [Exchange.hasReceiver, h.receiving]

theorem perform_wait_of_gone (h : x.clientGone = true) (patience : Patience)
    (limit : Option Duration) : x.perform patience (.wait limit) = some (true, x) := by
  simp [perform, isClosed, h]

theorem write_nil (hc : x.chunked = true) : x.write [] = x.commit := by
  rcases hx : x.commit with ⟨_ | _, y⟩ <;> simp [write, hc, hx]

theorem Live.commit (h : x.Live) (hc : x.chunked = true) :
    x.commit.2.Streaming ∧
      x.commit.1 = if x.isCommitted || x.listening then .ok () else .error .disconnected := by
  rcases h with ho | hs
  · rw [← write_nil hc]
    refine ⟨ho.streaming_write hc [], ?_⟩
    rw [ho.write_chunked hc, ho.isCommitted, Bool.false_or]
  · rw [commit_of_sent hs.headPending, hs.isCommitted]
    exact ⟨hs, rfl⟩

/-- When the client has left, what is written to a streamed response does not reach it; only an
empty write behind the commit does not notice. -/
theorem Live.write_of_left (h : x.Live) (hc : x.chunked = true) (hl : x.listening = false)
    (data : Bytes) :
    (x.write data).1 =
      if data.isEmpty && x.isCommitted then .ok () else .error .disconnected := by
  rcases h with ho | hs
  · rw [ho.write_chunked hc, ho.isCommitted, hl, Bool.and_false]
  · rw [hs.write, hs.isCommitted, hl, Bool.and_true]
    by_cases hd : data.isEmpty = true <;> simp [hd]

end Exchange

/-! ## Turns and departures -/

def Phase.running : Phase → Bool
  | .idle | .sending _ => true
  | .leaving | .gone => false

/-- What happens next to an exchange whose client may leave. -/
inductive Happening where
  | turn (t : Turn)
  /-- The client leaves. -/
  | leave
  /-- The server begins to close. -/
  | close
deriving DecidableEq, Repr

namespace Flow

variable {f : Flow} {left : Bool}

def happen (f : Flow) : Happening → Flow
  | .turn t => f.step t
  | .leave => { f with exchange := f.exchange.leave }
  | .close => { f with exchange := f.exchange.close }

def after (f : Flow) (hs : List Happening) : Flow := hs.foldl happen f

/-- How far the exchange is while the handler runs, whether the client is there or not. -/
def Held : Phase → Exchange → Prop
  | .idle, x => x.Live
  | .sending _, x => x.Streaming
  | .leaving, _ | .gone, _ => True

theorem Held.move {phase : Phase} {x : Exchange} (h : Held phase x) (m : Move) :
    Held phase (x.move m) := by
  cases phase with
  | idle => exact Exchange.Live.move h m
  | sending data => exact (Exchange.Streaming.move h m).1
  | leaving | gone => trivial

theorem Held.clientGone {phase : Phase} {x : Exchange} (h : Held phase x)
    (hp : phase.running = true) : x.clientGone = !x.listening := by
  cases phase with
  | idle => exact Exchange.Live.clientGone h
  | sending data => exact Exchange.Live.clientGone (.inr h)
  | leaving | gone => cases hp

/-- The exchange is as far as the phase says and knows whether the client has left, and no streamed
write has failed while the client was there. -/
structure Watched (left : Bool) (f : Flow) : Prop where
  held : Held f.phase f.exchange
  listening : f.exchange.listening = !left
  returned : left = false → ∀ w ∈ f.returned, w.2 = .ok ()

theorem Watched.live (h : f.Watched left) (hp : f.phase = .idle) : f.exchange.Live := by
  have hheld := h.held
  rwa [hp] at hheld

theorem Watched.streaming (h : f.Watched left) {data : Bytes} (hp : f.phase = .sending data) :
    f.exchange.Streaming := by
  have hheld := h.held
  rwa [hp] at hheld

theorem watched_start (request : Request) (closing : Bool) :
    (start request closing).Watched false where
  held := .inl (Exchange.open_start request closing)
  listening := rfl
  returned := by simp [start]

theorem Watched.moved (h : f.Watched left) {x : Exchange} {phase : Phase} (hx : Held phase x)
    (hl : x.listening = f.exchange.listening) :
    Watched left { f with exchange := x, phase := phase } :=
  ⟨hx, hl.trans h.listening, h.returned⟩

theorem Watched.answered (h : f.Watched left) {w : Bytes × Except Failure Unit}
    (hw : left = false → w.2 = .ok ()) :
    Watched left { f with returned := f.returned ++ [w] } where
  held := h.held
  listening := h.listening
  returned := fun hleft =>
    List.forall_mem_append.mpr ⟨h.returned hleft, List.forall_mem_singleton.mpr (hw hleft)⟩

theorem Watched.beginOp (h : f.Watched left) (hp : f.phase = .idle) (op : Op) :
    (f.beginOp op).Watched left := by
  have hlive := h.live hp
  by_cases hop : f.exchange.chunked = true ∧ ∃ data, op = .write data
  · obtain ⟨hc, data, rfl⟩ := hop
    obtain ⟨hs, he⟩ := hlive.commit hc
    obtain ⟨-, hl, -⟩ := Exchange.commit_frame f.exchange
    have hmoved : Watched left { f with exchange := f.exchange.commit.2 } :=
      h.moved (by rw [hp]; exact .inr hs) hl
    rw [h.listening] at he
    simp only [Flow.beginOp, hc, if_true]
    rcases hx : f.exchange.commit with ⟨e | u, x⟩ <;> rw [hx] at he hs hl hmoved
    · -- The commit was due and found nobody.
      refine hmoved.answered fun hleft => ?_
      rw [hleft] at he
      simp at he
    · by_cases hd : data.isEmpty = true
      · simp only [hd, if_true]
        exact hmoved.answered fun _ => rfl
      · simp only [hd]
        exact h.moved hs hl
  · rw [beginOp_eq fun hc data hw => hop ⟨hc, data, hw⟩]
    refine h.moved ?_ (Exchange.listening_move (m := .op op) (by simp))
    rw [hp]
    exact hlive.move (.op op)

theorem sendChunk_of_left {data : Bytes} (hs : f.exchange.Streaming)
    (hl : f.exchange.listening = false) :
    f.sendChunk data =
      { f with phase := .idle, returned := f.returned ++ [(data, .error .disconnected)] } := by
  simp [Flow.sendChunk, Exchange.mustWait, Exchange.sendChunk, hs.hasReceiver, hl]

theorem Watched.sendChunk (h : f.Watched left) {data : Bytes} (hp : f.phase = .sending data) :
    (f.sendChunk data).Watched left := by
  have hs := h.streaming hp
  have hl := h.listening
  cases left with
  | true =>
    rw [sendChunk_of_left hs hl]
    have hidle : Watched true { f with phase := .idle } := h.moved (.inr hs) rfl
    exact hidle.answered fun hleft => by cases hleft
  | false =>
    unfold Flow.sendChunk
    rw [hs.sendChunk hl]
    split_ifs
    · exact h
    · have hidle : Watched false { f with
          exchange := { f.exchange with underway := f.exchange.underway ++ [data] }
          phase := .idle } :=
        h.moved (.inr ⟨hs.headPending, hs.sending, hs.receiving, hs.chunked⟩) rfl
      exact hidle.answered fun _ => rfl

theorem Watched.finish (h : f.Watched left) (ending : Ending) : (f.finish ending).Watched left := by
  cases ending with
  | done => exact h.moved trivial (Exchange.commit_frame f.exchange).2.1
  | failed reason =>
    refine h.moved trivial ((Exchange.commit_frame _).2.1.trans ?_)
    exact Exchange.listening_move (m := .fail reason.status) (by simp)
  | aborted => exact h.moved trivial rfl

theorem Watched.poll (h : f.Watched left) : f.poll.Watched left := by
  unfold Flow.poll
  split
  · have hheld := h.held.move .receive
    have hl := Exchange.listening_move (x := f.exchange) (m := .receive) (by simp)
    cases hr : f.exchange.receive? with
    | none => exact ⟨h.held, h.listening, h.returned⟩
    | some taken =>
      simp only [Exchange.move, hr, Option.map_some, Option.getD_some] at hheld hl
      exact ⟨hheld, hl.trans h.listening, h.returned⟩
  · exact h

/-- **One turn** keeps what the handler knows of the client. -/
theorem Watched.step (h : f.Watched left) (t : Turn) : (f.step t).Watched left := by
  apply step_cases t h
  · intro op hp
    exact h.beginOp hp op
  · intro data hp
    exact h.sendChunk hp
  · intro ending _
    exact h.finish ending
  · intro _
    exact h.moved trivial rfl
  · exact ⟨h.held, h.listening, h.returned⟩
  · exact h.poll

/-- **Many happenings** keep it as well, and a departure is not forgotten. -/
theorem Watched.after (h : f.Watched left) (hs : List Happening) :
    (f.after hs).Watched (left || decide (.leave ∈ hs)) := by
  induction hs generalizing f left with
  | nil => simpa [Flow.after] using h
  | cons happening hs ih =>
    cases happening with
    | turn t =>
      have hturn : (f.happen (.turn t)).Watched left := h.step t
      simpa [Flow.after] using ih hturn
    | leave =>
      have hleft : (f.happen .leave).Watched true := ⟨h.held.move .leave, rfl, fun h => by cases h⟩
      simpa [Flow.after] using ih hleft
    | close =>
      have hclosing : (f.happen .close).Watched left := h.moved (h.held.move .close) rfl
      simpa [Flow.after] using ih hclosing

/-- After a departure a streamed write does in its turns what it does at once: it never waits. -/
theorem Watched.write (h : f.Watched true) (hp : f.phase = .idle)
    (hc : f.exchange.chunked = true) (data : Bytes) :
    (f.step (.op (.write data))).step .send =
      { f with
        exchange := (f.exchange.write data).2
        returned := f.returned ++ [(data, (f.exchange.write data).1)] } := by
  obtain ⟨hs, -⟩ := (h.live hp).commit hc
  obtain ⟨-, hl, -⟩ := Exchange.commit_frame f.exchange
  rw [h.listening] at hl
  rcases hx : f.exchange.commit with ⟨e | u, x⟩ <;> simp only [hx] at hs hl
  · simp [Flow.step, hp, Flow.beginOp, hc, hx, Exchange.write]
  · by_cases hd : data = []
    · simp [Flow.step, hp, Flow.beginOp, hc, hx, Exchange.write, hd]
    · have hsend : Flow.sendChunk { f with exchange := x, phase := .sending data } data = _ :=
        sendChunk_of_left hs hl
      simp [Flow.step, hp, Flow.beginOp, hc, hx, Exchange.write, hd, hsend, Exchange.sendChunk,
        hs.hasReceiver, hl]

/-- **A departure is noticed and never forgotten.** Let a handler and the transport take turns at an
exchange in any order, the server close at any time, and the client leave at any time or stay. Until
the handler ends:

1. It can tell that the client is gone exactly if the client has left.
2. When the client has left, a wait without a limit is over at its first look, and so is one of any
   limit whose end the clock can tell. At a wait of another limit the handler breaks off, and does
   not look.
3. When the client has left, a streamed write returns without waiting, and fails unless it is empty
   and the head was sent before; so does the write that the client's departure overtakes.
4. As long as the client has not left, no streamed write fails. -/
theorem departure_noticed (request : Request) (closing : Bool) (hs : List Happening) :
    let f := (start request closing).after hs
    let x := f.exchange
    (f.phase.running = true → (x.clientGone = true ↔ .leave ∈ hs)) ∧
    (f.phase.running = true → .leave ∈ hs → ∀ (patience : Patience) limit,
      (limit.all patience.reaches = true →
        x.perform patience (.wait limit) = some (true, x) ∧
        (∀ next, (Script.call (.wait limit) next).play patience x = (next true).play patience x) ∧
        ∀ (v : Vigil) rounds, v.gone 0 = x.clientGone →
          v.run? patience.reaches limit (rounds + 1) = some ⟨.closed, 1, []⟩) ∧
      (limit.all patience.reaches = false →
        (∀ next, (Script.call (.wait limit) next).play patience x = (.ended .aborted, x)) ∧
        ∀ (v : Vigil) rounds, v.run? patience.reaches limit rounds = none)) ∧
    (.leave ∈ hs →
      (f.phase = .idle → x.chunked = true → ∀ data,
        (x.write data).1 =
          (if data.isEmpty && x.isCommitted then .ok () else .error .disconnected) ∧
        let g := (f.step (.op (.write data))).step .send
        g.exchange = (x.write data).2 ∧ g.phase = .idle ∧
          g.returned = f.returned ++ [(data, (x.write data).1)]) ∧
      ∀ data, f.phase = .sending data → (f.step .send).phase = .idle ∧
        (f.step .send).returned = f.returned ++ [(data, .error .disconnected)]) ∧
    (.leave ∉ hs → ∀ w ∈ f.returned, w.2 = .ok ()) := by
  intro f x
  have h : f.Watched (decide (.leave ∈ hs)) := (watched_start request closing).after hs
  refine ⟨?_, ?_, ?_, ?_⟩
  · intro hp
    rw [h.held.clientGone hp, h.listening, Bool.not_not, decide_eq_true_eq]
  · intro hp hleft patience limit
    have hgone : x.clientGone = true := by
      rw [h.held.clientGone hp, h.listening, Bool.not_not, decide_eq_true hleft]
    constructor
    · intro hreaches
      have hwait := Exchange.perform_wait_of_gone hgone patience limit
      refine ⟨hwait, fun next => ?_, fun v rounds hv => ?_⟩
      · simp only [Script.play, Patience.breaksOff, hreaches, hwait, Bool.not_true,
          Bool.false_eq_true, if_false]
      · simp [Vigil.run?, Vigil.run, Vigil.runFrom, hreaches, hv, hgone]
    · intro hreaches
      refine ⟨fun next => ?_, fun v rounds => ?_⟩
      · simp only [Script.play, Patience.breaksOff, hreaches, Bool.not_false, if_true]
      · simp [Vigil.run?, hreaches]
  · intro hleft
    rw [decide_eq_true hleft] at h
    constructor
    · intro hp hc data
      refine ⟨(h.live hp).write_of_left hc h.listening data, ?_⟩
      rw [h.write hp hc data]
      exact ⟨rfl, hp, rfl⟩
    · intro data hp
      have hstep : f.step .send = f.sendChunk data := by simp only [Flow.step, hp]
      rw [hstep, sendChunk_of_left (h.streaming hp) h.listening]
      exact ⟨rfl, rfl⟩
  · intro hleft
    exact h.returned (decide_eq_false hleft)

/-- The client leaves between the commit and the chunk of a write: the chunk is refused, an empty
write is not, and the next chunk is refused again. A wait of no time is over, and at a wait of the
longest time there is the handler breaks off. -/
theorem departure_overtakes_write :
    let hs : List Happening := [.turn (.op .setChunked), .turn (.op (.write [104])), .leave]
    let f := (start .plain false).after hs
    let g := (start .plain false).after (hs ++ [.turn .send])
    let waits (limit : Duration) : Script :=
      .call (.wait (some limit)) fun closed => if closed then .finish .done else .write [105]
    f.phase = .sending [104] ∧ f.exchange.clientGone = true ∧
      g.returned = [([104], .error .disconnected)] ∧ g.phase = .idle ∧
      (g.exchange.write []).1 = .ok () ∧ (g.exchange.write [105]).1 = .error .disconnected ∧
      (waits ⟨0⟩).play .limited g.exchange = (.ended .done, g.exchange) ∧
      (waits (.ofParts (UInt64.size - 1) 999999999)).play .limited g.exchange =
        (.ended .aborted, g.exchange) := by
  intro hs f g waits
  have hf := departure_noticed .plain false hs
  have hg := departure_noticed .plain false (hs ++ [.turn .send])
  have hwrite := (hg.2.2.1 (by decide)).1 rfl rfl
  have hwait := hg.2.1 rfl (by decide) .limited
  refine ⟨rfl, (hf.1 rfl).mpr (by decide), ((hf.2.2.1 (by decide)).2 [104] rfl).2, rfl, ?_, ?_, ?_,
    ?_⟩
  · exact (hwrite []).1
  · exact (hwrite [105]).1
  · exact ((hwait (some ⟨0⟩)).1 (by decide)).2.1 _
  · exact ((hwait (some (.ofParts (UInt64.size - 1) 999999999))).2 (by decide)).1 _

end Flow
end Testbed.Http
