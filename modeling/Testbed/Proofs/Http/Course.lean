import Mathlib.Tactic.SplitIfs
import Testbed.Http.Job

/-!
# The course of an exchange

What happens to an exchange from its start on, one thing after another (`Move`), and what is seen of
it on the way (`Course`).

**Moves.** The handler carries out an operation, or the server gives a response that has not begun
up; in between the client takes a chunk or leaves, and the server begins to close. The moves of the
handler and those of the others come in any order.

**Two states.** Until its head is sent, an exchange is *open*: nothing is under way, and it holds
all its ends (`Open`). Afterwards it is *streaming*: the receiver of chunks has gone with the head,
and chunks can be sent (`Streaming`). A move leads from the one to the other only if it is the first
write of a streamed response (`Open.move`), and never back (`Streaming.move`).
-/

namespace Testbed.Http

/-- A request for the root that says nothing else. -/
def Request.plain : Request := .make "GET" ⟨"http", none, "/", none, none⟩ [] []

/-- One thing that happens to an exchange. -/
inductive Move where
  /-- The handler carries out an operation. -/
  | op (op : Op)
  /-- The server gives a response that has not begun up for a status. -/
  | fail (status : UInt16)
  /-- The client takes the oldest chunk. -/
  | receive
  /-- The client leaves. -/
  | leave
  /-- The server begins to close. -/
  | close
deriving DecidableEq, Repr

namespace Exchange

variable {x y : Exchange}

/-! ## Moves -/

/-- The exchange after an operation, every wait being over at once. -/
def act (x : Exchange) (op : Op) : Exchange :=
  ((x.perform .hasty op).map Prod.snd).getD x

/-- The exchange after a move. -/
def move (x : Exchange) : Move → Exchange
  | .op op => x.act op
  | .fail status => x.fail status
  | .receive => (x.receive?.map Prod.snd).getD x
  | .leave => x.leave
  | .close => x.close

/-- The chunk that a move hands to the client. -/
def handed (x : Exchange) : Move → List Bytes
  | .receive => (x.receive?.map Prod.fst).toList
  | _ => []

/-- What a write is answered. -/
def answered (x : Exchange) : Move → List (Except Failure Unit)
  | .op (.write data) => [(x.write data).1]
  | _ => []

/-- The head that reaches the client between two states. -/
def arrived (x y : Exchange) : List Head :=
  if y.delivered = x.delivered then [] else y.delivered.toList

@[simp] theorem act_write (x : Exchange) (data : Bytes) : x.act (.write data) = (x.write data).2 :=
  rfl

@[simp] theorem act_setParams (x : Exchange) (params : List String) :
    x.act (.setParams params) = { x with params := params } := rfl

@[simp] theorem act_setStatus (x : Exchange) (status : UInt16) :
    x.act (.setStatus status) = { x with status := status } := rfl

@[simp] theorem act_setHeader (x : Exchange) (name value : String) :
    x.act (.setHeader name value) =
      { x with headers := x.headers.filter (fun h => !sameName h.1 name) ++ [(name, value)] } := rfl

@[simp] theorem act_addHeader (x : Exchange) (name value : String) :
    x.act (.addHeader name value) = { x with headers := x.headers ++ [(name, value)] } := rfl

@[simp] theorem act_setChunked (x : Exchange) :
    x.act .setChunked = { x with chunked := true } := rfl

@[simp] theorem act_request (x : Exchange) : x.act .request = x := rfl

@[simp] theorem act_param (x : Exchange) (i : Nat) : x.act (.param i) = x := rfl

@[simp] theorem act_isCommitted (x : Exchange) : x.act .isCommitted = x := rfl

@[simp] theorem act_wait (x : Exchange) (limit : Option Duration) : x.act (.wait limit) = x := by
  cases h : x.isClosed <;> simp [act, perform, h, Patience.hasty]

/-- Whatever waits run out of time, an operation that is carried out leads to the same exchange. -/
theorem act_of_perform {patience : Patience} {op : Op} {reply : op.Reply}
    (h : x.perform patience op = some (reply, y)) : y = x.act op := by
  cases op with
  | wait limit =>
    rw [act_wait]
    simp only [perform] at h
    split_ifs at h <;> simp_all
  | _ =>
    simp only [perform, Option.some.injEq] at h
    simp [act, perform, h]

/-! ## What stays -/

theorem takeBody_frame (x : Exchange) : x.takeBody.2.request = x.request ∧
    x.takeBody.2.listening = x.listening ∧ x.takeBody.2.underway = x.underway := by
  unfold takeBody
  split_ifs <;> exact ⟨rfl, rfl, rfl⟩

/-- What a commit leaves alone. -/
theorem commit_frame (x : Exchange) : x.commit.2.request = x.request ∧
    x.commit.2.listening = x.listening ∧ x.commit.2.underway = x.underway := by
  have h := takeBody_frame x
  cases hp : x.headPending <;> cases hl : x.listening <;> simp [commit, hp, hl, h]

/-- What a write leaves alone. -/
theorem write_frame (x : Exchange) (data : Bytes) :
    (x.write data).2.request = x.request ∧ (x.write data).2.listening = x.listening := by
  have hsend (y : Exchange) : (y.sendChunk data).2.request = y.request ∧
      (y.sendChunk data).2.listening = y.listening := by
    unfold sendChunk
    split_ifs <;> exact ⟨rfl, rfl⟩
  obtain ⟨hr, hl, -⟩ := commit_frame x
  unfold write
  rcases hx : x.commit with ⟨_ | _, y⟩ <;> rw [hx] at hr hl <;> split_ifs <;> simp_all

/-- The request stays the same. -/
theorem request_move (x : Exchange) (m : Move) : (x.move m).request = x.request := by
  cases m with
  | op op =>
    cases op with
    | write data => exact (write_frame x data).1
    | wait limit => simp only [move, act_wait]
    | _ => rfl
  | fail status => simp only [move, fail]; split_ifs <;> rfl
  | receive => cases hu : x.underway <;> simp [move, receive?, hu]
  | leave | close => rfl

/-- The client is there until it leaves. -/
theorem listening_move {m : Move} (h : m ≠ .leave) : (x.move m).listening = x.listening := by
  cases m with
  | op op =>
    cases op with
    | write data => exact (write_frame x data).2
    | wait limit => simp only [move, act_wait]
    | _ => rfl
  | fail status => simp only [move, fail]; split_ifs <;> rfl
  | receive => cases hu : x.underway <;> simp [move, receive?, hu]
  | leave => exact absurd rfl h
  | close => rfl

/-! ## Commits -/

/-- The head that a commit would send. -/
def pendingHead (x : Exchange) : Head := ⟨x.status, x.headers, x.takeBody.1⟩

/-- Nothing of the response was sent, and all ends are there. -/
structure Open (x : Exchange) : Prop where
  headPending : x.headPending = true
  sending : x.sending = true
  receiving : x.receiving = true
  delivered : x.delivered = none
  underway : x.underway = []

/-- The head of a streamed response was sent, and chunks can follow. -/
structure Streaming (x : Exchange) : Prop where
  headPending : x.headPending = false
  sending : x.sending = true
  receiving : x.receiving = false
  chunked : x.chunked = true

theorem open_start (request : Request) (closing : Bool) : (start request closing).Open :=
  ⟨rfl, rfl, rfl, rfl, rfl⟩

theorem Open.isCommitted (h : x.Open) : x.isCommitted = false := by
  simp [Exchange.isCommitted, h.headPending]

theorem Streaming.isCommitted (h : x.Streaming) : x.isCommitted = true := by
  simp [Exchange.isCommitted, h.headPending]

theorem commit_of_sent (h : x.headPending = false) : x.commit = (.ok (), x) := by
  simp [commit, h]

/-- The body of an open exchange is in its buffer, or it follows. -/
theorem Open.takeBody (h : x.Open) : x.takeBody =
    if x.chunked then (.stream, { x with receiving := false })
    else (.full x.buffer, { x with buffer := [] }) := by
  simp [Exchange.takeBody, h.receiving]

/-- A commit sends the head that is pending to a client that is there. -/
theorem delivered_commit (h : x.headPending = true) (hl : x.listening = true) :
    x.commit.2.delivered = some x.pendingHead := by
  simp [commit, h, hl, pendingHead, takeBody_frame x]

/-- The first write of a streamed response sends the head, and the client may be gone. -/
theorem Open.write_chunked (h : x.Open) (hc : x.chunked = true) (data : Bytes) :
    x.write data =
      (if x.listening then .ok () else .error .disconnected,
        { x with
          headPending := false
          headers := []
          receiving := false
          delivered := if x.listening then some x.pendingHead else none
          underway := if x.listening && !data.isEmpty then [data] else [] }) := by
  obtain ⟨hp, hs, hr, hd, hu⟩ := h
  cases hl : x.listening <;> cases hn : data.isEmpty <;>
    simp [write, commit, Exchange.takeBody, pendingHead, sendChunk, hasReceiver, *]

/-- What is written before the response is a streamed one is collected. -/
theorem Open.write_collected (h : x.Open) (hc : x.chunked = false) (data : Bytes) :
    x.write data = (.ok (), { x with buffer := x.buffer ++ data }) := by
  simp [write, hc, h.isCommitted]

/-- What is written after the head was sent is a chunk of its own, unless it is empty. -/
theorem Streaming.write (h : x.Streaming) (data : Bytes) :
    x.write data =
      if data.isEmpty then (.ok (), x)
      else if x.listening then (.ok (), { x with underway := x.underway ++ [data] })
      else (.error .disconnected, x) := by
  simp [Exchange.write, h.chunked, commit_of_sent h.headPending, sendChunk, hasReceiver, h.sending,
    h.receiving]

/-! ## What a move can do -/

/-- A move leaves an exchange open unless it is the first write of a streamed response. -/
theorem Open.move (h : x.Open) (m : Move) :
    (x.move m).Open ∨ x.chunked = true ∧ ∃ data, m = .op (.write data) := by
  have hx := h
  obtain ⟨hp, hs, hr, hd, hu⟩ := h
  cases m with
  | op op =>
    cases op with
    | write data =>
      cases hc : x.chunked with
      | true => exact .inr ⟨rfl, data, rfl⟩
      | false =>
        left
        simp only [Exchange.move, act_write, hx.write_collected hc]
        exact ⟨hp, hs, hr, hd, hu⟩
    | wait limit => left; simp only [Exchange.move, act_wait]; exact hx
    | _ => exact .inl ⟨hp, hs, hr, hd, hu⟩
  | fail status =>
    left
    simp only [Exchange.move, fail, hx.isCommitted, Bool.false_eq_true, if_false]
    exact ⟨hp, hs, hr, hd, hu⟩
  | receive => left; simp only [Exchange.move, receive?, hu]; exact hx
  | leave => exact .inl ⟨hp, hs, hr, hd, rfl⟩
  | close => exact .inl ⟨hp, hs, hr, hd, hu⟩

/-- The first write of a streamed response begins the stream. -/
theorem Open.streaming_write (h : x.Open) (hc : x.chunked = true) (data : Bytes) :
    (x.move (.op (.write data))).Streaming := by
  simp only [Exchange.move, act_write, h.write_chunked hc]
  exact ⟨rfl, h.sending, rfl, hc⟩

/-- A stream goes on whatever happens, and the head stays as it was sent. -/
theorem Streaming.move (h : x.Streaming) (m : Move) :
    (x.move m).Streaming ∧ (x.move m).delivered = x.delivered := by
  have hx := h
  obtain ⟨hp, hs, hr, hc⟩ := h
  cases m with
  | op op =>
    cases op with
    | write data =>
      simp only [Exchange.move, act_write, hx.write]
      split_ifs <;> exact ⟨⟨hp, hs, hr, hc⟩, rfl⟩
    | wait limit => simp only [Exchange.move, act_wait]; exact ⟨hx, trivial⟩
    | setChunked => exact ⟨⟨hp, hs, hr, rfl⟩, rfl⟩
    | _ => exact ⟨⟨hp, hs, hr, hc⟩, rfl⟩
  | fail status =>
    simp only [Exchange.move, fail, hx.isCommitted, if_true]
    exact ⟨hx, trivial⟩
  | receive =>
    cases hu : x.underway with
    | nil => simp only [Exchange.move, receive?, hu]; exact ⟨hx, rfl⟩
    | cons chunk rest =>
      simp only [Exchange.move, receive?, hu]
      exact ⟨⟨hp, hs, hr, hc⟩, rfl⟩
  | leave => exact ⟨⟨hp, hs, hr, hc⟩, rfl⟩
  | close => exact ⟨⟨hp, hs, hr, hc⟩, rfl⟩

/-! ## Many moves -/

/-- The exchange after some moves. -/
def after (x : Exchange) (ms : List Move) : Exchange := ms.foldl move x

@[simp] theorem after_nil (x : Exchange) : x.after [] = x := rfl

@[simp] theorem after_cons (x : Exchange) (m : Move) (ms : List Move) :
    x.after (m :: ms) = (x.move m).after ms := rfl

theorem after_append (x : Exchange) (ms ns : List Move) :
    x.after (ms ++ ns) = (x.after ms).after ns := List.foldl_append

theorem request_after (x : Exchange) (ms : List Move) : (x.after ms).request = x.request := by
  induction ms generalizing x with
  | nil => rfl
  | cons m ms ih => rw [after_cons, ih, request_move]

theorem listening_after {ms : List Move} (h : .leave ∉ ms) :
    (x.after ms).listening = x.listening := by
  induction ms generalizing x with
  | nil => rfl
  | cons m ms ih =>
    rw [List.mem_cons, not_or] at h
    exact (ih h.2).trans (listening_move (Ne.symm h.1))

theorem Streaming.after (h : x.Streaming) (ms : List Move) :
    (x.after ms).Streaming ∧ (x.after ms).delivered = x.delivered := by
  induction ms generalizing x with
  | nil => exact ⟨h, rfl⟩
  | cons m ms ih =>
    obtain ⟨hs, hd⟩ := h.move m
    exact ⟨(ih hs).1, (ih hs).2.trans hd⟩

/-- **An exchange is always open or streaming.** -/
theorem Open.after (h : x.Open) (ms : List Move) : (x.after ms).Open ∨ (x.after ms).Streaming := by
  induction ms generalizing x with
  | nil => exact .inl h
  | cons m ms ih =>
    rcases h.move m with ho | ⟨hc, data, rfl⟩
    · exact ih ho
    · exact .inr ((h.streaming_write hc data).after ms).1

end Exchange

/-! ## What is seen -/

/-- An exchange and what was seen of it so far. -/
structure Course where
  exchange : Exchange
  /-- The heads that reached the client. -/
  heads : List Head
  /-- The chunks that the client has taken. -/
  received : List Bytes
  /-- What the writes were answered. -/
  answers : List (Except Failure Unit)
deriving Repr

namespace Course

/-- The course of an exchange that begins. -/
def start (request : Request) (closing : Bool) : Course := ⟨.start request closing, [], [], []⟩

/-- The course after a move. -/
def step (c : Course) (m : Move) : Course where
  exchange := c.exchange.move m
  heads := c.heads ++ c.exchange.arrived (c.exchange.move m)
  received := c.received ++ c.exchange.handed m
  answers := c.answers ++ c.exchange.answered m

/-- The course after some moves. -/
def run (c : Course) (ms : List Move) : Course := ms.foldl step c

/-- The course of an exchange whose handler has ended. -/
def conclude (ending : Ending) (c : Course) : Course :=
  { c with
    exchange := Job.conclude ending c.exchange
    heads := c.heads ++ c.exchange.arrived (Job.conclude ending c.exchange) }

@[simp] theorem run_nil (c : Course) : c.run [] = c := rfl

@[simp] theorem run_cons (c : Course) (m : Move) (ms : List Move) :
    c.run (m :: ms) = (c.step m).run ms := rfl

theorem run_append (c : Course) (ms ns : List Move) : c.run (ms ++ ns) = (c.run ms).run ns :=
  List.foldl_append

theorem exchange_run (c : Course) (ms : List Move) :
    (c.run ms).exchange = c.exchange.after ms := by
  induction ms generalizing c with
  | nil => rfl
  | cons m ms ih => exact ih (c.step m)

end Course
end Testbed.Http
