import Mathlib.Data.List.TakeWhile
import Testbed.Proofs.Http.Commit

/-!
# What is written and what arrives

The writes of a handler go two ways. What is written before the response is made a streamed one is
collected and sent with the head (`collected`); every later write is a chunk (`streamed`).

**Theorem (`body_eq_written_iff`).** Let the client stay. When the handler ends well, the client has
the collected data if the response was never made a streamed one, and the chunks alone if it was. So
it has all that was written if and only if nothing had been collected when the response was made a
streamed one.

The proof follows the course move by move: as long as the exchange is open it holds what was set and
collected so far (`Collecting`), and from the first streamed write on the chunks taken and under way
are the streamed writes that are not empty (`Sending`).
-/

namespace Testbed.Http

namespace Move

/-! ## What moves write and set -/

/-- The data that a move writes. -/
def data : Move → List Bytes
  | .op (.write data) => [data]
  | _ => []

/-- Whether a move neither gives the response up nor takes the client away. -/
def isSteady : Move → Bool
  | .fail _ | .leave => false
  | _ => true

/-- The status to send after a move. -/
def status (m : Move) (status : UInt16) : UInt16 :=
  match m with
  | .op (.setStatus code) => code
  | _ => status

/-- The headers to send after a move. -/
def headers (m : Move) (headers : List (String × String)) : List (String × String) :=
  match m with
  | .op (.setHeader name value) =>
    headers.filter (fun h => !Exchange.sameName h.1 name) ++ [(name, value)]
  | .op (.addHeader name value) => headers ++ [(name, value)]
  | _ => headers

/-- The status to send after some moves. -/
def statusSet (ms : List Move) : UInt16 := ms.foldl (fun s m => m.status s) 200

/-- The headers to send after some moves. -/
def headersSet (ms : List Move) : List (String × String) := ms.foldl (fun hs m => m.headers hs) []

/-- The data of all writes, in order. -/
def written (ms : List Move) : List Bytes := ms.flatMap data

/-- The data of the writes before the response is made a streamed one. -/
def collected (ms : List Move) : List Bytes := written (ms.takeWhile (· ≠ .op .setChunked))

/-- The data of the writes after the response is made a streamed one. -/
def streamed (ms : List Move) : List Bytes := written (ms.dropWhile (· ≠ .op .setChunked))

/-- The moves before the first streamed write; all moves if there is none. -/
def unsent (ms : List Move) : List Move :=
  ms.takeWhile (· ≠ .op .setChunked) ++
    (ms.dropWhile (· ≠ .op .setChunked)).takeWhile (·.data.isEmpty)

/-- The head of a streamed response. -/
def streamHead (ms : List Move) : Head := ⟨statusSet (unsent ms), headersSet (unsent ms), .stream⟩

variable {ms : List Move}

theorem data_eq_nil_or_write (m : Move) : m.data = [] ∨ ∃ data, m = .op (.write data) := by
  cases m with
  | op op => cases op <;> simp [data]
  | _ => exact .inl rfl

theorem written_append (ms ns : List Move) : written (ms ++ ns) = written ms ++ written ns :=
  List.flatMap_append

theorem written_singleton (m : Move) : written [m] = m.data := List.append_nil _

theorem collected_append_streamed (ms : List Move) : collected ms ++ streamed ms = written ms := by
  rw [collected, streamed, ← written_append, List.takeWhile_append_dropWhile]

theorem ne_setChunked (h : .op .setChunked ∉ ms) :
    ∀ m ∈ ms, decide (m ≠ .op .setChunked) = true := by
  intro m hm
  rw [decide_eq_true_iff]
  rintro rfl
  exact h hm

theorem collected_of_not_mem (h : .op .setChunked ∉ ms) : collected ms = written ms := by
  rw [collected, List.takeWhile_eq_self_iff.mpr (ne_setChunked h)]

theorem streamed_of_not_mem (h : .op .setChunked ∉ ms) : streamed ms = [] := by
  rw [streamed, List.dropWhile_eq_nil_iff.mpr (ne_setChunked h)]
  rfl

/-- The first switch to a streamed response parts what is collected from what is streamed. -/
theorem collected_streamed_split {as : List Move} (h : .op .setChunked ∉ as) (bs : List Move) :
    collected (as ++ .op .setChunked :: bs) = written as ∧
      streamed (as ++ .op .setChunked :: bs) = written bs := by
  rw [collected, streamed, List.takeWhile_append_of_pos (ne_setChunked h),
    List.dropWhile_append_of_pos (ne_setChunked h)]
  constructor
  · simp
  · simp [written, data]

theorem collected_concat (ms : List Move) (m : Move) :
    collected (ms ++ [m]) =
      if .op .setChunked ∈ ms then collected ms else collected ms ++ m.data := by
  split_ifs with h
  · obtain ⟨as, bs, rfl, ha⟩ := List.eq_append_cons_of_mem h
    rw [List.append_assoc, List.cons_append, (collected_streamed_split ha _).1,
      (collected_streamed_split ha _).1]
  · rw [collected_of_not_mem h]
    by_cases hm : m = .op .setChunked
    · rw [hm, (collected_streamed_split h []).1]
      exact (List.append_nil _).symm
    · rw [collected_of_not_mem (by simp [h, Ne.symm hm]), written_append, written_singleton]

theorem streamed_concat (ms : List Move) (m : Move) :
    streamed (ms ++ [m]) =
      if .op .setChunked ∈ ms then streamed ms ++ m.data else [] := by
  split_ifs with h
  · obtain ⟨as, bs, rfl, ha⟩ := List.eq_append_cons_of_mem h
    rw [List.append_assoc, List.cons_append, (collected_streamed_split ha _).2,
      (collected_streamed_split ha _).2, written_append, written_singleton]
  · by_cases hm : m = .op .setChunked
    · rw [hm, (collected_streamed_split h []).2]
      rfl
    · exact streamed_of_not_mem (by simp [h, Ne.symm hm])

theorem data_isEmpty_of_written (h : written ms = []) : ∀ m ∈ ms, m.data.isEmpty = true := by
  intro m hm
  rw [List.isEmpty_iff]
  exact List.flatMap_eq_nil_iff.mp h m hm

theorem unsent_split {as : List Move} (h : .op .setChunked ∉ as) (bs : List Move) :
    unsent (as ++ .op .setChunked :: bs) =
      as ++ .op .setChunked :: bs.takeWhile (·.data.isEmpty) := by
  rw [unsent, List.takeWhile_append_of_pos (ne_setChunked h),
    List.dropWhile_append_of_pos (ne_setChunked h)]
  simp [data]

/-- The first streamed write has all moves before it. -/
theorem unsent_concat_write (h : .op .setChunked ∈ ms) (hs : streamed ms = []) (data : Bytes) :
    unsent (ms ++ [.op (.write data)]) = ms := by
  obtain ⟨as, bs, rfl, ha⟩ := List.eq_append_cons_of_mem h
  rw [(collected_streamed_split ha bs).2] at hs
  rw [List.append_assoc, List.cons_append, unsent_split ha,
    List.takeWhile_append_of_pos (data_isEmpty_of_written hs)]
  simp [Move.data]

/-- Behind a streamed write nothing changes the moves before the first. -/
theorem unsent_concat (hs : streamed ms ≠ []) (m : Move) : unsent (ms ++ [m]) = unsent ms := by
  have h : .op .setChunked ∈ ms := by
    by_contra h
    exact hs (streamed_of_not_mem h)
  obtain ⟨as, bs, rfl, ha⟩ := List.eq_append_cons_of_mem h
  rw [(collected_streamed_split ha bs).2] at hs
  rw [List.append_assoc, List.cons_append, unsent_split ha, unsent_split ha,
    List.takeWhile_append, if_neg]
  intro hlen
  have hall := List.takeWhile_eq_self_iff.mp ((List.takeWhile_prefix _).eq_of_length hlen)
  refine hs (List.flatMap_eq_nil_iff.mpr fun b hb => ?_)
  exact List.isEmpty_iff.mp (hall b hb)

theorem statusSet_concat (ms : List Move) (m : Move) :
    statusSet (ms ++ [m]) = m.status (statusSet ms) := by
  simp [statusSet]

theorem headersSet_concat (ms : List Move) (m : Move) :
    headersSet (ms ++ [m]) = m.headers (headersSet ms) := by
  simp [headersSet]

end Move

namespace Exchange

variable {x : Exchange}

/-! ## Steady moves, one at a time -/

/-- What a steady move does to an exchange that stays open. -/
theorem Open.move_of_isSteady (h : x.Open) {m : Move} (hm : m.isSteady = true)
    (ho : x.chunked = false ∨ m.data = []) :
    x.move m = { x with
      params := (x.move m).params
      closing := (x.move m).closing
      status := m.status x.status
      headers := m.headers x.headers
      chunked := x.chunked || decide (m = .op .setChunked)
      buffer := x.buffer ++ m.data.flatten } := by
  cases m with
  | op op =>
    cases op with
    | write data =>
      have hc : x.chunked = false := ho.resolve_right (by simp [Move.data])
      simp [Exchange.move, h.write_collected hc, Move.status, Move.headers, Move.data, hc]
    | _ => simp [Exchange.move, Move.status, Move.headers, Move.data]
  | receive =>
    have : x.move .receive = x := by simp [Exchange.move, receive?, h.underway]
    simp [this, Move.status, Move.headers, Move.data]
  | close => simp [Exchange.move, close, Move.status, Move.headers, Move.data]
  | _ => cases hm

/-- Nothing can be taken from an open exchange. -/
theorem Open.handed (h : x.Open) (m : Move) : x.handed m = [] := by
  cases m with
  | receive => simp [Exchange.handed, receive?, h.underway]
  | _ => rfl

/-- As long as the client is there, every write succeeds. -/
theorem Open.answered (h : x.Open) (hl : x.listening = true) (m : Move) :
    ∀ a ∈ x.answered m, a = .ok () := by
  cases m with
  | op op =>
    cases op with
    | write data =>
      cases hc : x.chunked <;> simp [Exchange.answered, h.write_collected, h.write_chunked, hc, hl]
    | _ => simp [Exchange.answered]
  | _ => simp [Exchange.answered]

theorem Streaming.answered (h : x.Streaming) (hl : x.listening = true) (m : Move) :
    ∀ a ∈ x.answered m, a = .ok () := by
  cases m with
  | op op =>
    cases op with
    | write data => cases hd : data.isEmpty <;> simp [Exchange.answered, h.write, hl, hd]
    | _ => simp [Exchange.answered]
  | _ => simp [Exchange.answered]

/-- Chunks taken and under way after a steady move of a stream whose client is there. -/
theorem Streaming.chunks_move (h : x.Streaming) (hl : x.listening = true) {m : Move}
    (hm : m.isSteady = true) :
    x.handed m ++ (x.move m).underway = x.underway ++ m.data.filter (!·.isEmpty) := by
  cases m with
  | op op =>
    cases op with
    | write data =>
      cases hd : data.isEmpty <;> simp [handed, Exchange.move, h.write, hl, Move.data, hd]
    | _ => simp [handed, Exchange.move, Move.data]
  | receive =>
    cases hu : x.underway <;> simp [handed, Exchange.move, receive?, hu, Move.data]
  | close => simp [handed, Exchange.move, close, Move.data]
  | _ => cases hm

end Exchange

namespace Course

variable {ms : List Move} {c : Course}

/-- The chunks that the client has taken or can take. -/
def chunks (c : Course) : List Bytes := c.received ++ c.exchange.underway

/-- Nothing was sent so far: the exchange holds what was set and collected. -/
structure Collecting (ms : List Move) (c : Course) : Prop extends c.Open where
  listening : c.exchange.listening = true
  chunked : c.exchange.chunked = decide (.op .setChunked ∈ ms)
  streamed : Move.streamed ms = []
  buffer : c.exchange.buffer = (Move.collected ms).flatten
  status : c.exchange.status = Move.statusSet ms
  headers : c.exchange.headers = Move.headersSet ms
  received : c.received = []
  answers : ∀ a ∈ c.answers, a = .ok ()

/-- The head was sent: what is streamed arrives chunk by chunk. -/
structure Sending (ms : List Move) (c : Course) : Prop where
  exchange : c.exchange.Streaming
  listening : c.exchange.listening = true
  mem : .op .setChunked ∈ ms
  streamed : Move.streamed ms ≠ []
  chunks : c.chunks = (Move.streamed ms).filter (!·.isEmpty)
  heads : c.heads = [Move.streamHead ms]
  delivered : c.exchange.delivered = some (Move.streamHead ms)
  answers : ∀ a ∈ c.answers, a = .ok ()

theorem collecting_start (request : Request) (closing : Bool) :
    Collecting [] (start request closing) where
  toOpen := open_start request closing
  listening := rfl
  chunked := rfl
  streamed := rfl
  buffer := rfl
  status := rfl
  headers := rfl
  received := rfl
  answers := by simp [start]

theorem ne_leave {m : Move} (hm : m.isSteady = true) : m ≠ .leave := by
  rintro rfl
  cases hm

/-- A steady move of an open exchange, the first streamed write apart. -/
theorem Collecting.step (h : Collecting ms c) {m : Move} (hm : m.isSteady = true)
    (ho : c.exchange.chunked = false ∨ m.data = []) : Collecting (ms ++ [m]) (c.step m) := by
  have hx := h.exchange
  have hmove : (c.step m).exchange = _ := hx.move_of_isSteady hm ho
  have hdata : .op .setChunked ∈ ms → m.data = [] := by
    intro hmem
    refine ho.resolve_left ?_
    simp [h.chunked, hmem]
  exact {
    toOpen := h.toOpen.step_of_open (by
      rw [hx.move_of_isSteady hm ho]
      exact ⟨hx.headPending, hx.sending, hx.receiving, hx.delivered, hx.underway⟩)
    listening := (Exchange.listening_move (ne_leave hm)).trans h.listening
    chunked := by
      rw [hmove]
      simp [h.chunked, eq_comm]
    streamed := by
      rw [Move.streamed_concat]
      split_ifs with hmem
      · rw [h.streamed, hdata hmem, List.append_nil]
      · rfl
    buffer := by
      rw [hmove, Move.collected_concat]
      split_ifs with hmem
      · simp [h.buffer, hdata hmem]
      · simp [h.buffer]
    status := by
      rw [hmove, Move.statusSet_concat, ← h.status]
    headers := by
      rw [hmove, Move.headersSet_concat, ← h.headers]
    received := by
      show c.received ++ c.exchange.handed m = []
      rw [h.received, hx.handed, List.append_nil]
    answers := by
      intro a ha
      rcases List.mem_append.mp ha with ha | ha
      · exact h.answers a ha
      · exact hx.answered h.listening m a ha }

/-- The first streamed write. -/
theorem Collecting.step_write (h : Collecting ms c) (hc : c.exchange.chunked = true)
    (data : Bytes) : Sending (ms ++ [.op (.write data)]) (c.step (.op (.write data))) := by
  have hx := h.exchange
  have hmem : .op .setChunked ∈ ms := by simpa [h.chunked] using hc
  have hstreamed : Move.streamed (ms ++ [.op (.write data)]) = [data] := by
    rw [Move.streamed_concat, if_pos hmem, h.streamed]
    rfl
  have hhead : c.exchange.pendingHead = Move.streamHead (ms ++ [.op (.write data)]) := by
    rw [Move.streamHead, Move.unsent_concat_write hmem h.streamed, ← h.status, ← h.headers]
    simp [Exchange.pendingHead, hx.takeBody, hc]
  exact {
    exchange := hx.streaming_write hc data
    listening := (Exchange.listening_move (by simp)).trans h.listening
    mem := List.mem_append_left _ hmem
    streamed := by simp [hstreamed]
    chunks := by
      show (c.received ++ c.exchange.handed _) ++ (c.exchange.write data).2.underway = _
      rw [hstreamed, h.received, hx.handed, hx.write_chunked hc, h.listening]
      cases hd : data.isEmpty <;> simp [hd]
    heads := by
      rw [h.heads_step_write hc, if_pos h.listening, hhead]
    delivered := by
      show (c.exchange.write data).2.delivered = _
      simp only [hx.write_chunked hc, h.listening, if_true, hhead]
    answers := by
      intro a ha
      rcases List.mem_append.mp ha with ha | ha
      · exact h.answers a ha
      · exact hx.answered h.listening _ a ha }

/-- A steady move of a stream. -/
theorem Sending.step (h : Sending ms c) {m : Move} (hm : m.isSteady = true) :
    Sending (ms ++ [m]) (c.step m) := by
  have hx := h.exchange
  exact {
    exchange := (hx.move m).1
    listening := (Exchange.listening_move (ne_leave hm)).trans h.listening
    mem := List.mem_append_left _ h.mem
    streamed := by simp [Move.streamed_concat, h.mem, h.streamed]
    chunks := by
      show (c.received ++ c.exchange.handed m) ++ (c.exchange.move m).underway = _
      rw [List.append_assoc, hx.chunks_move h.listening hm, ← List.append_assoc,
        Move.streamed_concat, if_pos h.mem, List.filter_append, ← h.chunks]
      rfl
    heads := by
      rw [heads_step_of_streaming hx, h.heads, Move.streamHead, Move.streamHead,
        Move.unsent_concat h.streamed]
    delivered := by
      show (c.exchange.move m).delivered = _
      rw [(hx.move m).2, h.delivered, Move.streamHead, Move.streamHead,
        Move.unsent_concat h.streamed]
    answers := by
      intro a ha
      rcases List.mem_append.mp ha with ha | ha
      · exact h.answers a ha
      · exact hx.answered h.listening m a ha }

theorem Sending.run (h : Sending ms c) {ns : List Move} (hns : ∀ m ∈ ns, m.isSteady = true) :
    Sending (ms ++ ns) (c.run ns) := by
  induction ns generalizing ms c with
  | nil => simpa using h
  | cons n ns ih =>
    rw [List.forall_mem_cons] at hns
    have := ih (h.step hns.1) hns.2
    rwa [List.append_assoc] at this

/-- **A course whose client stays collects, and then sends.** -/
theorem Collecting.run (h : Collecting ms c) {ns : List Move} (hns : ∀ m ∈ ns, m.isSteady = true) :
    Collecting (ms ++ ns) (c.run ns) ∨ Sending (ms ++ ns) (c.run ns) := by
  induction ns generalizing ms c with
  | nil => simpa using .inl h
  | cons n ns ih =>
    rw [List.forall_mem_cons] at hns
    rw [← List.singleton_append, ← List.append_assoc]
    rcases n.data_eq_nil_or_write with hd | ⟨data, rfl⟩
    · exact ih (h.step hns.1 (.inr hd)) hns.2
    · cases hc : c.exchange.chunked with
      | false => exact ih (h.step hns.1 (.inl hc)) hns.2
      | true => exact .inr ((h.step_write hc data).run hns.2)

theorem collecting_or_sending (request : Request) (closing : Bool)
    (hms : ∀ m ∈ ms, m.isSteady = true) :
    Collecting ms ((start request closing).run ms) ∨ Sending ms ((start request closing).run ms) :=
  (collecting_start request closing).run hms

/-- The head that a commit would send. -/
theorem Collecting.pendingHead (h : Collecting ms c) :
    c.exchange.pendingHead = ⟨Move.statusSet ms, Move.headersSet ms,
      if .op .setChunked ∈ ms then .stream else .full (Move.written ms).flatten⟩ := by
  rw [Exchange.pendingHead, h.exchange.takeBody, h.chunked, ← h.status, ← h.headers]
  by_cases hmem : .op .setChunked ∈ ms
  · simp [hmem]
  · simp [hmem, h.buffer, Move.collected_of_not_mem hmem]

/-! ## The body -/

/-- The body that the client has in the end: that of the head, or all chunks. -/
def body? (c : Course) : Option Bytes :=
  match c.heads with
  | [⟨_, _, .full bytes⟩] => some bytes
  | [⟨_, _, .stream⟩] => some c.chunks.flatten
  | _ => none

theorem flatten_filter_not_isEmpty (l : List Bytes) :
    (l.filter (!·.isEmpty)).flatten = l.flatten := by
  induction l with
  | nil => rfl
  | cons a l ih => cases a <;> simp [ih]

theorem received_run (h : .receive ∉ ms) (c : Course) : (c.run ms).received = c.received := by
  induction ms generalizing c with
  | nil => rfl
  | cons m ms ih =>
    rw [List.mem_cons, not_or] at h
    have hm : c.exchange.handed m = [] := by
      cases m with
      | receive => exact absurd rfl h.1
      | _ => rfl
    rw [run_cons, ih h.2]
    show c.received ++ c.exchange.handed m = c.received
    rw [hm, List.append_nil]

theorem chunks_finish (c : Course) : (c.conclude .done).chunks = c.chunks := by
  show c.received ++ c.exchange.commit.2.underway = _
  rw [(Exchange.commit_frame _).2.2, chunks]

/-- A finished course in which nothing was sent before. -/
theorem Collecting.body?_finish (h : Collecting ms c) :
    (c.conclude .done).body? =
      some (if .op .setChunked ∈ ms then [] else (Move.written ms).flatten) := by
  have hheads := h.heads_finish h.listening
  have hchunks : (c.conclude .done).chunks = [] := by
    rw [chunks_finish, Course.chunks, h.received, h.exchange.underway, List.append_nil]
  rw [h.pendingHead] at hheads
  split_ifs at hheads ⊢ <;> simp [body?, hheads, hchunks]

/-- A finished stream. -/
theorem Sending.body?_finish (h : Sending ms c) :
    (c.conclude .done).body? = some (Move.streamed ms).flatten := by
  have hheads := (heads_conclude_of_streaming h.exchange .done).trans h.heads
  simp only [body?, hheads, Move.streamHead]
  rw [chunks_finish, h.chunks, flatten_filter_not_isEmpty]

/-- **What is collected is lost by a later switch to a streamed response, and nothing else is.** Let
a handler carry out any operations and end well, and let the client stay and take chunks whenever it
does. Then every write succeeds and the body ends. It is all that was written if the response was
never made a streamed one, and what was written afterwards if it was; so it is all that was written
if and only if nothing was collected before the switch. -/
theorem body_eq_written_iff (request : Request) (closing : Bool) (ms : List Move)
    (hms : ∀ m ∈ ms, m.isSteady = true) :
    let c := ((start request closing).run ms).conclude .done
    (∀ a ∈ c.answers, a = .ok ()) ∧ c.exchange.sending = false ∧
    c.body? = some (if .op .setChunked ∈ ms then (Move.streamed ms).flatten
      else (Move.written ms).flatten) ∧
    (c.body? = some (Move.written ms).flatten ↔
      .op .setChunked ∈ ms → (Move.collected ms).flatten = []) := by
  intro c
  have hrun := collecting_or_sending request closing hms
  have hanswers : ∀ a ∈ c.answers, a = .ok () := by
    rcases hrun with h | h
    · exact h.answers
    · exact h.answers
  have hbody : c.body? = some (if .op .setChunked ∈ ms then (Move.streamed ms).flatten
      else (Move.written ms).flatten) := by
    rcases hrun with h | h
    · rw [h.body?_finish]
      split_ifs
      · rw [h.streamed, List.flatten_nil]
      · rfl
    · rw [h.body?_finish, if_pos h.mem]
  refine ⟨hanswers, rfl, hbody, ?_⟩
  rw [hbody, Option.some_inj, ← Move.collected_append_streamed, List.flatten_append]
  split_ifs with hmem
  · simp [hmem]
  · simp [hmem, Move.streamed_of_not_mem hmem]

/-- Two octets are written; the first is lost. -/
theorem late_switch_loses :
    let ms : List Move := [.op (.write [97]), .op .setChunked, .op (.write [98]), .receive]
    let c := ((start .plain false).run ms).conclude .done
    (∀ a ∈ c.answers, a = .ok ()) ∧ c.body? = some [98] ∧
      c.body? ≠ some (Move.written ms).flatten := by
  intro ms c
  have h := body_eq_written_iff .plain false ms (by decide)
  refine ⟨h.1, h.2.2.1, fun he => ?_⟩
  have hc : (Move.collected ms).flatten = [] := h.2.2.2.mp he (by decide)
  exact absurd hc (by decide)

end Course
end Testbed.Http
