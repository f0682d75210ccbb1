import Testbed.Proofs.Http.Course

/-!
# The head is sent once

**Theorem (`head_sent_once`).** In every course at most one head reaches the client. It is the head
that was pending when it was sent, and an exchange that is finished has sent one. Once it is sent,
settings of the status and the headers, and giving the response up, have no effect on what the
client sees or on what later writes are answered, however many of them come and wherever they come.

The last part compares two courses move by move. Behind the commit the two exchanges differ in the
pending status and headers at most (`settled`); a setting keeps the exchange up to this difference
(`settled_move_of_isSetting`), and any other move leads two exchanges that differ in no more to two
that differ in no more, with the same chunk handed over and the same answer (`settled_move_congr`).
-/

namespace Testbed.Http

/-- Whether a move sets the status or a header, or gives the response up. -/
def Move.isSetting : Move → Bool
  | .op (.setStatus _) | .op (.setHeader ..) | .op (.addHeader ..) | .fail _ => true
  | _ => false

namespace Exchange

variable {x y : Exchange}

/-! ## Exchanges up to what only a commit reads -/

/-- An exchange without its pending status and headers. -/
def settled (x : Exchange) : Exchange := { x with status := 0, headers := [] }

theorem settled_eq_iff : x.settled = y.settled ↔
    ∃ status headers, y = { x with status := status, headers := headers } := by
  constructor
  · intro h
    refine ⟨y.status, y.headers, ?_⟩
    obtain ⟨⟩ := x
    obtain ⟨⟩ := y
    simp_all [settled]
  · rintro ⟨status, headers, rfl⟩
    rfl

theorem settled_move_of_isSetting (h : x.Streaming) {m : Move} (hm : m.isSetting = true) :
    (x.move m).settled = x.settled := by
  cases m with
  | op op => cases op <;> first | rfl | cases hm
  | fail status => simp [move, fail, h.isCommitted]
  | _ => cases hm

theorem Streaming.of_settled (h : x.Streaming) (hy : x.settled = y.settled) : y.Streaming := by
  obtain ⟨status, headers, rfl⟩ := settled_eq_iff.mp hy
  exact ⟨h.headPending, h.sending, h.receiving, h.chunked⟩

theorem settled_move_congr (h : x.Streaming) (hy : x.settled = y.settled) {m : Move}
    (hm : m.isSetting = false) :
    (x.move m).settled = (y.move m).settled ∧ x.handed m = y.handed m ∧
      x.answered m = y.answered m := by
  have hy' := h.of_settled hy
  obtain ⟨status, headers, rfl⟩ := settled_eq_iff.mp hy
  cases m with
  | op op =>
    cases op with
    | write data =>
      simp only [move, act_write, handed, answered, h.write, hy'.write]
      split_ifs <;> exact ⟨rfl, trivial, rfl⟩
    | wait limit => simp only [move, act_wait]; exact ⟨rfl, rfl, rfl⟩
    | setStatus | setHeader | addHeader => cases hm
    | _ => exact ⟨rfl, rfl, rfl⟩
  | fail status => cases hm
  | receive => cases hu : x.underway <;> simp [move, handed, answered, receive?, hu, settled]
  | leave | close => exact ⟨rfl, rfl, rfl⟩

/-! ## Endings -/

/-- However a handler of a stream ends, the stream ends and nothing else changes. -/
theorem Streaming.conclude (h : x.Streaming) (ending : Ending) :
    Job.conclude ending x = { x with sending := false } := by
  have hf : x.finish = { x with sending := false } := by
    simp [finish, commit_of_sent h.headPending]
  cases ending with
  | done => exact hf
  | failed reason =>
    have : x.fail reason.status = x := by simp [fail, h.isCommitted]
    simp only [Job.conclude, this, hf]
  | aborted => simp [Job.conclude, abandon, h.headPending, h.receiving]

/-- The head of an open exchange that is finished is the one that was pending. -/
theorem Open.finish (h : x.Open) :
    x.finish.isCommitted = true ∧
      (x.listening = true → x.finish.delivered = some x.pendingHead) := by
  refine ⟨?_, fun hl => delivered_commit h.headPending hl⟩
  cases hl : x.listening <;>
    simp [Exchange.finish, commit, Exchange.isCommitted, h.headPending, takeBody_frame x, hl]

/-! ## Heads -/

theorem arrived_of_eq (h : y.delivered = x.delivered) : x.arrived y = [] := if_pos h

theorem arrived_of_none (h : x.delivered = none) : x.arrived y = y.delivered.toList := by
  unfold arrived
  split_ifs with hd
  · rw [hd, h]; rfl
  · rfl

end Exchange

namespace Course

variable {c d : Course}

/-! ## The head along a course -/

/-- The course is that of an open exchange, of which the client has seen nothing. -/
structure Open (c : Course) : Prop where
  exchange : c.exchange.Open
  heads : c.heads = []

theorem open_start (request : Request) (closing : Bool) : (start request closing).Open :=
  ⟨Exchange.open_start request closing, rfl⟩

theorem Open.step_of_open (h : c.Open) {m : Move} (hm : (c.exchange.move m).Open) :
    (c.step m).Open := by
  refine ⟨hm, ?_⟩
  show c.heads ++ c.exchange.arrived (c.exchange.move m) = []
  rw [h.heads, Exchange.arrived_of_none h.exchange.delivered, hm.delivered]
  rfl

/-- What is sent is the head that was pending, if there is a client to receive it. -/
theorem Open.heads_step_write (h : c.Open) (hc : c.exchange.chunked = true) (data : Bytes) :
    (c.step (.op (.write data))).heads =
      if c.exchange.listening then [c.exchange.pendingHead] else [] := by
  show c.heads ++ c.exchange.arrived (c.exchange.write data).2 = _
  rw [h.heads, Exchange.arrived_of_none h.exchange.delivered, h.exchange.write_chunked hc]
  split_ifs <;> rfl

theorem heads_step_of_streaming (h : c.exchange.Streaming) (m : Move) :
    (c.step m).heads = c.heads := by
  show c.heads ++ c.exchange.arrived (c.exchange.move m) = _
  rw [Exchange.arrived_of_eq (h.move m).2, List.append_nil]

/-- **The head is frozen.** No move takes the commit back, and no other head is sent. -/
theorem run_of_streaming (h : c.exchange.Streaming) (ms : List Move) :
    (c.run ms).exchange.Streaming ∧ (c.run ms).heads = c.heads := by
  induction ms generalizing c with
  | nil => exact ⟨h, rfl⟩
  | cons m ms ih =>
    obtain ⟨hs, hh⟩ := ih (c := c.step m) (h.move m).1
    exact ⟨hs, hh.trans (heads_step_of_streaming h m)⟩

theorem heads_conclude_of_streaming (h : c.exchange.Streaming) (ending : Ending) :
    (c.conclude ending).heads = c.heads := by
  have : c.exchange.arrived { c.exchange with sending := false } = [] :=
    Exchange.arrived_of_eq rfl
  simp [conclude, h.conclude, this]

/-- A course is open, or it has sent one head, or none to a client that had left. -/
theorem Open.run (h : c.Open) (ms : List Move) :
    (c.run ms).Open ∨ (c.run ms).exchange.Streaming ∧ (c.run ms).heads.length ≤ 1 ∧
      (c.exchange.listening = true → .leave ∉ ms → (c.run ms).heads.length = 1) := by
  induction ms generalizing c with
  | nil => exact .inl h
  | cons m ms ih =>
    rcases h.exchange.move m with ho | ⟨hc, data, rfl⟩
    · rcases ih (h.step_of_open ho) with hr | ⟨hs, hle, hone⟩
      · exact .inl hr
      · refine .inr ⟨hs, hle, fun hl hms => ?_⟩
        rw [List.mem_cons, not_or] at hms
        exact hone ((Exchange.listening_move (Ne.symm hms.1)).trans hl) hms.2
    · right
      obtain ⟨hs, hh⟩ := run_of_streaming (c := c.step (.op (.write data)))
        (h.exchange.streaming_write hc data) ms
      refine ⟨hs, ?_, fun hl _ => ?_⟩ <;> rw [run_cons, hh, h.heads_step_write hc]
      · split_ifs <;> simp
      · rw [if_pos hl]; rfl

/-! ## The client's side -/

/-- What the client sees of a course. -/
structure View where
  heads : List Head
  /-- The chunks that it has taken. -/
  received : List Bytes
  /-- The chunks that it can take. -/
  underway : List Bytes
  /-- Whether it has taken all there is and no more can come. -/
  ended : Bool
deriving DecidableEq, Repr

/-- The client's view of a course. -/
def view (c : Course) : View :=
  ⟨c.heads, c.received, c.exchange.underway, c.exchange.streamEnded⟩

/-- The end of a stream is seen as soon as there are no chunks under way. -/
theorem view_conclude (h : c.exchange.Streaming) (ending : Ending) :
    (c.conclude ending).view = { c.view with ended := c.view.underway.isEmpty } := by
  have hh := heads_conclude_of_streaming h ending
  have hx : (c.conclude ending).exchange = { c.exchange with sending := false } :=
    h.conclude ending
  simp only [view, hh, hx, Exchange.streamEnded]
  rfl

/-- Two courses whose streaming exchanges differ in the pending status and headers at most, and of
which the same was seen. -/
structure Alike (c d : Course) : Prop where
  streaming : c.exchange.Streaming
  exchange : c.exchange.settled = d.exchange.settled
  heads : c.heads = d.heads
  received : c.received = d.received
  answers : c.answers = d.answers

theorem Alike.refl (h : c.exchange.Streaming) : Alike c c := ⟨h, rfl, rfl, rfl, rfl⟩

theorem Alike.trans {e : Course} (h : Alike c d) (h' : Alike d e) : Alike c e :=
  ⟨h.streaming, h.exchange.trans h'.exchange, h.heads.trans h'.heads,
    h.received.trans h'.received, h.answers.trans h'.answers⟩

theorem Alike.symm (h : Alike c d) : Alike d c :=
  ⟨h.streaming.of_settled h.exchange, h.exchange.symm, h.heads.symm, h.received.symm,
    h.answers.symm⟩

theorem Alike.view (h : Alike c d) : c.view = d.view := by
  obtain ⟨status, headers, hd⟩ := Exchange.settled_eq_iff.mp h.exchange
  simp [Course.view, h.heads, h.received, hd, Exchange.streamEnded]

/-- A setting leaves no trace. -/
theorem Alike.step_of_isSetting (h : Alike c d) {m : Move} (hm : m.isSetting = true) :
    Alike (c.step m) d where
  streaming := (h.streaming.move m).1
  exchange := (Exchange.settled_move_of_isSetting h.streaming hm).trans h.exchange
  heads := (heads_step_of_streaming h.streaming m).trans h.heads
  received := by
    have : c.exchange.handed m = [] := by cases m <;> first | rfl | cases hm
    simp [step, this, h.received]
  answers := by
    have : c.exchange.answered m = [] := by
      cases m with
      | op op => cases op <;> first | rfl | cases hm
      | _ => rfl
    simp [step, this, h.answers]

theorem Alike.step (h : Alike c d) {m : Move} (hm : m.isSetting = false) :
    Alike (c.step m) (d.step m) := by
  obtain ⟨hx, hr, ha⟩ := Exchange.settled_move_congr h.streaming h.exchange hm
  refine ⟨(h.streaming.move m).1, hx, ?_, ?_, ?_⟩
  · rw [heads_step_of_streaming h.streaming, heads_step_of_streaming h.symm.streaming, h.heads]
  · show c.received ++ c.exchange.handed m = d.received ++ d.exchange.handed m
    rw [h.received, hr]
  · show c.answers ++ c.exchange.answered m = d.answers ++ d.exchange.answered m
    rw [h.answers, ha]

/-- **Settings can be struck out** behind the commit. -/
theorem Alike.run_filter (h : Alike c d) (ms : List Move) :
    Alike (c.run ms) (d.run (ms.filter (!·.isSetting))) := by
  induction ms generalizing c d with
  | nil => exact h
  | cons m ms ih =>
    cases hm : m.isSetting with
    | true =>
      rw [List.filter_cons_of_neg (by simp [hm])]
      exact ih (h.step_of_isSetting hm)
    | false =>
      rw [List.filter_cons_of_pos (by simp [hm])]
      exact ih (h.step hm)

theorem alike_run (h : c.exchange.Streaming) {ms ns : List Move}
    (hf : ms.filter (!·.isSetting) = ns.filter (!·.isSetting)) : Alike (c.run ms) (c.run ns) := by
  have hms := (Alike.refl h).run_filter ms
  rw [hf] at hms
  exact hms.trans ((Alike.refl h).run_filter ns).symm

theorem Alike.conclude (h : Alike c d) (ending : Ending) :
    (c.conclude ending).view = (d.conclude ending).view := by
  rw [view_conclude h.streaming, view_conclude h.symm.streaming, h.view]

/-! ## The head is sent once -/

theorem listening_run (request : Request) (closing : Bool) {ms : List Move} (h : .leave ∉ ms) :
    ((start request closing).run ms).exchange.listening = true := by
  rw [exchange_run, Exchange.listening_after h]
  rfl

/-- What a move sends is the head that was pending before it. -/
theorem Open.heads_step (h : c.Open) {m : Move} (hm : (c.step m).exchange.isCommitted = true)
    (hl : c.exchange.listening = true) : (c.step m).heads = [c.exchange.pendingHead] := by
  rcases h.exchange.move m with ho | ⟨hc, data, rfl⟩
  · rw [(h.step_of_open ho).exchange.isCommitted] at hm
    cases hm
  · rw [h.heads_step_write hc, if_pos hl]

/-- What is sent at the end is the head that was pending. -/
theorem Open.heads_finish (h : c.Open) (hl : c.exchange.listening = true) :
    (c.conclude .done).heads = [c.exchange.pendingHead] := by
  show c.heads ++ c.exchange.arrived c.exchange.finish = _
  rw [h.heads, Exchange.arrived_of_none h.exchange.delivered, h.exchange.finish.2 hl]
  rfl

theorem Open.length_heads_conclude (h : c.Open) (ending : Ending) :
    (c.conclude ending).heads.length ≤ 1 := by
  show (c.heads ++ c.exchange.arrived (Job.conclude ending c.exchange)).length ≤ 1
  rw [h.heads, Exchange.arrived_of_none h.exchange.delivered]
  cases (Job.conclude ending c.exchange).delivered <;> simp

/-- **The head is sent once.** Take any moves from the start of an exchange on.

1. At most one head reaches the client, however the handler ends, and none before the commit.
2. Nothing takes the commit back, and the head that was sent stays the only one.
3. A head that a move sends is the one that was pending.
4. An exchange that is finished has sent exactly one head, the pending one if none was sent before.
5. Behind the commit, settings and failures can be put in or left out anywhere: the client sees the
   same, then and at the end, and the writes are answered the same. -/
theorem head_sent_once (request : Request) (closing : Bool) (ms : List Move) :
    let c := (start request closing).run ms
    ((∀ ending, c.heads.length ≤ 1 ∧ (c.conclude ending).heads.length ≤ 1) ∧
      (c.exchange.isCommitted = false → c.heads = [])) ∧
    (c.exchange.isCommitted = true → ∀ ns ending,
      ((c.run ns).exchange.isCommitted = true ∧ (c.run ns).heads = c.heads) ∧
      ((c.run ns).conclude ending).exchange.isCommitted = true ∧
      ((c.run ns).conclude ending).heads = c.heads) ∧
    (c.exchange.isCommitted = false → c.exchange.listening = true → ∀ m,
      (c.step m).exchange.isCommitted = true → (c.step m).heads = [c.exchange.pendingHead]) ∧
    ((c.conclude .done).exchange.isCommitted = true ∧
      (.leave ∉ ms → (c.conclude .done).heads.length = 1 ∧
        (c.exchange.isCommitted = false → (c.conclude .done).heads = [c.exchange.pendingHead]))) ∧
    (c.exchange.isCommitted = true → ∀ ns ns',
      ns'.filter (!·.isSetting) = ns.filter (!·.isSetting) →
      (c.run ns').view = (c.run ns).view ∧ (c.run ns').answers = (c.run ns).answers ∧
      ∀ ending, ((c.run ns').conclude ending).view = ((c.run ns).conclude ending).view) := by
  intro c
  rcases (open_start request closing).run ms with ho | ⟨hs, hle, hone⟩
  · have hc : c.exchange.isCommitted = false := ho.exchange.isCommitted
    have hno {p : Prop} (h : c.exchange.isCommitted = true) : p := by rw [hc] at h; cases h
    refine ⟨⟨fun ending => ⟨?_, ho.length_heads_conclude ending⟩, fun _ => ho.heads⟩, hno,
      fun _ hl m hm => ho.heads_step hm hl, ⟨ho.exchange.finish.1, fun hms => ?_⟩, hno⟩
    · rw [ho.heads]
      exact Nat.zero_le 1
    · have hf := ho.heads_finish (listening_run request closing hms)
      exact ⟨by rw [hf]; rfl, fun _ => hf⟩
  · have hc : c.exchange.isCommitted = true := hs.isCommitted
    have hno {p : Prop} (h : c.exchange.isCommitted = false) : p := by rw [hc] at h; cases h
    have hend (ending : Ending) {d : Course} (hd : d.exchange.Streaming) :
        (d.conclude ending).exchange.isCommitted = true := by
      show (Job.conclude ending d.exchange).isCommitted = true
      rw [hd.conclude]
      exact hd.isCommitted
    refine ⟨⟨fun ending => ⟨hle, ?_⟩, hno⟩, fun _ ns ending => ?_, hno,
      ⟨hend .done hs, fun hms => ⟨?_, hno⟩⟩, fun _ ns ns' hf => ?_⟩
    · rw [heads_conclude_of_streaming hs]
      exact hle
    · obtain ⟨hr, hh⟩ := run_of_streaming hs ns
      exact ⟨⟨hr.isCommitted, hh⟩, hend ending hr, (heads_conclude_of_streaming hr ending).trans hh⟩
    · rw [heads_conclude_of_streaming hs]
      exact hone rfl hms
    · have ha := alike_run hs hf
      exact ⟨ha.view, ha.answers, ha.conclude⟩

/-- A status that comes too late, and a failure: the client sees the chunks that it would have seen
without them. -/
theorem late_status_unseen :
    let c := (start .plain false).run [.op .setChunked, .op (.write [97])]
    let d := (c.run [.op (.setStatus 500), .op (.write [98]), .fail 400]).conclude .done
    d.view = ((c.run [.op (.write [98])]).conclude .done).view ∧
      d.view = ⟨[⟨200, [], .stream⟩], [], [[97], [98]], false⟩ := by
  intro c d
  have h := (head_sent_once .plain false [.op .setChunked, .op (.write [97])]).2.2.2.2 rfl
    [.op (.write [98])] [.op (.setStatus 500), .op (.write [98]), .fail 400] rfl
  exact ⟨h.2.2 .done, by decide⟩

end Course
end Testbed.Http
