import Mathlib.Data.List.Basic
import Testbed.Proofs.Http.Commit

/-!
# Chunks arrive in order

A handler and the transport at one exchange, each at its own pace (`Flow`). What the handler does is
cut into the parts between which the transport can come in: a streamed write sends the head if that
is due and then puts its chunk, for which it may have to wait; an end sends the head if that is due
and then lets go of the chunks. In any schedule of turns, a turn that is not possible does nothing.

**Theorem (`chunks_in_order`).** At every moment the chunks that the transport has received,
followed by those under way, are the data of the streamed writes that were not empty and have
returned, each as one chunk. There is a head before there is a chunk, no more than 32 chunks are
under way, and the end of the stream is reported only when the handler is gone and all is received.

The handler is in one of four phases, and the phase says how far the exchange is (`Flow.Fits`). One
turn keeps phase and exchange fitting and the chunks in balance (`Flow.Balanced.step`).
-/

namespace Testbed.Http

namespace Exchange

variable {x : Exchange}

/-! ## Streams of chunks -/

/-- The client was sent the head of a streamed response. -/
def HasStream (x : Exchange) : Prop :=
  ∃ status headers, x.delivered = some ⟨status, headers, .stream⟩

theorem Open.commit_chunked (h : x.Open) (hc : x.chunked = true) (hl : x.listening = true) :
    x.commit = (.ok (), { x with
      headPending := false
      headers := []
      receiving := false
      delivered := some ⟨x.status, x.headers, .stream⟩ }) := by
  simp [commit, h.headPending, h.takeBody, hc, hl]

theorem Open.commit_collected (h : x.Open) (hc : x.chunked = false) (hl : x.listening = true) :
    x.commit = (.ok (), { x with
      headPending := false
      headers := []
      buffer := []
      delivered := some ⟨x.status, x.headers, .full x.buffer⟩ }) := by
  simp [commit, h.headPending, h.takeBody, hc, hl]

theorem Streaming.sendChunk (h : x.Streaming) (hl : x.listening = true) (data : Bytes) :
    x.sendChunk data = (.ok (), { x with underway := x.underway ++ [data] }) := by
  simp [Exchange.sendChunk, h.sending, hasReceiver, hl]

theorem Streaming.mustWait (h : x.Streaming) (hl : x.listening = true) {data : Bytes}
    (hd : data ≠ []) : x.mustWait data = decide (capacity ≤ x.underway.length) := by
  simp [Exchange.mustWait, h.chunked, h.sending, hasReceiver, hl, hd]

theorem Open.act (h : x.Open) {op : Op} (hop : x.chunked = true → ∀ data, op ≠ .write data) :
    (x.act op).Open := by
  rcases h.move (.op op) with ho | ⟨hc, data, hw⟩
  · exact ho
  · exact absurd (Move.op.inj hw) (hop hc data)

theorem underway_act {op : Op} (hop : ∀ data, op ≠ .write data) :
    (x.act op).underway = x.underway := by
  cases op with
  | write data => exact absurd rfl (hop data)
  | wait limit => rw [act_wait]
  | _ => rfl

end Exchange

/-! ## Handler and transport -/

/-- How far a handler is. -/
inductive Phase where
  | idle
  /-- It is in a streamed write: the head is sent, and the chunk is not under way yet. -/
  | sending (data : Bytes)
  /-- It has ended: the head is sent, and chunks can still be sent. -/
  | leaving
  | gone
deriving DecidableEq, Repr

/-- What the handler or the transport does next. -/
inductive Turn where
  /-- The handler begins an operation, and completes it unless that is a chunk to be sent. -/
  | op (op : Op)
  /-- The handler sends its chunk, if there is room. -/
  | send
  /-- The handler ends. -/
  | finish (ending : Ending)
  /-- The handler lets go of the chunks. -/
  | hangUp
  /-- The transport looks for the head. -/
  | head
  /-- The transport looks for a chunk. -/
  | poll
deriving DecidableEq, Repr

/-- An exchange between a handler and the transport, and what was seen so far. -/
structure Flow where
  exchange : Exchange
  phase : Phase
  /-- The streamed writes that have returned, with what they returned. -/
  returned : List (Bytes × Except Failure Unit)
  /-- The head that the transport has. -/
  head : Option Head
  /-- The chunks that the transport has. -/
  received : List Bytes
  /-- Whether the end of the stream was reported to the transport. -/
  ended : Bool

namespace Flow

variable {f : Flow}

def start (request : Request) (closing : Bool) : Flow :=
  ⟨.start request closing, .idle, [], none, [], false⟩

def beginOp (f : Flow) (op : Op) : Flow :=
  match op with
  | .write data =>
    if f.exchange.chunked then
      match f.exchange.commit with
      | (.ok (), x) =>
        if data.isEmpty then { f with exchange := x, returned := f.returned ++ [(data, .ok ())] }
        else { f with exchange := x, phase := .sending data }
      | (.error e, x) => { f with exchange := x, returned := f.returned ++ [(data, .error e)] }
    else { f with exchange := f.exchange.act op }
  | _ => { f with exchange := f.exchange.act op }

/-- A handler sends the chunk of a write, unless it has to wait. -/
def sendChunk (f : Flow) (data : Bytes) : Flow :=
  if f.exchange.mustWait data then f
  else { f with
    exchange := (f.exchange.sendChunk data).2
    phase := .idle
    returned := f.returned ++ [(data, (f.exchange.sendChunk data).1)] }

/-- A handler ends: the head is sent if that is due, or the exchange is given up. -/
def finish (f : Flow) : Ending → Flow
  | .done => { f with exchange := f.exchange.commit.2, phase := .leaving }
  | .failed reason =>
    { f with exchange := (f.exchange.fail reason.status).commit.2, phase := .leaving }
  | .aborted => { f with exchange := f.exchange.abandon, phase := .gone }

/-- The transport looks for a chunk of a stream whose head it has. -/
def poll (f : Flow) : Flow :=
  match f.head with
  | some ⟨_, _, .stream⟩ =>
    match f.exchange.receive? with
    | some (chunk, x) => { f with exchange := x, received := f.received ++ [chunk] }
    | none => { f with ended := f.exchange.streamEnded }
  | _ => f

def step (f : Flow) (t : Turn) : Flow :=
  match t, f.phase with
  | .op op, .idle => f.beginOp op
  | .send, .sending data => f.sendChunk data
  | .finish ending, .idle => f.finish ending
  | .hangUp, .leaving => { f with exchange := { f.exchange with sending := false }, phase := .gone }
  | .head, _ => { f with head := f.exchange.delivered }
  | .poll, _ => f.poll
  | _, _ => f

def run (f : Flow) (ts : List Turn) : Flow := ts.foldl step f

/-- The data of the streamed writes that have succeeded, the empty ones apart. -/
def sent (f : Flow) : List Bytes :=
  (f.returned.filter fun w => !w.1.isEmpty && w.2.toBool).map Prod.fst

/-! ## One turn -/

/-- What holds of a flow, and of what each turn makes of it in the phase that the turn is for, holds
behind any turn. -/
theorem step_cases {P : Flow → Prop} (t : Turn) (stay : P f)
    (op : ∀ op, f.phase = .idle → P (f.beginOp op))
    (send : ∀ data, f.phase = .sending data → P (f.sendChunk data))
    (finish : ∀ ending, f.phase = .idle → P (f.finish ending))
    (hangUp : f.phase = .leaving →
      P { f with exchange := { f.exchange with sending := false }, phase := .gone })
    (head : P { f with head := f.exchange.delivered }) (poll : P f.poll) : P (f.step t) := by
  unfold Flow.step
  split
  · exact op _ ‹_›
  · exact send _ ‹_›
  · exact finish _ ‹_›
  · exact hangUp ‹_›
  · exact head
  · exact poll
  · exact stay

/-- How far the exchange is in each phase of the handler. -/
def Fits : Phase → Exchange → Prop
  | .idle, x => x.Open ∨ x.Streaming ∧ x.HasStream
  | .sending data, x => x.Streaming ∧ x.HasStream ∧ data ≠ []
  | .leaving, x => x.sending = true
  | .gone, x => x.sending = false

theorem Fits.eq_gone {phase : Phase} {x : Exchange} (h : Fits phase x) (hs : x.sending = false) :
    phase = .gone := by
  cases phase with
  | gone => rfl
  | leaving => exact absurd (hs.symm.trans h) Bool.false_ne_true
  | sending data => exact absurd (hs.symm.trans h.1.sending) Bool.false_ne_true
  | idle =>
    rcases h with ho | ⟨hx, -⟩
    · exact absurd (hs.symm.trans ho.sending) Bool.false_ne_true
    · exact absurd (hs.symm.trans hx.sending) Bool.false_ne_true

theorem Fits.receive {phase : Phase} {x : Exchange} {chunk : Bytes} {rest : List Bytes}
    (h : Fits phase x) (hu : x.underway = chunk :: rest) :
    Fits phase { x with underway := rest } := by
  have hstreaming (hx : x.Streaming) : Exchange.Streaming { x with underway := rest } :=
    ⟨hx.headPending, hx.sending, hx.receiving, hx.chunked⟩
  cases phase with
  | gone | leaving => exact h
  | sending data => exact ⟨hstreaming h.1, h.2⟩
  | idle =>
    rcases h with ho | ⟨hx, hstream⟩
    · rw [ho.underway] at hu
      cases hu
    · exact .inr ⟨hstreaming hx, hstream⟩

/-- The exchange is as far as the phase says, and the chunks are in balance. -/
structure Balanced (f : Flow) : Prop where
  fits : Fits f.phase f.exchange
  listening : f.exchange.listening = true
  chunks : f.received ++ f.exchange.underway = f.sent
  stream : f.sent ≠ [] → f.exchange.HasStream
  returned : ∀ w ∈ f.returned, w.2 = .ok ()
  room : f.exchange.underway.length ≤ Exchange.capacity
  head : ∀ head, f.head = some head → f.exchange.delivered = some head
  headed : f.received ≠ [] → f.head ≠ none
  ended : f.ended = true → f.phase = .gone ∧ f.exchange.underway = []

theorem balanced_start (request : Request) (closing : Bool) : (start request closing).Balanced where
  fits := .inl (Exchange.open_start request closing)
  listening := rfl
  chunks := rfl
  stream := fun h => absurd rfl h
  returned := by simp [start]
  room := Nat.zero_le _
  head := by simp [start]
  headed := fun h => absurd rfl h
  ended := by simp [start]

theorem Balanced.sent_eq_nil (h : f.Balanced) (hd : f.exchange.delivered = none) : f.sent = [] := by
  by_contra hs
  obtain ⟨status, headers, hs⟩ := h.stream hs
  rw [hd] at hs
  cases hs

theorem Balanced.moved (h : f.Balanced) {x : Exchange} {phase : Phase} (hfits : Fits phase x)
    (hl : x.listening = f.exchange.listening) (hu : x.underway = f.exchange.underway)
    (hd : f.exchange.delivered = none ∨ x.delivered = f.exchange.delivered)
    (hp : f.phase ≠ .gone) : Balanced { f with exchange := x, phase := phase } where
  fits := hfits
  listening := hl.trans h.listening
  chunks := by
    show f.received ++ x.underway = f.sent
    rw [hu, h.chunks]
  stream := by
    intro hs
    rcases hd with hd | hd
    · exact absurd (h.sent_eq_nil hd) hs
    · obtain ⟨status, headers, hx⟩ := h.stream hs
      exact ⟨status, headers, hd.trans hx⟩
  returned := h.returned
  room := by
    show x.underway.length ≤ _
    rw [hu]
    exact h.room
  head := by
    intro head hhead
    have hf := h.head head hhead
    rcases hd with hd | hd
    · rw [hd] at hf
      cases hf
    · exact hd.trans hf
  headed := h.headed
  ended := fun he => absurd (h.ended he).1 hp

theorem Balanced.returned_empty (h : f.Balanced) :
    Balanced { f with returned := f.returned ++ [([], .ok ())] } := by
  have hsent : sent { f with returned := f.returned ++ [([], .ok ())] } = f.sent := by
    simp [sent]
  exact {
    h with
    chunks := h.chunks.trans hsent.symm
    stream := fun hs => h.stream (hsent ▸ hs)
    returned := List.forall_mem_append.mpr ⟨h.returned, List.forall_mem_singleton.mpr rfl⟩ }

/-- An operation that is no streamed write is done at once. -/
theorem beginOp_eq {op : Op} (hop : f.exchange.chunked = true → ∀ data, op ≠ .write data) :
    f.beginOp op = { f with exchange := f.exchange.act op } := by
  cases op with
  | write data =>
    have hc : f.exchange.chunked = false := by
      by_contra hc
      exact hop (by simpa using hc) data rfl
    simp [Flow.beginOp, hc]
  | _ => rfl

theorem Balanced.commit (h : f.Balanced) (hp : f.phase = .idle)
    (hc : f.exchange.chunked = true) : ∃ x, f.exchange.commit = (.ok (), x) ∧
      (x.Streaming ∧ x.HasStream) ∧ x.listening = f.exchange.listening ∧
      x.underway = f.exchange.underway ∧
      (f.exchange.delivered = none ∨ x.delivered = f.exchange.delivered) := by
  have hfits := h.fits
  rw [hp] at hfits
  rcases hfits with ho | hs
  · refine ⟨_, ho.commit_chunked hc h.listening, ⟨?_, _, _, rfl⟩, rfl, rfl, .inl ho.delivered⟩
    exact ⟨rfl, ho.sending, rfl, hc⟩
  · exact ⟨_, Exchange.commit_of_sent hs.1.headPending, hs, rfl, rfl, .inr rfl⟩

theorem Balanced.beginOp (h : f.Balanced) (hp : f.phase = .idle) (op : Op) :
    (f.beginOp op).Balanced := by
  have hne : f.phase ≠ .gone := by rw [hp]; simp
  by_cases hop : f.exchange.chunked = true ∧ ∃ data, op = .write data
  · obtain ⟨hc, data, rfl⟩ := hop
    obtain ⟨x, hx, hs, hl, hu, hd⟩ := h.commit hp hc
    simp only [Flow.beginOp, hc, if_true, hx]
    cases data with
    | nil =>
      have hm : Balanced { f with exchange := x } :=
        h.moved (by rw [hp]; exact .inr hs) hl hu hd hne
      exact hm.returned_empty
    | cons b rest => exact h.moved ⟨hs.1, hs.2, List.cons_ne_nil b rest⟩ hl hu hd hne
  · have hop' : f.exchange.chunked = true → ∀ data, op ≠ .write data :=
      fun hc data hw => hop ⟨hc, data, hw⟩
    have hl : (f.exchange.act op).listening = f.exchange.listening :=
      Exchange.listening_move (m := .op op) (by simp)
    have hfits := h.fits
    rw [hp] at hfits
    rw [beginOp_eq hop']
    rcases hfits with ho | ⟨hs, hstream⟩
    · have ho' := ho.act hop'
      exact h.moved (by rw [hp]; exact .inl ho') hl (ho'.underway.trans ho.underway.symm)
        (.inl ho.delivered) hne
    · obtain ⟨hs', hd⟩ := hs.move (.op op)
      obtain ⟨status, headers, hx⟩ := hstream
      exact h.moved (by rw [hp]; exact .inr ⟨hs', status, headers, hd.trans hx⟩) hl
        (Exchange.underway_act (hop' hs.chunked)) (.inr hd) hne

theorem Balanced.sendChunk (h : f.Balanced) {data : Bytes} (hp : f.phase = .sending data) :
    (f.sendChunk data).Balanced := by
  have hfits := h.fits
  rw [hp] at hfits
  obtain ⟨hs, hstream, hne⟩ := hfits
  unfold Flow.sendChunk
  rw [hs.mustWait h.listening hne, hs.sendChunk h.listening]
  split_ifs with hroom
  · exact h
  · rw [decide_eq_true_eq, Nat.not_le] at hroom
    have hsent : sent { f with
        exchange := { f.exchange with underway := f.exchange.underway ++ [data] }
        phase := .idle
        returned := f.returned ++ [(data, .ok ())] } = f.sent ++ [data] := by
      simp [sent, hne, Except.toBool]
    exact {
      h with
      fits := .inr ⟨⟨hs.headPending, hs.sending, hs.receiving, hs.chunked⟩, hstream⟩
      chunks := by
        rw [hsent, ← h.chunks, List.append_assoc]
      stream := fun _ => hstream
      returned := List.forall_mem_append.mpr ⟨h.returned, List.forall_mem_singleton.mpr rfl⟩
      room := by
        show (f.exchange.underway ++ [data]).length ≤ _
        rw [List.length_append]
        exact hroom
      ended := by
        intro he
        have hgone := (h.ended he).1
        rw [hp] at hgone
        cases hgone }

theorem Balanced.finish (h : f.Balanced) (hp : f.phase = .idle) (ending : Ending) :
    (f.finish ending).Balanced := by
  have hfits := h.fits
  rw [hp] at hfits
  have hne : f.phase ≠ .gone := by rw [hp]; simp
  have hopen {x : Exchange} (hx : x.Open) (hl : x.listening = true) :
      x.commit.2.sending = true := by
    cases hc : x.chunked with
    | true => rw [hx.commit_chunked hc hl]; exact hx.sending
    | false => rw [hx.commit_collected hc hl]; exact hx.sending
  cases ending with
  | done =>
    obtain ⟨-, hl, hu⟩ := Exchange.commit_frame f.exchange
    rcases hfits with ho | ⟨hs, -⟩
    · exact h.moved (hopen ho h.listening) hl hu (.inl ho.delivered) hne
    · rw [Flow.finish, Exchange.commit_of_sent hs.headPending]
      exact h.moved hs.sending rfl rfl (.inr rfl) hne
  | failed reason =>
    rcases hfits with ho | ⟨hs, -⟩
    · have hl := Exchange.listening_move (x := f.exchange) (m := .fail reason.status) (by simp)
      have ho' : (f.exchange.fail reason.status).Open :=
        (ho.move (.fail reason.status)).resolve_right (by simp)
      obtain ⟨-, hl', hu⟩ := Exchange.commit_frame (f.exchange.fail reason.status)
      exact h.moved (hopen ho' (hl.trans h.listening)) (hl'.trans hl)
        (hu.trans (ho'.underway.trans ho.underway.symm)) (.inl ho.delivered) hne
    · have hf : f.exchange.fail reason.status = f.exchange := by
        simp [Exchange.fail, hs.isCommitted]
      rw [Flow.finish, hf, Exchange.commit_of_sent hs.headPending]
      exact h.moved hs.sending rfl rfl (.inr rfl) hne
  | aborted => exact h.moved rfl rfl rfl (.inr rfl) hne

theorem Balanced.poll (h : f.Balanced) : f.poll.Balanced := by
  unfold Flow.poll
  split
  · rename_i hhead
    cases hu : f.exchange.underway with
    | nil =>
      have hr : f.exchange.receive? = none := by simp [Exchange.receive?, hu]
      rw [hr]
      refine { h with ended := fun he => ⟨h.fits.eq_gone ?_, hu⟩ }
      simpa [Exchange.streamEnded, hu] using he
    | cons chunk rest =>
      have hr : f.exchange.receive? = some (chunk, { f.exchange with underway := rest }) := by
        simp [Exchange.receive?, hu]
      have hroom := h.room
      rw [hu, List.length_cons] at hroom
      rw [hr]
      exact {
        h with
        fits := h.fits.receive hu
        chunks := by
          show (f.received ++ [chunk]) ++ rest = f.sent
          rw [← h.chunks, hu, List.append_assoc]
          rfl
        room := Nat.le_of_succ_le hroom
        headed := by
          intro _ hn
          rw [hn] at hhead
          cases hhead
        ended := by
          intro he
          have hnil := (h.ended he).2
          rw [hu] at hnil
          cases hnil }
  · exact h

/-- **One turn** keeps the balance. -/
theorem Balanced.step (h : f.Balanced) (t : Turn) : (f.step t).Balanced := by
  apply step_cases t h
  · intro op hp
    exact h.beginOp hp op
  · intro data hp
    exact h.sendChunk hp
  · intro ending hp
    exact h.finish hp ending
  · intro hp
    exact h.moved rfl rfl rfl (.inr rfl) (by rw [hp]; simp)
  · refine { h with head := fun _ hhead => hhead, headed := fun hr hnone => ?_ }
    obtain ⟨head, hhead⟩ := Option.ne_none_iff_exists'.mp (h.headed hr)
    exact absurd (hnone.symm.trans (h.head head hhead)) (by simp)
  · exact h.poll

/-- **Many turns** keep the balance. -/
theorem Balanced.run (h : f.Balanced) (ts : List Turn) : (f.run ts).Balanced := by
  induction ts generalizing f with
  | nil => exact h
  | cons t ts ih => exact ih (h.step t)

/-! ## The end -/

theorem received_run_of_gone (hp : f.phase = .gone) (hu : f.exchange.underway = [])
    (ts : List Turn) : (f.run ts).received = f.received := by
  induction ts generalizing f with
  | nil => rfl
  | cons t ts ih =>
    have hstep : (f.step t).phase = .gone ∧ (f.step t).exchange.underway = [] ∧
        (f.step t).received = f.received := by
      cases t with
      | poll =>
        have hr : f.exchange.receive? = none := by simp [Exchange.receive?, hu]
        simp only [Flow.step, Flow.poll, hr]
        split <;> exact ⟨hp, hu, rfl⟩
      | _ => simp [Flow.step, hp, hu]
    exact (ih hstep.1 hstep.2.1).trans hstep.2.2

/-- The transport that has the head and polls on receives all chunks and learns the end. -/
theorem run_poll_of_gone {status : UInt16} {headers : List (String × String)}
    (hh : f.head = some ⟨status, headers, .stream⟩) (hs : f.exchange.sending = false) :
    let g := f.run (List.replicate (f.exchange.underway.length + 1) .poll)
    g.ended = true ∧ g.received = f.received ++ f.exchange.underway := by
  generalize hu : f.exchange.underway = chunks
  -- Each poll takes a chunk, and the one behind the last of them learns the end.
  induction chunks generalizing f with
  | nil =>
    have hr : f.exchange.receive? = none := by simp [Exchange.receive?, hu]
    have hpoll : f.run [.poll] = { f with ended := f.exchange.streamEnded } := by
      simp only [Flow.run, List.foldl_cons, List.foldl_nil, Flow.step, Flow.poll, hh, hr]
    show (f.run [.poll]).ended = true ∧ (f.run [.poll]).received = f.received ++ []
    rw [hpoll]
    simp [Exchange.streamEnded, hs, hu]
  | cons chunk rest ih =>
    have hr : f.exchange.receive? = some (chunk, { f.exchange with underway := rest }) := by
      simp [Exchange.receive?, hu]
    have hpoll : f.step .poll = { f with
        exchange := { f.exchange with underway := rest }
        received := f.received ++ [chunk] } := by
      simp only [Flow.step, Flow.poll, hh, hr]
    have h := ih (f := f.step .poll) (by rw [hpoll]; exact hh) (by rw [hpoll]; exact hs)
      (by rw [hpoll])
    rw [hpoll] at h
    simpa [Flow.run, List.replicate_succ, hpoll] using h

/-! ## Turns and what the exchange does at once -/

/-- A streamed write that need not wait does in two turns what a write does. -/
theorem Balanced.write (h : f.Balanced) (hp : f.phase = .idle)
    (hc : f.exchange.chunked = true) {data : Bytes} (hw : f.exchange.mustWait data = false) :
    let g := (f.step (.op (.write data))).step .send
    g.exchange = (f.exchange.write data).2 ∧ g.phase = .idle ∧
      g.returned = f.returned ++ [(data, (f.exchange.write data).1)] := by
  obtain ⟨x, hx, ⟨hs, -⟩, hl, hu, -⟩ := h.commit hp hc
  cases data with
  | nil => simp [Flow.step, hp, Flow.beginOp, hc, hx, Exchange.write]
  | cons b rest =>
    have hsending : f.exchange.sending = true := by
      by_contra hsending
      have hgone := h.fits.eq_gone (by simpa using hsending)
      rw [hp] at hgone
      cases hgone
    have hroom : f.exchange.underway.length < Exchange.capacity := by
      simpa [Exchange.mustWait, hc, hsending, Exchange.hasReceiver, h.listening] using hw
    have hx' : x.mustWait (b :: rest) = false := by
      rw [hs.mustWait (hl.trans h.listening) (List.cons_ne_nil b rest), hu]
      simpa using hroom
    simp [Flow.step, hp, Flow.beginOp, hc, hx, Exchange.write, Flow.sendChunk, hx']

theorem conclude_of_idle (hp : f.phase = .idle) (ending : Ending) :
    ((f.step (.finish ending)).step .hangUp).exchange = Job.conclude ending f.exchange := by
  cases ending <;> simp only [Flow.step, hp, Flow.finish] <;> rfl

/-- **Chunks arrive one by one, in order and complete.** Let a handler and the transport take turns
at an exchange in any order, the handler carrying out any operations and ending in any way.

1. What the transport has received, followed by what is under way, are the data of the streamed
   writes that have succeeded and were not empty, a chunk for each. No streamed write fails.
2. There is a head before there is a chunk, and the transport has it before it receives one.
3. At most 32 chunks are under way. While there are as many, a handler that sends a chunk waits;
   when there are fewer, its chunk goes behind the others and its write returns.
4. The end is reported only when the handler is gone and all that it sent is received, and nothing
   is received afterwards.
5. When the handler of a streamed response is gone, a transport that polls on receives all there is
   and learns the end.
6. A write that need not wait, and an end, do in their turns what they do at once. -/
theorem chunks_in_order (request : Request) (closing : Bool) (ts : List Turn) :
    let f := (start request closing).run ts
    (f.received ++ f.exchange.underway = f.sent ∧ (∀ chunk ∈ f.sent, chunk ≠ []) ∧
      ∀ w ∈ f.returned, w.2 = .ok ()) ∧
    ((f.sent ≠ [] → f.exchange.HasStream) ∧ (f.received ≠ [] → f.head = f.exchange.delivered)) ∧
    (f.exchange.underway.length ≤ Exchange.capacity ∧ ∀ data, f.phase = .sending data →
      (f.exchange.underway.length = Exchange.capacity → f.step .send = f) ∧
      (f.exchange.underway.length < Exchange.capacity →
        (f.step .send).exchange.underway = f.exchange.underway ++ [data] ∧
        (f.step .send).returned = f.returned ++ [(data, .ok ())])) ∧
    (f.ended = true → f.phase = .gone ∧ f.exchange.underway = [] ∧ f.received = f.sent ∧
      ∀ us, (f.run us).received = f.received) ∧
    (f.phase = .gone → f.exchange.HasStream →
      let g := f.run (.head :: List.replicate (f.exchange.underway.length + 1) .poll)
      g.ended = true ∧ g.received = f.sent) ∧
    (f.phase = .idle →
      (∀ data, f.exchange.chunked = true → f.exchange.mustWait data = false →
        let g := (f.step (.op (.write data))).step .send
        g.exchange = (f.exchange.write data).2 ∧ g.phase = .idle ∧
          g.returned = f.returned ++ [(data, (f.exchange.write data).1)]) ∧
      ∀ ending, ((f.step (.finish ending)).step .hangUp).exchange =
        Job.conclude ending f.exchange) := by
  intro f
  have h : f.Balanced := (balanced_start request closing).run ts
  refine ⟨⟨h.chunks, fun chunk hchunk => ?_, h.returned⟩, ⟨h.stream, fun hr => ?_⟩,
    ⟨h.room, fun data hp => ?_⟩, fun he => ?_, fun hp hs => ?_, fun hp => ⟨?_, ?_⟩⟩
  · obtain ⟨w, hw, rfl⟩ := List.mem_map.mp hchunk
    have hw' := (List.mem_filter.mp hw).2
    rintro hnil
    simp [hnil] at hw'
  · obtain ⟨head, hhead⟩ := Option.ne_none_iff_exists'.mp (h.headed hr)
    rw [hhead, h.head head hhead]
  · have hfits := h.fits
    rw [hp] at hfits
    obtain ⟨hs, -, hne⟩ := hfits
    refine ⟨fun hfull => ?_, fun hroom => ?_⟩
    · simp [Flow.step, hp, Flow.sendChunk, hs.mustWait h.listening hne, hfull]
    · simp [Flow.step, hp, Flow.sendChunk, hs.mustWait h.listening hne, hs.sendChunk h.listening,
        Nat.not_le.mpr hroom]
  · obtain ⟨hp, hu⟩ := h.ended he
    refine ⟨hp, hu, ?_, received_run_of_gone hp hu⟩
    rw [← h.chunks, hu, List.append_nil]
  · obtain ⟨status, headers, hd⟩ := hs
    have hsending : f.exchange.sending = false := by
      have hfits := h.fits
      rwa [hp] at hfits
    have hrun := run_poll_of_gone (f := f.step .head) hd hsending
    refine ⟨hrun.1, hrun.2.trans h.chunks⟩
  · exact fun data hc hw => h.write hp hc hw
  · exact conclude_of_idle hp

/-- A write that finds 32 chunks under way waits, and returns when the transport has taken one. -/
theorem full_stream_waits :
    let ts : List Turn := .op .setChunked ::
      (List.range 33).flatMap fun n => [.op (.write [.ofNat n]), .send]
    let f := (start .plain false).run ts
    let g := (start .plain false).run (ts ++ [.head, .poll])
    f.phase = .sending [32] ∧ f.step .send = f ∧ f.returned.length = 32 ∧
      g.received = [[0]] ∧ (g.step .send).returned = g.returned ++ [([32], .ok ())] := by
  intro ts f g
  have hf := (chunks_in_order .plain false ts).2.2.1.2 [32] rfl
  have hg := (chunks_in_order .plain false (ts ++ [.head, .poll])).2.2.1.2 [32] rfl
  exact ⟨rfl, hf.1 rfl, rfl, rfl, (hg.2 (by decide +kernel)).2⟩

end Flow
end Testbed.Http
