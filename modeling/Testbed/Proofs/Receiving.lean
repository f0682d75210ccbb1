import Mathlib.Tactic.SplitIfs
import Testbed.Channel

/-!
# What becomes of the values of a channel

Senders come, send and leave in any order (`Sending`), between the waits of the receiver and during
them (`Act`). A wait ends where a value is there or none can come any more (`Channel.wait`); if
neither is so after all that happens during it, its time runs out.

**Waits.** What happens behind the end of a wait could as well have happened before it, so a wait
ends as if everything during it had happened first (`wait_eq`): a value that is there stays the
first, and behind the last sender nothing can be sent.

**Theorem (`verdicts_account`).** The values that were received, whether they were wanted or not,
and behind them the queue, are the values sent. A closed channel gives its values before it is
reported closed, and the two assertions always disagree about the same value.

**Clocks.** A channel with a clock (`Timeline`) chooses what happens during a wait by the times of
its values. Its runs are among the runs here (`Timeline.IsManned.follows`), since every value that
is due has a sender of its own.
-/

namespace Testbed.Channel

variable {α : Type} {c : Channel α} {v : α} {n : Nat}

/-! ## Senders -/

/-- What a sender does. -/
inductive Sending (α : Type) where
  | send (v : α)
  /-- Makes one more sender. -/
  | clone
  | drop

/-- A channel after a sender did something. Without a sender there is nobody to do it. -/
def sending (c : Channel α) (d : Sending α) : Channel α :=
  if c.senders = 0 then c else
    match d with
    | .send v => c.send v
    | .clone => c.addSender
    | .drop => c.dropSender

def sendings (c : Channel α) (ds : List (Sending α)) : Channel α := ds.foldl sending c

/-- The values that are sent while senders do some things. -/
def sent (c : Channel α) : List (Sending α) → List α
  | [] => []
  | .send v :: ds => if c.senders = 0 then sent c ds else v :: sent (c.sending (.send v)) ds
  | d :: ds => sent (c.sending d) ds

@[simp] theorem sendings_nil : c.sendings [] = c := rfl

@[simp] theorem sendings_cons (d : Sending α) (ds : List (Sending α)) :
    c.sendings (d :: ds) = (c.sending d).sendings ds := rfl

theorem sendings_append (ds es : List (Sending α)) :
    c.sendings (ds ++ es) = (c.sendings ds).sendings es := List.foldl_append

theorem sending_of_open (h : c.senders ≠ 0) (d : Sending α) :
    c.sending d = match d with
      | .send v => c.send v
      | .clone => c.addSender
      | .drop => c.dropSender :=
  if_neg h

theorem sending_of_closed (h : c.senders = 0) (d : Sending α) : c.sending d = c := if_pos h

theorem sendings_of_closed (h : c.senders = 0) (ds : List (Sending α)) : c.sendings ds = c := by
  induction ds with
  | nil => rfl
  | cons d ds ih => rw [sendings_cons, sending_of_closed h, ih]

/-- **What senders do puts values behind the queue.** -/
theorem queue_sendings (ds : List (Sending α)) :
    (c.sendings ds).queue = c.queue ++ c.sent ds := by
  induction ds generalizing c with
  | nil => simp [sent]
  | cons d ds ih =>
    rw [sendings_cons, ih]
    by_cases h : c.senders = 0
    · cases d <;> simp [sending, sent, h]
    · cases d <;> simp [sending, sent, h, send, addSender, dropSender]

/-- The senders do not see the first value. -/
theorem sending_behind (d : Sending α) (v : α) (rest : List α) :
    (⟨v :: rest, n⟩ : Channel α).sending d =
      let c := (⟨rest, n⟩ : Channel α).sending d
      { c with queue := v :: c.queue } := by
  by_cases h : n = 0
  · simp [sending, h]
  · cases d <;> simp [sending, h, send, addSender, dropSender]

/-- Whether the first value is received before or behind what senders do is the same. -/
theorem sendings_behind (ds : List (Sending α)) (v : α) (rest : List α) :
    (⟨v :: rest, n⟩ : Channel α).sendings ds =
      let c := (⟨rest, n⟩ : Channel α).sendings ds
      { c with queue := v :: c.queue } := by
  induction ds generalizing rest n with
  | nil => rfl
  | cons d ds ih =>
    rw [sendings_cons, sending_behind]
    exact ih _

/-! ## Waits -/

/-- No value is there, but one may come. -/
def isQuiet (c : Channel α) : Bool := c.queue.isEmpty && c.senders != 0

/-- A wait during which senders do some things: how it ends, and the channel when all of them are
done. The wait ends where the channel is not quiet, and otherwise its time runs out behind them. -/
def wait (c : Channel α) : List (Sending α) → Received α × Channel α
  | [] => c.receive
  | d :: ds =>
    if c.isQuiet then wait (c.sending d) ds
    else (c.receive.1, c.receive.2.sendings (d :: ds))

theorem receive_of_cons {rest : List α} (h : c.queue = v :: rest) :
    c.receive = (.value v, { c with queue := rest }) := by
  rw [receive, h]

theorem receive_of_nil (h : c.queue = []) :
    c.receive = (if c.senders = 0 then .closed else .expired, c) := by
  rw [receive, h]

/-- **A wait ends as if everything during it had happened first.** -/
theorem wait_eq (ds : List (Sending α)) : c.wait ds = (c.sendings ds).receive := by
  induction ds generalizing c with
  | nil => rfl
  | cons d ds ih =>
    rw [wait]
    split_ifs with hquiet
    · rw [ih, sendings_cons]
    · rcases hq : c.queue with - | ⟨v, rest⟩
      · have hclosed : c.senders = 0 := by simpa [isQuiet, hq] using hquiet
        rw [receive_of_nil hq, sendings_of_closed hclosed, receive_of_nil hq]
      · obtain ⟨queue, n⟩ := c
        obtain rfl : queue = v :: rest := hq
        rw [sendings_behind, receive_of_cons rfl, receive_of_cons rfl]

/-! ## Verdicts -/

/-- What happens to a channel: a sender does something, or the receiver waits while senders do some
things, for a value or for none. -/
inductive Act (α : Type) where
  | sending (d : Sending α)
  | await (limit : Duration) (ds : List (Sending α))
  | noMore (ds : List (Sending α))

/-- What an assertion answers. -/
inductive Verdict (α : Type) where
  | awaited (answer : Except AwaitError α)
  | noMore (answer : Except (Unexpected α) Unit)

/-- The value that an assertion received, if it received one. -/
def Verdict.value? : Verdict α → Option α
  | .awaited (.ok v) => some v
  | .noMore (.error u) => some u.value
  | _ => none

/-- The verdict of something that happens, if it is an assertion, and the channel behind it. -/
def act (c : Channel α) : Act α → Option (Verdict α) × Channel α
  | .sending d => (none, c.sending d)
  | .await limit ds =>
    let (received, c) := c.wait ds
    (some (.awaited (awaitValue limit received)), c)
  | .noMore ds =>
    let (received, c) := c.wait ds
    (some (.noMore (assertNoMore received)), c)

/-- What senders do in something that happens. -/
def Act.sendings : Act α → List (Sending α)
  | .sending d => [d]
  | .await _ ds => ds
  | .noMore ds => ds

def after (c : Channel α) (as : List (Act α)) : Channel α := as.foldl (fun c a => (c.act a).2) c

def verdicts (c : Channel α) : List (Act α) → List (Verdict α)
  | [] => []
  | a :: as => (c.act a).1.toList ++ verdicts (c.act a).2 as

/-- The values that are sent while some things happen. -/
def sentIn (c : Channel α) : List (Act α) → List α
  | [] => []
  | a :: as => c.sent a.sendings ++ sentIn (c.act a).2 as

def taken (vs : List (Verdict α)) : List α := vs.filterMap Verdict.value?

@[simp] theorem after_nil : c.after [] = c := rfl

@[simp] theorem after_cons (a : Act α) (as : List (Act α)) :
    c.after (a :: as) = (c.act a).2.after as := rfl

theorem after_append (as bs : List (Act α)) : c.after (as ++ bs) = (c.after as).after bs :=
  List.foldl_append

theorem verdicts_append (as bs : List (Act α)) :
    c.verdicts (as ++ bs) = c.verdicts as ++ (c.after as).verdicts bs := by
  induction as generalizing c with
  | nil => rfl
  | cons a as ih => simp only [List.cons_append, verdicts, after_cons, ih, List.append_assoc]

theorem act_await (limit : Duration) (ds : List (Sending α)) :
    c.act (.await limit ds) =
      let (received, c) := (c.sendings ds).receive
      (some (.awaited (awaitValue limit received)), c) := by
  rw [act, wait_eq]

theorem act_noMore (ds : List (Sending α)) :
    c.act (.noMore ds) =
      let (received, c) := (c.sendings ds).receive
      (some (.noMore (assertNoMore received)), c) := by
  rw [act, wait_eq]

/-- **The two assertions at a value**: one is content with it, the other is not. -/
theorem act_of_cons {ds : List (Sending α)} {rest : List α}
    (h : (c.sendings ds).queue = v :: rest) (limit : Duration) :
    c.act (.await limit ds) =
        (some (.awaited (.ok v)), { c.sendings ds with queue := rest }) ∧
      c.act (.noMore ds) =
        (some (.noMore (.error ⟨v⟩)), { c.sendings ds with queue := rest }) := by
  rw [act_await, act_noMore, receive_of_cons h]
  exact ⟨rfl, rfl⟩

/-- **The two assertions without a value** leave the channel as the senders left it. -/
theorem act_of_nil {ds : List (Sending α)} (h : (c.sendings ds).queue = []) (limit : Duration) :
    c.act (.await limit ds) =
        (some (.awaited (.error (if (c.sendings ds).senders = 0 then .closed else .expired limit))),
          c.sendings ds) ∧
      c.act (.noMore ds) = (some (.noMore (.ok ())), c.sendings ds) := by
  rw [act_await, act_noMore, receive_of_nil h]
  split_ifs <;> exact ⟨rfl, rfl⟩

/-- What happens gives and leaves the values that were there and those that are sent. -/
theorem act_accounts (a : Act α) :
    taken (c.act a).1.toList ++ (c.act a).2.queue = c.queue ++ c.sent a.sendings := by
  cases a with
  | sending d => exact queue_sendings [d]
  | await limit ds =>
    rw [Act.sendings, ← queue_sendings]
    rcases h : (c.sendings ds).queue with - | ⟨v, rest⟩
    · rw [(act_of_nil h limit).1]
      simp [taken, Verdict.value?, h]
    · rw [(act_of_cons h limit).1]
      simp [taken, Verdict.value?]
  | noMore ds =>
    rw [Act.sendings, ← queue_sendings]
    rcases h : (c.sendings ds).queue with - | ⟨v, rest⟩
    · rw [(act_of_nil h ⟨0⟩).2]
      simp [taken, Verdict.value?, h]
    · rw [(act_of_cons h ⟨0⟩).2]
      simp [taken, Verdict.value?]

/-- No value is lost, made or put out of order. -/
theorem run_accounts (as : List (Act α)) :
    taken (c.verdicts as) ++ (c.after as).queue = c.queue ++ c.sentIn as := by
  induction as generalizing c with
  | nil => simp [taken, verdicts, sentIn]
  | cons a as ih =>
    have hstep := act_accounts (c := c) a
    unfold taken at hstep ih ⊢
    rw [verdicts, List.filterMap_append, List.append_assoc, after_cons, ih, ← List.append_assoc,
      hstep, sentIn, List.append_assoc]

/-- **A closed channel gives its values**, and only behind them it is reported closed. -/
theorem verdicts_of_closed (h : c.senders = 0) (waits : List (Duration × List (Sending α))) :
    c.verdicts (waits.map fun w => .await w.1 w.2) =
      (List.range waits.length).map fun i =>
        .awaited (c.queue[i]?.elim (.error .closed) .ok) := by
  induction waits generalizing c with
  | nil => rfl
  | cons w waits ih =>
    rw [List.map_cons, verdicts, List.length_cons, List.range_succ_eq_map, List.map_cons,
      List.map_map]
    rcases hq : c.queue with - | ⟨v, rest⟩
    · have hnil : (c.sendings w.2).queue = [] := by rw [sendings_of_closed h, hq]
      rw [(act_of_nil hnil w.1).1, sendings_of_closed h, if_pos h, ih h, hq]
      rfl
    · have hcons : (c.sendings w.2).queue = v :: rest := by rw [sendings_of_closed h, hq]
      rw [(act_of_cons hcons w.1).1, sendings_of_closed h]
      simp only [Option.toList_some, ih (c := { c with queue := rest }) h]
      rfl

/-! ## Clocks -/

namespace Timeline

variable {s : Timeline α}

/-- What happens to a channel with a clock. -/
inductive Act (α : Type) where
  | send (v : α)
  | sendLater (v : α) (delay : Duration)
  | close
  | await (limit : Duration)
  | noMore (limit : Duration)

/-- The verdict of something that happens, if it is an assertion, and the channel behind it. -/
def act (s : Timeline α) : Act α → Option (Verdict α) × Timeline α
  | .send v => (none, (s.send v).2)
  | .sendLater v delay => (none, (s.sendLater v delay).2)
  | .close => (none, s.close)
  | .await limit =>
    let (received, s) := s.receive limit
    (some (.awaited (awaitValue limit received)), s)
  | .noMore limit =>
    let (received, s) := s.receive limit
    (some (.noMore (assertNoMore received)), s)

def after (s : Timeline α) (as : List (Act α)) : Timeline α := as.foldl (fun s a => (s.act a).2) s

def verdicts (s : Timeline α) : List (Act α) → List (Verdict α)
  | [] => []
  | a :: as => (s.act a).1.toList ++ verdicts (s.act a).2 as

/-- Every value that is due has a sender, and so has the open channel. -/
def IsManned (s : Timeline α) : Prop := s.channel.senders = s.due.length + s.isOpen.toNat

theorem isManned_fresh : (fresh : Timeline α).IsManned := rfl

theorem length_insertDue (t : Duration) (v : α) (due : List (Duration × α)) :
    (insertDue t v due).length = due.length + 1 := by
  induction due with
  | nil => rfl
  | cons d rest ih =>
    rw [insertDue]
    split_ifs
    · rfl
    · rw [List.length_cons, ih, List.length_cons]

/-- What the senders of some values do. -/
def deliveries (values : List α) : List (Sending α) := values.flatMap fun v => [.send v, .drop]

/-- A sender sends a value and leaves. -/
theorem sendings_delivery {c : Channel α} (h : c.senders ≠ 0) (v : α) (ds : List (Sending α)) :
    c.sendings (.send v :: .drop :: ds) = (c.send v).dropSender.sendings ds := by
  have hsend : (c.send v).senders ≠ 0 := h
  rw [sendings_cons, sending_of_open h, sendings_cons, sending_of_open hsend]

/-- **The values whose time has come** are sent by their senders, who leave. -/
theorem arrive_eq (t : Duration) {due : List (Duration × α)} {c : Channel α} {n : Nat}
    (h : c.senders = due.length + n) :
    ∃ values, (arrive t due c).2 = c.sendings (deliveries values) ∧
      (arrive t due c).2.senders = (arrive t due c).1.length + n := by
  induction due generalizing c with
  | nil => exact ⟨[], rfl, h⟩
  | cons d rest ih =>
    rw [arrive]
    split_ifs with hu
    · rw [List.length_cons] at h
      have hrest : (c.send d.2).dropSender.senders = rest.length + n := by
        have hdrop : (c.send d.2).dropSender.senders = c.senders - 1 := rfl
        omega
      obtain ⟨values, hvalues, hsenders⟩ := ih hrest
      refine ⟨d.2 :: values, ?_, hsenders⟩
      rw [hvalues, deliveries, deliveries, List.flatMap_cons, List.cons_append, List.cons_append,
        sendings_delivery (by omega), List.nil_append]
    · exact ⟨[], rfl, h⟩

/-- The time that passes has values arrive. -/
theorem IsManned.advance (h : s.IsManned) (t : Duration) :
    (s.advance t).IsManned ∧ ∃ ds, (s.advance t).channel = s.channel.sendings ds := by
  obtain ⟨values, hvalues, hsenders⟩ := arrive_eq t h
  exact ⟨hsenders, deliveries values, hvalues⟩

theorem receive_senders (c : Channel α) : c.receive.2.senders = c.senders := by
  rcases h : c.queue with - | ⟨v, rest⟩
  · rw [receive_of_nil h]
  · rw [receive_of_cons h]

/-- A wait is one during which the senders of some values send them. -/
theorem IsManned.receive (h : s.IsManned) (limit : Duration) :
    (s.receive limit).2.IsManned ∧
      ∃ ds, ((s.receive limit).1, (s.receive limit).2.channel) = s.channel.wait ds := by
  obtain ⟨hnow, ds, hds⟩ := h.advance s.now
  obtain ⟨hend, es, hes⟩ := hnow.advance ((s.advance s.now).waitEnd limit)
  refine ⟨?_, ds ++ es, ?_⟩
  · rw [IsManned, Timeline.receive, receive_senders]
    exact hend
  · rw [wait_eq, sendings_append, ← hds, ← hes]
    rfl

/-- **What happens to a channel with a clock** is what may happen to a channel. -/
theorem IsManned.act (h : s.IsManned) (a : Act α) :
    (s.act a).2.IsManned ∧
      ∃ bs : List (Channel.Act α), s.channel.verdicts bs = (s.act a).1.toList ∧
        s.channel.after bs = (s.act a).2.channel := by
  have hopen (ho : s.isOpen = true) : s.channel.senders = s.due.length + 1 := by
    rw [h, ho]
    rfl
  cases a with
  | send v =>
    by_cases ho : s.isOpen = true
    · have hne : s.channel.senders ≠ 0 := by rw [hopen ho]; omega
      rw [Timeline.act, Timeline.send, if_pos ho]
      exact ⟨h, [.sending (.send v)], rfl, sending_of_open hne (.send v)⟩
    · rw [Timeline.act, Timeline.send, if_neg ho]
      exact ⟨h, [], rfl, rfl⟩
  | sendLater v delay =>
    by_cases ho : s.isOpen = true
    · have hne : s.channel.senders ≠ 0 := by rw [hopen ho]; omega
      rw [Timeline.act, Timeline.sendLater, if_pos ho]
      refine ⟨?_, [.sending .clone], rfl, sending_of_open hne .clone⟩
      simp only [IsManned, addSender, hopen ho, length_insertDue, ho, Bool.toNat_true]
    · rw [Timeline.act, Timeline.sendLater, if_neg ho]
      exact ⟨h, [], rfl, rfl⟩
  | close =>
    by_cases ho : s.isOpen = true
    · have hne : s.channel.senders ≠ 0 := by rw [hopen ho]; omega
      rw [Timeline.act, Timeline.close, if_pos ho]
      refine ⟨?_, [.sending .drop], rfl, sending_of_open hne .drop⟩
      simp only [IsManned, dropSender, hopen ho, Bool.toNat_false]
      rfl
    · rw [Timeline.act, Timeline.close, if_neg ho]
      exact ⟨h, [], rfl, rfl⟩
  | await limit =>
    obtain ⟨hmanned, ds, hds⟩ := h.receive limit
    refine ⟨hmanned, [.await limit ds], ?_, ?_⟩
    · rw [Channel.verdicts, Channel.act, ← hds]
      rfl
    · rw [after_cons, Channel.act, ← hds]
      rfl
  | noMore limit =>
    obtain ⟨hmanned, ds, hds⟩ := h.receive limit
    refine ⟨hmanned, [.noMore ds], ?_, ?_⟩
    · rw [Channel.verdicts, Channel.act, ← hds]
      rfl
    · rw [after_cons, Channel.act, ← hds]
      rfl

/-- The runs of a channel with a clock are runs of a channel. -/
theorem IsManned.follows (h : s.IsManned) (as : List (Act α)) :
    ∃ bs : List (Channel.Act α), s.channel.verdicts bs = s.verdicts as ∧
      s.channel.after bs = (s.after as).channel := by
  induction as generalizing s with
  | nil => exact ⟨[], rfl, rfl⟩
  | cons a as ih =>
    obtain ⟨hmanned, bs, hverdicts, hafter⟩ := h.act a
    obtain ⟨cs, hrest, hend⟩ := ih hmanned
    refine ⟨bs ++ cs, ?_, ?_⟩
    · rw [verdicts_append, hverdicts, hafter, hrest]
      rfl
    · rw [after_append, hafter, hend]
      rfl

end Timeline

/-! ## The account -/

/-- **The verdicts account for every value.** Let senders and the receiver of a channel do anything
in any order, the senders also while the receiver waits.

1. The values received by waits for a value, and by waits for none that fail, followed by the queue,
   are in order the values sent.
2. A wait for a value succeeds with the first value that is there at its end, if there is one. It
   expires only where the queue is empty and a sender is left, and is told that the channel is
   closed where it is empty and none is left.
3. If no sender is left, waits give the values of the queue one after the other, and are told that
   the channel is closed only behind the last.
4. A wait for a value and a wait for none, with the same things happening, both receive the same
   first value and leave the same channel, and the first succeeds and the second fails; or there is
   no value, and the first fails and the second succeeds, and neither changes the channel.
5. A channel with a clock gives no other verdicts. -/
theorem verdicts_account (as : List (Act α)) :
    let c : Channel α := fresh.after as
    taken (fresh.verdicts as) ++ c.queue = fresh.sentIn as ∧
    (∀ limit ds, let arrived := c.sendings ds
      (∀ v, (c.act (.await limit ds)).1 = some (.awaited (.ok v)) ↔
        arrived.queue.head? = some v) ∧
      ((c.act (.await limit ds)).1 = some (.awaited (.error (.expired limit))) ↔
        arrived.queue = [] ∧ arrived.senders ≠ 0) ∧
      ((c.act (.await limit ds)).1 = some (.awaited (.error .closed)) ↔
        arrived.queue = [] ∧ arrived.senders = 0)) ∧
    (c.senders = 0 → ∀ waits : List (Duration × List (Sending α)),
      c.verdicts (waits.map fun w => .await w.1 w.2) =
        (List.range waits.length).map fun i =>
          .awaited (c.queue[i]?.elim (.error .closed) .ok)) ∧
    (∀ limit ds, let arrived := c.sendings ds
      (∃ v rest, arrived.queue = v :: rest ∧
        c.act (.await limit ds) = (some (.awaited (.ok v)), { arrived with queue := rest }) ∧
        c.act (.noMore ds) = (some (.noMore (.error ⟨v⟩)), { arrived with queue := rest })) ∨
      ∃ e, arrived.queue = [] ∧
        c.act (.await limit ds) = (some (.awaited (.error e)), arrived) ∧
        c.act (.noMore ds) = (some (.noMore (.ok ())), arrived)) ∧
    ∀ ts : List (Timeline.Act α), ∃ bs : List (Act α),
      fresh.verdicts bs = Timeline.fresh.verdicts ts ∧
        fresh.after bs = (Timeline.fresh.after ts).channel := by
  intro c
  refine ⟨run_accounts as, ?_, fun h => verdicts_of_closed h, ?_, Timeline.isManned_fresh.follows⟩
  · intro limit ds arrived
    rcases h : arrived.queue with - | ⟨v, rest⟩
    · rw [(act_of_nil h limit).1]
      by_cases hs : arrived.senders = 0 <;> simp [arrived, hs]
    · rw [(act_of_cons h limit).1]
      simp
  · intro limit ds arrived
    rcases h : arrived.queue with - | ⟨v, rest⟩
    · exact .inr ⟨_, rfl, act_of_nil h limit⟩
    · exact .inl ⟨v, rest, rfl, act_of_cons h limit⟩

/-- A value that was sent before the last sender left is received by a wait for none, the next one
by a wait for a value, and the wait behind them is told that the channel is closed. -/
theorem closed_channel_accounted :
    let as : List (Act Nat) := [.sending (.send 1), .noMore [.clone, .send 2, .drop, .drop]]
    let c : Channel Nat := fresh.after as
    c.senders = 0 ∧ c.verdicts [.await ⟨5⟩ [], .await ⟨5⟩ [.send 3]] =
      [.awaited (.ok 2), .awaited (.error .closed)] ∧
      fresh.sentIn as = 1 :: c.queue := by
  intro as c
  obtain ⟨haccount, -, hclosed, -⟩ := verdicts_account as
  exact ⟨rfl, hclosed rfl [(⟨5⟩, []), (⟨5⟩, [.send 3])], haccount.symm⟩

end Testbed.Channel
