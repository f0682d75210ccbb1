import Testbed.Proofs.Http.Course
import Testbed.Proofs.Http.EventStream.Event
import Testbed.Proofs.Http.Running

/-!
# What a client reads of an event stream

Events and comments are written to a stream one after another (`Item`), and the client reads the
stream as a whole.

**Theorem (`read_back_iff`).** The client reads every item on its own: what is written in one of
them does not leak into another. It reads back all events, with each line break of their data as a
line feed, exactly if no data has a carriage return without a line feed behind it.

An item ends the line it is in, and an event its block, so what follows is read afresh
(`Item.read_append`).
-/

namespace Testbed

/-! ## Octets of a text -/

namespace Utf8

theorem decode?_encode (s : String) : decode? (encode s) = some s := by
  obtain ⟨cs, rfl⟩ : ∃ cs, s = String.ofList cs := ⟨s.toList, String.ofList_toList.symm⟩
  have hbytes : (⟨(encode (String.ofList cs)).toArray⟩ : ByteArray) =
      (String.ofList cs).toByteArray := by
    rw [encode, String.toList_ofList, ← List.data_toByteArray]
    rfl
  rw [decode?, hbytes, String.fromUTF8?, dif_pos (String.ofList cs).isValidUTF8]
  rfl

theorem encode_injective : Function.Injective encode := by
  intro s t h
  have hsame : some s = some t := by rw [← decode?_encode s, h, decode?_encode]
  exact Option.some.inj hsame

end Utf8

namespace Http.EventStream

/-! ## Items -/

/-- What is written to a stream. -/
inductive Item where
  | event (name data : String)
  | comment (text : String)
deriving DecidableEq, Repr

namespace Item

variable {i : Item}

def handler : Item → Handler
  | event name data => EventStream.event name data
  | comment text => EventStream.comment text

def text : Item → String
  | event name data => eventText name data
  | comment text => commentText text

/-- The event that a client should read. -/
def event? : Item → Option (String × String)
  | event name data => some (name, String.ofList (unified data.toList))
  | comment _ => none

/-- The name of an event, or the text of a comment, is in one line. -/
def Plain : Item → Prop
  | event name _ => OneLine name.toList
  | comment text => OneLine text.toList

/-- The data of an event has a lone carriage return. -/
def HasLoneReturn : Item → Prop
  | event _ data => LoneReturn data.toList
  | comment _ => False

theorem handler_eq (i : Item) : i.handler = .chunk (Utf8.encode i.text) := by
  cases i <;> rfl

/-- An item is read on its own, whatever is written behind it. -/
theorem read_append (h : i.Plain) (tail : List Char) :
    readBlocks .fresh (readLines [] (i.text.toList ++ tail)) =
      read i.text ++ readBlocks .fresh (readLines [] tail) := by
  cases i with
  | event name data =>
    have hlines := readLines_eventText h data
    have halone := hlines []
    rw [List.append_nil] at halone
    show readBlocks .fresh (readLines [] ((eventText name data).toList ++ tail)) =
      read (eventText name data) ++ _
    rw [read, halone, hlines, readBlocks_append]
    rfl
  | comment text =>
    show readBlocks .fresh (readLines [] ((commentText text).toList ++ tail)) =
      read (commentText text) ++ _
    rw [read_commentText_append h, read_commentText h]
    rfl

/-- An item is read back exactly if it has no lone carriage return, whatever is read behind it. -/
theorem read_text_append_iff (h : i.Plain) (more events : List (String × String)) :
    read i.text ++ more = i.event?.toList ++ events ↔ ¬i.HasLoneReturn ∧ more = events := by
  cases i with
  | comment text =>
    show read (commentText text) ++ more = events ↔ _
    simp [read_commentText h, HasLoneReturn]
  | event name data =>
    show read (eventText name data) ++ more =
      (name, String.ofList (unified data.toList)) :: events ↔ ¬LoneReturn data.toList ∧ _
    by_cases hdata : LoneReturn data.toList
    · obtain ⟨event, rest, hread, hlength⟩ := read_eventText_of_loneReturn h hdata
      refine iff_of_false (fun heq => ?_) fun hnot => hnot.1 hdata
      rw [hread, List.cons_append] at heq
      rw [(List.cons_eq_cons.mp heq).1, String.length_ofList] at hlength
      exact Nat.lt_irrefl _ hlength
    · simp [read_eventText h hdata, hdata]

end Item

/-! ## Reading a stream -/

/-- The items of a stream are read one by one. -/
theorem read_items {items : List Item} (h : ∀ i ∈ items, i.Plain) :
    read (String.ofList (items.flatMap fun i => i.text.toList)) =
      items.flatMap fun i => read i.text := by
  rw [read, String.toList_ofList]
  induction items with
  | nil => rfl
  | cons i items ih =>
    obtain ⟨hi, hitems⟩ := List.forall_mem_cons.mp h
    rw [List.flatMap_cons, List.flatMap_cons, i.read_append hi, ih hitems]

theorem flatMap_read_iff {items : List Item} (h : ∀ i ∈ items, i.Plain) :
    (items.flatMap fun i => read i.text) = items.filterMap Item.event? ↔
      ∀ i ∈ items, ¬i.HasLoneReturn := by
  induction items with
  | nil => simp
  | cons i items ih =>
    obtain ⟨hi, hitems⟩ := List.forall_mem_cons.mp h
    have hevents : (i :: items).filterMap Item.event? =
        i.event?.toList ++ items.filterMap Item.event? := by
      cases i <;> rfl
    rw [List.flatMap_cons, hevents, i.read_text_append_iff hi, ih hitems, List.forall_mem_cons]

/-! ## Writing a stream -/

theorem encode_text_ne_nil (i : Item) : Utf8.encode i.text ≠ [] := by
  intro h
  have hempty : i.text = "" := Utf8.encode_injective h
  cases i with
  | event name data =>
    have hlist := (toList_eventText name data).symm.trans (congrArg String.toList hempty)
    simp [nameTag] at hlist
  | comment text => simp [Item.text, commentText] at hempty

theorem encode_items (items : List Item) :
    (items.map fun i => Utf8.encode i.text).flatten =
      Utf8.encode (String.ofList (items.flatMap fun i => i.text.toList)) := by
  rw [Utf8.encode, String.toList_ofList, List.flatMap_assoc]
  rfl

/-- Some items are written to a stream whose client is there, each as a chunk of its own. -/
theorem run_items (patience : Patience) (shared : Shared) {x : Exchange} (h : x.Streaming)
    (hl : x.listening = true) (items : List Item) :
    Job.run patience shared ⟨x, items.map Item.handler⟩ =
      (shared, .ended .done
        { x with underway := x.underway ++ items.map fun i => Utf8.encode i.text }) := by
  induction items generalizing x with
  | nil =>
    rw [List.map_nil, List.map_nil, List.append_nil]
    rfl
  | cons i items ih =>
    have hwrite : x.write (Utf8.encode i.text) =
        (.ok (), { x with underway := x.underway ++ [Utf8.encode i.text] }) := by
      simp [h.write, hl, encode_text_ne_nil]
    have hplay : (Script.write (Utf8.encode i.text)).play patience x =
        (.ended .done, { x with underway := x.underway ++ [Utf8.encode i.text] }) := by
      simp only [Script.write, Script.play, Patience.breaksOff_write, Exchange.perform, hwrite,
        Bool.false_eq_true, if_false]
    have hi : i.handler = .script (.write (Utf8.encode i.text)) := i.handler_eq
    rw [List.map_cons, hi, (Job.leads_script hplay shared _).ended (ih _ hl), List.append_assoc]
    · rfl
    · exact ⟨h.headPending, h.sending, h.receiving, h.chunked⟩

/-- The start of an event stream sends the head alone. -/
theorem leads_start (patience : Patience) (shared : Shared) (request : Request) (closing : Bool)
    (rest : List Handler) :
    ∃ y, Job.Leads patience shared ⟨.start request closing, start :: rest⟩ ⟨y, rest⟩ ∧
      y.Streaming ∧ y.listening = true ∧ y.underway = [] := by
  let type := Handler.streamType "text/event-stream" (some "utf-8")
  let x : Exchange := ((((Exchange.start request closing).setHeader "Cache-Control" "no-cache")
    |>.setStatus 200).setHeader Handler.contentType type).setChunked
  have hx : x.Open := ⟨rfl, rfl, rfl, rfl, rfl⟩
  have hwrite := hx.write_chunked rfl []
  refine ⟨(x.write []).2, Job.leads_script ?_ shared rest, hx.streaming_write rfl [], ?_, ?_⟩
  · show Script.play patience (.write []) x = _
    simp only [Script.write, Script.play, Patience.breaksOff_write, Exchange.perform, hwrite,
      Bool.false_eq_true, if_false]
    rfl
  · rw [hwrite]
    rfl
  · rw [hwrite]
    rfl

/-- **A client reads back what was written, lone carriage returns apart.** Let a handler begin an
event stream and write any events and comments, whose names and texts are in one line each. It ends
well and sends each of them as a chunk of its own, and together the chunks are a text.

1. The client reads of that text what it reads of each item alone.
2. It reads exactly the events, in order, their data with each line break as a line feed, if and
   only if no event has data with a carriage return that no line feed follows. -/
theorem read_back_iff (patience : Patience) (shared : Shared) (request : Request) (closing : Bool)
    (items : List Item) (h : ∀ i ∈ items, i.Plain) :
    ∃ x stream,
      (Job.start (.all (start :: items.map Item.handler)) (.start request closing)).run
        patience shared = (shared, .ended .done x) ∧
      x.underway = items.map (fun i => Utf8.encode i.text) ∧
      Utf8.decode? x.underway.flatten = some stream ∧
      read stream = items.flatMap (fun i => read i.text) ∧
      (read stream = items.filterMap Item.event? ↔ ∀ i ∈ items, ¬i.HasLoneReturn) := by
  obtain ⟨y, hlead, hs, hl, hu⟩ :=
    leads_start patience shared request closing (items.map Item.handler)
  have hrun := hlead.ended (run_items patience shared hs hl items)
  have hall := Job.leads_all patience shared (.start request closing)
    (start :: items.map Item.handler) []
  rw [List.append_nil] at hall
  have hunderway : y.underway ++ items.map (fun i => Utf8.encode i.text) =
      items.map fun i => Utf8.encode i.text := by rw [hu, List.nil_append]
  rw [hunderway] at hrun
  refine ⟨{ y with underway := items.map fun i => Utf8.encode i.text },
    String.ofList (items.flatMap fun i => i.text.toList), ?_, rfl, ?_, ?_, ?_⟩
  · exact hall.ended hrun
  · rw [encode_items, Utf8.decode?_encode]
  · exact read_items h
  · rw [read_items h]
    exact flatMap_read_iff h

/-- A carriage return with a line feed behind it is one line break of the data; what is behind one
without is lost. -/
theorem lone_return_loses :
    let items : List Item := [.event "e" "a\r\nb", .comment "c", .event "f" "a\rb"]
    ∃ x stream,
      (Job.start (.all (start :: items.map Item.handler)) (.start .plain false)).run
        .limited .fresh = (.fresh, .ended .done x) ∧
      Utf8.decode? x.underway.flatten = some stream ∧
      items.filterMap Item.event? = [("e", "a\nb"), ("f", "a\nb")] ∧
      read stream = [("e", "a\nb"), ("f", "a")] := by
  intro items
  have hplain : ∀ i ∈ items, i.Plain := by
    simp [items, Item.Plain, OneLine]
  obtain ⟨x, stream, hrun, -, hdecode, hread, -⟩ :=
    read_back_iff .limited .fresh .plain false items hplain
  refine ⟨x, stream, hrun, hdecode, by decide +kernel, hread.trans (by decide +kernel)⟩

end Http.EventStream
end Testbed
