import Testbed.Http.Response
import Testbed.Proofs.Http.Outcome
import Testbed.Proofs.Http.Snapshot

/-!
# Which header values a response carries

A handler sets and adds headers one by one: setting one takes its earlier values away, whatever the
case of the names. What HTTP does not allow is left out only when the response is built.

**Theorem (`last_set_then_added`).** For a name that HTTP allows, a response carries the value that
was set last before the commit and the values that were added behind it, all that were added if none
was set, and of these exactly the allowed ones. Operations on headers of other names can be put in
or left out anywhere without a trace in the values of this name, and operations on names that are
not allowed without any trace.

The first part follows the headers that are set and added, one operation at a time
(`valuesNamed_foldl`), up to the commit (`valuesOf_respond`). The second one leaves out the headers
of some names from an exchange and from the head that it has sent (`keeping`): an operation on such
a header does nothing to what is left, and every other one does what it did (`keeping_act`).
-/

namespace Testbed.Http

/-! ## Names -/

theorem isTokenChar_of_letter {c : Char} (h : (c.isUpper || c.isLower) = true) :
    isTokenChar c = true := by
  have hletter : c.isAlpha = true := h
  simp [isTokenChar, Char.isAlphanum, hletter]

theorem isTokenChar_toLower (c : Char) : isTokenChar c.toLower = isTokenChar c := by
  cases h : c.isUpper with
  | true =>
    rw [isTokenChar_of_letter (c := c.toLower) (by rw [Text.isLower_toLower h, Bool.or_true]),
      isTokenChar_of_letter (by rw [h, Bool.true_or])]
  | false => rw [Text.toLower_of_not_isUpper h]

/-- A name in lower case is allowed if the name is. -/
theorem isHeaderName_toLower (name : String) :
    isHeaderName (name.map Char.toLower) = isHeaderName name := by
  have hempty : (name.map Char.toLower).isEmpty = name.isEmpty := by
    rw [Bool.eq_iff_iff, String.isEmpty_iff, String.isEmpty_iff, String.map_eq_empty]
  simp only [isHeaderName, hempty, String.length_map, String.toList_map, List.all_map,
    Function.comp_def, isTokenChar_toLower]

/-- Whether a name is allowed does not depend on its case. -/
theorem isHeaderName_congr {a b : String} (h : Exchange.sameName a b = true) :
    isHeaderName a = isHeaderName b := by
  rw [← isHeaderName_toLower a, Exchange.sameName_iff.mp h, isHeaderName_toLower]

theorem Exchange.sameName_congr {a b : String} (h : Exchange.sameName a b = true) (c : String) :
    Exchange.sameName a c = Exchange.sameName b c := by
  rw [Exchange.sameName, Exchange.sameName, Exchange.sameName_iff.mp h]

/-- The headers of a name that is not kept can be taken away before. -/
theorem filter_unset {keep : String → Bool}
    (hkeep : ∀ a b, Exchange.sameName a b = true → keep a = keep b) {name : String}
    (hname : keep name = false) (es : List (String × String)) :
    (es.filter fun e => !Exchange.sameName e.1 name).filter (fun e => keep e.1) =
      es.filter fun e => keep e.1 := by
  rw [List.filter_filter]
  refine List.filter_congr fun e _ => ?_
  cases he : Exchange.sameName e.1 name
  · rw [Bool.not_false, Bool.and_true]
  · rw [hkeep _ _ he, hname, Bool.false_and]

/-! ## Operations on headers -/

namespace Op

/-- The name of the header that an operation sets or adds. -/
def headerName? : Op → Option String
  | .setHeader name _ | .addHeader name _ => some name
  | _ => none

/-- Whether an operation sets the header of a name, in whatever case. -/
def sets (name : String) : Op → Bool
  | .setHeader n _ => Exchange.sameName n name
  | _ => false

/-- The value that an operation adds to the header of a name, in whatever case. -/
def added (name : String) : Op → List String
  | .addHeader n value => if Exchange.sameName n name then [value] else []
  | _ => []

end Op

/-- The values of a header that are allowed, as they are sent. -/
def allowed (values : List String) : List Bytes := (values.filter isHeaderValue).map Utf8.encode

/-- The answer to a request whose handler carries out some operations, one after the other. -/
def respond (request : Request) (closing : Bool) (ops : List Op) (ending : Ending) : Response :=
  .ofExchange (Job.conclude ending ((Exchange.start request closing).after (ops.map .op)))

/-! ## The headers before the commit -/

theorem valuesNamed_append (name : String) (es fs : List (String × String)) :
    valuesNamed name (es ++ fs) = valuesNamed name es ++ valuesNamed name fs := by
  simp [valuesNamed]

theorem valuesNamed_setHeader (name n value : String) (es : List (String × String)) :
    valuesNamed name ((Move.op (.setHeader n value)).headers es) =
      if Exchange.sameName n name then [value] else valuesNamed name es := by
  rw [Move.headers, valuesNamed_append, valuesNamed_cons]
  split_ifs with h
  · have hnone : valuesNamed name (es.filter fun e => !Exchange.sameName e.1 n) = [] := by
      rw [Exchange.sameName_iff] at h
      simp [valuesNamed, Exchange.sameName, h]
    rw [hnone]
    rfl
  · rw [Bool.not_eq_true] at h
    have hkept : valuesNamed name (es.filter fun e => !Exchange.sameName e.1 n) =
        valuesNamed name es :=
      congrArg (List.map Prod.snd)
        (filter_unset (fun a b hab => Exchange.sameName_congr hab name) h es)
    rw [hkept]
    exact List.append_nil _

/-- Behind the last setting of a name, values are added one by one. -/
theorem valuesNamed_foldl {name : String} {ops : List Op} (h : ∀ op ∈ ops, op.sets name = false)
    (es : List (String × String)) :
    valuesNamed name ((ops.map Move.op).foldl (fun hs m => m.headers hs) es) =
      valuesNamed name es ++ ops.flatMap (Op.added name) := by
  induction ops generalizing es with
  | nil => simp
  | cons op ops ih =>
    obtain ⟨hop, hops⟩ := List.forall_mem_cons.mp h
    rw [List.map_cons, List.foldl_cons, ih hops, List.flatMap_cons, ← List.append_assoc]
    congr 1
    cases op with
    | setHeader n value =>
      rw [valuesNamed_setHeader]
      simp_all [Op.sets, Op.added]
    | addHeader n value =>
      rw [Move.headers, valuesNamed_append, valuesNamed_cons]
      rfl
    | _ => simp [Move.headers, Op.added]

/-! ## Leaving headers out -/

/-- A head with the headers of some names alone. -/
def Head.keeping (keep : String → Bool) (head : Head) : Head :=
  { head with headers := head.headers.filter fun h => keep h.1 }

namespace Exchange

/-- An exchange with the headers of some names alone, in a head that was sent as well. -/
def keeping (keep : String → Bool) (x : Exchange) : Exchange :=
  { x with
    headers := x.headers.filter fun h => keep h.1
    delivered := x.delivered.map (Head.keeping keep) }

variable {keep : String → Bool}

theorem keeping_commit (x : Exchange) :
    (x.keeping keep).commit = (x.commit.1, x.commit.2.keeping keep) := by
  obtain ⟨_, _, _, _, _, chunked, headPending, _, receiving, _, listening, _, _⟩ := x
  cases chunked <;> cases headPending <;> cases receiving <;> cases listening <;> rfl

theorem keeping_sendChunk (x : Exchange) (data : Bytes) :
    (x.keeping keep).sendChunk data =
      ((x.sendChunk data).1, (x.sendChunk data).2.keeping keep) := by
  have hs : (x.keeping keep).sending = x.sending := rfl
  have hr : (x.keeping keep).hasReceiver = x.hasReceiver := rfl
  rw [sendChunk, sendChunk, hs, hr]
  split_ifs <;> rfl

theorem keeping_write (x : Exchange) (data : Bytes) :
    (x.keeping keep).write data = ((x.write data).1, (x.write data).2.keeping keep) := by
  have hc : (x.keeping keep).chunked = x.chunked := rfl
  have hp : (x.keeping keep).isCommitted = x.isCommitted := rfl
  simp only [write, keeping_commit, hc, hp]
  rcases x.commit with ⟨_ | _, y⟩ <;> split_ifs <;> first | rfl | exact keeping_sendChunk ..

theorem keeping_fail (x : Exchange) (status : UInt16) :
    (x.keeping keep).fail status = (x.fail status).keeping keep := by
  have hp : (x.keeping keep).isCommitted = x.isCommitted := rfl
  rw [fail, fail, hp]
  split_ifs <;> rfl

theorem keeping_finish (x : Exchange) : (x.keeping keep).finish = x.finish.keeping keep := by
  rw [finish, keeping_commit]
  rfl

theorem keeping_conclude (ending : Ending) (x : Exchange) :
    Job.conclude ending (x.keeping keep) = (Job.conclude ending x).keeping keep := by
  cases ending with
  | done => exact keeping_finish x
  | failed reason => simp only [Job.conclude, keeping_fail, keeping_finish]
  | aborted => rfl

/-- An operation on a header that is left out does nothing to what is kept. -/
theorem keeping_act (hkeep : ∀ a b, sameName a b = true → keep a = keep b) (x : Exchange)
    (op : Op) : (x.act op).keeping keep =
      if op.headerName?.all keep then (x.keeping keep).act op else x.keeping keep := by
  cases op with
  | setHeader n value =>
    cases hn : keep n
    · simp [Op.headerName?, keeping, hn, filter_unset hkeep hn]
    · simp [Op.headerName?, keeping, hn, List.filter_filter, Bool.and_comm]
  | addHeader n value => cases hn : keep n <;> simp [Op.headerName?, keeping, hn]
  | write data =>
    simp only [act_write, keeping_write]
    rfl
  | wait limit => simp [Op.headerName?]
  | _ => rfl

/-- Operations on headers that are left out can be left out. -/
theorem keeping_after (hkeep : ∀ a b, sameName a b = true → keep a = keep b) (x : Exchange)
    (ops : List Op) : (x.after (ops.map .op)).keeping keep =
      (x.keeping keep).after ((ops.filter (·.headerName?.all keep)).map .op) := by
  induction ops generalizing x with
  | nil => rfl
  | cons op ops ih =>
    rw [List.map_cons, after_cons, ih]
    show ((x.act op).keeping keep).after _ = _
    rw [keeping_act hkeep, List.filter_cons]
    split_ifs <;> rfl

end Exchange

/-! ## What a response carries -/

namespace Response

/-- The values of a name, given in whatever case, that a response carries. -/
theorem valuesOf_ofHead (name : String) (head : Head) (chunks : List Bytes) :
    (ofHead head chunks).valuesOf (name.map Char.toLower) =
      if isHeaderName name then allowed (valuesNamed name head.headers) else [] := by
  have hcarried (h : String × String) :
      (h.1.map Char.toLower == name.map Char.toLower && (isHeaderName h.1 && isHeaderValue h.2)) =
        (isHeaderName name && (isHeaderValue h.2 && Exchange.sameName h.1 name)) := by
    show (Exchange.sameName h.1 name && _) = _
    cases hn : Exchange.sameName h.1 name with
    | true => rw [isHeaderName_congr hn, Bool.true_and, Bool.and_true]
    | false => simp
  simp only [valuesOf, ofHead, headersOf, allowed, valuesNamed, List.filter_map, List.filter_filter,
    List.map_map, Function.comp_def, hcarried]
  cases isHeaderName name <;> simp

/-- A response carries nothing of headers whose names are not allowed. -/
theorem ofExchange_keeping_isHeaderName (x : Exchange) :
    ofExchange (x.keeping isHeaderName) = ofExchange x := by
  have hheaders (hs : List (String × String)) :
      headersOf (hs.filter fun h => isHeaderName h.1) = headersOf hs := by
    rw [headersOf, headersOf, List.filter_filter]
    congr 1
    refine List.filter_congr fun h _ => ?_
    show (isHeaderName h.1 && isHeaderValue h.2 && isHeaderName h.1) = _
    rw [Bool.and_right_comm, Bool.and_self]
  cases hd : x.delivered with
  | none => simp [ofExchange, Exchange.keeping, hd]
  | some head => simp [ofExchange, Exchange.keeping, Head.keeping, ofHead, hd, hheaders]

theorem valuesOf_ofExchange_keeping (name : String) (x : Exchange) :
    (ofExchange (x.keeping (Exchange.sameName · name))).valuesOf (name.map Char.toLower) =
      (ofExchange x).valuesOf (name.map Char.toLower) := by
  have hvalues (hs : List (String × String)) :
      valuesNamed name (hs.filter fun h => Exchange.sameName h.1 name) = valuesNamed name hs := by
    simp [valuesNamed]
  cases hd : x.delivered with
  | none => simp [ofExchange, Exchange.keeping, hd]
  | some head => simp [ofExchange, Exchange.keeping, Head.keeping, hd, valuesOf_ofHead, hvalues]

end Response

section LeavingOut

variable (request : Request) (closing : Bool) (ops : List Op) (ending : Ending)

theorem respond_filter {keep : String → Bool}
    (hkeep : ∀ a b, Exchange.sameName a b = true → keep a = keep b) :
    respond request closing (ops.filter (·.headerName?.all keep)) ending = .ofExchange
      ((Job.conclude ending
        ((Exchange.start request closing).after (ops.map .op))).keeping keep) := by
  rw [← Exchange.keeping_conclude, Exchange.keeping_after hkeep]
  rfl

/-- Operations on headers of other names can be left out. -/
theorem valuesOf_respond_filter (name : String) :
    (respond request closing (ops.filter (·.headerName?.all (Exchange.sameName · name)))
      ending).valuesOf (name.map Char.toLower) =
      (respond request closing ops ending).valuesOf (name.map Char.toLower) := by
  rw [respond_filter _ _ _ _ fun a b h => Exchange.sameName_congr h name,
    Response.valuesOf_ofExchange_keeping]
  rfl

/-- Operations on headers whose names are not allowed can be left out. -/
theorem respond_filter_isHeaderName :
    respond request closing (ops.filter (·.headerName?.all isHeaderName)) ending =
      respond request closing ops ending := by
  rw [respond_filter _ _ _ _ fun a b h => isHeaderName_congr h,
    Response.ofExchange_keeping_isHeaderName]
  rfl

end LeavingOut

/-! ## The commit -/

/-- What an exchange holds that was not committed. -/
theorem Exchange.holds_of_uncommitted {request : Request} {closing : Bool} {calls : List Op}
    (h : ((Exchange.start request closing).after (calls.map .op)).isCommitted = false) :
    let x := (Exchange.start request closing).after (calls.map .op)
    x.Open ∧ x.listening = true ∧ x.headers = Move.headersSet (calls.map .op) := by
  have hrun : ((Course.start request closing).run (calls.map .op)).exchange =
      (Exchange.start request closing).after (calls.map .op) := Course.exchange_run ..
  rw [← hrun] at h ⊢
  have hsteady : ∀ m ∈ calls.map Move.op, m.isSteady = true :=
    List.forall_mem_map.mpr fun _ _ => rfl
  rcases Course.collecting_or_sending request closing hsteady with hc | hs
  · exact ⟨hc.exchange, hc.listening, hc.headers⟩
  · rw [hs.exchange.isCommitted] at h
    cases h

/-- The commit sends the head that is pending, by the end of the handler or by an operation. -/
theorem Exchange.Open.delivered_conclude {x : Exchange} (hx : x.Open) (hl : x.listening = true)
    {rest : List Op} {ending : Ending} (hcommit : rest = [] ∧ ending = .done ∨
      ∃ op more, rest = op :: more ∧ (x.act op).isCommitted = true) :
    (Job.conclude ending (x.after (rest.map .op))).delivered = some x.pendingHead := by
  obtain ⟨rfl, rfl⟩ | ⟨op, more, rfl, hop⟩ := hcommit
  · exact hx.finish.2 hl
  · rcases hx.move (.op op) with ho | ⟨hc, data, hdata⟩
    · have : (x.act op).isCommitted = false := ho.isCommitted
      rw [this] at hop
      cases hop
    · cases hdata
      have hd : (x.move (.op (.write data))).delivered = some x.pendingHead := by
        simp only [Exchange.move, act_write, hx.write_chunked hc, if_pos hl]
      exact (delivered_stays (.inr (hx.streaming_write hc data)) hd (more.map .op)).2 ending

/-- The values that a response carries are the allowed ones of those set before the commit. -/
theorem valuesOf_respond {request : Request} {closing : Bool} {calls rest : List Op}
    {ending : Ending} {name : String} (hname : isHeaderName name = true) :
    let x := (Exchange.start request closing).after (calls.map .op)
    x.isCommitted = false →
    (rest = [] ∧ ending = .done ∨
      ∃ op more, rest = op :: more ∧ (x.act op).isCommitted = true) →
    (respond request closing (calls ++ rest) ending).valuesOf (name.map Char.toLower) =
      allowed (valuesNamed name (Move.headersSet (calls.map .op))) := by
  intro x hbefore hcommit
  obtain ⟨hx, hl, hheaders⟩ := Exchange.holds_of_uncommitted hbefore
  have hd := hx.delivered_conclude hl hcommit
  rw [respond, List.map_append, Exchange.after_append, Response.ofExchange, hd]
  show (Response.ofHead x.pendingHead _).valuesOf _ = _
  rw [Response.valuesOf_ofHead, if_pos hname, ← hheaders]
  rfl

/-- **The last set, and then the added.** Take the operations of a handler on a request.

1. Let some of them, `calls`, be those before the commit, which the next operation or the end of the
   handler makes. For a name that HTTP allows, the response carries the values that were added, if
   the header was not set, and otherwise the value that was set last and those that were added
   behind it, in this order; of these it carries exactly the ones that HTTP allows.
2. Operations on headers of other names make no difference to the values of a name, wherever they
   stand and however the handler ends.
3. Operations on headers whose names HTTP does not allow make no difference to the response. -/
theorem last_set_then_added (request : Request) (closing : Bool) :
    (∀ calls rest ending,
      let x := (Exchange.start request closing).after (calls.map .op)
      x.isCommitted = false →
      (rest = [] ∧ ending = .done ∨
        ∃ op more, rest = op :: more ∧ (x.act op).isCommitted = true) →
      ∀ name, isHeaderName name = true →
        let values := (respond request closing (calls ++ rest) ending).valuesOf
          (name.map Char.toLower)
        ((∀ op ∈ calls, op.sets name = false) →
          values = allowed (calls.flatMap (Op.added name))) ∧
        ∀ before n value behind, calls = before ++ .setHeader n value :: behind →
          Exchange.sameName n name = true → (∀ op ∈ behind, op.sets name = false) →
          values = allowed (value :: behind.flatMap (Op.added name))) ∧
    (∀ name ops ops' ending,
      ops.filter (·.headerName?.all (Exchange.sameName · name)) =
        ops'.filter (·.headerName?.all (Exchange.sameName · name)) →
      (respond request closing ops ending).valuesOf (name.map Char.toLower) =
        (respond request closing ops' ending).valuesOf (name.map Char.toLower)) ∧
    ∀ ops ops' ending,
      ops.filter (·.headerName?.all isHeaderName) = ops'.filter (·.headerName?.all isHeaderName) →
      respond request closing ops ending = respond request closing ops' ending := by
  refine ⟨?_, fun name ops ops' ending h => ?_, fun ops ops' ending h => ?_⟩
  · intro calls rest ending x hbefore hcommit name hname values
    have hvalues : values = _ := valuesOf_respond hname hbefore hcommit
    rw [hvalues]
    constructor
    · intro hunset
      exact congrArg allowed (valuesNamed_foldl hunset [])
    · rintro before n value behind rfl hn hunset
      have hset : Move.headersSet ((before ++ .setHeader n value :: behind).map Move.op) =
          (behind.map Move.op).foldl (fun hs m => m.headers hs)
            ((Move.op (.setHeader n value)).headers (Move.headersSet (before.map Move.op))) := by
        simp [Move.headersSet]
      rw [hset, valuesNamed_foldl hunset, valuesNamed_setHeader, if_pos hn]
      rfl
  · rw [← valuesOf_respond_filter, h, valuesOf_respond_filter]
  · rw [← respond_filter_isHeaderName, h, respond_filter_isHeaderName]

/-- A header that is set to a value of two lines loses its earlier value all the same. A name with a
blank leaves no trace, and neither does what comes behind the first chunk. -/
theorem two_lines_replace :
    let calls : List Op := [.setChunked, .addHeader "x-a" "1", .setHeader "X-A" "2\n",
      .addHeader "x a" "3", .addHeader "X-a" "4"]
    let rest : List Op := [.write [97], .addHeader "x-a" "5"]
    let r := respond .plain false (calls ++ rest) .aborted
    isHeaderName "x-a" = true ∧ r.valuesOf "x-a" = [Utf8.encode "4"] ∧
    r = respond .plain false [.setChunked, .addHeader "x-a" "1", .setHeader "X-A" "2\n",
      .addHeader "X-a" "4", .write [97], .addHeader "x-a" "5"] .aborted := by
  intro calls rest r
  have hname : isHeaderName "x-a" = true := by decide
  have hlower : "x-a".map Char.toLower = "x-a" :=
    String.toList_inj.mp (by rw [String.toList_map]; decide)
  have hupper : Exchange.sameName "X-A" "x-a" = true := (Text.map_beq_map _ _ _).trans (by decide)
  have hadded :
      [Op.addHeader "x a" "3", .addHeader "X-a" "4"].flatMap (Op.added "x-a") = ["4"] := by
    have hother : Exchange.sameName "x a" "x-a" = false :=
      (Text.map_beq_map _ _ _).trans (by decide)
    have hsame : Exchange.sameName "X-a" "x-a" = true := (Text.map_beq_map _ _ _).trans (by decide)
    simp [Op.added, hother, hsame]
  obtain ⟨hcarried, -, hclean⟩ := last_set_then_added .plain false
  have hlast := (hcarried calls rest .aborted rfl (.inr ⟨.write [97], _, rfl, rfl⟩) "x-a" hname).2
    [.setChunked, .addHeader "x-a" "1"] "X-A" "2\n" [.addHeader "x a" "3", .addHeader "X-a" "4"]
    rfl hupper (by simp [Op.sets])
  rw [hlower, hadded] at hlast
  exact ⟨hname, hlast.trans (by decide), hclean _ _ .aborted (by decide)⟩

end Testbed.Http
