import Mathlib.Logic.Function.Basic
import Testbed.Http.Event
import Testbed.Proofs.Json.QuotedText
import Testbed.Proofs.Text.Decimal

/-!
# The lines of a log

An event is logged as one line, and a log is the lines of its events (`logText`).

**Theorem (`log_read_back`).** What is logged for an event has one newline, at its end. Events that
are logged alike are the same in every field. So a log falls into lines again, and each line tells
its event.

Line breaks in a text are escaped like all control characters. The value of a field is known
together with what comes behind it: a quoted text ends with its quote, a number where the comma
stands, and what is absent is not written like anything that is present.
-/

namespace Testbed.Http

/-- The characters of a log. -/
def logText (es : List Event) : List Char := es.flatMap fun e => e.logged.toList

namespace EventKind

theorem label_inj {k k' : EventKind} (h : k.label = k'.label) : k = k' := by
  cases k <;> cases k' <;> first | rfl | exact absurd h (by decide)

end EventKind

namespace Outcome

theorem label_inj {o o' : Outcome} (h : o.label = o'.label) : o = o' := by
  cases o <;> cases o' <;> first | rfl | exact absurd h (by decide)

end Outcome

namespace Event

variable {us vs : List Char}

/-! ## Values and what is behind them -/

theorem lineField_append_inj {name : String} {value value' : List Char}
    (h : lineField name value ++ us = lineField name value' ++ vs) :
    value ++ us = value' ++ vs := by
  simp only [lineField, List.append_assoc, List.cons_append] at h
  exact (List.cons.inj (List.append_cancel_left h)).2

/-- An absent text is not written like any other one. -/
theorem optionalText_append_inj {t t' : Option String}
    (h : optionalText t ++ us = optionalText t' ++ vs) : t = t' ∧ us = vs := by
  cases t with
  | none =>
    cases t' with
    | none => exact ⟨rfl, List.append_cancel_left h⟩
    | some s' => simp [optionalText, Json.quoted] at h
  | some s =>
    cases t' with
    | none => simp [optionalText, Json.quoted] at h
    | some s' =>
      obtain ⟨rfl, hrest⟩ := Json.quoted_append_inj h
      exact ⟨rfl, hrest⟩

/-- A number is not written like what is absent. -/
theorem decimal_append_ne_null (n : Nat) : (toString n).toList ++ us ≠ "null".toList ++ vs := by
  intro h
  obtain ⟨c, cs, hcs⟩ : ∃ c cs, (toString n).toList = c :: cs :=
    List.exists_cons_of_ne_nil (by simp)
  have hdigit : c.isDigit = true := Text.isDigit_of_mem_decimal (hcs ▸ List.mem_cons_self)
  rw [hcs] at h
  obtain ⟨rfl, -⟩ := List.cons.inj h
  exact absurd hdigit (by decide)

theorem optionalNumber_append_inj {n n' : Option UInt16} (hu : ∀ c ∈ us.head?, c.isDigit = false)
    (hv : ∀ c ∈ vs.head?, c.isDigit = false)
    (h : optionalNumber n ++ us = optionalNumber n' ++ vs) : n = n' ∧ us = vs := by
  cases n with
  | none =>
    cases n' with
    | none => exact ⟨rfl, List.append_cancel_left h⟩
    | some m' => exact absurd h.symm (decimal_append_ne_null _)
  | some m =>
    cases n' with
    | none => exact absurd h (decimal_append_ne_null _)
    | some m' =>
      obtain ⟨hm, hrest⟩ := Text.decimal_append_inj hu hv h
      exact ⟨congrArg some (UInt16.toNat_inj.mp hm), hrest⟩

/-! ## Lines -/

/-- **A line tells its event.** -/
theorem line_inj {e e' : Event} (h : e.line = e'.line) : e = e' := by
  obtain ⟨kind, timestamp, port, method, path, status, outcome⟩ := e
  obtain ⟨kind', timestamp', port', method', path', status', outcome'⟩ := e'
  have h := String.ofList_injective h
  simp only [List.cons_append, List.append_assoc, List.cons.injEq, true_and] at h
  have hcomma (cs : List Char) : ∀ c ∈ (',' :: cs).head?, c.isDigit = false := by simp
  -- Field by field, what is behind the comma is left.
  obtain ⟨hkind, h⟩ := Json.quoted_append_inj (lineField_append_inj h)
  obtain ⟨htimestamp, h⟩ := Text.decimal_append_inj (hcomma _) (hcomma _)
    (lineField_append_inj (List.cons.inj h).2)
  obtain ⟨hport, h⟩ := Text.decimal_append_inj (hcomma _) (hcomma _)
    (lineField_append_inj (List.cons.inj h).2)
  obtain ⟨hmethod, h⟩ := optionalText_append_inj (lineField_append_inj (List.cons.inj h).2)
  obtain ⟨hpath, h⟩ := optionalText_append_inj (lineField_append_inj (List.cons.inj h).2)
  obtain ⟨hstatus, h⟩ := optionalNumber_append_inj (hcomma _) (hcomma _)
    (lineField_append_inj (List.cons.inj h).2)
  obtain ⟨hlabel, -⟩ := optionalText_append_inj (lineField_append_inj (List.cons.inj h).2)
  have houtcome : outcome = outcome' := Option.map_injective (fun _ _ => Outcome.label_inj) hlabel
  rw [EventKind.label_inj hkind, htimestamp, UInt16.toNat_inj.mp hport, hmethod, hpath, hstatus,
    houtcome]

theorem logged_eq_iff {e e' : Event} : e.logged = e'.logged ↔ e = e' := by
  constructor
  · intro h
    exact line_inj ((String.append_left_inj _).mp h)
  · rintro rfl
    rfl

/-! ## Line breaks -/

theorem not_control_of_isDigit {c : Char} (h : c.isDigit = true) : 0x20 ≤ c.toNat := by
  simp only [Char.isDigit, Bool.and_eq_true, decide_eq_true_eq, UInt32.le_iff_toNat_le] at h
  exact Nat.le_trans (by decide) h.1

theorem not_control_null : ∀ c ∈ "null".toList, 0x20 ≤ c.toNat := by
  simp

theorem not_control_optionalText (t : Option String) :
    ∀ c ∈ optionalText t, 0x20 ≤ c.toNat := by
  cases t with
  | none => exact not_control_null
  | some s => exact fun _ => Json.not_control_of_mem_quoted

theorem not_control_optionalNumber (n : Option UInt16) :
    ∀ c ∈ optionalNumber n, 0x20 ≤ c.toNat := by
  cases n with
  | none => exact not_control_null
  | some m => exact fun _ hc => not_control_of_isDigit (Text.isDigit_of_mem_decimal hc)

theorem not_control_lineField (name : String) {value : List Char}
    (h : ∀ c ∈ value, 0x20 ≤ c.toNat) : ∀ c ∈ lineField name value, 0x20 ≤ c.toNat := by
  refine List.forall_mem_append.mpr ⟨fun _ => Json.not_control_of_mem_quoted, ?_⟩
  exact List.forall_mem_cons.mpr ⟨by decide, h⟩

/-- There is no control character in a line, whatever the texts of its event are. -/
theorem not_control_line (e : Event) : ∀ c ∈ e.line.toList, 0x20 ≤ c.toNat := by
  have hdecimal (n : Nat) : ∀ c ∈ (toString n).toList, 0x20 ≤ c.toNat :=
    fun _ hc => not_control_of_isDigit (Text.isDigit_of_mem_decimal hc)
  have hlabel (s : String) : ∀ c ∈ Json.quoted s, 0x20 ≤ c.toNat :=
    fun _ => Json.not_control_of_mem_quoted
  have hbehind {mark : Char} (hmark : 0x20 ≤ mark.toNat) {name : String} {value : List Char}
      (h : ∀ c ∈ value, 0x20 ≤ c.toNat) : ∀ c ∈ mark :: lineField name value, 0x20 ≤ c.toNat :=
    List.forall_mem_cons.mpr ⟨hmark, not_control_lineField name h⟩
  rw [line, String.toList_ofList]
  simp only [List.forall_mem_append]
  refine ⟨⟨⟨⟨⟨⟨⟨?_, ?_⟩, ?_⟩, ?_⟩, ?_⟩, ?_⟩, ?_⟩, by simp⟩
  · exact hbehind (by decide) (hlabel _)
  · exact hbehind (by decide) (hdecimal _)
  · exact hbehind (by decide) (hdecimal _)
  · exact hbehind (by decide) (not_control_optionalText _)
  · exact hbehind (by decide) (not_control_optionalText _)
  · exact hbehind (by decide) (not_control_optionalNumber _)
  · exact hbehind (by decide) (not_control_optionalText _)

theorem newline_not_mem_line (e : Event) : '\n' ∉ e.line.toList :=
  fun h => absurd (not_control_line e _ h) (by decide)

theorem toList_logged (e : Event) : e.logged.toList = e.line.toList ++ ['\n'] := by
  rw [logged, String.toList_append]
  rfl

theorem line_ne_nil (e : Event) : e.line.toList ≠ [] := by
  simp [line]

end Event

/-! ## Logs -/

/-- A log falls into the lines of its events, and nothing behind the last newline. -/
theorem splitOn_logText (es : List Event) :
    (logText es).splitOn '\n' = es.map (fun e => e.line.toList) ++ [[]] := by
  induction es with
  | nil => simp [logText]
  | cons e es ih =>
    rw [logText, List.flatMap_cons, Event.toList_logged, List.append_assoc, List.singleton_append,
      List.splitOn_append_cons_self_of_not_mem e.newline_not_mem_line]
    rw [← logText, ih]
    rfl

/-- **A log is read back.** Take any events, of any kind and with any texts.

1. What is logged for an event has one newline, which is its last character.
2. Events that are logged alike are the same, field by field, be it present or absent.
3. A log falls at its newlines into the lines of its events, in order.
4. There is one way to read lines that finds in every log the events that were logged. -/
theorem log_read_back :
    (∀ e : Event, e.logged.toList.count '\n' = 1 ∧ e.logged.toList.getLast? = some '\n') ∧
    (∀ e e' : Event, e.logged = e'.logged ↔
      e.kind = e'.kind ∧ e.timestamp = e'.timestamp ∧ e.port = e'.port ∧ e.method = e'.method ∧
        e.path = e'.path ∧ e.status = e'.status ∧ e.outcome = e'.outcome) ∧
    (∀ es, (logText es).splitOn '\n' = es.map (fun e => e.line.toList) ++ [[]]) ∧
    ∃ read : List Char → Option Event, ∀ es, ((logText es).splitOn '\n').filterMap read = es := by
  refine ⟨?_, ?_, splitOn_logText, ?_⟩
  · intro e
    rw [Event.toList_logged, List.count_append, List.count_eq_zero.mpr e.newline_not_mem_line]
    exact ⟨rfl, List.getLast?_concat⟩
  · intro e e'
    rw [Event.logged_eq_iff]
    cases e
    cases e'
    rw [Event.mk.injEq]
  · have hinj : Function.Injective fun e : Event => e.line.toList := by
      intro e e' h
      exact Event.line_inj (String.toList_inj.mp h)
    refine ⟨Function.partialInv fun e : Event => e.line.toList, fun es => ?_⟩
    -- The empty text behind the last newline is no line.
    have hnil : Function.partialInv (fun e : Event => e.line.toList) [] = none := by
      rw [Option.eq_none_iff_forall_ne_some]
      intro e he
      exact e.line_ne_nil ((hinj.isPartialInv e []).mp he)
    rw [splitOn_logText, List.filterMap_append, List.filterMap_map]
    have hread : Function.partialInv (fun e : Event => e.line.toList) ∘ (fun e => e.line.toList) =
        some := funext (Function.partialInv_left hinj)
    rw [hread, List.filterMap_some]
    simp [hnil]

end Testbed.Http
