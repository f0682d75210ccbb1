import Testbed.Proofs.Json.Entries
import Testbed.Proofs.Text.Decimal

/-!
# The texts of locations

**Theorem (`texts_apart_iff`).** Let no name have a point or a bracket in it. Then two entries have
the same text of their locations if and only if these are the same behind the empty names that they
begin with (`Location.trimmed`). So the texts tell the locations apart unless the empty name leads
to two values that are compared inside.

An empty name at the root leaves the text empty, and the next step is written as if it were the
first. Behind a text that is not empty every step begins with a separator (`Step.mark`), and plain
names and indices have none, so the text can be taken apart again.
-/

namespace Testbed.Json

/-! ## Separators -/

/-- Whether a character stands between the steps of a location. -/
def isSeparator (c : Char) : Bool := c == '.' || c == '[' || c == ']'

/-- A name that has no separator in it. -/
def PlainName (name : String) : Prop := ∀ c ∈ name.toList, isSeparator c = false

/-- A text that is at its end, or at a separator. -/
def AtSeparator (cs : List Char) : Prop := ∀ c ∈ cs.head?, isSeparator c = true

/-- Texts without separators end where the next one stands. -/
theorem append_inj_of_atSeparator {xs ys us vs : List Char}
    (hx : ∀ c ∈ xs, isSeparator c = false) (hy : ∀ c ∈ ys, isSeparator c = false)
    (hu : AtSeparator us) (hv : AtSeparator vs) (h : xs ++ us = ys ++ vs) : xs = ys ∧ us = vs := by
  refine Text.append_inj_of_head (p := fun c => !isSeparator c) ?_ ?_ ?_ ?_ h
  · exact fun c hc => by simp [hx c hc]
  · exact fun c hc => by simp [hy c hc]
  · exact fun c hc => by simp [hu c hc]
  · exact fun c hc => by simp [hv c hc]

namespace Step

/-- A name without separators, or an index. -/
def Plain : Step → Prop
  | field name => PlainName name
  | item _ => True

/-- What a step adds to a text. -/
def mark : Step → List Char
  | field name => '.' :: name.toList
  | item i => '[' :: ((toString i).toList ++ [']'])

/-- A step at the beginning of a text. -/
def lead : Step → List Char
  | field name => name.toList
  | item i => (item i).mark

end Step

namespace Location

open Step

variable {l m : Location} {s t : Step}

theorem toList_extendText {text : String} (h : text ≠ "") (s : Step) :
    (extendText text s).toList = text.toList ++ s.mark := by
  have hempty : text.isEmpty = false := by simpa using h
  cases s with
  | field name => simp [extendText, hempty, mark]
  | item i => simp [extendText, mark]

theorem extendText_empty (s : Step) : (extendText "" s).toList = s.lead := by
  cases s with
  | field name => rfl
  | item i => simp [extendText, lead, mark]

/-- Behind a text that is not empty, every step adds its mark. -/
theorem toList_foldl {text : String} (h : text ≠ "") (l : Location) :
    (l.foldl extendText text).toList = text.toList ++ l.flatMap mark := by
  induction l generalizing text with
  | nil => simp
  | cons s l ih =>
    have hne : extendText text s ≠ "" := by
      intro hempty
      have := toList_extendText h s
      rw [hempty] at this
      cases s <;> simp [mark] at this
    rw [List.foldl_cons, ih hne, toList_extendText h, List.flatMap_cons, List.append_assoc]

/-- **The text of a location** that does not begin with an empty name. -/
theorem toList_text_cons (h : s ≠ .field "") (l : Location) :
    (text (s :: l)).toList = s.lead ++ l.flatMap mark := by
  have hne : extendText "" s ≠ "" := by
    cases s with
    | field name => exact fun hempty => h (congrArg Step.field hempty)
    | item i =>
      intro hempty
      have := extendText_empty (item i)
      rw [hempty] at this
      simp [lead, mark] at this
  rw [text, List.foldl_cons, toList_foldl hne, extendText_empty]

/-- A location without the empty names that it begins with. -/
def trimmed (l : Location) : Location := l.dropWhile (· == .field "")

/-- Empty names at the root leave no trace in the text. -/
theorem text_trimmed (l : Location) : l.trimmed.text = l.text := by
  induction l with
  | nil => rfl
  | cons s l ih =>
    by_cases h : s = .field ""
    · subst h
      exact ih
    · rw [trimmed, List.dropWhile_cons_of_neg (by simpa using h)]

theorem head_trimmed_ne (h : l.trimmed = s :: m) : s ≠ .field "" := by
  rintro rfl
  have := List.head?_dropWhile_not (· == Step.field "") l
  rw [← trimmed, h] at this
  simp at this

theorem text_cons_ne (h : s ≠ .field "") (l : Location) : text (s :: l) ≠ "" := by
  intro htext
  have hlead := toList_text_cons h l
  rw [htext, String.toList_empty, eq_comm, List.append_eq_nil_iff] at hlead
  cases s with
  | field name => exact h (congrArg Step.field (String.toList_eq_nil_iff.mp hlead.1))
  | item i => simp [lead, mark] at hlead

/-! ## Taking a text apart -/

theorem atSeparator_flatMap_mark (l : Location) : AtSeparator (l.flatMap mark) := by
  cases l with
  | nil => simp [AtSeparator]
  | cons s l => cases s <;> simp [AtSeparator, mark, isSeparator]

theorem name_append_inj {name other : String} {us vs : List Char} (hname : PlainName name)
    (hother : PlainName other) (hu : AtSeparator us) (hv : AtSeparator vs)
    (h : name.toList ++ us = other.toList ++ vs) : name = other ∧ us = vs := by
  obtain ⟨hnames, hrest⟩ := append_inj_of_atSeparator hname hother hu hv h
  exact ⟨String.toList_inj.mp hnames, hrest⟩

theorem item_append_inj {i j : Nat} {us vs : List Char}
    (h : (item i).mark ++ us = (item j).mark ++ vs) : i = j ∧ us = vs := by
  simp only [mark, List.cons_append, List.cons.injEq, true_and, List.append_assoc,
    List.nil_append] at h
  have hclose (us : List Char) : ∀ c ∈ (']' :: us).head?, c.isDigit = false := by simp
  obtain ⟨hij, hrest⟩ := Text.decimal_append_inj (hclose us) (hclose vs) h
  exact ⟨hij, (List.cons.inj hrest).2⟩

theorem lead_append_inj {us vs : List Char} (hs : s.Plain) (ht : t.Plain) (hs' : s ≠ .field "")
    (ht' : t ≠ .field "") (hu : AtSeparator us) (hv : AtSeparator vs)
    (h : s.lead ++ us = t.lead ++ vs) : s = t ∧ us = vs := by
  have hname {name : String} (hplain : PlainName name) (hne : Step.field name ≠ .field "") (i : Nat)
      (us vs : List Char) : name.toList ++ us ≠ (item i).mark ++ vs := by
    intro h
    obtain ⟨c, cs, hc⟩ := List.exists_cons_of_ne_nil (l := name.toList) (by simpa using hne)
    rw [hc] at h
    obtain ⟨rfl, -⟩ := List.cons.inj h
    exact absurd (hplain _ (by rw [hc]; exact .head _)) (by decide)
  cases s with
  | field name =>
    cases t with
    | field other =>
      obtain ⟨rfl, hrest⟩ := name_append_inj hs ht hu hv h
      exact ⟨rfl, hrest⟩
    | item j => exact absurd h (hname hs hs' j us vs)
  | item i =>
    cases t with
    | field other => exact absurd h.symm (hname ht ht' i vs us)
    | item j =>
      obtain ⟨rfl, hrest⟩ := item_append_inj h
      exact ⟨rfl, hrest⟩

theorem mark_append_inj {us vs : List Char} (hs : s.Plain) (ht : t.Plain) (hu : AtSeparator us)
    (hv : AtSeparator vs) (h : s.mark ++ us = t.mark ++ vs) : s = t ∧ us = vs := by
  cases s with
  | field name =>
    cases t with
    | field other =>
      obtain ⟨rfl, hrest⟩ := name_append_inj hs ht hu hv (List.cons.inj h).2
      exact ⟨rfl, hrest⟩
    | item j => exact absurd (List.cons.inj h).1 (by decide)
  | item i =>
    cases t with
    | field other => exact absurd (List.cons.inj h).1 (by decide)
    | item j =>
      obtain ⟨rfl, hrest⟩ := item_append_inj h
      exact ⟨rfl, hrest⟩

theorem flatMap_mark_inj (hl : ∀ s ∈ l, s.Plain) (hm : ∀ s ∈ m, s.Plain)
    (h : l.flatMap mark = m.flatMap mark) : l = m := by
  have hne (s : Step) (l : Location) : (s :: l).flatMap mark ≠ [] := by cases s <;> simp [mark]
  induction l generalizing m with
  | nil =>
    cases m with
    | nil => rfl
    | cons t m => exact absurd h.symm (hne t m)
  | cons s l ih =>
    cases m with
    | nil => exact absurd h (hne s l)
    | cons t m =>
      rw [List.forall_mem_cons] at hl hm
      rw [List.flatMap_cons, List.flatMap_cons] at h
      obtain ⟨rfl, hrest⟩ := mark_append_inj hl.1 hm.1 (atSeparator_flatMap_mark l)
        (atSeparator_flatMap_mark m) h
      rw [ih hl.2 hm.2 hrest]

/-- **Locations of plain names have the same text** exactly if they are the same behind the empty
names that they begin with. -/
theorem text_eq_iff (hl : ∀ s ∈ l, s.Plain) (hm : ∀ s ∈ m, s.Plain) :
    l.text = m.text ↔ l.trimmed = m.trimmed := by
  have hplain {l : Location} (hl : ∀ s ∈ l, s.Plain) : ∀ s ∈ l.trimmed, s.Plain :=
    fun s hs => hl s ((List.dropWhile_sublist _).subset hs)
  refine ⟨fun h => ?_, fun h => by rw [← text_trimmed l, h, text_trimmed]⟩
  have hl := hplain hl
  have hm := hplain hm
  rw [← text_trimmed l, ← text_trimmed m] at h
  rcases hlt : l.trimmed with _ | ⟨s, l'⟩ <;> rcases hmt : m.trimmed with _ | ⟨t, m'⟩ <;>
    rw [hlt, hmt] at h
  · exact absurd h.symm (text_cons_ne (head_trimmed_ne hmt) m')
  · exact absurd h (text_cons_ne (head_trimmed_ne hlt) l')
  · rw [hlt, List.forall_mem_cons] at hl
    rw [hmt, List.forall_mem_cons] at hm
    have hs := head_trimmed_ne hlt
    have ht := head_trimmed_ne hmt
    have htext := congrArg String.toList h
    rw [toList_text_cons hs, toList_text_cons ht] at htext
    obtain ⟨rfl, hrest⟩ := lead_append_inj hl.1 hm.1 hs ht (atSeparator_flatMap_mark l')
      (atSeparator_flatMap_mark m') htext
    rw [flatMap_mark_inj hl.2 hm.2 hrest]

end Location

/-! ## Reported locations -/

variable {mode : Mode} {e a v w : Value} {d d' : Entry} {l : Location} {s : Step}

namespace Value

/-- No name in a value has a separator in it. -/
def PlainNames (v : Value) : Prop :=
  ∀ l fields, v.find? l = some (.object fields) → ∀ f ∈ fields, PlainName f.1

theorem PlainNames.step (h : v.PlainNames) (hs : v.step? s = some w) : w.PlainNames ∧ s.Plain := by
  refine ⟨fun l fields hl => h (s :: l) fields (by rw [find?, hs]; exact hl), ?_⟩
  cases v with
  | object fields =>
    cases s with
    | field name => exact h [] fields rfl _ (Fields.mem_of_get? hs)
    | item i => trivial
  | array items =>
    cases s with
    | field name => cases hs
    | item i => trivial
  | _ => simp at hs

/-- A location that leads somewhere in a value of plain names is plain. -/
theorem PlainNames.find (h : v.PlainNames) (hl : v.find? l = some w) : ∀ s ∈ l, s.Plain := by
  induction l generalizing v with
  | nil => simp
  | cons s l ih =>
    obtain ⟨x, hx, hl⟩ := Option.bind_eq_some_iff.mp hl
    obtain ⟨hinner, hs⟩ := h.step hx
    exact List.forall_mem_cons.mpr ⟨hs, ih hinner hl⟩

end Value

theorem plain_of_genuine (hpe : e.PlainNames) (hpa : a.PlainNames) (h : d.Genuine mode e a) :
    ∀ s ∈ d.location, s.Plain := by
  cases hx : d.expected with
  | some x => exact hpe.find (h.expected.symm.trans hx)
  | none =>
    obtain ⟨y, hy⟩ := Option.ne_none_iff_exists'.mp (h.added hx).2.1
    exact hpa.find (h.actual.symm.trans hy)

/-- Only two values that are compared inside have entries that lead into them. -/
theorem descends_of_location_ne_nil {e? a? : Option Value} (hd : d ∈ entriesAt mode [] e? a?)
    (hne : d.location ≠ []) : ∃ v w, e? = some v ∧ a? = some w ∧ v.Descends w := by
  cases e? with
  | none =>
    cases a? with
    | none => cases hd
    | some w =>
      rw [entriesAt] at hd
      split_ifs at hd
      · obtain rfl := List.mem_singleton.mp hd
        exact absurd rfl hne
      · cases hd
  | some v =>
    cases a? with
    | none =>
      obtain rfl := List.mem_singleton.mp hd
      exact absurd rfl hne
    | some w =>
      refine ⟨v, w, rfl, rfl, ?_⟩
      by_contra h
      change d ∈ pairEntries mode [] v w (differences mode v w) at hd
      rw [pairEntries_of_not_descends h] at hd
      split_ifs at hd
      · cases hd
      · obtain rfl := List.mem_singleton.mp hd
        exact absurd rfl hne

/-- The empty name at the root leads to a pair that is compared inside. -/
def EmptyNameDescends (e a : Value) : Prop :=
  ∃ v w, e.step? (.field "") = some v ∧ a.step? (.field "") = some w ∧ v.Descends w

/-- Unless the empty name leads on, a location is that name or does not begin with it. -/
theorem trimmed_of_mem (he : e.Proper) (ha : a.Proper) (h : ¬ EmptyNameDescends e a)
    (hd : d ∈ differences mode e a) :
    d.location = [.field ""] ∨ d.location.trimmed = d.location := by
  by_cases hea : e.Descends a
  · rw [differences_eq hea he ha, List.mem_flatMap] at hd
    obtain ⟨s, -, hd⟩ := hd
    obtain ⟨inner, hinner, rfl⟩ := List.mem_map.mp hd
    change s :: inner.location = _ ∨ Location.trimmed (s :: inner.location) = s :: inner.location
    by_cases hs : s = .field ""
    · subst hs
      left
      by_contra hne
      exact h (descends_of_location_ne_nil hinner fun hnil => hne (by rw [hnil]))
    · right
      exact List.dropWhile_cons_of_neg (by simpa using hs)
  · rw [differences_of_not_descends hea] at hd
    cases hd

/-- **The texts of locations.** If no name has a point or a bracket in it, two entries have the same
text of their locations exactly if these are the same behind the empty names that they begin with.
All texts are different if the empty name at the root does not lead to a pair that is compared
inside. -/
theorem texts_apart_iff {s t : Bytes} {e a : Value} (he : parse s = .ok e) (ha : parse t = .ok a)
    (hpe : e.PlainNames) (hpa : a.PlainNames) (mode : Mode) :
    (∀ d ∈ differences mode e a, ∀ d' ∈ differences mode e a,
      d.location.text = d'.location.text ↔ d.location.trimmed = d'.location.trimmed) ∧
    (¬ EmptyNameDescends e a → ∀ d ∈ differences mode e a, ∀ d' ∈ differences mode e a,
      d.location ≠ d'.location → d.location.text ≠ d'.location.text) := by
  have pe := proper_of_parse he
  have pa := proper_of_parse ha
  have hplain (d : Entry) (hd : d ∈ differences mode e a) : ∀ s ∈ d.location, s.Plain :=
    plain_of_genuine hpe hpa (genuine_of_mem pe pa d hd)
  have htext (d : Entry) (hd : d ∈ differences mode e a) (d' : Entry)
      (hd' : d' ∈ differences mode e a) :
      d.location.text = d'.location.text ↔ d.location.trimmed = d'.location.trimmed :=
    Location.text_eq_iff (hplain d hd) (hplain d' hd')
  refine ⟨htext, fun hempty d hd d' hd' hne heq => hne ?_⟩
  have htrimmed := (htext d hd d' hd').mp heq
  have hnil : Location.trimmed [.field ""] = [] := rfl
  rcases trimmed_of_mem pe pa hempty hd with h | h <;>
    rcases trimmed_of_mem pe pa hempty hd' with h' | h'
  · rw [h, h']
  · rw [h, h', hnil] at htrimmed
    exact absurd htrimmed.symm (location_ne_nil pe pa d' hd')
  · rw [h, h', hnil] at htrimmed
    exact absurd htrimmed (location_ne_nil pe pa d hd)
  · rw [← h, htrimmed, h']

/-- Plain names in an object and in its fields. -/
theorem Value.plainNames_object {fields : Fields}
    (h : ∀ f ∈ fields, PlainName f.1 ∧ f.2.PlainNames) : (object fields).PlainNames := by
  intro l fields' hl f hf
  cases l with
  | nil =>
    cases hl
    exact (h f hf).1
  | cons s l =>
    obtain ⟨x, hx, hinner⟩ := Option.bind_eq_some_iff.mp hl
    cases s with
    | field name => exact (h _ (Fields.mem_of_get? hx)).2 l fields' hinner f hf
    | item i => cases hx

theorem Value.plainNames_number (n : Number) : (number n).PlainNames := by
  intro l fields hl
  cases l with
  | nil => cases hl
  | cons s l => simp [find?] at hl

/-- A name at the root, and the same name behind the empty one: the two entries have one text. -/
theorem empty_name_collides :
    ∃ e a d d', parse (Utf8.encode "\x7b\"\": \x7b\"a\": 1\x7d, \"a\": 1\x7d") = .ok e ∧
      parse (Utf8.encode "\x7b\"\": \x7b\"a\": 2\x7d, \"a\": 2\x7d") = .ok a ∧
      e.PlainNames ∧ a.PlainNames ∧ differences .exact e a = [d, d'] ∧
      d.location = [.field "", .field "a"] ∧ d'.location = [.field "a"] ∧
      d.location.text = d'.location.text := by
  have he : parse (Utf8.encode "\x7b\"\": \x7b\"a\": 1\x7d, \"a\": 1\x7d") =
      .ok (.object [("", .object [("a", .number (.integer 1))]), ("a", .number (.integer 1))]) := by
    with_unfolding_all rfl
  have ha : parse (Utf8.encode "\x7b\"\": \x7b\"a\": 2\x7d, \"a\": 2\x7d") =
      .ok (.object [("", .object [("a", .number (.integer 2))]), ("a", .number (.integer 2))]) := by
    with_unfolding_all rfl
  have hplain (n : Number) :
      (Value.object [("", .object [("a", .number n)]), ("a", .number n)]).PlainNames := by
    have hempty : PlainName "" := by simp [PlainName]
    have ha : PlainName "a" := by simp [PlainName, isSeparator]
    have hn := Value.plainNames_number n
    have hinner : (Value.object [("a", .number n)]).PlainNames :=
      Value.plainNames_object (by simp [ha, hn])
    exact Value.plainNames_object (by simp [hempty, ha, hn, hinner])
  have hds : differences .exact
      (.object [("", .object [("a", .number (.integer 1))]), ("a", .number (.integer 1))])
      (.object [("", .object [("a", .number (.integer 2))]), ("a", .number (.integer 2))]) =
      [⟨[.field "", .field "a"], some (.number (.integer 1)), some (.number (.integer 2))⟩,
        ⟨[.field "a"], some (.number (.integer 1)), some (.number (.integer 2))⟩] := by
    rfl
  obtain ⟨htext, -⟩ := texts_apart_iff he ha (hplain _) (hplain _) .exact
  rw [hds] at htext
  exact ⟨_, _, _, _, he, ha, hplain _, hplain _, hds, rfl, rfl,
    (htext _ (.head _) _ (.tail _ (.head _))).mpr rfl⟩

end Testbed.Json
