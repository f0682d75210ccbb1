import Testbed.Proofs.Json.Amendment
import Testbed.Proofs.Text.OctetOrder

/-!
# What the differences tell

**Theorem (`differences_genuine`).** Every entry shows what the two values have at its location, and
that this is a mismatch which cannot be taken further apart (`Entry.Genuine`). The locations are in
strict order, and none of them leads on to another one.

**Theorem (`differences_subset`).** The differences under containment are those under deep equality
without the entries of what only the actual value has.

Both are inductions on the expected value, one step at a time (`differences_eq`). What makes them go
through is that the entries of two values that are compared inside are their differences
(`pairEntries_of_descends`), and that any other pair is listed as a whole if it is rejected
(`pairEntries_of_not_descends`).
-/

namespace Testbed.Json

variable {mode : Mode} {s : Step} {e a v w : Value} {d : Entry}

/-! ## Pairs -/

theorem Value.Descends.symm (h : e.Descends a) : a.Descends e := by
  cases h with
  | objects es as => exact .objects as es
  | arrays hlen => exact .arrays hlen.symm

/-- Values that are not compared inside are compared alike by both comparisons. -/
theorem Value.within_of_not_descends (h : ¬ e.Descends a) : e.within a = e.agrees a := by
  cases e with
  | array es =>
    cases a with
    | array as =>
      have hlen : (es.length == as.length) = false := beq_false_of_ne fun hlen => h (.arrays hlen)
      simp only [within, agrees, hlen, Bool.false_and]
    | _ => rfl
  | object es =>
    cases a with
    | object as => exact absurd (.objects es as) h
    | _ => rfl
  | _ => cases a <;> rfl

/-- Where something is accepted there are no entries. -/
theorem entriesAt_of_acceptsAt {here : Location} {e? a? : Option Value}
    (h : mode.AcceptsAt e? a?) : entriesAt mode here e? a? = [] := by
  cases e? with
  | none =>
    cases a? with
    | none => rfl
    | some a =>
      have hm : mode ≠ .exact := fun hm => by cases h.added hm rfl
      rw [entriesAt, if_neg hm]
  | some e =>
    obtain ⟨a, rfl, haccepts⟩ := h.expected e rfl
    rw [entriesAt, pairEntries, if_pos haccepts]

/-- What is accepted has no differences. -/
theorem differences_of_accepts (he : e.Proper) (ha : a.Proper) (h : mode.accepts e a = true) :
    differences mode e a = [] := by
  by_cases hd : e.Descends a
  · rw [differences_eq hd he ha, List.flatMap_eq_nil_iff]
    intro s _
    rw [entriesAt_of_acceptsAt (((Mode.accepts_iff he.tidy ha.tidy).mp h).2 s), List.map_nil]
  · exact differences_of_not_descends hd

/-- A pair that is compared inside has the entries that are found there. -/
theorem pairEntries_of_descends (he : e.Proper) (ha : a.Proper) (h : e.Descends a)
    (here : Location) :
    pairEntries mode here e a (differences mode e a) = differences mode e a := by
  unfold pairEntries
  split_ifs with haccepts hnil
  · exact (differences_of_accepts he ha haccepts).symm
  · exact absurd (List.isEmpty_iff.mp hnil) (differences_ne_nil he ha h haccepts)
  · rfl

/-- Any other pair is an entry of its own, unless it is accepted. -/
theorem pairEntries_of_not_descends (h : ¬ e.Descends a) (here : Location) :
    pairEntries mode here e a (differences mode e a) =
      if mode.accepts e a then [] else [⟨here, some e, some a⟩] := by
  rw [differences_of_not_descends h]
  rfl

/-! ## Genuine entries -/

@[simp] theorem Value.find?_singleton (v : Value) (s : Step) : v.find? [s] = v.step? s := by
  cases h : v.step? s <;> simp [find?, h]

/-- A location leads to a field that its object lacks. -/
def Value.Lacks (v : Value) (l : Location) : Prop :=
  ∃ outer name fields, l = outer ++ [.field name] ∧ v.find? outer = some (.object fields) ∧
    Fields.get? fields name = none

/-- An entry shows a mismatch of two values that cannot be taken further apart. -/
structure Entry.Genuine (mode : Mode) (e a : Value) (d : Entry) : Prop where
  expected : d.expected = e.find? d.location
  actual : d.actual = a.find? d.location
  /-- Only under deep equality is there an entry of what is not expected. -/
  added : d.expected = none → e.Lacks d.location ∧ d.actual ≠ none ∧ mode = .exact
  missing : d.actual = none → a.Lacks d.location ∧ d.expected ≠ none
  rejected : ∀ x y, d.expected = some x → d.actual = some y →
    ¬ mode.accepts x y = true ∧ ¬ x.Descends y

theorem Value.Lacks.behind {l : Location} (hs : v.step? s = some w) (h : w.Lacks l) :
    v.Lacks (s :: l) := by
  obtain ⟨outer, name, fields, rfl, hfind, hget⟩ := h
  exact ⟨s :: outer, name, fields, rfl, by rw [find?, hs]; exact hfind, hget⟩

/-- A step that leads on in one of two values that are compared inside, and not in the other. -/
theorem Value.Descends.lacks (h : e.Descends a) (hs : e.step? s = some v)
    (hnone : a.step? s = none) : a.Lacks [s] := by
  cases h.admits hs v with
  | field as name _ => exact ⟨[], name, as, rfl, rfl, hnone⟩
  | @item as i hi _ =>
    rw [step?_array_item, List.getElem?_eq_none_iff] at hnone
    omega

theorem Entry.Genuine.behind (he : e.step? s = some v) (ha : a.step? s = some w)
    (h : d.Genuine mode v w) : (d.behind [s]).Genuine mode e a where
  expected := by
    change d.expected = e.find? (s :: d.location)
    rw [Value.find?, he]
    exact h.expected
  actual := by
    change d.actual = a.find? (s :: d.location)
    rw [Value.find?, ha]
    exact h.actual
  added hnone := ⟨(h.added hnone).1.behind he, (h.added hnone).2⟩
  missing hnone := ⟨(h.missing hnone).1.behind ha, (h.missing hnone).2⟩
  rejected := h.rejected

/-- The entries of what a step leads to are genuine, if those inside it are. -/
theorem genuine_of_mem_entriesAt (he : e.Proper) (ha : a.Proper) (h : e.Descends a)
    (hinner : ∀ v w, e.step? s = some v → a.step? s = some w → ∀ d ∈ differences mode v w,
      d.Genuine mode v w)
    (hd : d ∈ entriesAt mode [] (e.step? s) (a.step? s)) : (d.behind [s]).Genuine mode e a := by
  have hfind (u : Value) : u.step? s = u.find? [s] := (u.find?_singleton s).symm
  cases hv : e.step? s with
  | none =>
    cases hw : a.step? s with
    | none =>
      rw [hv, hw] at hd
      cases hd
    | some w =>
      rw [hv, hw, entriesAt] at hd
      split_ifs at hd with hm
      · obtain rfl := List.mem_singleton.mp hd
        exact ⟨hv.symm.trans (hfind e), hw.symm.trans (hfind a),
          fun _ => ⟨h.symm.lacks hw hv, by simp [Entry.behind], hm⟩,
          fun hnone => (by cases hnone), fun _ _ hsome => (by cases hsome)⟩
      · cases hd
  | some v =>
    cases hw : a.step? s with
    | none =>
      rw [hv, hw, entriesAt] at hd
      obtain rfl := List.mem_singleton.mp hd
      exact ⟨hv.symm.trans (hfind e), hw.symm.trans (hfind a), fun hnone => (by cases hnone),
        fun _ => ⟨h.lacks hv hw, by simp [Entry.behind]⟩, fun _ _ _ hsome => (by cases hsome)⟩
    | some w =>
      rw [hv, hw, entriesAt] at hd
      change d ∈ pairEntries mode [] v w (differences mode v w) at hd
      by_cases hvw : v.Descends w
      · rw [pairEntries_of_descends (he.step hv) (ha.step hw) hvw] at hd
        exact (hinner v w hv hw d hd).behind hv hw
      · rw [pairEntries_of_not_descends hvw] at hd
        split_ifs at hd with haccepts
        · cases hd
        · obtain rfl := List.mem_singleton.mp hd
          refine ⟨hv.symm.trans (hfind e), hw.symm.trans (hfind a), fun hnone => (by cases hnone),
            fun hnone => (by cases hnone), fun x y hx hy => ?_⟩
          cases hx
          cases hy
          exact ⟨haccepts, hvw⟩

/-- **Every entry is genuine.** -/
theorem genuine_of_mem (he : e.Proper) (ha : a.Proper) :
    ∀ d ∈ differences mode e a, d.Genuine mode e a := by
  induction he generalizing a with
  | @intro e tidy inner ih =>
    have he : e.Proper := .intro tidy inner
    intro d hd
    by_cases h : e.Descends a
    · rw [differences_eq h he ha, List.mem_flatMap] at hd
      obtain ⟨s, -, hd⟩ := hd
      obtain ⟨d, hd', rfl⟩ := List.mem_map.mp hd
      exact genuine_of_mem_entriesAt he ha h (fun v w hv hw => ih s v hv (ha.step hw)) hd'
    · rw [differences_of_not_descends h] at hd
      cases hd

/-! ## The order of entries -/

/-- The order of the steps into one value: names by their octets, indices by number. -/
def Step.Before : Step → Step → Prop
  | .field name, .field other => Utf8.encode name < Utf8.encode other
  | .item i, .item j => i < j
  | _, _ => False

/-- One location comes before another where the two part; neither leads on to the other. -/
inductive Location.Precedes : Location → Location → Prop
  | parts {s t : Step} (h : s.Before t) (l m : Location) : Precedes (s :: l) (t :: m)
  | behind {l m : Location} (s : Step) (h : Precedes l m) : Precedes (s :: l) (s :: m)

theorem Location.Precedes.lex {l m : Location} (h : l.Precedes m) : List.Lex Step.Before l m := by
  induction h with
  | parts h l m => exact .rel h
  | behind s _ ih => exact .cons ih

theorem Step.Before.ne {s t : Step} (h : s.Before t) : s ≠ t := by
  rintro rfl
  cases s with
  | field name => exact List.lt_irrefl _ h
  | item i => exact Nat.lt_irrefl i h

theorem Location.Precedes.neither_leads {l m : Location} (h : l.Precedes m) :
    ¬ l <+: m ∧ ¬ m <+: l := by
  induction h with
  | parts h l m => simp [List.cons_prefix_cons, h.ne, h.ne.symm]
  | behind s _ ih => simpa [List.cons_prefix_cons] using ih

/-- The steps into two values come in order. -/
theorem Value.pairwise_steps (he : e.Tidy) (ha : a.Tidy) (h : e.Descends a) :
    (e.steps a).Pairwise Step.Before := by
  cases h with
  | objects es as =>
    exact List.pairwise_map.mpr ((pairwise_mergedNames he ha).imp Utf8.encode_lt_encode_iff.mpr)
  | arrays hlen => exact List.pairwise_map.mpr List.pairwise_lt_range

/-- The entries of what a step leads to are in order, if those inside it are. -/
theorem pairwise_entriesAt {R : Entry → Entry → Prop} {e? a? : Option Value}
    (h : ∀ v w, e? = some v → a? = some w → (differences mode v w).Pairwise R) :
    (entriesAt mode [] e? a?).Pairwise R := by
  cases e? with
  | none =>
    cases a? with
    | none => exact .nil
    | some w =>
      rw [entriesAt]
      split_ifs
      · exact List.pairwise_singleton _ _
      · exact .nil
  | some v =>
    cases a? with
    | none => exact List.pairwise_singleton _ _
    | some w =>
      rw [entriesAt, pairEntries]
      split_ifs
      · exact .nil
      · exact List.pairwise_singleton _ _
      · exact h v w rfl rfl

/-- **The entries are in order**, and each of them is where no other one leads. -/
theorem pairwise_differences (he : e.Proper) (ha : a.Proper) :
    (differences mode e a).Pairwise fun d d' => d.location.Precedes d'.location := by
  induction he generalizing a with
  | @intro e tidy inner ih =>
    by_cases h : e.Descends a
    · rw [differences_eq h (.intro tidy inner) ha, List.pairwise_flatMap]
      refine ⟨fun s _ => ?_, (Value.pairwise_steps tidy ha.tidy h).imp fun hst d hd d' hd' => ?_⟩
      · have hinner : (entriesAt mode [] (e.step? s) (a.step? s)).Pairwise _ :=
          pairwise_entriesAt fun v w hv hw => ih s v hv (ha.step hw)
        exact List.pairwise_map.mpr (hinner.imp (.behind s))
      · obtain ⟨d, -, rfl⟩ := List.mem_map.mp hd
        obtain ⟨d', -, rfl⟩ := List.mem_map.mp hd'
        exact .parts hst d.location d'.location
    · rw [differences_of_not_descends h]
      exact .nil

/-- **The differences are genuine, irreducible, and in order.** -/
theorem differences_genuine {s t : Bytes} {e a : Value} (he : parse s = .ok e)
    (ha : parse t = .ok a) (mode : Mode) :
    (∀ d ∈ differences mode e a, d.Genuine mode e a) ∧
      ((differences mode e a).map Entry.location).Pairwise (List.Lex Step.Before) ∧
      ((differences mode e a).map Entry.location).Pairwise fun l m => ¬ l <+: m ∧ ¬ m <+: l := by
  have pe := proper_of_parse he
  have pa := proper_of_parse ha
  have hpairwise : (differences mode e a).Pairwise _ := pairwise_differences pe pa
  exact ⟨genuine_of_mem pe pa, List.pairwise_map.mpr (hpairwise.imp (·.lex)),
    List.pairwise_map.mpr (hpairwise.imp (·.neither_leads))⟩

/-- A name that is missing on either side, and behind it in the order of octets two arrays of
different lengths. -/
theorem mismatches_in_octet_order :
    ∃ e a, parse (Utf8.encode "\x7b\"\\u00e9\": [1], \"z\": \x7b\"x\": 1\x7d\x7d") = .ok e ∧
      parse (Utf8.encode "\x7b\"\\u00e9\": [2, 3], \"z\": \x7b\"y\": 1\x7d\x7d") = .ok a ∧
      (differences .exact e a).map Entry.location =
        [[.field "z", .field "x"], [.field "z", .field "y"], [.field "é"]] ∧
      a.Lacks [.field "z", .field "x"] ∧ e.Lacks [.field "z", .field "y"] ∧
      List.Lex Step.Before [.field "z", .field "y"] [.field "é"] := by
  have he : parse (Utf8.encode "\x7b\"\\u00e9\": [1], \"z\": \x7b\"x\": 1\x7d\x7d") =
      .ok (.object [("z", .object [("x", .number (.integer 1))]),
        ("é", .array [.number (.integer 1)])]) := by
    with_unfolding_all rfl
  have ha : parse (Utf8.encode "\x7b\"\\u00e9\": [2, 3], \"z\": \x7b\"y\": 1\x7d\x7d") =
      .ok (.object [("z", .object [("y", .number (.integer 1))]),
        ("é", .array [.number (.integer 2), .number (.integer 3)])]) := by
    with_unfolding_all rfl
  obtain ⟨hgenuine, hlex, -⟩ := differences_genuine he ha .exact
  have hds : differences .exact
      (.object [("z", .object [("x", .number (.integer 1))]),
        ("é", .array [.number (.integer 1)])])
      (.object [("z", .object [("y", .number (.integer 1))]),
        ("é", .array [.number (.integer 2), .number (.integer 3)])]) =
      [⟨[.field "z", .field "x"], some (.number (.integer 1)), none⟩,
        ⟨[.field "z", .field "y"], none, some (.number (.integer 1))⟩,
        ⟨[.field "é"], some (.array [.number (.integer 1)]),
          some (.array [.number (.integer 2), .number (.integer 3)])⟩] := by
    rfl
  rw [hds] at hgenuine hlex
  have hmissing := hgenuine _ (.head _)
  have hadded := hgenuine _ (.tail _ (.head _))
  obtain ⟨-, hlex⟩ := List.pairwise_cons.mp hlex
  exact ⟨_, _, he, ha, by rw [hds]; rfl, (hmissing.missing rfl).1, (hadded.added rfl).1,
    (List.pairwise_cons.mp hlex).1 _ (.head _)⟩

/-! ## Two comparisons -/

/-- What a pair is listed with, without the entries of what only the actual value has. -/
theorem filter_pairEntries (he : e.Proper) (ha : a.Proper)
    (h : (differences .exact e a).filter (·.expected.isSome) = differences .subset e a) :
    (pairEntries .exact [] e a (differences .exact e a)).filter (·.expected.isSome) =
      pairEntries .subset [] e a (differences .subset e a) := by
  by_cases hd : e.Descends a
  · rw [pairEntries_of_descends he ha hd, pairEntries_of_descends he ha hd, h]
  · have haccepts : Mode.subset.accepts e a = Mode.exact.accepts e a :=
      Value.within_of_not_descends hd
    rw [pairEntries_of_not_descends hd, pairEntries_of_not_descends hd, haccepts]
    split_ifs <;> rfl

theorem filter_entriesAt {e? a? : Option Value}
    (h : ∀ v w, e? = some v → a? = some w → v.Proper ∧ w.Proper ∧
      (differences .exact v w).filter (·.expected.isSome) = differences .subset v w) :
    (entriesAt .exact [] e? a?).filter (·.expected.isSome) = entriesAt .subset [] e? a? := by
  cases e? with
  | none => cases a? <;> rfl
  | some v =>
    cases a? with
    | none => rfl
    | some w =>
      obtain ⟨hv, hw, hinner⟩ := h v w rfl rfl
      exact filter_pairEntries hv hw hinner

theorem filter_behind (l : Location) (ds : List Entry) :
    (ds.map (Entry.behind l)).filter (·.expected.isSome) =
      (ds.filter (·.expected.isSome)).map (Entry.behind l) := List.filter_map

theorem filter_differences (he : e.Proper) (ha : a.Proper) :
    (differences .exact e a).filter (·.expected.isSome) = differences .subset e a := by
  induction he generalizing a with
  | @intro e tidy inner ih =>
    have he : e.Proper := .intro tidy inner
    by_cases h : e.Descends a
    · rw [differences_eq h he ha, differences_eq h he ha, List.filter_flatMap]
      refine List.flatMap_congr fun s _ => ?_
      rw [filter_behind, filter_entriesAt]
      exact fun v w hv hw => ⟨he.step hv, ha.step hw, ih s v hv (ha.step hw)⟩
    · rw [differences_of_not_descends h, differences_of_not_descends h]
      rfl

/-- **The two comparisons tell of the same differences**, but for what only the actual value has. -/
theorem differences_subset {s t : Bytes} {e a : Value} (he : parse s = .ok e)
    (ha : parse t = .ok a) :
    differences .subset e a = (differences .exact e a).filter fun d => d.expected.isSome :=
  (filter_differences (proper_of_parse he) (proper_of_parse ha)).symm

/-- A pair that differs under both comparisons, with an entry of its own only under one of them. -/
theorem added_field_left_out :
    ∃ e a, parse (Utf8.encode "[\x7b\"k\": 1, \"l\": \x7b\x7d\x7d]") = .ok e ∧
      parse (Utf8.encode "[\x7b\"j\": 0, \"k\": 2, \"l\": \x7b\"m\": 3\x7d\x7d]") = .ok a ∧
      (differences .exact e a).map Entry.location =
        [[.item 0, .field "j"], [.item 0, .field "k"], [.item 0, .field "l", .field "m"]] ∧
      (differences .subset e a).map Entry.location = [[.item 0, .field "k"]] := by
  have he : parse (Utf8.encode "[\x7b\"k\": 1, \"l\": \x7b\x7d\x7d]") =
      .ok (.array [.object [("k", .number (.integer 1)), ("l", .object [])]]) := by
    with_unfolding_all rfl
  have ha : parse (Utf8.encode "[\x7b\"j\": 0, \"k\": 2, \"l\": \x7b\"m\": 3\x7d\x7d]") =
      .ok (.array [.object [("j", .number (.integer 0)), ("k", .number (.integer 2)),
        ("l", .object [("m", .number (.integer 3))])]]) := by
    with_unfolding_all rfl
  have hds : differences .exact
      (.array [.object [("k", .number (.integer 1)), ("l", .object [])]])
      (.array [.object [("j", .number (.integer 0)), ("k", .number (.integer 2)),
        ("l", .object [("m", .number (.integer 3))])]]) =
      [⟨[.item 0, .field "j"], none, some (.number (.integer 0))⟩,
        ⟨[.item 0, .field "k"], some (.number (.integer 1)), some (.number (.integer 2))⟩,
        ⟨[.item 0, .field "l", .field "m"], none, some (.number (.integer 3))⟩] := by
    rfl
  have hsubset := differences_subset he ha
  rw [hds] at hsubset
  exact ⟨_, _, he, ha, by rw [hds]; rfl, by rw [hsubset]; rfl⟩

end Testbed.Json
