import Testbed.Proofs.Json.Differences

/-!
# Amending differences

A value is amended by putting at the location of each entry what was expected there.

**Theorem (`differences_complete`).** Two objects, or two arrays of one length, meet the comparison
once the second is amended where they differ. A failed assertion lists the differences of two such
values, and shows both texts whole for all others.

**Steps.** The entries of two values are those behind one step after the other (`differences_eq`),
and amending behind a step changes nothing elsewhere (`Value.Becomes`). So it is enough that the
entries behind each step make what is there acceptable (`amend_step`), which is an induction on the
expected value.
-/

namespace Testbed.Json

variable {mode : Mode} {s : Step} {e a v w : Value} {o : Option Value}

/-! ## What is accepted, one step at a time -/

/-- What an actual value has behind a step meets what the expected one has there. -/
structure Mode.AcceptsAt (mode : Mode) (e? a? : Option Value) : Prop where
  expected : ∀ e, e? = some e → ∃ a, a? = some a ∧ mode.accepts e a = true
  added : mode = .exact → e? = none → a? = none

theorem Mode.accepts_iff (he : e.Tidy) (ha : a.Tidy) : mode.accepts e a = true ↔
    e.Meets Value.NumbersAgree a ∧ ∀ s, mode.AcceptsAt (e.step? s) (a.step? s) := by
  cases mode with
  | exact =>
    refine (Value.agrees_iff_inner he ha).trans (and_congr_right fun _ => ?_)
    exact ⟨fun ⟨hinner, hnone⟩ s => ⟨hinner s, fun _ => hnone s⟩,
      fun h => ⟨fun s => (h s).expected, fun s => (h s).added rfl⟩⟩
  | subset =>
    refine (Value.within_iff_inner he).trans (and_congr_right fun _ => ?_)
    exact ⟨fun hinner s => ⟨hinner s, fun h => nomatch h⟩, fun h s => (h s).expected⟩

theorem Mode.accepts_refl (mode : Mode) (hv : v.Proper) : mode.accepts v v = true := by
  cases mode with
  | exact => exact (Value.agrees_iff_within hv hv).mpr ⟨Value.within_refl hv, Value.within_refl hv⟩
  | subset => exact Value.within_refl hv

theorem Mode.acceptsAt_some (h : mode.accepts v w = true) : mode.AcceptsAt (some v) (some w) where
  expected := by
    rintro _ ⟨⟩
    exact ⟨w, rfl, h⟩
  added := by
    rintro - ⟨⟩

theorem Mode.acceptsAt_none (h : mode = .exact → o = none) : mode.AcceptsAt none o where
  expected := by
    rintro _ ⟨⟩
  added hm _ := h hm

namespace Value

/-! ## Putting something behind a step -/

theorem Descends.trans {u : Value} (h : u.Descends v) (h' : v.Descends w) : u.Descends w := by
  cases h with
  | objects es as =>
    cases h' with
    | objects _ bs => exact .objects es bs
  | arrays hlen =>
    cases h' with
    | arrays hlen' => exact .arrays (hlen.trans hlen')

theorem Descends.meets {R : Number → Number → Prop} (h : v.Descends w) : v.Meets R w := by
  cases h with
  | objects es as => trivial
  | arrays hlen => exact hlen

theorem Descends.self (h : v.Descends w) : w.Descends w := by
  cases h with
  | objects es as => exact .objects as as
  | arrays hlen => exact .arrays rfl

theorem descends_self (hs : v.step? s = some w) : v.Descends v := by
  cases v with
  | object fields => exact .objects fields fields
  | array items => exact .arrays rfl
  | _ => simp at hs

/-- Something can be put behind a step: into an array only in the place of an item. -/
inductive Admits : Value → Step → Option Value → Prop
  | field (fields : Fields) (name : String) (o : Option Value) :
      Admits (object fields) (.field name) o
  | item {items : List Value} {i : Nat} (hi : i < items.length) (w : Value) :
      Admits (array items) (.item i) (some w)

theorem Admits.descends (h : v.Admits s o) (h' : v.Descends w) : w.Admits s o := by
  cases h with
  | field fields name o =>
    cases h' with
    | objects _ as => exact .field as name o
  | item hi x =>
    cases h' with
    | arrays hlen => exact .item (hlen ▸ hi) x

/-- Where the expected value has something, something can be put. -/
theorem Descends.admits (h : e.Descends a) (hs : e.step? s = some w) (x : Value) :
    a.Admits s (some x) := by
  cases h with
  | objects es as =>
    cases s with
    | field name => exact .field as name _
    | item i => cases hs
  | arrays hlen =>
    cases s with
    | field name => cases hs
    | item i =>
      obtain ⟨hi, -⟩ := List.getElem?_eq_some_iff.mp hs
      exact .item (hlen ▸ hi) x

/-- What only the actual value has can be taken away. -/
theorem Descends.admits_none (h : e.Descends a) (he : e.step? s = none)
    (ha : a.step? s = some w) : a.Admits s none := by
  cases h with
  | objects es as =>
    cases s with
    | field name => exact .field as name none
    | item i => cases ha
  | arrays hlen =>
    cases s with
    | field name => cases ha
    | item i =>
      -- Arrays of one length have the same indices.
      obtain ⟨hi, -⟩ := List.getElem?_eq_some_iff.mp ha
      have hi' := List.getElem?_eq_none_iff.mp he
      omega

/-- A value with something else behind one step; the rest is as it was. -/
structure Becomes (v : Value) (s : Step) (o : Option Value) (v' : Value) : Prop where
  tidy : v'.Tidy
  descends : v.Descends v'
  here : v'.step? s = o
  elsewhere : ∀ t, t ≠ s → v'.step? t = v.step? t

theorem becomes_self (ht : v.Tidy) (hv : v.Descends v) : v.Becomes s (v.step? s) v :=
  ⟨ht, hv, rfl, fun _ _ => rfl⟩

theorem Becomes.trans {v' v'' : Value} {o' : Option Value} (h : v.Becomes s o v')
    (h' : v'.Becomes s o' v'') : v.Becomes s o' v'' :=
  ⟨h'.tidy, h.descends.trans h'.descends, h'.here,
    fun t ht => (h'.elsewhere t ht).trans (h.elsewhere t ht)⟩

/-- Fields that differ in one name only. -/
theorem becomes_object {fields fields' : Fields} {name : String} (ho : Fields.Ordered fields')
    (h : ∀ k, Fields.get? fields' k = if k = name then o else Fields.get? fields k) :
    (object fields).Becomes (.field name) o (object fields') where
  tidy := ho
  descends := .objects fields fields'
  here := by rw [step?_object_field, h, if_pos rfl]
  elsewhere t ht := by
    cases t with
    | field k =>
      have hk : k ≠ name := fun hk => ht (hk ▸ rfl)
      rw [step?_object_field, h, if_neg hk, step?_object_field]
    | item i => rfl

/-- **Putting changes what is behind the step**, and nothing else. -/
theorem becomes_putStep (ht : v.Tidy) (h : v.Admits s o) : v.Becomes s o (v.putStep s o) := by
  cases h with
  | field fields name o =>
    have ho : Fields.Ordered fields := ht
    cases o with
    | none => exact becomes_object (ho.erase name) (Fields.get?_erase name fields)
    | some w => exact becomes_object (ho.insert name w) (Fields.get?_insert name w fields)
  | @item items i hi w =>
    refine ⟨trivial, .arrays (List.length_set ..).symm, ?_, fun t hne => ?_⟩
    · rw [putStep, step?_array_item, List.getElem?_set_self hi]
    · cases t with
      | field k => rfl
      | item j =>
        have hij : i ≠ j := fun hij => hne (hij ▸ rfl)
        rw [putStep, step?_array_item, List.getElem?_set_ne hij, step?_array_item]

/-! ## Amending behind a step -/

theorem amend_cons (d : Entry) (ds : List Entry) :
    v.amend (d :: ds) = (v.put d.expected d.location).amend ds := rfl

theorem amend_append (ds ds' : List Entry) :
    v.amend (ds ++ ds') = (v.amend ds).amend ds' := List.foldl_append

/-- Entries inside what a step leads to amend that. -/
theorem becomes_amend_behind {ds : List Entry} (ht : v.Tidy) (hs : v.step? s = some w)
    (hds : ∀ d ∈ ds, d.location ≠ []) :
    v.Becomes s (some (w.amend ds)) (v.amend (ds.map (Entry.behind [s]))) := by
  induction ds generalizing v w with
  | nil => exact hs ▸ becomes_self ht (descends_self hs)
  | cons d ds ih =>
    obtain ⟨hd, hds⟩ := List.forall_mem_cons.mp hds
    obtain ⟨t, l, hl⟩ := List.exists_cons_of_ne_nil hd
    have hput : v.put d.expected (d.behind [s]).location =
        v.putStep s (some (w.put d.expected d.location)) := by
      simp [Entry.behind, hl, put, hs]
    have hstep := becomes_putStep ht ((descends_self hs).admits hs (w.put d.expected d.location))
    rw [List.map_cons, amend_cons, amend_cons]
    change v.Becomes s _ ((v.put d.expected (d.behind [s]).location).amend _)
    rw [hput]
    exact hstep.trans (ih hstep.tidy hstep.here hds)

end Value

theorem location_ne_nil (he : e.Proper) (ha : a.Proper) : ∀ d ∈ differences mode e a,
    d.location ≠ [] := by
  intro d hd
  by_cases h : e.Descends a
  · rw [differences_eq h he ha, List.mem_flatMap] at hd
    obtain ⟨s, -, hd⟩ := hd
    obtain ⟨d, -, rfl⟩ := List.mem_map.mp hd
    simp [Entry.behind]
  · rw [differences_of_not_descends h] at hd
    cases hd

section Step

variable (ht : v.Tidy)
include ht

/-- The entries of a pair behind a step make what is there acceptable. -/
theorem amend_pair {x y : Value} (hx : x.Proper) (hy : y.Proper) (hs : v.step? s = some y)
    (hinner : x.Descends y → mode.accepts x (y.amend (differences mode x y)) = true) :
    ∃ o, v.Becomes s o (v.amend ((entriesAt mode [] (some x) (some y)).map (Entry.behind [s]))) ∧
      mode.AcceptsAt (some x) o := by
  have hv := Value.descends_self hs
  rw [entriesAt, pairEntries]
  split_ifs with hxy hnil
  · exact ⟨some y, hs ▸ Value.becomes_self ht hv, Mode.acceptsAt_some hxy⟩
  · exact ⟨some x, Value.becomes_putStep ht (hv.admits hs x),
      Mode.acceptsAt_some (mode.accepts_refl hx)⟩
  · have hdescends : x.Descends y := by
      by_contra h
      exact hnil (by rw [Value.innerDifferences_of_not_descends h]; rfl)
    exact ⟨_, Value.becomes_amend_behind ht hs (location_ne_nil hx hy),
      Mode.acceptsAt_some (hinner hdescends)⟩

/-- **One step.** The entries behind a step make what is there acceptable, in every value that has
there what the actual one has. -/
theorem amend_step (he : e.Proper) (ha : a.Proper) (hea : e.Descends a) (hav : a.Descends v)
    (hs : v.step? s = a.step? s)
    (hinner : ∀ x y, e.step? s = some x → y.Proper → x.Descends y →
      mode.accepts x (y.amend (differences mode x y)) = true) :
    ∃ o, v.Becomes s o
        (v.amend ((entriesAt mode [] (e.step? s) (a.step? s)).map (Entry.behind [s]))) ∧
      mode.AcceptsAt (e.step? s) o := by
  have hself := Value.becomes_self (s := s) ht hav.self
  rw [hs] at hself
  cases hx : e.step? s with
  | none =>
    cases hy : a.step? s with
    | none =>
      rw [hy] at hself
      exact ⟨none, hself, Mode.acceptsAt_none fun _ => rfl⟩
    | some y =>
      rw [hy] at hself
      rw [entriesAt]
      split_ifs with hm
      · have hadmits := (hea.admits_none hx hy).descends hav
        exact ⟨none, Value.becomes_putStep ht hadmits, Mode.acceptsAt_none fun _ => rfl⟩
      · exact ⟨some y, hself, Mode.acceptsAt_none fun h => absurd h hm⟩
  | some x =>
    cases hy : a.step? s with
    | none =>
      have hadmits := (hea.admits hx x).descends hav
      exact ⟨some x, Value.becomes_putStep ht hadmits,
        Mode.acceptsAt_some (mode.accepts_refl (he.step hx))⟩
    | some y =>
      exact amend_pair ht (he.step hx) (ha.step hy) (hs.trans hy)
        (hinner x y hx (ha.step hy))

end Step

/-- **All steps**, one after the other. -/
theorem amend_flatMap {p : Step → List Entry} {Q : Step → Option Value → Prop} {ss : List Step}
    (hss : ss.Nodup) (hstep : ∀ s ∈ ss, ∀ v : Value, v.Tidy → a.Descends v →
      v.step? s = a.step? s → ∃ o, v.Becomes s o (v.amend (p s)) ∧ Q s o)
    (ht : v.Tidy) (hav : a.Descends v) (hv : ∀ s ∈ ss, v.step? s = a.step? s) :
    (v.amend (ss.flatMap p)).Tidy ∧ a.Descends (v.amend (ss.flatMap p)) ∧
      (∀ s ∈ ss, Q s ((v.amend (ss.flatMap p)).step? s)) ∧
      ∀ s, s ∉ ss → (v.amend (ss.flatMap p)).step? s = v.step? s := by
  induction ss generalizing v with
  | nil => exact ⟨ht, hav, by simp, fun _ _ => rfl⟩
  | cons s ss ih =>
    obtain ⟨hnot, hss⟩ := List.nodup_cons.mp hss
    obtain ⟨hvs, hv⟩ := List.forall_mem_cons.mp hv
    obtain ⟨hfirst, hstep⟩ := List.forall_mem_cons.mp hstep
    obtain ⟨o, hbecomes, hQ⟩ := hfirst v ht hav hvs
    have hne (t : Step) (h : t ∈ ss) : t ≠ s := fun hts => hnot (hts ▸ h)
    obtain ⟨ht', hav', hQ', hrest⟩ := ih hss hstep hbecomes.tidy (hav.trans hbecomes.descends)
      fun t h => (hbecomes.elsewhere t (hne t h)).trans (hv t h)
    rw [List.flatMap_cons, Value.amend_append]
    refine ⟨ht', hav', List.forall_mem_cons.mpr ⟨?_, hQ'⟩, fun t h => ?_⟩
    · rw [hrest s hnot, hbecomes.here]
      exact hQ
    · rw [List.mem_cons, not_or] at h
      rw [hrest t h.2, hbecomes.elsewhere t h.1]

/-- **Amending is complete.** -/
theorem accepts_amend (he : e.Proper) (ha : a.Proper) (h : e.Descends a) :
    mode.accepts e (a.amend (differences mode e a)) = true := by
  induction he generalizing a with
  | @intro e tidy inner ih =>
    have he : e.Proper := .intro tidy inner
    have hstep : ∀ s ∈ e.steps a, ∀ v : Value, v.Tidy → a.Descends v → v.step? s = a.step? s →
        ∃ o, v.Becomes s o
            (v.amend ((entriesAt mode [] (e.step? s) (a.step? s)).map (Entry.behind [s]))) ∧
          mode.AcceptsAt (e.step? s) o :=
      fun s _ v ht hav hs => amend_step ht he ha h hav hs fun x y hx hy hxy => ih s x hx hy hxy
    obtain ⟨ht, hav, hin, hout⟩ :=
      amend_flatMap (Value.nodup_steps h tidy ha.tidy) hstep ha.tidy h.self fun _ _ => rfl
    rw [← differences_eq h he ha] at ht hav hin hout
    refine (Mode.accepts_iff tidy ht).mpr ⟨?_, fun s => ?_⟩
    · exact (h.trans hav).meets
    · by_cases hs : s ∈ e.steps a
      · exact hin s hs
      · rw [hout s hs]
        have := (Value.mem_steps h).not.mp hs
        rw [not_or, not_not, not_not] at this
        rw [this.1, this.2]
        exact Mode.acceptsAt_none fun _ => rfl

/-! ## Reports -/

/-- What is not accepted has differences, if it is compared inside. -/
theorem differences_ne_nil (he : e.Proper) (ha : a.Proper) (h : e.Descends a)
    (hrejects : ¬ mode.accepts e a = true) : differences mode e a ≠ [] := by
  intro hnil
  have haccepts : mode.accepts e (a.amend (differences mode e a)) = true := accepts_amend he ha h
  rw [hnil] at haccepts
  exact hrejects haccepts

/-- The report that shows both texts whole. -/
def wholeReport (mode : Mode) (expected actual : String) : String :=
  mode.header ++ "\nexpected: " ++ expected ++ "\nactual: " ++ actual

/-- The report that lists the differences. -/
def detailedReport (mode : Mode) (entries : List Entry) (actual : String) : String :=
  mode.header ++ "\n" ++ "\n".intercalate (entries.map Entry.line) ++
    "\nfull actual JSON string: " ++ actual

variable {x y : String} {ds : List Entry}

theorem message_mismatch_nil : (Failure.mismatch mode []).message x y = wholeReport mode x y := rfl

theorem message_mismatch (h : ds ≠ []) :
    (Failure.mismatch mode ds).message x y = detailedReport mode ds y := by
  obtain ⟨d, ds, rfl⟩ := List.exists_cons_of_ne_nil h
  rfl

theorem exists_lines (h : ds ≠ []) :
    ∃ rest, "\n".intercalate (ds.map Entry.line) = "at \"" ++ rest := by
  obtain ⟨d, ds, rfl⟩ := List.exists_cons_of_ne_nil h
  cases ds with
  | nil =>
    rw [List.map_singleton, String.intercalate_singleton, Entry.line]
    simp only [String.append_assoc]
    exact ⟨_, rfl⟩
  | cons d' ds =>
    rw [List.map_cons, List.map_cons, String.intercalate_cons_cons, Entry.line]
    simp only [String.append_assoc]
    exact ⟨_, rfl⟩

theorem detailedReport_ne (h : ds ≠ []) : detailedReport mode ds y ≠ wholeReport mode x y := by
  obtain ⟨rest, hrest⟩ := exists_lines h
  intro heq
  have := congrArg String.toList heq
  simp [detailedReport, wholeReport, hrest] at this

/--
**The differences are complete.** Two objects, or two arrays of one length, meet the comparison once
the second is amended where they differ. So a failed assertion on two such values lists differences,
and one on any others shows both texts whole.
-/
theorem differences_complete {x y : String} {e a : Value} (he : parse (Utf8.encode x) = .ok e)
    (ha : parse (Utf8.encode y) = .ok a) (mode : Mode) :
    (e.Descends a → mode.accepts e (a.amend (differences mode e a)) = true) ∧
      ∀ f, assertWith mode x y = .error f →
        (e.Descends a → differences mode e a ≠ [] ∧
          f.message x y = detailedReport mode (differences mode e a) y) ∧
        (f.message x y = wholeReport mode x y ↔ ¬ e.Descends a) := by
  have pe := proper_of_parse he
  have pa := proper_of_parse ha
  refine ⟨accepts_amend pe pa, fun f hf => ?_⟩
  rw [assertWith_of_parse he ha] at hf
  split_ifs at hf with haccepts
  obtain rfl := Except.error.inj hf
  have hdetailed (h : e.Descends a) : differences mode e a ≠ [] ∧
      (Failure.mismatch mode (differences mode e a)).message x y =
        detailedReport mode (differences mode e a) y := by
    have hne := differences_ne_nil pe pa h haccepts
    exact ⟨hne, message_mismatch hne⟩
  refine ⟨hdetailed, fun hwhole h => ?_, fun h => ?_⟩
  · obtain ⟨hne, hmessage⟩ := hdetailed h
    exact detailedReport_ne hne (hmessage.symm.trans hwhole)
  · rw [differences_of_not_descends h, message_mismatch_nil]

/-- Two arrays whose objects have different names. -/
theorem renamed_field_amended :
    ∃ e a f, parse (Utf8.encode "[\x7b\"k\": 1\x7d]") = .ok e ∧
      parse (Utf8.encode "[\x7b\"l\": 1\x7d]") = .ok a ∧
      assertEqual "[\x7b\"k\": 1\x7d]" "[\x7b\"l\": 1\x7d]" = .error f ∧
      Mode.exact.accepts e (a.amend (differences .exact e a)) = true ∧
      f.message "[\x7b\"k\": 1\x7d]" "[\x7b\"l\": 1\x7d]" =
        detailedReport .exact (differences .exact e a) "[\x7b\"l\": 1\x7d]" := by
  have he : parse (Utf8.encode "[\x7b\"k\": 1\x7d]") =
      .ok (.array [.object [("k", .number (.integer 1))]]) := by
    with_unfolding_all rfl
  have ha : parse (Utf8.encode "[\x7b\"l\": 1\x7d]") =
      .ok (.array [.object [("l", .number (.integer 1))]]) := by
    with_unfolding_all rfl
  obtain ⟨hamended, hreport⟩ := differences_complete he ha .exact
  have hfails : assertEqual "[\x7b\"k\": 1\x7d]" "[\x7b\"l\": 1\x7d]" = _ :=
    assertWith_of_parse he ha
  rw [if_neg (by decide +kernel)] at hfails
  exact ⟨_, _, _, he, ha, hfails, hamended (.arrays rfl),
    ((hreport _ hfails).1 (.arrays rfl)).2⟩

end Testbed.Json
