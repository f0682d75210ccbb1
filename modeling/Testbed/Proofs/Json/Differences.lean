import Mathlib.Tactic.Tauto
import Testbed.Proofs.Json.Comparison

/-!
# Differences, one step at a time

The differences of two values follow the steps into either of them, in order (`Value.steps`).

**Theorem (`differences_eq`).** For two objects, or two arrays of one length, the entries are those
of what each step leads to (`entriesAt`), put behind that step.
-/

namespace Testbed.Json

variable {mode : Mode} {loc : Location}

/-! ## Merging names -/

/-- The names of two objects, both in order of their names. -/
def mergedNames : Fields → Fields → List String
  | [], as => as.map Prod.fst
  | es, [] => es.map Prod.fst
  | (name, e) :: es, (k, a) :: as =>
    if k < name then k :: mergedNames ((name, e) :: es) as
    else if k = name then name :: mergedNames es as
    else name :: mergedNames es ((k, a) :: as)
termination_by es as => es.length + as.length

theorem mem_mergedNames {es as : Fields} {name : String} : name ∈ mergedNames es as ↔
    name ∈ es.map Prod.fst ∨ name ∈ as.map Prod.fst := by
  fun_induction mergedNames es as with
  | case1 as => simp
  | case2 es h => simp
  | case3 n e es k a as hlt ih => simp only [List.mem_cons, ih, List.map_cons]; tauto
  | case4 n e es a as hlt ih => simp only [List.mem_cons, ih, List.map_cons]; tauto
  | case5 n e es k a as hlt hne ih => simp only [List.mem_cons, ih, List.map_cons]; tauto

theorem pairwise_mergedNames {es as : Fields} (he : Fields.Ordered es) (ha : Fields.Ordered as) :
    (mergedNames es as).Pairwise (· < ·) := by
  fun_induction mergedNames es as with
  | case1 as => exact List.pairwise_map.mpr ha
  | case2 es h => exact List.pairwise_map.mpr he
  | case3 n e es k a as hlt ih =>
    refine List.pairwise_cons.mpr ⟨fun j hj => ?_, ih he ha.tail⟩
    rcases mem_mergedNames.mp hj with hj | hj
    · rcases List.mem_cons.mp hj with rfl | hj
      · exact hlt
      · exact hlt.trans (he.lt_of_mem hj)
    · exact ha.lt_of_mem hj
  | case4 n e es a as hlt ih =>
    refine List.pairwise_cons.mpr ⟨fun j hj => ?_, ih he.tail ha.tail⟩
    rcases mem_mergedNames.mp hj with hj | hj
    · exact he.lt_of_mem hj
    · exact ha.lt_of_mem hj
  | case5 n e es k a as hlt hne ih =>
    have hlt : n < k := lt_of_le_of_ne (not_lt.mp hlt) (Ne.symm hne)
    refine List.pairwise_cons.mpr ⟨fun j hj => ?_, ih he.tail ha⟩
    rcases mem_mergedNames.mp hj with hj | hj
    · exact he.lt_of_mem hj
    · rcases List.mem_cons.mp hj with rfl | hj
      · exact hlt
      · exact hlt.trans (ha.lt_of_mem hj)

/-! ## Merging fields -/

theorem addedFields_nil (mode : Mode) (loc : Location) : addedFields mode loc [] = [] := by
  cases mode <;> rfl

theorem addedFields_cons (k : String) (a : Value) (as : Fields) :
    addedFields mode loc ((k, a) :: as) =
      addedFields mode loc [(k, a)] ++ addedFields mode loc as := by
  cases mode <;> rfl

variable {name k : String} {e a : Value} {es as : Fields}

/-- A field that only the actual object has comes first. -/
theorem fieldDifferences_of_lt (h : k < name) :
    fieldDifferences mode loc ((name, e) :: es) ((k, a) :: as) =
      addedFields mode loc [(k, a)] ++ fieldDifferences mode loc ((name, e) :: es) as := by
  rw [fieldDifferences, fieldDifferences]
  simp only [List.takeWhile_cons, List.dropWhile_cons, h, decide_true, if_true]
  rw [addedFields_cons, List.append_assoc]

/-- A field of the expected object comes first. -/
theorem fieldDifferences_of_not_lt (h : ¬ k < name) :
    fieldDifferences mode loc ((name, e) :: es) ((k, a) :: as) =
      if k = name then
        pairEntries mode (loc ++ [.field name]) e a
          (innerDifferences mode (loc ++ [.field name]) e a) ++ fieldDifferences mode loc es as
      else ⟨loc ++ [.field name], some e, none⟩ :: fieldDifferences mode loc es ((k, a) :: as) := by
  rw [fieldDifferences]
  simp only [List.takeWhile_cons, List.dropWhile_cons, h, decide_false, if_false, addedFields_nil,
    Bool.false_eq_true, List.nil_append]

/-- Fields that only the expected object has. -/
theorem fieldDifferences_nil : fieldDifferences mode loc es [] =
    es.map fun f => ⟨loc ++ [.field f.1], some f.2, none⟩ := by
  induction es with
  | nil => cases mode <;> rfl
  | cons f es ih =>
    rw [fieldDifferences, List.takeWhile_nil, List.dropWhile_nil, addedFields_nil, ih,
      List.map_cons, List.nil_append]

/-- The entries at a location, given what the two values have there. -/
def entriesAt (mode : Mode) (here : Location) : Option Value → Option Value → List Entry
  | some e, some a => pairEntries mode here e a (innerDifferences mode here e a)
  | some e, none => [⟨here, some e, none⟩]
  | none, some a => if mode = .exact then [⟨here, none, some a⟩] else []
  | none, none => []

theorem addedFields_eq : addedFields mode loc as =
    as.flatMap fun f => entriesAt mode (loc ++ [.field f.1]) none (some f.2) := by
  cases mode with
  | exact => exact List.map_eq_flatMap
  | subset => simp [addedFields, entriesAt]

/-- **Two objects**, one name at a time. -/
theorem fieldDifferences_eq (he : Fields.Ordered es) (ha : Fields.Ordered as) :
    fieldDifferences mode loc es as = (mergedNames es as).flatMap fun name =>
      entriesAt mode (loc ++ [.field name]) (Fields.get? es name) (Fields.get? as name) := by
  have hp := pairwise_mergedNames he ha
  fun_induction mergedNames es as with
  | case1 as =>
    rw [fieldDifferences, addedFields_eq, List.flatMap_map]
    refine List.flatMap_congr fun f hf => ?_
    rw [ha.get?_of_mem hf, Fields.get?_nil]
  | case2 es h =>
    rw [fieldDifferences_nil, List.flatMap_map, List.map_eq_flatMap]
    refine List.flatMap_congr fun f hf => ?_
    rw [he.get?_of_mem hf, Fields.get?_nil, entriesAt]
  | case3 n e es k a as hlt ih =>
    obtain ⟨hlow, hp⟩ := List.pairwise_cons.mp hp
    rw [fieldDifferences_of_lt hlt, ih he ha.tail hp, List.flatMap_cons, addedFields_eq,
      List.flatMap_singleton, he.get?_eq_none_of_lt hlt, ha.get?_of_mem List.mem_cons_self]
    congr 1
    refine List.flatMap_congr fun j hj => ?_
    rw [Fields.get?_cons k, if_neg (hlow j hj).ne']
  | case4 e es k a as hlt ih =>
    obtain ⟨hlow, hp⟩ := List.pairwise_cons.mp hp
    rw [fieldDifferences_of_not_lt hlt, if_pos rfl, ih he.tail ha.tail hp, List.flatMap_cons,
      he.get?_of_mem List.mem_cons_self, ha.get?_of_mem List.mem_cons_self, entriesAt]
    congr 1
    refine List.flatMap_congr fun j hj => ?_
    rw [Fields.get?_cons k, Fields.get?_cons k, if_neg (hlow j hj).ne', if_neg (hlow j hj).ne']
  | case5 n e es k a as hlt hne ih =>
    obtain ⟨hlow, hp⟩ := List.pairwise_cons.mp hp
    have hnk : n < k := lt_of_le_of_ne (not_lt.mp hlt) (Ne.symm hne)
    rw [fieldDifferences_of_not_lt hlt, if_neg hne, ih he.tail ha hp, List.flatMap_cons,
      he.get?_of_mem List.mem_cons_self, ha.get?_eq_none_of_lt hnk, entriesAt,
      List.singleton_append]
    congr 1
    refine List.flatMap_congr fun j hj => ?_
    rw [Fields.get?_cons n, if_neg (hlow j hj).ne']

/-- **Two arrays of one length**, one index at a time. -/
theorem itemDifferences_eq {es as : List Value} (h : es.length = as.length) (i : Nat) :
    itemDifferences mode loc i es as = (List.range es.length).flatMap fun j =>
      entriesAt mode (loc ++ [.item (i + j)]) es[j]? as[j]? := by
  induction es generalizing as i with
  | nil => rfl
  | cons e es ih =>
    cases as with
    | nil => cases h
    | cons a as =>
      rw [itemDifferences, ih (Nat.succ.inj h), List.length_cons, List.range_succ_eq_map,
        List.flatMap_cons, List.flatMap_map]
      simp only [entriesAt, Nat.add_zero, List.getElem?_cons_zero, List.getElem?_cons_succ,
        Nat.succ_eq_add_one, Nat.add_assoc, Nat.add_comm 1]

namespace Value

/-- Two values that are compared inside: objects, or arrays of one length. -/
inductive Descends : Value → Value → Prop
  | objects (es as : Fields) : Descends (object es) (object as)
  | arrays {es as : List Value} (hlen : es.length = as.length) : Descends (array es) (array as)

/-- The steps into either of two values, in order. -/
def steps : Value → Value → List Step
  | object es, object as => (mergedNames es as).map .field
  | array es, array _ => (List.range es.length).map .item
  | _, _ => []

variable {e a : Value}

theorem mem_steps (h : e.Descends a) {s : Step} :
    s ∈ e.steps a ↔ e.step? s ≠ none ∨ a.step? s ≠ none := by
  cases h with
  | objects es as =>
    cases s with
    | field name => simp [steps, mem_mergedNames, Fields.get?_eq_none_iff]
    | item i => simp [steps]
  | arrays hlen =>
    cases s with
    | field name => simp [steps]
    | item i => simp [steps, hlen]

theorem nodup_steps (h : e.Descends a) (he : e.Tidy) (ha : a.Tidy) : (e.steps a).Nodup := by
  cases h with
  | objects es as =>
    have hnames : (mergedNames es as).Nodup := (pairwise_mergedNames he ha).imp ne_of_lt
    exact hnames.map fun _ _ => Step.field.inj
  | arrays hlen => exact List.nodup_range.map fun _ _ => Step.item.inj

/-- **Two values that are compared inside**, one step at a time. -/
theorem innerDifferences_eq (h : e.Descends a) (he : e.Tidy) (ha : a.Tidy) :
    innerDifferences mode loc e a = (e.steps a).flatMap fun s =>
      entriesAt mode (loc ++ [s]) (e.step? s) (a.step? s) := by
  cases h with
  | objects es as =>
    rw [innerDifferences, fieldDifferences_eq he ha, steps, List.flatMap_map]
    simp only [step?_object_field]
  | arrays hlen =>
    rw [innerDifferences, if_pos hlen, itemDifferences_eq hlen, steps, List.flatMap_map]
    simp only [Nat.zero_add, step?_array_item]

theorem innerDifferences_of_not_descends (h : ¬ e.Descends a) :
    innerDifferences mode loc e a = [] := by
  cases e <;> cases a <;> try rfl
  case array es as => rw [innerDifferences, if_neg fun hlen => h (.arrays hlen)]
  case object es as => exact absurd (.objects es as) h

end Value

/-! ## Locations -/

/-- An entry with its location put behind another one. -/
def Entry.behind (l : Location) (d : Entry) : Entry := { d with location := l ++ d.location }

theorem Entry.behind_behind (l l' : Location) (d : Entry) :
    (d.behind l').behind l = d.behind (l ++ l') := by
  simp [behind]

theorem pairEntries_behind {e a : Value} {l : Location} {inner : List Entry} :
    pairEntries mode (l ++ loc) e a (inner.map (Entry.behind l)) =
      (pairEntries mode loc e a inner).map (Entry.behind l) := by
  unfold pairEntries
  rw [List.isEmpty_map]
  split_ifs <;> rfl

/-- Where a pair has its entries relocated, so has what may hold it. -/
theorem entriesAt_behind {l : Location} {e? a? : Option Value}
    (h : ∀ e a, e? = some e → a? = some a → ∀ here,
      innerDifferences mode here e a = (differences mode e a).map (Entry.behind here)) :
    entriesAt mode (l ++ loc) e? a? = (entriesAt mode loc e? a?).map (Entry.behind l) := by
  cases e? with
  | none =>
    cases a? with
    | none => rfl
    | some a =>
      simp only [entriesAt]
      split_ifs <;> rfl
  | some e =>
    cases a? with
    | none => rfl
    | some a =>
      have hcomp : Entry.behind l ∘ Entry.behind loc = Entry.behind (l ++ loc) :=
        funext (Entry.behind_behind l loc)
      rw [entriesAt, entriesAt, h e a rfl rfl, h e a rfl rfl, ← pairEntries_behind, List.map_map,
        hcomp]

/-- The entries behind a location are those at the root, put there. -/
theorem innerDifferences_behind {e a : Value} (he : e.Proper) (ha : a.Proper) (loc : Location) :
    innerDifferences mode loc e a = (differences mode e a).map (Entry.behind loc) := by
  induction he generalizing a loc with
  | @intro e tidy _ ih =>
    by_cases h : e.Descends a
    · rw [differences, Value.innerDifferences_eq h tidy ha.tidy,
        Value.innerDifferences_eq h tidy ha.tidy, List.map_flatMap]
      refine List.flatMap_congr fun s _ => ?_
      rw [List.nil_append]
      exact entriesAt_behind fun v w hv hw => ih s v hv (ha.step hw)
    · rw [differences, Value.innerDifferences_of_not_descends h,
        Value.innerDifferences_of_not_descends h, List.map_nil]

/-- **The differences, one step at a time.** -/
theorem differences_eq {e a : Value} (h : e.Descends a) (he : e.Proper) (ha : a.Proper) :
    differences mode e a = (e.steps a).flatMap fun s =>
      (entriesAt mode [] (e.step? s) (a.step? s)).map (Entry.behind [s]) := by
  rw [differences, Value.innerDifferences_eq h he.tidy ha.tidy]
  refine List.flatMap_congr fun s _ => ?_
  rw [← entriesAt_behind fun v w hv hw => innerDifferences_behind (he.step hv) (ha.step hw)]
  rfl

theorem differences_of_not_descends {e a : Value} (h : ¬ e.Descends a) :
    differences mode e a = [] := Value.innerDifferences_of_not_descends h

end Testbed.Json
