import Testbed.Json.Assertion
import Testbed.Proofs.Json.Parsed

/-!
# Deep equality and containment

Both comparisons look at one step at a time (`Value.within_iff_inner`, `Value.agrees_iff_inner`):
the two values look the same at their roots (`Value.Meets`), and every step that the first value
has leads to a pair that compares again; for equality no step leads anywhere in one value only.
By induction on a proper value, containment is a statement about locations (`Value.Covered`), and
deep equality is containment both ways, which is a statement about locations too (`Value.Alike`).

**Theorem (`within_preorder`).** On the values that are read from texts containment is a preorder,
and deep equality is its symmetric part; an assertion of equality passes if and only if those of
containment pass both ways.
-/

namespace Testbed.Json

/-! ## Numbers -/

namespace Number

/-- Two numbers count as equal if they are the same, or if the numbers nearest to them are. -/
theorem agrees_iff {m n : Number} : m.agrees n = true ↔
    m = n ∨ ∃ x y, m.nearest = some x ∧ n.nearest = some y ∧ x.same y = true := by
  cases hx : m.nearest with
  | none =>
    cases m with
    | integer i => cases n <;> simp [agrees, hx]
    | real x => cases hx
  | some x =>
    cases hy : n.nearest with
    | none =>
      cases n with
      | integer j => cases m <;> simp [agrees, hy]
      | real y => cases hy
    | some y =>
      cases m with
      | integer i => cases n <;> simp [agrees, hx, hy]
      | real _ =>
        cases n with
        | integer j => simp [agrees, hx, hy]
        | real _ =>
          cases hx
          cases hy
          have hself (h : x = y) : x.same y = true := h ▸ Binary64.same_refl x
          simpa [agrees, nearest] using hself

theorem agrees_refl (m : Number) : m.agrees m = true := agrees_iff.mpr (.inl rfl)

theorem agrees_symm {m n : Number} (h : m.agrees n = true) : n.agrees m = true := by
  rcases agrees_iff.mp h with rfl | ⟨x, y, hx, hy, hxy⟩
  · exact agrees_refl m
  · exact agrees_iff.mpr (.inr ⟨y, x, hy, hx, Binary64.same_symm hxy⟩)

theorem agrees_trans {k m n : Number} (hkm : k.agrees m = true) (hmn : m.agrees n = true) :
    k.agrees n = true := by
  rcases agrees_iff.mp hkm with rfl | ⟨x, y, hx, hy, hxy⟩
  · exact hmn
  rcases agrees_iff.mp hmn with rfl | ⟨y', z, hy', hz, hyz⟩
  · exact hkm
  obtain rfl := Option.some.inj (hy.symm.trans hy')
  exact agrees_iff.mpr (.inr ⟨x, z, hx, hz, Binary64.same_trans hxy hyz⟩)

end Number

/-! ## Lists -/

theorem itemsAgree_eq (es as : List Value) :
    itemsAgree es as = (es.zip as).all fun p => p.1.agrees p.2 := by
  induction es generalizing as with
  | nil => simp [itemsAgree]
  | cons e es ih => cases as <;> simp [itemsAgree, ih]

theorem itemsWithin_eq (es as : List Value) :
    itemsWithin es as = (es.zip as).all fun p => p.1.within p.2 := by
  induction es generalizing as with
  | nil => simp [itemsWithin]
  | cons e es ih => cases as <;> simp [itemsWithin, ih]

theorem fieldsAgree_eq (es as : Fields) :
    fieldsAgree es as = es.all fun f => (Fields.get? as f.1).any f.2.agrees := by
  induction es with
  | nil => rfl
  | cons f es ih => cases h : Fields.get? as f.1 <;> simp [fieldsAgree, ih, h]

theorem fieldsWithin_eq (es as : Fields) :
    fieldsWithin es as = es.all fun f => (Fields.get? as f.1).any f.2.within := by
  induction es with
  | nil => rfl
  | cons f es ih => cases h : Fields.get? as f.1 <;> simp [fieldsWithin, ih, h]

namespace Value

/-! ## One step -/

/-- Whether two values look the same without a step into them, given when two numbers do. -/
def Meets (R : Number → Number → Prop) : Value → Value → Prop
  | .null, .null => True
  | .bool b, .bool c => b = c
  | .number m, .number n => R m n
  | .string s, .string t => s = t
  | .array es, .array as => es.length = as.length
  | .object _, .object _ => True
  | _, _ => False

/-- Every step into the first value is one into the second, and leads to a related value. -/
def Inner (P : Value → Value → Prop) (e a : Value) : Prop :=
  ∀ s v, e.step? s = some v → ∃ w, a.step? s = some w ∧ P v w

theorem Inner.step?_eq_none {P : Value → Value → Prop} {e a : Value} {s : Step} (h : e.Inner P a)
    (hs : a.step? s = none) : e.step? s = none := by
  cases hv : e.step? s with
  | none => rfl
  | some v =>
    obtain ⟨w, hw, -⟩ := h s v hv
    cases hw.symm.trans hs

/-- When two numbers count as equal. -/
abbrev NumbersAgree (m n : Number) : Prop := m.agrees n = true

theorem inner_array {es as : List Value} (h : es.length = as.length) {p : Value → Value → Bool} :
    ((es.zip as).all fun q => p q.1 q.2) = true ↔
      (array es).Inner (fun v w => p v w = true) (array as) := by
  rw [List.all_eq_true]
  constructor
  · intro hall s v hv
    cases s with
    | field name => cases hv
    | item i =>
      obtain ⟨hi, rfl⟩ := List.getElem?_eq_some_iff.mp hv
      have hi' : i < as.length := h ▸ hi
      refine ⟨as[i], List.getElem?_eq_getElem hi', hall (es[i], as[i]) ?_⟩
      exact List.mem_iff_getElem.mpr ⟨i, by simpa using ⟨hi, hi'⟩, List.getElem_zip⟩
  · intro hinner q hq
    obtain ⟨i, hi, rfl⟩ := List.mem_iff_getElem.mp hq
    rw [List.length_zip, lt_min_iff] at hi
    obtain ⟨w, hw, hp⟩ := hinner (.item i) es[i] (List.getElem?_eq_getElem hi.1)
    obtain ⟨_, rfl⟩ := List.getElem?_eq_some_iff.mp hw
    simpa using hp

theorem inner_object {es as : Fields} (ho : Fields.Ordered es) {p : Value → Value → Bool} :
    (es.all fun f => (Fields.get? as f.1).any (p f.2)) = true ↔
      (object es).Inner (fun v w => p v w = true) (object as) := by
  rw [List.all_eq_true]
  constructor
  · intro hall s v hv
    cases s with
    | field name => simpa [Option.any_eq_true] using hall (name, v) (Fields.mem_of_get? hv)
    | item i => cases hv
  · intro hinner f hf
    rw [Option.any_eq_true]
    exact hinner (.field f.1) f.2 (ho.get?_of_mem hf)

/-- Containment, one step at a time. -/
theorem within_iff_inner {e a : Value} (he : e.Tidy) : e.within a = true ↔
    e.Meets NumbersAgree a ∧ e.Inner (fun v w => v.within w = true) a := by
  cases e with
  | array es =>
    cases a with
    | array as =>
      simp only [within, Bool.and_eq_true, beq_iff_eq, Meets, itemsWithin_eq]
      exact and_congr_right fun h => inner_array h
    | _ => simp [within, agrees, Meets]
  | object es =>
    cases a with
    | object as =>
      simp only [within, Meets, true_and, fieldsWithin_eq]
      exact inner_object he
    | _ => simp [within, agrees, Meets]
  | _ => cases a <;> simp [within, agrees, Meets, Inner]

/-- Deep equality, one step at a time: no step leads anywhere in one value only. -/
theorem agrees_iff_inner {e a : Value} (he : e.Tidy) (ha : a.Tidy) : e.agrees a = true ↔
    e.Meets NumbersAgree a ∧ e.Inner (fun v w => v.agrees w = true) a ∧
      ∀ s, e.step? s = none → a.step? s = none := by
  cases e with
  | array es =>
    cases a with
    | array as =>
      simp only [agrees, Bool.and_eq_true, beq_iff_eq, Meets, itemsAgree_eq]
      refine and_congr_right fun h => (inner_array h).trans (and_iff_left ?_).symm
      intro s hs
      cases s with
      | field name => rfl
      | item i => simpa [← h] using hs
    | _ => simp [agrees, Meets]
  | object es =>
    cases a with
    | object as =>
      simp only [agrees, Bool.and_eq_true, beq_iff_eq, Meets, true_and, fieldsAgree_eq]
      rw [inner_object he, and_comm]
      -- Once every name of the first object is in the second, equal sizes leave room for no other.
      refine and_congr_right fun h => ?_
      have hsub (k : String) (hk : (object as).step? (.field k) = none) := h.step?_eq_none hk
      constructor
      · intro hlen s hs
        cases s with
        | field name => exact Fields.Ordered.get?_eq_none_of_length_eq he hlen hsub hs
        | item i => rfl
      · intro hnone
        exact Fields.Ordered.length_eq he ha fun k => ⟨hnone (.field k), hsub k⟩
    | _ => simp [agrees, Meets]
  | _ => cases a <;> simp [agrees, Meets, Inner]

/-- Steps that both values share, in terms of the steps into each. -/
theorem inner_and_missing {P Q : Value → Value → Prop} {e a : Value} :
    (e.Inner (fun v w => P v w ∧ Q w v) a ∧ ∀ s, e.step? s = none → a.step? s = none) ↔
      e.Inner P a ∧ a.Inner Q e := by
  constructor
  · rintro ⟨hinner, hnone⟩
    refine ⟨fun s v hv => ?_, fun s w hw => ?_⟩
    · obtain ⟨w, hw, hP, -⟩ := hinner s v hv
      exact ⟨w, hw, hP⟩
    · cases hv : e.step? s with
      | none => cases hw.symm.trans (hnone s hv)
      | some v =>
        obtain ⟨w', hw', -, hQ⟩ := hinner s v hv
        obtain rfl := Option.some.inj (hw.symm.trans hw')
        exact ⟨v, rfl, hQ⟩
  · rintro ⟨hP, hQ⟩
    refine ⟨fun s v hv => ?_, fun s hs => ?_⟩
    · obtain ⟨w, hw, hvw⟩ := hP s v hv
      obtain ⟨v', hv', hwv⟩ := hQ s w hw
      obtain rfl := Option.some.inj (hv.symm.trans hv')
      exact ⟨w, hw, hvw, hwv⟩
    · exact hQ.step?_eq_none hs

theorem inner_congr {P Q : Value → Value → Prop} {e a : Value}
    (h : ∀ s v w, e.step? s = some v → a.step? s = some w → (P v w ↔ Q v w)) :
    e.Inner P a ↔ e.Inner Q a :=
  forall₃_congr fun s v hv =>
    exists_congr fun w => and_congr_right fun hw => h s v w hv hw

/-! ## Everywhere -/

section Everywhere

variable {R S : Number → Number → Prop} {e a c : Value}

theorem meets_refl (hR : ∀ n, R n n) (v : Value) : v.Meets R v := by
  cases v <;> simp [Meets, hR]

theorem Meets.symm (hR : ∀ m n, R m n → R n m) (h : e.Meets R a) : a.Meets R e := by
  cases e <;> cases a <;> first | exact h.elim | exact hR _ _ h | exact Eq.symm h | trivial

theorem Meets.trans (hR : ∀ k m n, R k m → R m n → R k n) (h : e.Meets R a) (h' : a.Meets R c) :
    e.Meets R c := by
  cases e <;> cases a <;> first
    | exact h.elim
    | cases c <;> first | exact h'.elim | exact hR _ _ _ h h' | exact Eq.trans h h' | trivial

/-- A relation of numbers matters only for those that are at one location of the two values. -/
theorem meets_congr (h : ∀ m n, e = .number m → a = .number n → (R m n ↔ S m n)) :
    e.Meets R a ↔ e.Meets S a := by
  cases e <;> cases a <;> first | exact h _ _ rfl rfl | exact Iff.rfl

/-- Wherever the first value has something, the second has something that looks the same. -/
def Covered (R : Number → Number → Prop) (e a : Value) : Prop :=
  ∀ l v, e.find? l = some v → ∃ w, a.find? l = some w ∧ v.Meets R w

/-- Two values have something at the same locations, and it looks the same. -/
def Alike (R : Number → Number → Prop) (e a : Value) : Prop :=
  ∀ l, Option.Rel (Meets R) (e.find? l) (a.find? l)

theorem covered_iff_inner : e.Covered R a ↔ e.Meets R a ∧ e.Inner (Covered R) a := by
  constructor
  · intro h
    constructor
    · obtain ⟨w, hw, hm⟩ := h [] e rfl
      cases hw
      exact hm
    · intro s v hv
      obtain ⟨w, hw, -⟩ := h [s] v (by simp [find?, hv])
      have hw : a.step? s = some w := by simpa [find?] using hw
      exact ⟨w, hw, fun l x hx => by simpa [find?, hw] using h (s :: l) x (by simp [find?, hv, hx])⟩
  · rintro ⟨hm, hinner⟩ l v hl
    cases l with
    | nil =>
      cases hl
      exact ⟨a, rfl, hm⟩
    | cons s l =>
      obtain ⟨x, hx, hl⟩ := Option.bind_eq_some_iff.mp hl
      obtain ⟨y, hy, hxy⟩ := hinner s x hx
      simpa [find?, hy] using hxy l v hl

theorem covered_refl (hR : ∀ n, R n n) (v : Value) : v.Covered R v :=
  fun _ w hw => ⟨w, hw, meets_refl hR w⟩

theorem Covered.trans (hR : ∀ k m n, R k m → R m n → R k n) (h : e.Covered R a)
    (h' : a.Covered R c) : e.Covered R c := by
  intro l v hv
  obtain ⟨w, hw, hvw⟩ := h l v hv
  obtain ⟨x, hx, hwx⟩ := h' l w hw
  exact ⟨x, hx, hvw.trans hR hwx⟩

theorem covered_congr (h : ∀ l m n, e.find? l = some (.number m) → a.find? l = some (.number n) →
    (R m n ↔ S m n)) : e.Covered R a ↔ e.Covered S a := by
  refine forall₃_congr fun l v hv => exists_congr fun w => and_congr_right fun hw => ?_
  refine meets_congr fun m n hm hn => h l m n ?_ ?_
  · rw [hv, hm]
  · rw [hw, hn]

/-- Two values are alike if each of them has what the other has. -/
theorem alike_iff_covered (hR : ∀ m n, R m n → R n m) :
    e.Alike R a ↔ e.Covered R a ∧ a.Covered R e := by
  constructor
  · intro h
    refine ⟨fun l v hv => ?_, fun l w hw => ?_⟩
    · have hl := h l
      rw [hv] at hl
      cases hl' : a.find? l <;> rw [hl'] at hl <;> cases hl
      exact ⟨_, rfl, ‹_›⟩
    · have hl := h l
      rw [hw] at hl
      cases hl' : e.find? l <;> rw [hl'] at hl <;> cases hl
      exact ⟨_, rfl, Meets.symm hR ‹_›⟩
  · rintro ⟨h, h'⟩ l
    cases he : e.find? l with
    | some v =>
      obtain ⟨w, hw, hvw⟩ := h l v he
      rw [hw]
      exact .some hvw
    | none =>
      cases ha : a.find? l with
      | none => exact .none
      | some w =>
        obtain ⟨v, hv, -⟩ := h' l w ha
        cases hv.symm.trans he

end Everywhere

theorem within_iff_covered {e a : Value} (he : e.Proper) :
    e.within a = true ↔ e.Covered NumbersAgree a := by
  induction he generalizing a with
  | intro tidy _ ih =>
    rw [within_iff_inner tidy, covered_iff_inner]
    exact and_congr_right fun _ => inner_congr fun s v w hv _ => ih s v hv

/-- Deep equality is containment both ways. -/
theorem agrees_iff_within {e a : Value} (he : e.Proper) (ha : a.Proper) :
    e.agrees a = true ↔ e.within a = true ∧ a.within e = true := by
  induction he generalizing a with
  | @intro e tidy _ ih =>
    have hinner : e.Inner (fun v w => v.agrees w = true) a ↔
        e.Inner (fun v w => v.within w = true ∧ w.within v = true) a :=
      inner_congr fun s v w hv hw => ih s v hv (ha.step hw)
    rw [agrees_iff_inner tidy ha.tidy, within_iff_inner tidy, within_iff_inner ha.tidy, hinner,
      inner_and_missing]
    have hsymm (h : e.Meets NumbersAgree a) : a.Meets NumbersAgree e :=
      h.symm fun _ _ => Number.agrees_symm
    tauto

theorem within_refl {v : Value} (hv : v.Proper) : v.within v = true :=
  (within_iff_covered hv).mpr (covered_refl Number.agrees_refl v)

theorem within_trans {e a c : Value} (he : e.Proper) (ha : a.Proper) (h : e.within a = true)
    (h' : a.within c = true) : e.within c = true := by
  rw [within_iff_covered he] at h ⊢
  rw [within_iff_covered ha] at h'
  exact h.trans (fun _ _ _ => Number.agrees_trans) h'

end Value

/-! ## Assertions -/

theorem assertWith_of_parse {mode : Mode} {s t : String} {e a : Value}
    (he : parse (Utf8.encode s) = .ok e) (ha : parse (Utf8.encode t) = .ok a) :
    assertWith mode s t =
      if mode.accepts e a then .ok () else .error (.mismatch mode (differences mode e a)) := by
  rw [assertWith, he, ha]
  rfl

theorem assertWith_ok_of_parse {mode : Mode} {s t : String} {e a : Value}
    (he : parse (Utf8.encode s) = .ok e) (ha : parse (Utf8.encode t) = .ok a) :
    assertWith mode s t = .ok () ↔ mode.accepts e a = true := by
  rw [assertWith_of_parse he ha]
  split_ifs with h <;> simp [h]

/-- An assertion passes only if both texts can be read. -/
theorem exists_parse_of_assertWith {mode : Mode} {s t : String} (h : assertWith mode s t = .ok ()) :
    (∃ e, parse (Utf8.encode s) = .ok e) ∧ ∃ a, parse (Utf8.encode t) = .ok a := by
  rw [assertWith] at h
  cases he : parse (Utf8.encode s) with
  | error f =>
    rw [he] at h
    cases h
  | ok e =>
    cases ha : parse (Utf8.encode t) with
    | error f =>
      rw [he, ha] at h
      cases h
    | ok a => exact ⟨⟨e, rfl⟩, ⟨a, rfl⟩⟩

/-- A mutual containment of texts is an equality. -/
theorem assertEqual_eq_ok_iff {s t : String} : assertEqual s t = .ok () ↔
    assertSubset s t = .ok () ∧ assertSubset t s = .ok () := by
  have heq {e a : Value} (he : parse (Utf8.encode s) = .ok e) (ha : parse (Utf8.encode t) = .ok a) :
      assertEqual s t = .ok () ↔ assertSubset s t = .ok () ∧ assertSubset t s = .ok () := by
    rw [assertEqual, assertSubset, assertWith_ok_of_parse he ha, assertWith_ok_of_parse he ha,
      assertWith_ok_of_parse ha he]
    exact Value.agrees_iff_within (proper_of_parse he) (proper_of_parse ha)
  constructor
  · intro h
    obtain ⟨⟨e, he⟩, a, ha⟩ := exists_parse_of_assertWith h
    exact (heq he ha).mp h
  · intro h
    obtain ⟨⟨e, he⟩, a, ha⟩ := exists_parse_of_assertWith h.1
    exact (heq he ha).mpr h

/--
**Containment is a preorder with deep equality as its symmetric part**, on all values that are read
from texts; deep equality is an equivalence.
-/
theorem within_preorder {s t u : Bytes} {a b c : Value} (ha : parse s = .ok a)
    (hb : parse t = .ok b) (hc : parse u = .ok c) :
    a.within a = true ∧ (a.within b = true → b.within c = true → a.within c = true) ∧
      (a.within b = true ∧ b.within a = true ↔ a.agrees b = true) ∧
      a.agrees a = true ∧ (a.agrees b = true → b.agrees a = true) ∧
      (a.agrees b = true → b.agrees c = true → a.agrees c = true) ∧
      ∀ x y : String, assertEqual x y = .ok () ↔
        assertSubset x y = .ok () ∧ assertSubset y x = .ok () := by
  have pa := proper_of_parse ha
  have pb := proper_of_parse hb
  have pc := proper_of_parse hc
  have hself := Value.within_refl pa
  refine ⟨hself, Value.within_trans pa pb, (Value.agrees_iff_within pa pb).symm,
    (Value.agrees_iff_within pa pa).mpr ⟨hself, hself⟩, ?_, ?_, fun _ _ => assertEqual_eq_ok_iff⟩
  · rw [Value.agrees_iff_within pa pb, Value.agrees_iff_within pb pa]
    exact And.symm
  · rw [Value.agrees_iff_within pa pb, Value.agrees_iff_within pb pc, Value.agrees_iff_within pa pc]
    rintro ⟨hab, hba⟩ ⟨hbc, hcb⟩
    exact ⟨Value.within_trans pa pb hab hbc, Value.within_trans pc pb hcb hba⟩

/-- An object without fields is within one with two, by way of one with one; the two differ. -/
theorem bare_object_within :
    ∃ a b c, parse (Utf8.encode "[\x7b\x7d]") = .ok a ∧
      parse (Utf8.encode "[\x7b\"k\": 1\x7d]") = .ok b ∧
      parse (Utf8.encode "[\x7b\"k\": 1.0, \"l\": null\x7d]") = .ok c ∧
      a.within c = true ∧ ¬ a.agrees c = true := by
  have ha : parse (Utf8.encode "[\x7b\x7d]") = .ok (.array [.object []]) := by
    with_unfolding_all rfl
  have hb : parse (Utf8.encode "[\x7b\"k\": 1\x7d]") =
      .ok (.array [.object [("k", .number (.integer 1))]]) := by
    with_unfolding_all rfl
  have hc : parse (Utf8.encode "[\x7b\"k\": 1.0, \"l\": null\x7d]") =
      .ok (.array [.object [("k", .number (.real ⟨false, 2 ^ 52, -52⟩)), ("l", .null)]]) := by
    with_unfolding_all rfl
  obtain ⟨-, htrans, -⟩ := within_preorder ha hb hc
  obtain ⟨-, -, hboth, -⟩ := within_preorder ha hc hb
  refine ⟨_, _, _, ha, hb, hc, htrans (by decide +kernel) (by decide +kernel), fun hagrees => ?_⟩
  exact absurd (hboth.mpr hagrees).2 (by decide +kernel)

end Testbed.Json
