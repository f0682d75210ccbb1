import Testbed.Json.Location
import Testbed.Json.Parser
import Testbed.Proofs.Json.Fields
import Testbed.Proofs.Number.Rounding

/-!
# Parsed values

What the reader gives is *proper* (`Value.Proper`): the fields of every object are in order of their
names, each name once; integers are of 64 bits, and reals in canonical form.

**Theorem (`proper_of_parse`).** Every value that is read from a text is proper.
-/

namespace Testbed.Json

/-- What a reader returns, if anything, has a property. -/
def Gives {α : Type} (P : α → Prop) (r : Except Fault (α × Bytes)) : Prop :=
  ∀ a rest, r = .ok (a, rest) → P a

variable {α β : Type} {P : α → Prop} {Q : β → Prop}

@[simp] theorem gives_error (f : Fault) : Gives P (.error f) := by
  intro a rest h
  cases h

@[simp] theorem gives_ok {a : α} {rest : Bytes} : Gives P (.ok (a, rest)) ↔ P a := by
  constructor
  · intro h
    exact h a rest rfl
  · intro h b rest h'
    cases h'
    exact h

theorem gives_any (r : Except Fault (α × Bytes)) : Gives (fun _ => True) r :=
  fun _ _ _ => trivial

@[simp] theorem gives_faultOf (cause : Cause) (s : Bytes) : Gives P (Parser.faultOf cause s) :=
  gives_error _

/-- Readers one after the other. -/
theorem Gives.bind {r : Except Fault (α × Bytes)} (h : Gives P r)
    {f : α × Bytes → Except Fault (β × Bytes)} (hf : ∀ a rest, P a → Gives Q (f (a, rest))) :
    Gives Q (r >>= f) := by
  match r with
  | .error e => exact gives_error e
  | .ok (a, rest) => exact hf a rest (h a rest rfl)

namespace Numeral

open Binary64

theorem canonical_scaleBy {f x : Binary64} {e : Int} (h : scaleBy f e = some x) : x.Canonical := by
  obtain ⟨p, hp, h⟩ := Option.bind_eq_some_iff.mp h
  split_ifs at h
  · exact (round?_eq_some (scaled_den_pos _ one_pos _) h).1
  · have hmant := Nat.pos_of_ne_zero (mant_ne_zero_of_round? (by simp) hp)
    exact (round?_eq_some (scaled_den_pos _ hmant _) h).1

theorem canonical_compose {n : Nat} {e : Int} {x : Binary64} (h : compose n e = some x) :
    x.Canonical := by
  obtain ⟨f, hf, h⟩ := Option.bind_eq_some_iff.mp h
  split_ifs at h
  · exact canonical_scaleBy h
  · cases h
    exact (round?_eq_some one_pos hf).1
  · obtain ⟨g, -, h⟩ := Option.bind_eq_some_iff.mp h
    exact canonical_scaleBy h
  · obtain ⟨g, -, h⟩ := Option.bind_eq_some_iff.mp h
    obtain ⟨g', -, h⟩ := Option.bind_eq_some_iff.mp h
    exact canonical_scaleBy h
  · obtain ⟨g, -, h⟩ := Option.bind_eq_some_iff.mp h
    obtain ⟨g', -, h⟩ := Option.bind_eq_some_iff.mp h
    cases h
    exact canonical_zero false

end Numeral

/-- The numbers that a reader gives: integers of 64 bits, and reals in canonical form. -/
def Number.Proper : Number → Prop
  | .integer i => -2 ^ 63 ≤ i ∧ i < 2 ^ 64
  | .real x => x.Canonical

namespace Numeral

variable (neg : Bool)

theorem proper_finish (p : Parts) (s : Bytes) : Gives Number.Proper (finish neg p s) := by
  unfold finish
  split
  · rename_i x hx
    rw [gives_ok]
    have h := canonical_compose hx
    cases neg
    · exact h
    · exact h.negate
  · exact gives_error _

theorem proper_exponentPart (p : Parts) (s : Bytes) :
    Gives Number.Proper (exponentPart neg p s) := by
  unfold exponentPart
  simp only
  repeat' split
  all_goals first | exact proper_finish _ _ _ | simp [Number.Proper, Binary64.canonical_zero]

theorem proper_optionalExponent (p : Parts) (s : Bytes) :
    Gives Number.Proper (optionalExponent neg p s) := by
  unfold optionalExponent
  split
  · exact proper_exponentPart neg p _
  · exact proper_exponentPart neg p _
  · exact proper_finish neg p _

theorem proper_fractionPart (p : Parts) (s : Bytes) :
    Gives Number.Proper (fractionPart neg p s) := by
  unfold fractionPart
  simp only
  split
  · exact proper_optionalExponent neg _ _
  · split
    · exact gives_error _
    · exact proper_optionalExponent neg _ _

theorem proper_integer {n : Nat} (hn : n < 2 ^ 64) (s : Bytes) :
    Gives Number.Proper (integer neg n s) := by
  unfold integer
  split_ifs with h h'
  · rw [gives_ok]
    exact ⟨by omega, by omega⟩
  · exact proper_finish neg _ _
  · rw [gives_ok]
    have : (1 <<< 63 : Nat) = 2 ^ 63 := rfl
    exact ⟨by omega, by omega⟩

theorem extend_lt {n : Nat} (hn : n < 2 ^ 64) (count : Nat) (s : Bytes) :
    (extend n count s).1 < 2 ^ 64 := by
  induction s generalizing n count with
  | nil => exact hn
  | cons b rest ih =>
    unfold extend
    split
    · split_ifs with h
      · exact ih h _
      · exact hn
    · exact hn

theorem proper_afterInteger {n : Nat} (hn : n < 2 ^ 64) (s : Bytes) :
    Gives Number.Proper (afterInteger neg n s) := by
  unfold afterInteger
  split
  · exact proper_fractionPart neg _ _
  · exact proper_exponentPart neg _ _
  · exact proper_exponentPart neg _ _
  · exact proper_integer neg hn _

theorem proper_afterLongInteger (n : Nat) (e : Int) (s : Bytes) :
    Gives Number.Proper (afterLongInteger neg n e s) := by
  induction s generalizing e with
  | nil => exact proper_finish neg _ _
  | cons b rest ih =>
    unfold afterLongInteger
    split_ifs
    · exact ih _
    · exact proper_fractionPart neg _ _
    · exact proper_optionalExponent neg _ _

theorem digit?_lt {b : UInt8} {d : Nat} (h : digit? b = some d) : d < 10 := by
  unfold digit? at h
  split_ifs at h with hb
  cases h
  have := UInt8.le_iff_toNat_le.mp hb.2
  change b.toNat ≤ 57 at this
  omega

/-- Every numeral is read as a proper number. -/
theorem proper_read (s : Bytes) : Gives Number.Proper (read neg s) := by
  unfold read
  split
  · exact gives_error _
  · split
    · exact gives_error _
    · split_ifs
      · exact gives_error _
      · exact proper_afterInteger neg (by norm_num) _
    · rename_i d _ hd
      have := digit?_lt hd
      simp only
      split_ifs
      · exact proper_afterLongInteger neg _ _ _
      · exact proper_afterInteger neg (extend_lt (by omega) _ _) _

end Numeral

/-! ## Values -/

namespace Value

/-- What holds of a proper value at its root. -/
def Tidy : Value → Prop
  | .number n => n.Proper
  | .object fields => Fields.Ordered fields
  | _ => True

/-- A value that a reader can give: tidy at its root and at all that steps lead to. -/
inductive Proper : Value → Prop
  | intro {v : Value} (tidy : v.Tidy) (inner : ∀ s w, v.step? s = some w → w.Proper) : v.Proper

theorem Proper.tidy {v : Value} (h : v.Proper) : v.Tidy := by
  cases h
  assumption

theorem Proper.step {v w : Value} {s : Step} (h : v.Proper) (hs : v.step? s = some w) :
    w.Proper := by
  cases h with
  | intro _ inner => exact inner s w hs

theorem Proper.find {v w : Value} {l : Location} (hv : v.Proper) (h : v.find? l = some w) :
    w.Proper := by
  induction l generalizing v with
  | nil =>
    cases h
    exact hv
  | cons s l ih =>
    obtain ⟨x, hx, h⟩ := Option.bind_eq_some_iff.mp h
    exact ih (hv.step hx) h

@[simp] theorem step?_null (s : Step) : null.step? s = none := by cases s <;> rfl

@[simp] theorem step?_bool (b : Bool) (s : Step) : (bool b).step? s = none := by cases s <;> rfl

@[simp] theorem step?_number (n : Number) (s : Step) : (number n).step? s = none := by
  cases s <;> rfl

@[simp] theorem step?_string (t : String) (s : Step) : (string t).step? s = none := by
  cases s <;> rfl

@[simp] theorem step?_array_item (items : List Value) (i : Nat) :
    (array items).step? (.item i) = items[i]? := rfl

@[simp] theorem step?_object_field (fields : Fields) (name : String) :
    (object fields).step? (.field name) = Fields.get? fields name := rfl

@[simp] theorem step?_array_field (items : List Value) (name : String) :
    (array items).step? (.field name) = none := rfl

@[simp] theorem step?_object_item (fields : Fields) (i : Nat) :
    (object fields).step? (.item i) = none := rfl

/-- A value without inner ones is proper if it is tidy. -/
theorem Tidy.proper {v : Value} (h : v.Tidy) (hs : ∀ s, v.step? s = none) : v.Proper :=
  .intro h fun s w hw => by
    rw [hs s] at hw
    cases hw

theorem proper_null : null.Proper := Tidy.proper trivial step?_null

theorem proper_bool (b : Bool) : (bool b).Proper := Tidy.proper trivial (step?_bool b)

theorem proper_string (t : String) : (string t).Proper := Tidy.proper trivial (step?_string t)

theorem proper_number {n : Number} (h : n.Proper) : (number n).Proper :=
  Tidy.proper h (step?_number n)

theorem proper_array {items : List Value} (h : ∀ v ∈ items, v.Proper) : (array items).Proper := by
  refine .intro trivial fun s w hs => ?_
  cases s with
  | field name => cases hs
  | item i => exact h w (List.mem_of_getElem? hs)

theorem proper_object {fields : Fields} (ho : Fields.Ordered fields)
    (h : ∀ f ∈ fields, f.2.Proper) : (object fields).Proper := by
  refine .intro ho fun s w hs => ?_
  cases s with
  | field name => exact h _ (Fields.mem_of_get? hs)
  | item i => cases hs

end Value

namespace Parser

/-- Ordered fields with proper values. -/
def ProperFields (fields : Fields) : Prop :=
  Fields.Ordered fields ∧ ∀ f ∈ fields, f.2.Proper

theorem ProperFields.insert {fields : Fields} (h : ProperFields fields) (name : String) {v : Value}
    (hv : v.Proper) : ProperFields (Fields.insert name v fields) := by
  refine ⟨h.1.insert name v, fun f hf => ?_⟩
  rcases Fields.fst_of_mem_insert hf with rfl | hf
  · exact hv
  · exact h.2 f hf

/-- What the readers give with a number of calls. -/
structure Reads (fuel : Nat) : Prop where
  value : ∀ depth s, Gives Value.Proper (value fuel depth s)
  items : ∀ depth first acc s, (∀ v ∈ acc, v.Proper) →
    Gives (∀ v ∈ ·, v.Proper) (items fuel depth first acc s)
  fields : ∀ depth first acc s, ProperFields acc →
    Gives ProperFields (fields fuel depth first acc s)
  field : ∀ depth acc s, ProperFields acc → Gives ProperFields (field fuel depth acc s)

theorem Reads.value_succ {fuel : Nat} (h : Reads fuel) (depth : Nat) (s : Bytes) :
    Gives Value.Proper (Parser.value (fuel + 1) depth s) := by
  rw [Parser.value]
  split
  · exact gives_faultOf _ _
  · exact (gives_any _).bind fun _ _ _ => gives_ok.mpr Value.proper_null
  · exact (gives_any _).bind fun _ _ _ => gives_ok.mpr (Value.proper_bool true)
  · exact (gives_any _).bind fun _ _ _ => gives_ok.mpr (Value.proper_bool false)
  · exact (gives_any _).bind fun t _ _ => gives_ok.mpr (Value.proper_string t)
  · split_ifs
    · exact gives_faultOf _ _
    · exact (h.items _ _ _ _ (by simp)).bind fun _ _ hi => gives_ok.mpr (Value.proper_array hi)
  · split_ifs
    · exact gives_faultOf _ _
    · exact (h.fields _ _ _ _ ⟨List.Pairwise.nil, by simp⟩).bind fun _ _ hf =>
        gives_ok.mpr (Value.proper_object hf.1 hf.2)
  · exact (Numeral.proper_read true _).bind fun _ _ hn => gives_ok.mpr (Value.proper_number hn)
  · split_ifs
    · exact (Numeral.proper_read false _).bind fun _ _ hn => gives_ok.mpr (Value.proper_number hn)
    · exact gives_faultOf _ _

theorem Reads.items_succ {fuel : Nat} (h : Reads fuel) (depth : Nat) (first : Bool)
    (acc : List Value) (s : Bytes) (hacc : ∀ v ∈ acc, v.Proper) :
    Gives (∀ v ∈ ·, v.Proper) (Parser.items (fuel + 1) depth first acc s) := by
  rw [Parser.items]
  have hcons (v : Value) (hv : v.Proper) : ∀ w ∈ v :: acc, w.Proper :=
    List.forall_mem_cons.mpr ⟨hv, hacc⟩
  split
  · exact gives_faultOf _ _
  · exact gives_ok.mpr fun v hv => hacc v (List.mem_reverse.mp hv)
  · split_ifs
    · exact (h.value _ _).bind fun v _ hv => h.items _ _ _ _ (hcons v hv)
    · split
      · exact gives_faultOf _ _
      · exact gives_faultOf _ _
      · exact (h.value _ _).bind fun v _ hv => h.items _ _ _ _ (hcons v hv)
    · exact gives_faultOf _ _

theorem Reads.fields_succ {fuel : Nat} (h : Reads fuel) (depth : Nat) (first : Bool)
    (acc : Fields) (s : Bytes) (hacc : ProperFields acc) :
    Gives ProperFields (Parser.fields (fuel + 1) depth first acc s) := by
  rw [Parser.fields]
  split
  · exact gives_faultOf _ _
  · exact gives_ok.mpr hacc
  · split_ifs
    · exact h.field _ _ _ hacc
    · exact gives_faultOf _ _
    · split
      · exact h.field _ _ _ hacc
      · exact gives_faultOf _ _
      · exact gives_faultOf _ _
      · exact gives_faultOf _ _
    · exact gives_faultOf _ _

theorem Reads.field_succ {fuel : Nat} (h : Reads fuel) (depth : Nat) (acc : Fields) (s : Bytes)
    (hacc : ProperFields acc) : Gives ProperFields (Parser.field (fuel + 1) depth acc s) := by
  rw [Parser.field]
  refine (gives_any _).bind fun name rest _ => ?_
  simp only
  split
  · exact gives_faultOf _ _
  · exact (h.value _ _).bind fun v _ hv => h.fields _ _ _ _ (hacc.insert name hv)
  · exact gives_faultOf _ _

theorem reads (fuel : Nat) : Reads fuel := by
  induction fuel with
  | zero =>
    constructor <;> intros <;> simp [Parser.value, Parser.items, Parser.fields, Parser.field]
  | succ fuel ih => exact ⟨ih.value_succ, ih.items_succ, ih.fields_succ, ih.field_succ⟩

end Parser

/-- **Parsed values are proper.** -/
theorem proper_of_parse {text : Bytes} {v : Value} (h : parse text = .ok v) : v.Proper := by
  have hread := (Parser.reads (2 * text.length + 2)).value depthLimit text
  unfold parse at h
  match hr : Parser.value (2 * text.length + 2) depthLimit text with
  | .error f =>
    rw [hr] at h
    cases h
  | .ok (w, rest) =>
    rw [hr] at h
    simp only [bind, Except.bind] at h
    split at h
    · cases h
      exact hread _ _ hr
    · cases h

end Testbed.Json
