import Mathlib.Data.String.Basic
import Mathlib.Data.List.Lemmas
import Mathlib.Data.List.Perm.Subperm
import Testbed.Json.Location

/-!
# Fields by name

The fields of an object as a map: what is found under a name after fields were set and erased, and
that both keep the names in order.
-/

namespace Testbed.Json.Fields

variable {fields : Fields} {name k : String} {v : Value}

/-- The names come in order, each of them once. -/
def Ordered (fields : Fields) : Prop := fields.Pairwise fun f g => f.1 < g.1

@[simp] theorem get?_nil (name : String) : get? [] name = none := rfl

theorem get?_cons (k : String) (v : Value) (rest : Fields) (name : String) :
    get? ((k, v) :: rest) name = if name = k then some v else get? rest name := by
  by_cases h : name = k
  · simp [get?, h]
  · simp [get?, List.lookup_cons, h, beq_eq_false_iff_ne.mpr h]

theorem mem_of_get? (h : get? fields name = some v) : (name, v) ∈ fields := by
  induction fields with
  | nil => cases h
  | cons f rest ih =>
    obtain ⟨k, w⟩ := f
    rw [get?_cons] at h
    split_ifs at h with hk
    · cases h
      rw [hk]
      exact List.mem_cons_self
    · exact List.mem_cons_of_mem _ (ih h)

theorem Ordered.get?_of_mem (ho : Ordered fields) (h : (name, v) ∈ fields) :
    get? fields name = some v := by
  induction fields with
  | nil => cases h
  | cons f rest ih =>
    obtain ⟨hlt, ho⟩ := List.pairwise_cons.mp ho
    rw [get?_cons]
    rcases List.mem_cons.mp h with rfl | h
    · exact if_pos rfl
    · rw [if_neg (hlt _ h).ne']
      exact ih ho h

theorem get?_eq_none_iff : get? fields name = none ↔ name ∉ fields.map Prod.fst := by
  induction fields with
  | nil => simp
  | cons f rest ih =>
    rw [get?_cons]
    by_cases h : name = f.1 <;> simp [h, ih]

theorem Ordered.lt_of_mem (ho : Ordered ((name, v) :: fields)) (h : k ∈ fields.map Prod.fst) :
    name < k := by
  obtain ⟨f, hf, rfl⟩ := List.mem_map.mp h
  exact (List.pairwise_cons.mp ho).1 f hf

theorem Ordered.tail (ho : Ordered ((name, v) :: fields)) : Ordered fields :=
  (List.pairwise_cons.mp ho).2

/-- No field comes before the first one. -/
theorem Ordered.get?_eq_none_of_lt (ho : Ordered ((name, v) :: fields)) (h : k < name) :
    get? ((name, v) :: fields) k = none := by
  rw [get?_eq_none_iff]
  intro hk
  rcases List.mem_cons.mp hk with rfl | hk
  · exact lt_irrefl _ h
  · exact lt_asymm h (ho.lt_of_mem hk)

theorem Ordered.nodup_names (ho : Ordered fields) : (fields.map Prod.fst).Nodup :=
  List.Pairwise.map _ (fun _ _ h => h.ne) ho

/-- Objects of one size have the same names if the first has none that the second lacks. -/
theorem Ordered.get?_eq_none_of_length_eq {es as : Fields} (ho : Ordered es)
    (hlen : es.length = as.length) (hsub : ∀ k, get? as k = none → get? es k = none)
    (h : get? es name = none) : get? as name = none := by
  have hmem (k : String) (hk : k ∈ es.map Prod.fst) : k ∈ as.map Prod.fst := by
    by_contra hne
    exact get?_eq_none_iff.mp (hsub k (get?_eq_none_iff.mpr hne)) hk
  have hperm : (es.map Prod.fst).Perm (as.map Prod.fst) :=
    (List.subperm_of_subset ho.nodup_names hmem).perm_of_length_le (by simp [hlen])
  rw [get?_eq_none_iff] at h ⊢
  rwa [← hperm.mem_iff]

/-- Objects with the same names have one size. -/
theorem Ordered.length_eq {es as : Fields} (he : Ordered es) (ha : Ordered as)
    (h : ∀ k, get? es k = none ↔ get? as k = none) : es.length = as.length := by
  have hmem (k : String) : k ∈ es.map Prod.fst ↔ k ∈ as.map Prod.fst := by
    rw [← not_iff_not, ← get?_eq_none_iff, ← get?_eq_none_iff, h k]
  simpa using ((List.perm_ext_iff_of_nodup he.nodup_names ha.nodup_names).mpr hmem).length_eq

/-! ## Setting and erasing -/

@[simp] theorem get?_insert (name : String) (v : Value) (fields : Fields) (k : String) :
    get? (insert name v fields) k = if k = name then some v else get? fields k := by
  induction fields with
  | nil => rw [insert, get?_cons]
  | cons f rest ih =>
    obtain ⟨j, w⟩ := f
    rw [insert]
    split_ifs with hlt heq <;> simp only [get?_cons, ih] <;> grind

theorem fst_of_mem_insert {f : String × Value} (h : f ∈ insert name v fields) :
    f = (name, v) ∨ f ∈ fields := by
  induction fields with
  | nil => exact .inl (List.mem_singleton.mp h)
  | cons g rest ih =>
    obtain ⟨j, w⟩ := g
    rw [insert] at h
    split_ifs at h <;> grind

theorem Ordered.insert (ho : Ordered fields) (name : String) (v : Value) :
    Ordered (Fields.insert name v fields) := by
  induction fields with
  | nil => exact List.pairwise_singleton _ _
  | cons f rest ih =>
    obtain ⟨j, w⟩ := f
    obtain ⟨hlt, hrest⟩ := List.pairwise_cons.mp ho
    rw [Fields.insert]
    split_ifs with h heq
    · refine List.pairwise_cons.mpr ⟨fun g hg => ?_, ho⟩
      rcases List.mem_cons.mp hg with rfl | hg
      · exact h
      · exact h.trans (hlt g hg)
    · exact List.pairwise_cons.mpr ⟨fun g hg => heq ▸ hlt g hg, hrest⟩
    · refine List.pairwise_cons.mpr ⟨fun g hg => ?_, ih hrest⟩
      rcases fst_of_mem_insert hg with rfl | hg
      · exact lt_of_le_of_ne (not_lt.mp h) (Ne.symm heq)
      · exact hlt g hg

@[simp] theorem get?_erase (name : String) (fields : Fields) (k : String) :
    get? (erase name fields) k = if k = name then none else get? fields k := by
  induction fields with
  | nil => simp [erase]
  | cons f rest ih =>
    obtain ⟨j, w⟩ := f
    have hcons : erase name ((j, w) :: rest) =
        if j = name then erase name rest else (j, w) :: erase name rest := by
      by_cases h : j = name <;> simp [erase, h]
    rw [hcons]
    split_ifs <;> simp only [get?_cons, ih] <;> grind

theorem Ordered.erase (ho : Ordered fields) (name : String) : Ordered (Fields.erase name fields) :=
  List.Pairwise.filter _ ho

end Testbed.Json.Fields
