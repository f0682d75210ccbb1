import Mathlib.Data.List.Induction
import Testbed.Http.Exchange
import Testbed.Proofs.Text.LetterCase
import Testbed.Proofs.Text.OctetOrder

/-!
# What a request keeps of its headers

A request keeps its headers by lower-case name, in order of the names, with the values of each name
in order of arrival (`Headers.Ordered`).

**Theorem (`snapshot_eq_iff`).** A name in whatever case is answered with the values that arrived
under it, and each name that arrived is listed once. Two requests are the same if and only if they
have the same URL and body, methods that differ in case at most, and under every name the same
values. So the headers leave the same trace if and only if one list is the other one rearranged:
names in another case, and headers of different names in another order (`Rearranged`).

**By values.** What is found under a name tells all of the headers: adding one is described by the
values it leaves (`Ordered.values_add`), and headers in order with the same values are equal
(`Ordered.eq_of_values`).
-/

namespace Testbed.Http

/-! ## Names in any case -/

theorem Exchange.sameName_iff {a b : String} :
    Exchange.sameName a b = true ↔ a.map Char.toLower = b.map Char.toLower := by
  rw [Exchange.sameName, beq_iff_eq]

theorem map_toLower_idem (s : String) :
    (s.map Char.toLower).map Char.toLower = s.map Char.toLower := by
  simp only [String.map_map, Function.comp_def, Text.toLower_toLower]

/-- Texts differ in case at most if they agree in upper case. -/
theorem map_toUpper_eq_iff {a b : String} :
    a.map Char.toUpper = b.map Char.toUpper ↔ Exchange.sameName a b = true := by
  rw [Exchange.sameName_iff]
  constructor
  · intro h
    simpa only [String.map_map, Function.comp_def, Text.toLower_toUpper] using
      congrArg (String.map Char.toLower) h
  · intro h
    simpa only [String.map_map, Function.comp_def, Text.toUpper_toLower] using
      congrArg (String.map Char.toUpper) h

/-- The values of the headers that have a name, in whatever case, in order of arrival. -/
def valuesNamed (name : String) (entries : List (String × String)) : List String :=
  (entries.filter fun e => Exchange.sameName e.1 name).map Prod.snd

/-! ## Headers by name -/

namespace Headers

variable {headers : Headers} {name k value : String} {vs : List String}

/-- The names come in order, each of them once and with a value. -/
structure Ordered (headers : Headers) : Prop where
  sorted : headers.Pairwise fun f g => f.1 < g.1
  inhabited : ∀ f ∈ headers, f.2 ≠ []

@[simp] theorem values_nil (name : String) : values [] name = [] := rfl

theorem values_cons (k : String) (vs : List String) (rest : Headers) (name : String) :
    values ((k, vs) :: rest) name = if name = k then vs else values rest name := by
  by_cases h : name = k
  · simp [values, h]
  · simp [values, List.lookup_cons, h, beq_eq_false_iff_ne.mpr h]

theorem Ordered.nil : Ordered [] := ⟨.nil, by simp⟩

theorem ordered_cons_iff : Ordered ((k, vs) :: headers) ↔
    (∀ f ∈ headers, k < f.1) ∧ vs ≠ [] ∧ Ordered headers := by
  constructor
  · rintro ⟨hsorted, hinhabited⟩
    obtain ⟨hlt, hsorted⟩ := List.pairwise_cons.mp hsorted
    obtain ⟨hvs, hinhabited⟩ := List.forall_mem_cons.mp hinhabited
    exact ⟨hlt, hvs, hsorted, hinhabited⟩
  · rintro ⟨hlt, hvs, hsorted, hinhabited⟩
    exact ⟨List.pairwise_cons.mpr ⟨hlt, hsorted⟩, List.forall_mem_cons.mpr ⟨hvs, hinhabited⟩⟩

theorem values_eq_nil (h : ∀ f ∈ headers, f.1 ≠ name) : values headers name = [] := by
  induction headers with
  | nil => rfl
  | cons f rest ih =>
    obtain ⟨hf, hrest⟩ := List.forall_mem_cons.mp h
    rw [values_cons, if_neg (Ne.symm hf), ih hrest]

/-- No name comes before the first one. -/
theorem Ordered.values_eq_nil_of_lt (ho : Ordered ((k, vs) :: headers)) (h : name < k) :
    values ((k, vs) :: headers) name = [] := by
  obtain ⟨hlt, -, -⟩ := ordered_cons_iff.mp ho
  exact values_eq_nil (List.forall_mem_cons.mpr ⟨h.ne', fun f hf => (h.trans (hlt f hf)).ne'⟩)

theorem Ordered.values_tail (ho : Ordered ((k, vs) :: headers)) (name : String) :
    values headers name = if name = k then [] else values ((k, vs) :: headers) name := by
  obtain ⟨hlt, -, -⟩ := ordered_cons_iff.mp ho
  rw [values_cons]
  split_ifs with hk
  · exact hk ▸ values_eq_nil fun f hf => (hlt f hf).ne'
  · rfl

/-- A name is listed if it has values. -/
theorem Ordered.mem_names_iff (ho : Ordered headers) :
    name ∈ headers.map Prod.fst ↔ values headers name ≠ [] := by
  induction headers with
  | nil => simp
  | cons f rest ih =>
    obtain ⟨-, hvs, ho⟩ := ordered_cons_iff.mp ho
    rw [values_cons, List.map_cons, List.mem_cons, ih ho]
    split_ifs with hk
    · exact iff_of_true (.inl hk) hvs
    · simp [hk]

/-- **Headers in order are told by the values of the names.** -/
theorem Ordered.eq_of_values {headers' : Headers} (ho : Ordered headers) (ho' : Ordered headers')
    (h : ∀ name, values headers name = values headers' name) : headers = headers' := by
  induction headers generalizing headers' with
  | nil =>
    cases headers' with
    | nil => rfl
    | cons g rest' =>
      obtain ⟨j, ws⟩ := g
      obtain ⟨-, hws, -⟩ := ordered_cons_iff.mp ho'
      exact absurd (by simpa [values_cons] using h j) hws
  | cons f rest ih =>
    obtain ⟨k, vs⟩ := f
    obtain ⟨-, hvs, hrest⟩ := ordered_cons_iff.mp ho
    cases headers' with
    | nil => exact absurd (by simpa [values_cons] using h k) hvs
    | cons g rest' =>
      obtain ⟨j, ws⟩ := g
      obtain ⟨-, hws, hrest'⟩ := ordered_cons_iff.mp ho'
      -- Each of the first names has values, so neither comes before the other.
      have hkj : k = j := by
        refine le_antisymm (not_lt.mp fun hlt => hws ?_) (not_lt.mp fun hlt => hvs ?_)
        · rw [← ho.values_eq_nil_of_lt hlt, h j, values_cons, if_pos rfl]
        · rw [← ho'.values_eq_nil_of_lt hlt, ← h k, values_cons, if_pos rfl]
      subst hkj
      have hvalues : vs = ws := by simpa [values_cons] using h k
      have hrests : rest = rest' :=
        ih hrest hrest' fun name => by rw [ho.values_tail, ho'.values_tail, h name]
      rw [hvalues, hrests]

/-! ## Adding values -/

theorem fst_of_mem_add {f : String × List String} (h : f ∈ add name value headers) :
    f.1 = name ∨ ∃ g ∈ headers, f.1 = g.1 := by
  induction headers with
  | nil => exact .inl (congrArg Prod.fst (List.mem_singleton.mp h))
  | cons g rest ih =>
    rw [add] at h
    split_ifs at h <;> grind

theorem Ordered.add (ho : Ordered headers) (name value : String) :
    Ordered (Headers.add name value headers) := by
  induction headers with
  | nil => exact ordered_cons_iff.mpr ⟨by simp, by simp, ho⟩
  | cons f rest ih =>
    obtain ⟨k, vs⟩ := f
    obtain ⟨hlt, hvs, hrest⟩ := ordered_cons_iff.mp ho
    rw [Headers.add]
    split_ifs with hbefore hk
    · refine ordered_cons_iff.mpr ⟨List.forall_mem_cons.mpr ⟨hbefore, fun f hf => ?_⟩, by simp, ho⟩
      exact hbefore.trans (hlt f hf)
    · exact ordered_cons_iff.mpr ⟨hk ▸ hlt, by simp, hrest⟩
    · refine ordered_cons_iff.mpr ⟨fun f hf => ?_, hvs, ih hrest⟩
      rcases fst_of_mem_add hf with hf | ⟨g, hg, hf⟩ <;> rw [hf]
      · exact lt_of_le_of_ne (not_lt.mp hbefore) (Ne.symm hk)
      · exact hlt g hg

/-- A value is added behind those of its name, and the other names keep theirs. -/
theorem Ordered.values_add (ho : Ordered headers) (name value k : String) :
    values (Headers.add name value headers) k =
      values headers k ++ if k = name then [value] else [] := by
  induction headers with
  | nil => simp [Headers.add, values_cons]
  | cons f rest ih =>
    obtain ⟨j, vs⟩ := f
    obtain ⟨-, -, hrest⟩ := ordered_cons_iff.mp ho
    by_cases hbefore : name < j
    · rw [Headers.add, if_pos hbefore, values_cons]
      by_cases hk : k = name
      · simp [hk, ho.values_eq_nil_of_lt hbefore]
      · simp [hk]
    rw [Headers.add, if_neg hbefore]
    by_cases hj : name = j
    · rw [if_pos hj, values_cons, values_cons]
      by_cases hk : k = j <;> simp [hk, hj]
    · rw [if_neg hj, values_cons, values_cons, ih hrest]
      by_cases hk : k = j
      · simp [hk, Ne.symm hj]
      · simp [hk]

theorem ofList_concat (entries : List (String × String)) (e : String × String) :
    ofList (entries ++ [e]) = add (e.1.map Char.toLower) e.2 (ofList entries) := by
  simp [ofList]

theorem ordered_ofList (entries : List (String × String)) : Ordered (ofList entries) := by
  induction entries using List.reverseRecOn with
  | nil => exact .nil
  | append_singleton entries e ih =>
    rw [ofList_concat]
    exact ih.add _ _

/-- A name in lower case has the values of the headers whose names it is in any case. -/
theorem values_ofList (entries : List (String × String)) (k : String) :
    values (ofList entries) k =
      (entries.filter fun e => e.1.map Char.toLower == k).map Prod.snd := by
  induction entries using List.reverseRecOn with
  | nil => rfl
  | append_singleton entries e ih =>
    rw [ofList_concat, (ordered_ofList entries).values_add, ih, List.filter_append, List.map_append]
    congr 1
    by_cases hk : e.1.map Char.toLower = k
    · simp [hk]
    · simp [hk, Ne.symm hk]

theorem values_ofList_toLower (entries : List (String × String)) (name : String) :
    values (ofList entries) (name.map Char.toLower) = valuesNamed name entries :=
  values_ofList entries _

/-- **Headers leave the same trace if they have the same values under every name.** -/
theorem ofList_eq_ofList_iff {entries entries' : List (String × String)} :
    ofList entries = ofList entries' ↔
      ∀ name, valuesNamed name entries = valuesNamed name entries' := by
  constructor
  · intro h name
    rw [← values_ofList_toLower, h, values_ofList_toLower]
  · intro h
    refine (ordered_ofList entries).eq_of_values (ordered_ofList entries') fun name => ?_
    by_cases hlower : name.map Char.toLower = name
    · rw [← hlower, values_ofList_toLower, values_ofList_toLower, h]
    · -- No name is kept that is not in lower case.
      have hnone (es : List (String × String)) : values (ofList es) name = [] := by
        rw [values_ofList, List.map_eq_nil_iff, List.filter_eq_nil_iff]
        intro e _ he
        exact hlower (by rw [← beq_iff_eq.mp he, map_toLower_idem])
      rw [hnone, hnone]

end Headers

/-! ## Rearranged headers -/

/-- One list of headers is another one with names in another case and with headers of different
names in another order. -/
inductive Rearranged : List (String × String) → List (String × String) → Prop where
  | nil : Rearranged [] []
  | cons {name name' : String} (value : String) {es fs : List (String × String)}
      (hname : Exchange.sameName name name' = true) (h : Rearranged es fs) :
      Rearranged ((name, value) :: es) ((name', value) :: fs)
  | swap {e f : String × String} (es : List (String × String))
      (hname : Exchange.sameName e.1 f.1 = false) : Rearranged (e :: f :: es) (f :: e :: es)
  | trans {es fs gs : List (String × String)} (h : Rearranged es fs) (h' : Rearranged fs gs) :
      Rearranged es gs

theorem valuesNamed_cons (name : String) (e : String × String) (es : List (String × String)) :
    valuesNamed name (e :: es) =
      if Exchange.sameName e.1 name = true then e.2 :: valuesNamed name es
      else valuesNamed name es := by
  unfold valuesNamed
  rw [List.filter_cons]
  split_ifs <;> rfl

namespace Rearranged

variable {es fs : List (String × String)}

theorem valuesNamed_eq (h : Rearranged es fs) (name : String) :
    valuesNamed name es = valuesNamed name fs := by
  induction h with
  | nil => rfl
  | cons value hname _ ih =>
    rw [Exchange.sameName_iff] at hname
    simp only [valuesNamed_cons, Exchange.sameName_iff, hname, ih]
  | swap es hname =>
    rw [← Bool.not_eq_true, Exchange.sameName_iff] at hname
    simp only [valuesNamed_cons, Exchange.sameName_iff]
    split_ifs with hf he he
    · exact absurd (hf.trans he.symm) hname
    all_goals rfl
  | trans _ _ ih ih' => rw [ih, ih']

theorem refl : ∀ es, Rearranged es es
  | [] => .nil
  | (_, value) :: es => .cons value (Exchange.sameName_iff.mpr rfl) (refl es)

/-- A header moves to the front, past headers of other names. -/
theorem move {e : String × String} (before behind : List (String × String))
    (h : ∀ f ∈ before, Exchange.sameName e.1 f.1 = false) :
    Rearranged (e :: (before ++ behind)) (before ++ e :: behind) := by
  induction before with
  | nil => exact refl _
  | cons f before ih =>
    obtain ⟨hf, h⟩ := List.forall_mem_cons.mp h
    exact (swap _ hf).trans (cons _ (Exchange.sameName_iff.mpr rfl) (ih h))

/-- **Headers with the same values under every name are rearranged.** -/
theorem of_valuesNamed (h : ∀ name, valuesNamed name es = valuesNamed name fs) :
    Rearranged es fs := by
  induction es generalizing fs with
  | nil =>
    cases fs with
    | nil => exact .nil
    | cons f fs =>
      have hf := h f.1
      rw [valuesNamed_cons, if_pos (Exchange.sameName_iff.mpr rfl)] at hf
      cases hf
  | cons e es ih =>
    obtain ⟨name, value⟩ := e
    have hhead := h name
    rw [valuesNamed_cons, if_pos (Exchange.sameName_iff.mpr rfl), eq_comm, valuesNamed,
      List.map_eq_cons_iff] at hhead
    obtain ⟨⟨name', value'⟩, _, hfirst, rfl, -⟩ := hhead
    obtain ⟨before, behind, rfl, hbefore, hname, -⟩ := List.filter_eq_cons_iff.mp hfirst
    have hmove : Rearranged ((name', value') :: (before ++ behind))
        (before ++ (name', value') :: behind) := by
      refine move before behind fun f hf => ?_
      have hother := hbefore f hf
      rw [Exchange.sameName_iff] at hname hother
      rw [← Bool.not_eq_true, Exchange.sameName_iff]
      exact fun h => hother (h.symm.trans hname)
    refine trans (cons value' ?_ (ih fun n => ?_)) hmove
    · rw [Exchange.sameName_iff] at hname ⊢
      exact hname.symm
    · have hn := h n
      rw [← hmove.valuesNamed_eq n, valuesNamed_cons, valuesNamed_cons] at hn
      rw [Exchange.sameName_iff] at hname
      simp only [Exchange.sameName_iff, hname] at hn
      split_ifs at hn
      · exact (List.cons.inj hn).2
      · exact hn

end Rearranged

/-! ## Requests -/

namespace Request

/-- Two requests are the same if their methods differ in case at most, and their headers have the
same values under every name. -/
theorem make_eq_make_iff {method method' : String} {uri uri' : Url}
    {entries entries' : List (String × String)} {body body' : Bytes} :
    make method uri entries body = make method' uri' entries' body' ↔
      uri = uri' ∧ Exchange.sameName method method' = true ∧ body = body' ∧
        ∀ name, valuesNamed name entries = valuesNamed name entries' := by
  rw [make, make, Request.mk.injEq, map_toUpper_eq_iff, Headers.ofList_eq_ofList_iff]
  tauto

variable (method : String) (uri : Url) (entries : List (String × String)) (body : Bytes)

theorem headerValues_make (name : String) :
    (make method uri entries body).headerValues name = valuesNamed name entries :=
  Headers.values_ofList_toLower entries name

theorem mem_headerNames_make {name : String} :
    name ∈ (make method uri entries body).headerNames ↔
      ∃ e ∈ entries, e.1.map Char.toLower = name := by
  rw [headerNames, make, (Headers.ordered_ofList entries).mem_names_iff, Headers.values_ofList,
    ne_eq, List.map_eq_nil_iff, List.filter_eq_nil_iff]
  simp

/-- The names come in the order of their octets. -/
theorem headerNames_increasing : (make method uri entries body).headerNames.Pairwise
    fun n n' => Utf8.encode n < Utf8.encode n' := by
  refine List.Pairwise.map _ (fun f g h => ?_) (Headers.ordered_ofList entries).sorted
  exact Utf8.encode_lt_encode_iff.mpr h

/-- **What a request keeps of its headers.** Take any two requests, as they arrived.

1. A name in whatever case is answered with the values that arrived under it in any case, in order
   of arrival; where one value is asked for, it is the first of them.
2. The names listed are those that arrived, in lower case, each once and in the order of octets.
3. The two requests are the same if and only if their URLs and bodies are, their methods differ in
   the case of ASCII letters at most, and they have the same values under every name.
4. Where only the headers differ, the requests are the same if and only if the headers are
   rearranged: their names in another case, and those of different names in another order. -/
theorem snapshot_eq_iff (method' : String) (uri' : Url) (entries' : List (String × String))
    (body' : Bytes) :
    let r := make method uri entries body
    (∀ name, r.headerValues name = valuesNamed name entries ∧
      r.header? name = (valuesNamed name entries).head?) ∧
    ((∀ name, name ∈ r.headerNames ↔ ∃ e ∈ entries, e.1.map Char.toLower = name) ∧
      r.headerNames.Pairwise fun n n' => Utf8.encode n < Utf8.encode n') ∧
    (r = make method' uri' entries' body' ↔
      uri = uri' ∧ Exchange.sameName method method' = true ∧ body = body' ∧
        ∀ name, valuesNamed name entries = valuesNamed name entries') ∧
    (r = make method uri entries' body ↔ Rearranged entries entries') := by
  intro r
  refine ⟨fun name => ⟨headerValues_make .., congrArg List.head? (headerValues_make ..)⟩,
    ⟨fun name => mem_headerNames_make .., headerNames_increasing ..⟩, make_eq_make_iff, ?_⟩
  rw [make_eq_make_iff]
  constructor
  · rintro ⟨-, -, -, h⟩
    exact .of_valuesNamed h
  · intro h
    exact ⟨rfl, Exchange.sameName_iff.mpr rfl, rfl, h.valuesNamed_eq⟩

end Request
end Testbed.Http
