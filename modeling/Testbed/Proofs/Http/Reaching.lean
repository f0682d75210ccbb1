import Testbed.Proofs.Http.Visits

/-!
# Which stations a request reaches

A request reaches a station when it is called, and when all that was called before it at the same
place has returned (`Reached`, `Returned`).

Two facts about the stations that are left are kept from visit to visit. Each of them is reached as
soon as those in front of it have returned (`Ahead.onward`). And none of them was visited, nor
anything below it, unless it waits (`Unvisited.onward`), so a place is visited once.
-/

namespace Testbed.Http

/-! ## What has returned, and what is reached -/

/-- A place has returned: its station was visited, the visit went on, and so have the places of all
stations that it called. -/
inductive Returned (number : Nat) (vs : List Visit) : List Branch → Prop where
  | intro {v : Visit} {job : Job} (hv : v ∈ vs) (hnumber : v.number = number)
      (hnext : v.outcome.2 = .next job) (hcalls : ∀ t ∈ v.calls, Returned number vs t.place) :
      Returned number vs v.station.place

/-- A station is reached by a request: it is the first one, it was called at a station that was
reached and all that was called there before it has returned, or it has waited. -/
inductive Reached (number : Nat) (root : Handler) (vs : List Visit) : Station → Prop where
  | root : Reached number root vs ⟨[], root⟩
  | called {v : Visit} {before behind : List Station} {t : Station} (hv : v ∈ vs)
      (hnumber : v.number = number) (hreached : Reached number root vs v.station)
      (hcalls : v.calls = before ++ t :: behind)
      (hbefore : ∀ u ∈ before, Returned number vs u.place) : Reached number root vs t
  | waited {v : Visit} {job : Job} {handler : Handler} {rest : List Handler} (hv : v ∈ vs)
      (hnumber : v.number = number) (hreached : Reached number root vs v.station)
      (hwaits : v.outcome.2 = .waiting job) (htasks : job.tasks = handler :: rest) :
      Reached number root vs ⟨v.station.place, handler⟩

variable {number : Nat} {root : Handler} {vs : List Visit}

theorem Returned.mono {place : List Branch} (h : Returned number vs place) (more : List Visit) :
    Returned number (vs ++ more) place := by
  induction h with
  | intro hv hnumber hnext _ ih => exact .intro (List.mem_append_left _ hv) hnumber hnext ih

theorem Reached.mono {t : Station} (h : Reached number root vs t) (more : List Visit) :
    Reached number root (vs ++ more) t := by
  induction h with
  | root => exact .root
  | called hv hnumber _ hcalls hbefore ih =>
    exact .called (List.mem_append_left _ hv) hnumber ih hcalls fun u hu => (hbefore u hu).mono more
  | waited hv hnumber _ hwaits htasks ih =>
    exact .waited (List.mem_append_left _ hv) hnumber ih hwaits htasks

/-- Of the stations that are left, each is reached as soon as those in front of it have returned. -/
def Ahead (number : Nat) (root : Handler) (vs : List Visit) (stations : List Station) : Prop :=
  ∀ front t behind, stations = front ++ t :: behind → ∀ more,
    (∀ u ∈ front, Returned number (vs ++ more) u.place) → Reached number root (vs ++ more) t

namespace Ahead

variable {t : Station} {stations : List Station}

theorem first : Ahead number root vs [⟨[], root⟩] := by
  intro front t behind h more _
  obtain ⟨rfl, ht⟩ | ⟨front', rfl, ht⟩ := List.append_eq_cons_iff.mp h.symm
  · cases ht
    exact .root
  · simp at ht

theorem mono (h : Ahead number root vs stations) (more : List Visit) :
    Ahead number root (vs ++ more) stations := by
  intro front t behind hs more' hfront
  rw [List.append_assoc] at hfront ⊢
  exact h front t behind hs (more ++ more') hfront

/-- The first of the stations that are left is reached. -/
theorem reached (h : Ahead number root vs (t :: stations)) : Reached number root vs t := by
  have := h [] t stations rfl [] (by simp)
  rwa [List.append_nil] at this

/-- Behind a visit that goes on, what is called comes in front of what was left. -/
theorem called {v : Visit} {job : Job} (h : Ahead v.number root vs (v.station :: v.rest))
    (hv : v ∈ vs) (hnext : v.outcome.2 = .next job) :
    Ahead v.number root vs (v.calls ++ v.rest) := by
  intro front t behind hs more hfront
  have hv' : v ∈ vs ++ more := List.mem_append_left _ hv
  -- What was left is reached when all that was called has returned.
  have hrest (as : List Station) (hcalls : front = v.calls ++ as)
      (hbehind : v.rest = as ++ t :: behind) : Reached v.number root (vs ++ more) t := by
    rw [hcalls] at hfront
    obtain ⟨hcalled, has⟩ := List.forall_mem_append.mp hfront
    refine h (v.station :: as) t behind (by rw [hbehind]; rfl) more ?_
    exact List.forall_mem_cons.mpr ⟨.intro hv' rfl hnext hcalled, has⟩
  obtain ⟨as, hcalls, hbehind⟩ | ⟨as, hcalls, hbehind⟩ := List.append_eq_append_iff.mp hs
  · exact hrest as hcalls hbehind
  · obtain ⟨rfl, hbehind⟩ | ⟨as, rfl, -⟩ := List.append_eq_cons_iff.mp hbehind.symm
    · rw [List.append_nil] at hcalls
      exact hrest [] (by rw [hcalls, List.append_nil]) hbehind.symm
    · exact .called hv' rfl (h.reached.mono more) hcalls hfront

/-- A station that waits is reached again. -/
theorem waiting {v : Visit} {job : Job} {handler : Handler} {tasks : List Handler}
    (h : Ahead v.number root vs (v.station :: v.rest)) (hv : v ∈ vs)
    (hwaits : v.outcome.2 = .waiting job) (htasks : job.tasks = handler :: tasks) :
    Ahead v.number root vs (⟨v.station.place, handler⟩ :: v.rest) := by
  intro front t behind hs more hfront
  obtain ⟨rfl, ht⟩ | ⟨front, rfl, hbehind⟩ := List.append_eq_cons_iff.mp hs.symm
  · cases ht
    exact .waited (List.mem_append_left _ hv) rfl (h.reached.mono more) hwaits htasks
  · obtain ⟨hreturned, hfront⟩ := List.forall_mem_cons.mp hfront
    exact h (v.station :: front) t behind (by rw [hbehind]; rfl) more
      (List.forall_mem_cons.mpr ⟨hreturned, hfront⟩)

/-- **What is left behind a visit** is reached in order. -/
theorem onward {v : Visit} (h : Ahead v.number root vs (v.station :: v.rest)) :
    Ahead v.number root (vs ++ [v]) v.onward.stations := by
  have h := h.mono [v]
  have hv : v ∈ vs ++ [v] := List.mem_append_right _ (List.mem_singleton_self v)
  cases ho : v.outcome.2 with
  | next job =>
    rw [Visit.onward_of_next ho]
    exact h.called hv ho
  | ended ending x =>
    rw [Visit.onward_of_ended ho]
    intro front t behind hs
    simp at hs
  | waiting job =>
    obtain ⟨handler, htasks, honward⟩ := Visit.onward_of_waiting ho
    rw [honward]
    exact h.waiting hv ho htasks

end Ahead

/-! ## What was not visited -/

/-- Neither of two places lies below the other one. -/
def Apart (p q : List Branch) : Prop := ¬p <:+ q ∧ ¬q <:+ p

theorem Apart.branches {b c : Branch} (h : b ≠ c) (place : List Branch) :
    Apart (b :: place) (c :: place) := by
  have hne {b c : Branch} (h : b ≠ c) : ¬b :: place <:+ c :: place := by
    intro hs
    have := hs.eq_of_length rfl
    cases this
    exact h rfl
  exact ⟨hne h, hne h.symm⟩

/-- What lies below a place is apart from what the place is apart from. -/
theorem Apart.below {p q : List Branch} (h : Apart p q) (b : Branch) : Apart (b :: p) q := by
  refine ⟨fun hs => h.1 ((List.suffix_cons b p).trans hs), fun hs => ?_⟩
  rcases List.suffix_cons_iff.mp hs with rfl | hs
  · exact h.1 (List.suffix_cons b p)
  · exact h.2 hs

section Calls

variable {shared : Shared} {request : Request} {t u : Station}

/-- What is called lies right below. -/
theorem Station.place_of_mem_calls (h : u ∈ t.calls shared request) :
    ∃ b, u.place = b :: t.place := by
  obtain ⟨place, handler⟩ := t
  unfold calls at h
  cases handler with
  | script | record => cases h
  | all handlers =>
    obtain ⟨i, -, rfl⟩ := List.mem_mapIdx.mp h
    exact ⟨_, rfl⟩
  | sequential | router | switch =>
    obtain ⟨_, -, rfl⟩ := List.mem_map.mp h
    exact ⟨_, rfl⟩

theorem Station.pairwise_calls (t : Station) :
    (t.calls shared request).Pairwise fun t u => Apart t.place u.place := by
  have hone {α : Type} (o : Option α) (f : α → Station) :
      (o.toList.map f).Pairwise fun t u => Apart t.place u.place := by
    cases o <;> simp
  obtain ⟨place, handler⟩ := t
  unfold calls
  cases handler with
  | script | record => exact .nil
  | all handlers =>
    refine List.pairwise_iff_getElem.mpr fun i j hi hj hij => ?_
    rw [List.getElem_mapIdx, List.getElem_mapIdx]
    exact Apart.branches (by simpa using Nat.ne_of_lt hij) place
  | sequential | router | switch => exact hone _ _

end Calls

/-- Stations that a request has not visited: each apart from the others, and no visit was made of
them or below them but those in which they wait. -/
structure Unvisited (number : Nat) (vs : List Visit) (stations : List Station) : Prop where
  apart : stations.Pairwise fun t u => Apart t.place u.place
  waiting : ∀ t ∈ stations, ∀ v ∈ vs, v.number = number → t.place <:+ v.station.place →
    v.station.place = t.place ∧ ∃ job, v.outcome.2 = .waiting job

namespace Unvisited

variable {stations : List Station}

theorem first (h : ∀ v ∈ vs, v.number ≠ number) : Unvisited number vs [⟨[], root⟩] :=
  ⟨List.pairwise_singleton _ _, fun _ _ v hv hnumber => absurd hnumber (h v hv)⟩

/-- A visit of another request makes no difference. -/
theorem other (h : Unvisited number vs stations) {v : Visit} (hv : v.number ≠ number) :
    Unvisited number (vs ++ [v]) stations := by
  refine ⟨h.apart, fun t ht u hu hnumber => ?_⟩
  rcases List.mem_append.mp hu with hu | hu
  · exact h.waiting t ht u hu hnumber
  · rw [List.mem_singleton.mp hu] at hnumber
    exact absurd hnumber hv

/-- **What is left behind a visit** was not visited, unless it waits. -/
theorem onward {v : Visit} (h : Unvisited v.number vs (v.station :: v.rest)) :
    Unvisited v.number (vs ++ [v]) v.onward.stations := by
  obtain ⟨hapart, hrest⟩ := List.pairwise_cons.mp h.apart
  -- What was left besides is apart from the place of this visit.
  have hleft (t : Station) (ht : t ∈ v.rest) (u : Visit) (hu : u ∈ vs ++ [v])
      (hnumber : u.number = v.number) (hs : t.place <:+ u.station.place) :
      u.station.place = t.place ∧ ∃ job, u.outcome.2 = .waiting job := by
    rcases List.mem_append.mp hu with hu | hu
    · exact h.waiting t (List.mem_cons_of_mem _ ht) u hu hnumber hs
    · rw [List.mem_singleton.mp hu] at hs
      exact absurd hs (hapart t ht).2
  cases ho : v.outcome.2 with
  | next job =>
    rw [Visit.onward_of_next ho]
    refine ⟨List.pairwise_append.mpr ⟨v.station.pairwise_calls, hrest, fun t ht u hu => ?_⟩,
      fun t ht u hu hnumber hs => ?_⟩
    · obtain ⟨b, hb⟩ := Station.place_of_mem_calls ht
      rw [hb]
      exact (hapart u hu).below b
    · rcases List.mem_append.mp ht with ht | ht
      · obtain ⟨b, hb⟩ := Station.place_of_mem_calls ht
        rw [hb] at hs
        have hplace : u.station.place = v.station.place := by
          rcases List.mem_append.mp hu with hu | hu
          · exact (h.waiting _ List.mem_cons_self u hu hnumber
              ((List.suffix_cons b _).trans hs)).1
          · rw [List.mem_singleton.mp hu]
        rw [hplace] at hs
        exact absurd hs.length_le (by simp)
      · exact hleft t ht u hu hnumber hs
  | ended ending x =>
    rw [Visit.onward_of_ended ho]
    exact ⟨.nil, by simp⟩
  | waiting job =>
    obtain ⟨handler, -, honward⟩ := Visit.onward_of_waiting ho
    rw [honward]
    refine ⟨List.pairwise_cons.mpr ⟨hapart, hrest⟩, fun t ht u hu hnumber hs => ?_⟩
    rcases List.mem_cons.mp ht with rfl | ht
    · rcases List.mem_append.mp hu with hu | hu
      · exact h.waiting _ List.mem_cons_self u hu hnumber hs
      · rw [List.mem_singleton.mp hu]
        exact ⟨rfl, job, ho⟩
    · exact hleft t ht u hu hnumber hs

end Unvisited

/-! ## What is left -/

/-- What is known of the stations that are left of a request. -/
structure Left (number : Nat) (root : Handler) (vs : List Visit) (stations : List Station) :
    Prop where
  ahead : Ahead number root vs stations
  unvisited : Unvisited number vs stations

namespace Left

variable {stations : List Station}

theorem first (h : ∀ v ∈ vs, v.number ≠ number) : Left number root vs [⟨[], root⟩] :=
  ⟨.first, .first h⟩

theorem other (h : Left number root vs stations) {v : Visit} (hv : v.number ≠ number) :
    Left number root (vs ++ [v]) stations := ⟨h.ahead.mono [v], h.unvisited.other hv⟩

theorem onward {v : Visit} (h : Left v.number root vs (v.station :: v.rest)) :
    Left v.number root (vs ++ [v]) v.onward.stations := ⟨h.ahead.onward, h.unvisited.onward⟩

/-- A station was not visited before, unless it waits. -/
theorem once {t : Station} (h : Left number root vs (t :: stations)) {u : Visit} (hu : u ∈ vs)
    (hnumber : u.number = number) (hplace : u.station.place = t.place) :
    ∃ job, u.outcome.2 = .waiting job :=
  (h.unvisited.waiting t List.mem_cons_self u hu hnumber (hplace ▸ List.suffix_refl _)).2

end Left
end Testbed.Http
