import Testbed.Proofs.Regex.Longer.Atoms

/-!
# Classes before more text

A class ends at its own closing bracket, so it is read before more text just as it is read alone; an
open one stays open (`alike_read`).
-/

namespace Testbed.Regex

variable {t l : List Char} {a b : Char} {c c' d d' : Cursor} {x x' : ClassTerm}

/-! ## Items and levels without places -/

/-- Items without places. -/
def Items.bare (s : Items) : Items := ⟨.nowhere, s.items.map ClassTerm.bare⟩

/-- A level without places. -/
def Level.bare : Level → Level
  | .opened outer _ negated => .opened outer.bare .nowhere negated
  | .waiting kind left => .waiting kind left.bare

namespace Items

variable {s s' : Items}

theorem items_of_bare_eq (h : s.bare = s'.bare) :
    s.items.map ClassTerm.bare = s'.items.map ClassTerm.bare := congrArg Items.items h

theorem bare_push (h : s.bare = s'.bare) (hx : x.bare = x'.bare) :
    (s.push x).bare = (s'.push x').bare := by
  simp only [Items.bare, Items.push, List.map_cons, items_of_bare_eq h, hx]

theorem bare_emptyAt (p p' : Position) : (emptyAt p).bare = (emptyAt p').bare := rfl

theorem isEmpty_of_bare_eq (h : s.bare = s'.bare) : s.items.isEmpty = s'.items.isEmpty := by
  have := congrArg List.isEmpty (items_of_bare_eq h)
  simpa using this

theorem bare_close (s : Items) : s.close.bare = s.bare.close := by
  rcases s with ⟨span, _ | ⟨x, _ | ⟨y, rest⟩⟩⟩
  · rfl
  · rfl
  · simp [Items.close, Items.bare, ClassTerm.bare, ClassTerm.bareAll_eq]

theorem close_of_bare_eq (h : s.bare = s'.bare) : s.close.bare = s'.close.bare := by
  rw [bare_close, h, bare_close]

end Items

namespace Bracket

theorem join_of_bare_eq {levels levels' : List Level}
    (h : levels.map Level.bare = levels'.map Level.bare) (hx : x.bare = x'.bare) :
    (join levels x).1.bare = (join levels' x').1.bare ∧
      (join levels x).2.map Level.bare = (join levels' x').2.map Level.bare := by
  rcases levels with _ | ⟨level, rest⟩
  · obtain rfl := List.map_eq_nil_iff.mp h.symm
    exact ⟨hx, rfl⟩
  · rcases levels' with _ | ⟨level', rest'⟩
    · cases h
    · rw [List.map_cons, List.map_cons, List.cons.injEq] at h
      obtain ⟨hlevel, hrest⟩ := h
      rcases level with ⟨outer, span, negated⟩ | ⟨kind, left⟩ <;>
        rcases level' with ⟨outer', span', negated'⟩ | ⟨kind', left'⟩ <;>
        simp only [Level.bare, reduceCtorEq, Level.opened.injEq, Level.waiting.injEq] at hlevel
      · refine ⟨hx, ?_⟩
        simp [join, Level.bare, hlevel.1, hlevel.2.2, hrest]
      · obtain ⟨rfl, hleft⟩ := hlevel
        refine ⟨?_, hrest⟩
        simp only [join, ClassTerm.bare, hleft, hx]

/-! ## Parts of classes -/

theorem longer_unnegated (ht : Closing t) (h : c.Longer t c') :
    (unnegated c).1 = (unnegated c').1 ∧ (unnegated c).2.Longer t (unnegated c').2 := by
  unfold unnegated
  obtain ⟨hnone, hnone'⟩ | ⟨d, d', hd, hd', hlonger⟩ :=
    h.pass? ht "^" (by simp) (by simp)
  · rw [hnone, hnone']
    exact ⟨rfl, h⟩
  · rw [hd, hd']
    exact ⟨rfl, hlonger⟩

theorem pastName_suffix (c : Cursor) : (pastName c).rest <:+ c.rest := List.drop_suffix _ _

/-- A name that does not end before more text does not end in it. -/
theorem longer_pastName (ht : Closing t) (h : c.Longer t c') :
    Closing (pastName c).rest ∧ Closing (pastName c').rest ∨
      nameOf c = nameOf c' ∧ (pastName c).Longer t (pastName c') := by
  obtain hrest | ⟨hc, hc'⟩ := h.rest
  · have hname : nameOf c' = (c.rest ++ t).takeWhile (· != ':') := by rw [← hrest]; rfl
    rw [List.takeWhile_append] at hname
    split at hname
    · rename_i hlength
      refine .inl ⟨?_, ?_⟩
      · have : (pastName c).rest = [] := List.drop_eq_nil_iff.mpr (Nat.le_of_eq hlength.symm)
        rw [this]
        exact nofun
      · refine ht.suffix ?_
        show c'.rest.drop (nameOf c').length <:+ t
        rw [hrest, hname, List.length_append, ← List.drop_drop, List.drop_left]
        exact List.drop_suffix _ _
    · refine .inr ⟨hname.symm, h.free, .inl ?_⟩
      show c'.rest.drop (nameOf c').length = c.rest.drop (nameOf c).length ++ t
      rw [hrest, hname]
      exact List.drop_append_of_le_length (List.takeWhile_prefix _).length_le
  · have hnil {e : Cursor} (he : e.rest = []) : Closing (pastName e).rest := by
      have hsuffix := pastName_suffix e
      rw [he, List.suffix_nil] at hsuffix
      rw [hsuffix]
      exact nofun
    exact .inl ⟨hnil hc, hnil hc'⟩

theorem longer_named? (ht : Closing t) (h : c.Longer t c') :
    (named? c = none ∧ named? c' = none) ∨
      ∃ x x' d d', named? c = some (x, d) ∧ named? c' = some (x', d') ∧ x.bare = x'.bare ∧
        d.Longer t d' := by
  rw [named?_eq, named?_eq]
  obtain ⟨hnone, hnone'⟩ | ⟨d, d', hd, hd', hlonger⟩ :=
    h.pass? ht "[:" (by simp) (by simp)
  · exact .inl ⟨by rw [hnone]; rfl, by rw [hnone']; rfl⟩
  · rw [hd, hd', Option.bind_some, Option.bind_some]
    obtain ⟨hnegated, hlonger⟩ := longer_unnegated ht hlonger
    obtain ⟨hclosing, hclosing'⟩ | ⟨hname, hlonger⟩ := longer_pastName ht hlonger
    · refine .inl ⟨?_, ?_⟩
      · rw [Cursor.pass?_closing hclosing (by simp) (by simp)]
        rfl
      · rw [Cursor.pass?_closing hclosing' (by simp) (by simp)]
        rfl
    · obtain ⟨hnone, hnone'⟩ | ⟨e, e', he, he', hlonger⟩ :=
        hlonger.pass? ht ":]" (by simp) (by simp)
      · exact .inl ⟨by rw [hnone]; rfl, by rw [hnone']; rfl⟩
      · rw [he, he', Option.bind_some, Option.bind_some, ← hname, ← hnegated]
        cases namedClass? (String.ofList (nameOf (unnegated d).2)) with
        | none => exact .inl ⟨rfl, rfl⟩
        | some kind => exact .inr ⟨_, _, e, e', rfl, rfl, rfl, hlonger⟩

theorem longer_operator? (ht : Closing t) (h : c.Longer t c') :
    (operator? c = none ∧ operator? c' = none) ∨
      ∃ kind d d', operator? c = some (kind, d) ∧ operator? c' = some (kind, d') ∧
        d.Longer t d' := by
  unfold operator?
  obtain ⟨hand, hand'⟩ | ⟨d, d', hd, hd', hlonger⟩ :=
    h.pass? ht "&&" (by simp) (by simp)
  · rw [hand, hand']
    obtain ⟨hminus, hminus'⟩ | ⟨d, d', hd, hd', hlonger⟩ :=
      h.pass? ht "--" (by simp) (by simp)
    · rw [hminus, hminus']
      obtain ⟨htilde, htilde'⟩ | ⟨d, d', hd, hd', hlonger⟩ :=
        h.pass? ht "~~" (by simp) (by simp)
      · rw [htilde, htilde']
        exact .inl ⟨rfl, rfl⟩
      · rw [hd, hd']
        exact .inr ⟨_, d, d', rfl, rfl, hlonger⟩
    · rw [hd, hd']
      exact .inr ⟨_, d, d', rfl, rfl, hlonger⟩
  · rw [hd, hd']
    exact .inr ⟨_, d, d', rfl, rfl, hlonger⟩

/-! ## Openings of classes -/

theorem hyphens_closing (hd : Closing d.rest) (start : Position) (n : Nat) (s : Items) :
    hyphens start n s d = .ok (s, d) := by
  cases n with
  | zero => rfl
  | succ n =>
    rw [hyphens, Cursor.sees_closing hd (by decide) (by decide), if_neg Bool.false_ne_true]

theorem alike_hyphens (ht : Closing t) (h : c.Longer t c') (hc : c.rest ≠ []) {n n' : Nat}
    (hn : c.rest.length ≤ n) (hn' : c'.rest.length ≤ n') (start start' : Position)
    {s s' : Items} (hs : s.bare = s'.bare) :
    Alike t (fun s s' => s.bare = s'.bare) (fun _ d => d.rest <:+ t) (hyphens start n s c)
      (hyphens start' n' s' c') := by
  induction n generalizing n' s s' c c' with
  | zero => exact absurd (List.length_eq_zero_iff.mp (Nat.le_zero.mp hn)) hc
  | succ n ih =>
    obtain ⟨b, l, hl⟩ := List.exists_cons_of_ne_nil hc
    obtain ⟨m', rfl, hl'⟩ := exists_succ (h.cons hl) hn'
    rw [hl] at hn
    have hadv := h.advance ht hl
    simp only [hyphens, h.sees ht (a := '-') (by decide) (by decide)]
    split
    · obtain ⟨hend, hsuffix⟩ | ⟨b1, l1, hl1, hne, hne'⟩ := hadv.atEnd_or_not
      · rw [if_pos hend]
        refine .error ?_
        split
        · exact gives_fail _ _
        · rw [hyphens_closing (ht.suffix hsuffix)]
          exact gives_ok hsuffix
      · rw [if_neg hne, if_neg hne']
        refine ih hadv (fun hnil => hne (Cursor.atEnd_iff.mpr hnil)) ?_ ?_ (Items.bare_push hs rfl)
        · exact Nat.le_trans (Cursor.suffix_of_advance hl).length_le (Nat.le_of_succ_le_succ hn)
        · exact Nat.le_trans (Cursor.suffix_of_advance (h.cons hl)).length_le hl'
    · exact .ok hs h

theorem longer_inside (ht : Closing t) (h : c.Longer t c') : (inside c).Longer t (inside c') := by
  unfold inside
  rw [h.sees ht (by decide) (by decide)]
  split
  · rename_i hsees
    obtain ⟨l, hl⟩ := Cursor.sees_iff.mp hsees
    exact h.advance ht hl
  · exact h

theorem alike_opening (ht : Closing t) (h : c.Longer t c') (hc : c.rest = a :: l) :
    (∃ span span' negated s s' d d', opening c = .ok (span, negated, s, d) ∧
      opening c' = .ok (span', negated, s', d') ∧ s.bare = s'.bare ∧ d.Longer t d') ∨
    (∃ f, opening c = .error f) ∧
      ∀ span negated s d, opening c' = .ok (span, negated, s, d) → d.rest <:+ t := by
  have hadv := h.advance ht hc
  have hin := longer_inside ht hadv
  rw [opening_eq c]
  obtain ⟨hend, hsuffix⟩ | ⟨b, l1, hl1, hne, hne'⟩ := hadv.atEnd_or_not
  · exact .inr ⟨⟨_, if_pos hend⟩, fun span negated s d hd =>
      ((opening_suffix hd).trans (inside_suffix _)).trans hsuffix⟩
  · obtain ⟨hend, hsuffix⟩ | ⟨b1, l2, hl2, hne1, hne1'⟩ := hin.atEnd_or_not
    · rw [if_neg hne]
      exact .inr ⟨⟨_, if_pos hend⟩, fun span negated s d hd => (opening_suffix hd).trans hsuffix⟩
    · rw [opening_eq c', if_neg hne, if_neg hne1, if_neg hne', if_neg hne1',
        hadv.sees ht (a := '^') (by decide) (by decide)]
      obtain ⟨s, s', d, d', hs, hs', hbare, hd⟩ | ⟨f, hf, hgives⟩ :=
        (alike_hyphens ht hin (fun hnil => hne1 (Cursor.atEnd_iff.mpr hnil)) (Nat.le_refl _)
          (Nat.le_refl _) c.loc c'.loc
          (Items.bare_emptyAt (inside c.advance).loc (inside c'.advance).loc)).ok_or_error
      · simp only [hs, hs', hd.sees ht (a := ']') (by decide) (by decide),
          Items.isEmpty_of_bare_eq hbare]
        split
        · rename_i hfirst
          obtain ⟨l, hl⟩ := Cursor.sees_iff.mp (Bool.and_eq_true_iff.mp hfirst).2
          have hd1 := hd.advance ht hl
          obtain ⟨hend, hsuffix⟩ | ⟨b2, l3, hl3, hne2, hne2'⟩ := hd1.atEnd_or_not
          · rw [if_pos hend]
            refine .inr ⟨⟨_, rfl⟩, fun span negated s'' e he => ?_⟩
            split at he
            · cases he
            · cases he
              exact hsuffix
          · rw [if_neg hne2, if_neg hne2']
            exact .inl ⟨_, _, _, _, _, _, _, rfl, rfl, Items.bare_push hbare rfl, hd1⟩
        · exact .inl ⟨_, _, _, s, s', d, d', rfl, rfl, hbare, hd⟩
      · refine .inr ⟨⟨f, by rw [hf]⟩, fun span negated s d hd => ?_⟩
        rcases hx : hyphens c'.loc (inside c'.advance).rest.length
          (.emptyAt (inside c'.advance).loc) (inside c'.advance) with f' | ⟨s', e⟩
        · rw [hx] at hd
          cases hd
        · have he := hgives _ _ hx
          simp only [hx, Cursor.sees_closing (ht.suffix he) (a := ']') (by decide) (by decide),
            Bool.and_false, Bool.false_eq_true, if_false] at hd
          cases hd
          exact he

/-! ## Ranges -/

section

variable {x x' y y' : Atom} {P : ClassTerm → Cursor → Prop}

theorem alike_item (hx : x.bare = x'.bare) (hd : d.Longer t d') :
    Alike t (fun z z' => z.bare = z'.bare) P ((item x).map fun z => (z, d))
      ((item x').map fun z => (z, d')) := by
  cases x <;> cases x' <;> simp only [Atom.bare, reduceCtorEq] at hx
  · exact .ok (by simpa [ClassTerm.bare] using hx) hd
  · exact alike_fail
  · exact alike_fail
  · exact .ok (by simpa [ClassTerm.bare] using hx) hd
  · exact .ok (by simpa [ClassTerm.bare] using hx) hd

theorem rangeEnd_of_bare_eq (hx : x.bare = x'.bare) :
    (∃ low low', rangeEnd x = .ok low ∧ rangeEnd x' = .ok low' ∧ low.bare = low'.bare) ∨
      ∃ f f', rangeEnd x = .error f ∧ rangeEnd x' = .error f' := by
  cases x <;> cases x' <;> simp only [Atom.bare, reduceCtorEq] at hx
  · exact .inl ⟨_, _, rfl, rfl, by simpa using hx⟩
  · exact .inr ⟨_, _, rfl, rfl⟩
  · exact .inr ⟨_, _, rfl, rfl⟩
  · exact .inr ⟨_, _, rfl, rfl⟩
  · exact .inr ⟨_, _, rfl, rfl⟩

theorem char_of_bare_eq {low low' : Literal} (h : low.bare = low'.bare) : low.char = low'.char := by
  have := congrArg Literal.char h
  exact this

theorem alike_rangeOf (hx : x.bare = x'.bare) (hy : y.bare = y'.bare) (hd : d.Longer t d') :
    Alike t (fun z z' => z.bare = z'.bare) P ((rangeOf x y).map fun z => (z, d))
      ((rangeOf x' y').map fun z => (z, d')) := by
  unfold rangeOf
  obtain ⟨low, low', hlow, hlow', hl⟩ | ⟨f, f', hf, hf'⟩ := rangeEnd_of_bare_eq hx
  · rw [hlow, hlow', ok_bind, ok_bind]
    obtain ⟨high, high', hhigh, hhigh', hh⟩ | ⟨f, f', hf, hf'⟩ := rangeEnd_of_bare_eq hy
    · rw [hhigh, hhigh', ok_bind, ok_bind, char_of_bare_eq hl, char_of_bare_eq hh]
      split
      · exact alike_fail
      · exact .ok (by simp only [ClassTerm.bare, hl, hh]) hd
    · rw [hf, hf']
      exact .error (gives_error f')
  · rw [hf, hf']
    exact .error (gives_error f')

/-- A boundary is no end of a range. -/
theorem rangeOf_boundary (hy : y.bare = .assertion .nowhere .wordBoundary) :
    ∃ f, rangeOf x y = .error f := by
  cases y <;> simp only [Atom.bare, reduceCtorEq] at hy
  unfold rangeOf
  cases rangeEnd x with
  | error f => exact ⟨f, rfl⟩
  | ok low => exact ⟨_, rfl⟩

/-- A boundary is no item. -/
theorem item_boundary (hx : x.bare = .assertion .nowhere .wordBoundary) :
    ∃ f, item x = .error f := by
  cases x <;> simp only [Atom.bare, reduceCtorEq] at hx
  exact ⟨_, rfl⟩

end

theorem solid?_append (ht : Closing t) (hash : Bool) (l : List Char) :
    Cursor.solid? hash (l ++ t) = (Cursor.solid? hash l).or t.head? := by
  induction l generalizing hash with
  | nil =>
    cases t with
    | nil => rfl
    | cons b t =>
      have hhash : b ≠ '#' := by obtain rfl | rfl := ht b List.mem_cons_self <;> decide
      simp [Cursor.solid?, Cursor.not_isBlank ht List.mem_cons_self, hhash]
  | cons a l ih =>
    rw [List.cons_append, Cursor.solid?, Cursor.solid?]
    split
    · exact ih hash
    · split
      · exact ih true
      · rfl

/-- What free spacing does not see past is blank or begins a comment. -/
theorem head?_of_solid? {hash : Bool} (h : Cursor.solid? hash (a :: l) = none) :
    Text.isBlank a = true ∨ a = '#' := by
  rw [Cursor.solid?] at h
  split at h
  · rename_i hblank
    exact .inl hblank
  · split at h
    · rename_i hhash
      exact .inr hhash.1
    · cases h

theorem head?_ne_closing (ht : Closing t) (ha : a = ']' ∨ a = '-') : t.head? ≠ some a := by
  intro hhead
  obtain ⟨l, rfl⟩ := List.head?_eq_some_iff.mp hhead
  obtain hclosing | hclosing := ht a List.mem_cons_self <;> subst hclosing <;> revert ha <;> decide

theorem head?_append_closing (ht : Closing t) (ha : a = ']' ∨ a = '-') (l : List Char) :
    (l ++ t).head? = some a ↔ l.head? = some a := by
  cases l with
  | nil => simp [head?_ne_closing ht ha]
  | cons b l => rfl

/-- The next but one sign matters where it is a bracket or a hyphen, and these are seen before more
text if and only if they were seen already. -/
theorem secondSolid?_eq_iff (ht : Closing t) (h : c.Longer t c') (hc : c.rest = b :: l)
    (ha : a = ']' ∨ a = '-') : c'.secondSolid? = some a ↔ c.secondSolid? = some a := by
  unfold Cursor.secondSolid? Cursor.second?
  rw [h.free, h.cons hc, hc, List.tail_cons, List.tail_cons]
  split
  · rw [solid?_append ht]
    cases hsolid : Cursor.solid? false l with
    | some e => rfl
    | none =>
      cases hhead : t.head? with
      | none =>
        rw [List.head?_eq_none_iff] at hhead
        rw [hhead, List.append_nil]
        rfl
      | some e =>
        have he : e ≠ a := fun he => head?_ne_closing ht ha (he ▸ hhead)
        -- Nothing solid follows, so the next sign counts, and that one is skipped in free spacing.
        have hl : l.head? ≠ some a := by
          intro hl
          obtain ⟨l, rfl⟩ := List.head?_eq_some_iff.mp hl
          have := head?_of_solid? hsolid
          obtain rfl | rfl := ha <;> revert this <;> decide
        simp [he, hl]
  · exact head?_append_closing ht ha l

section

variable {x x' : Atom}

theorem alike_rangeTo (ht : Closing t) (h : c.Longer t c') (hx : x.bare = x'.bare) :
    Alike t (fun z z' => z.bare = z'.bare) (fun _ d => d.rest <:+ t) (rangeTo x c)
      (rangeTo x' c') := by
  cases hc : c.rest with
  | nil =>
    have hfault : ∃ f, rangeTo x c = .error f := by
      simp only [rangeTo, Atom.readInClass, hc]
      exact ⟨_, rfl⟩
    obtain ⟨f, hf⟩ := hfault
    rw [hf]
    refine .error fun z d hz => ?_
    exact (leaves_rangeTo x' c' z d hz).trans ((List.tail_suffix _).trans (h.suffix hc))
  | cons b l =>
    refine (Atom.alike_readInClass ht h hc).bind ?_ ?_
    · intro y y' d d' hy hd
      exact alike_rangeOf hx hy hd
    · rintro y' d' (hd | ⟨hy, -⟩)
      · simp only
        cases rangeOf x' y' with
        | error f => exact gives_error f
        | ok z => exact gives_ok (hd.trans (List.tail_suffix t))
      · obtain ⟨f, hf⟩ := rangeOf_boundary (x := x') hy
        simp only [hf]
        exact gives_error f

theorem alike_rangeBehind (ht : Closing t) (h : c.Longer t c') (hx : x.bare = x'.bare)
    (levels levels' : List Level) :
    Alike t (fun z z' => z.bare = z'.bare) (fun _ d => d.rest <:+ t) (rangeBehind levels x c)
      (rangeBehind levels' x' c') := by
  obtain ⟨hend, hsuffix⟩ | ⟨b, l, hl, hne, hne'⟩ := h.atEnd_or_not
  · unfold rangeBehind
    rw [if_pos hend]
    exact .error fun z d hz => (leaves_rangeBehind levels' x' c' z d hz).trans hsuffix
  · have hadv := h.advance ht hl
    have hsecond (e : Char) (he : e = ']' ∨ e = '-') :
        (c'.secondSolid? == some e) = (c.secondSolid? == some e) := by
      rw [Bool.eq_iff_iff, beq_iff_eq, beq_iff_eq]
      exact secondSolid?_eq_iff ht h hl he
    unfold rangeBehind
    rw [if_neg hne, if_neg hne', h.sees ht (by decide) (by decide), hsecond ']' (.inl rfl),
      hsecond '-' (.inr rfl)]
    split
    · exact alike_item hx h
    · obtain ⟨hend, hsuffix⟩ | ⟨b1, l1, hl1, hne1, hne1'⟩ := hadv.atEnd_or_not
      · rw [if_pos hend]
        refine .error ?_
        split
        · exact gives_error _
        · exact fun z d hz =>
            (leaves_rangeTo x' c'.advance z d hz).trans ((List.tail_suffix _).trans hsuffix)
      · rw [if_neg hne1, if_neg hne1']
        exact alike_rangeTo ht hadv hx

end

theorem skip_of_sees (hd : d.sees '\x7b' = true) : d.skip = d := by
  obtain ⟨l, hl⟩ := Cursor.sees_iff.mp hd
  rcases d with ⟨rest, loc, free⟩
  subst hl
  cases free <;> rfl

theorem alike_rangeOrItem (ht : Closing t) (h : c.Longer t c') (hc : c.rest = a :: l)
    (levels levels' : List Level) :
    Alike t (fun z z' => z.bare = z'.bare) (fun _ d => d.rest <:+ t) (rangeOrItem levels c)
      (rangeOrItem levels' c') := by
  rw [rangeOrItem_eq, rangeOrItem_eq]
  refine (Atom.alike_readInClass ht h hc).bind ?_ ?_
  · intro x x' d d' hx hd
    exact alike_rangeBehind ht (hd.skip ht) hx levels levels'
  · rintro x d (hd | ⟨hx, hsees, -⟩)
    · exact fun z e hz => (leaves_rangeBehind levels' x d.skip z e hz).trans
        (d.skip_suffix.trans (hd.trans (List.tail_suffix t)))
    · have hhyphen : d.skip.sees '-' = false := by
        obtain ⟨l, hl⟩ := Cursor.sees_iff.mp hsees
        simp [Cursor.sees, skip_of_sees hsees, hl]
      obtain ⟨f, hf⟩ := item_boundary hx
      simp only [rangeBehind, hhyphen, Bool.not_false, Bool.true_or, if_true, hf]
      split
      · exact gives_error _
      · exact gives_error _

/-! ## Whole classes -/

/-- A class does not end in closing signs. -/
theorem loop_closing {n : Nat} {levels : List Level} {s : Items} (hd : Closing d.rest) :
    Gives (fun _ _ => False) (loop n levels s d) := by
  intro x e he
  have hmem : ']' ∈ d.rest :=
    ((loop_suffix he).trans d.skip_suffix).subset List.mem_cons_self
  exact (hd _ hmem).elim (by decide) (by decide)

theorem length_lt_of_suffix {n : Nat} (hc : ¬ c.skip.atEnd = true)
    (hd : d.rest <:+ c.skip.rest.tail) (hn : c.rest.length < n + 1) : d.rest.length < n := by
  have hlength := hd.length_le
  have hskip := c.skip_suffix.length_le
  have hpos := List.length_pos_iff.mpr fun hnil => hc (Cursor.atEnd_iff.mpr hnil)
  rw [List.length_tail] at hlength
  omega

/-- Whether the same is read from alike levels further on. -/
def ReadsOn (t : List Char) (n m : Nat) (c c' : Cursor) : Prop :=
  ∀ {d d' : Cursor} {levels levels' : List Level} {s s' : Items}, d.Longer t d' →
    d.rest <:+ c.rest.tail → d'.rest <:+ c'.rest.tail →
    levels.map Level.bare = levels'.map Level.bare → s.bare = s'.bare →
    Alike t (fun x x' => x.bare = x'.bare) (fun _ _ => False) (loop n levels s d)
      (loop m levels' s' d')

section

variable {n m : Nat} {levels levels' : List Level} {s s' : Items}

theorem alike_descend (ht : Closing t) (h : c.Longer t c') (hc : c.rest = a :: l)
    (hon : ReadsOn t n m c c') (hlevels : levels.map Level.bare = levels'.map Level.bare)
    (hs : s.bare = s'.bare) :
    Alike t (fun x x' => x.bare = x'.bare) (fun _ _ => False) (descend n levels s c)
      (descend m levels' s' c') := by
  unfold descend
  obtain ⟨span, span', negated, u, u', d, d', hd, hd', hu, hlonger⟩ | ⟨⟨f, hf⟩, hgives⟩ :=
    alike_opening ht h hc
  · simp only [hd, hd']
    refine hon hlonger ?_ ?_ ?_ hu
    · exact ((opening_suffix hd).trans (inside_suffix _)).trans c.advance_suffix
    · exact ((opening_suffix hd').trans (inside_suffix _)).trans c'.advance_suffix
    · rw [List.map_cons, List.map_cons, hlevels, Level.bare, Level.bare, hs]
  · rw [hf]
    refine .error ?_
    split
    · exact gives_error _
    · rename_i span negated u e he
      exact loop_closing (ht.suffix (hgives span negated u e he))

theorem alike_atOpening (ht : Closing t) (h : c.Longer t c') (hc : c.rest = a :: l)
    (hon : ReadsOn t n m c c') (hlevels : levels.map Level.bare = levels'.map Level.bare)
    (hs : s.bare = s'.bare) :
    Alike t (fun x x' => x.bare = x'.bare) (fun _ _ => False) (atOpening n levels s c)
      (atOpening m levels' s' c') := by
  have hdescend := alike_descend ht h hc hon hlevels hs
  have hisEmpty : levels.isEmpty = levels'.isEmpty := by
    simpa using congrArg List.isEmpty hlevels
  unfold atOpening
  rw [hisEmpty]
  by_cases hempty : levels'.isEmpty = true
  · rw [if_pos hempty, if_pos hempty]
    exact hdescend
  · rw [if_neg hempty, if_neg hempty]
    obtain ⟨hnone, hnone'⟩ | ⟨x, x', d, d', hd, hd', hx, hlonger⟩ := longer_named? ht h
    · rw [hnone, hnone']
      exact hdescend
    · rw [hd, hd']
      exact hon hlonger (named?_suffix hd) (named?_suffix hd') hlevels (Items.bare_push hs hx)

theorem alike_atClosing (h : c.Longer t c') (hc : c.rest = a :: l) (hon : ReadsOn t n m c c')
    (hlevels : levels.map Level.bare = levels'.map Level.bare) (hs : s.bare = s'.bare) :
    Alike t (fun x x' => x.bare = x'.bare) (fun _ _ => False) (atClosing n levels s c)
      (atClosing m levels' s' c') := by
  unfold atClosing
  obtain ⟨hbody, hbelow⟩ := join_of_bare_eq hlevels (Items.close_of_bare_eq hs)
  rcases hj : join levels s.close with ⟨body, below⟩
  rcases hj' : join levels' s'.close with ⟨body', below'⟩
  rw [hj, hj'] at hbody hbelow
  rcases below with _ | ⟨level, below⟩
  · obtain rfl := List.map_eq_nil_iff.mp hbelow.symm
    exact .error (gives_error _)
  · rcases below' with _ | ⟨level', below'⟩
    · cases hbelow
    · rw [List.map_cons, List.map_cons, List.cons.injEq] at hbelow
      obtain ⟨hlevel, hbelow⟩ := hbelow
      rcases level with ⟨outer, span, negated⟩ | ⟨kind, left⟩ <;>
        rcases level' with ⟨outer', span', negated'⟩ | ⟨kind', left'⟩ <;>
        simp only [Level.bare, reduceCtorEq, Level.opened.injEq] at hlevel
      · obtain ⟨houter, -, rfl⟩ := hlevel
        have hisEmpty : below.isEmpty = below'.isEmpty := by
          simpa using congrArg List.isEmpty hbelow
        have hnext := h.next hc
        have hbracketed : (ClassTerm.bracketed (span.upTo c.next.loc) negated body).bare =
            (ClassTerm.bracketed (span'.upTo c'.next.loc) negated body').bare := by
          rw [ClassTerm.bare, ClassTerm.bare, hbody]
        simp only [hisEmpty]
        split
        · exact .ok (by rw [Ast.bare, Ast.bare, hbody]) hnext
        · refine hon hnext ?_ ?_ hbelow (Items.bare_push houter hbracketed)
          · exact c.next_suffix
          · exact c'.next_suffix
      · exact .error (gives_error _)

theorem alike_atItem (ht : Closing t) (h : c.Longer t c') (hc : c.rest = a :: l)
    (hon : ReadsOn t n m c c') (hlevels : levels.map Level.bare = levels'.map Level.bare)
    (hs : s.bare = s'.bare) :
    Alike t (fun x x' => x.bare = x'.bare) (fun _ _ => False) (atItem n levels s c)
      (atItem m levels' s' c') := by
  unfold atItem
  obtain ⟨hnone, hnone'⟩ | ⟨kind, d, d', hd, hd', hlonger⟩ := longer_operator? ht h
  · simp only [hnone, hnone']
    obtain ⟨x, x', d, d', hd, hd', hx, hlonger⟩ | ⟨f, hf, hgives⟩ :=
      (alike_rangeOrItem ht h hc levels levels').ok_or_error
    · simp only [hd, hd']
      exact hon hlonger (leaves_rangeOrItem _ _ _ _ hd) (leaves_rangeOrItem _ _ _ _ hd') hlevels
        (Items.bare_push hs hx)
    · rw [hf]
      refine .error ?_
      split
      · exact gives_error _
      · rename_i x e he
        exact loop_closing (ht.suffix (hgives x e he))
  · obtain ⟨hjoined, hbelow⟩ := join_of_bare_eq hlevels (Items.close_of_bare_eq hs)
    simp only [hd, hd']
    refine hon hlonger (operator?_suffix hd) (operator?_suffix hd') ?_ rfl
    rw [List.map_cons, List.map_cons, hbelow, Level.bare, Level.bare, hjoined]

end

theorem alike_loop (ht : Closing t) (h : c.Longer t c') {n n' : Nat} (hn : c.rest.length < n)
    (hn' : c'.rest.length < n') {levels levels' : List Level}
    (hlevels : levels.map Level.bare = levels'.map Level.bare) {s s' : Items}
    (hs : s.bare = s'.bare) :
    Alike t (fun x x' => x.bare = x'.bare) (fun _ _ => False) (loop n levels s c)
      (loop n' levels' s' c') := by
  induction n generalizing n' levels levels' s s' c c' with
  | zero => cases hn
  | succ n ih =>
    obtain ⟨m, rfl⟩ : ∃ m, n' = m + 1 := ⟨n' - 1, by omega⟩
    have hskip := h.skip ht
    rw [loop_succ n]
    obtain ⟨hend, hsuffix⟩ | ⟨a, l, hl, hne, hne'⟩ := hskip.atEnd_or_not
    · -- A class ends at a bracket, and there is none among the closing signs.
      rw [if_pos hend]
      refine .error fun x e he => ?_
      have hmem : ']' ∈ t := ((loop_suffix he).trans hsuffix).subset List.mem_cons_self
      exact (ht _ hmem).elim (by decide) (by decide)
    · have hon : ReadsOn t n m c.skip c'.skip := fun hlonger hd hd' hr hu =>
        ih hlonger (length_lt_of_suffix hne hd hn) (length_lt_of_suffix hne' hd' hn') hr hu
      rw [loop_succ m, if_neg hne, if_neg hne', hskip.sees ht (a := '[') (by decide) (by decide),
        hskip.sees ht (a := ']') (by decide) (by decide)]
      split
      · exact alike_atOpening ht hskip hl hon hlevels hs
      · split
        · exact alike_atClosing hskip hl hon hlevels hs
        · exact alike_atItem ht hskip hl hon hlevels hs

/-- **Theorem.** A class is read the same before more text, and is not read there if it is not read
alone. -/
theorem alike_read (ht : Closing t) (h : c.Longer t c') :
    Alike t (fun x x' => x.bare = x'.bare) (fun _ _ => False) (read c) (read c') :=
  alike_loop ht h (Nat.lt_succ_self _) (Nat.lt_succ_self _) rfl rfl

end Bracket
end Testbed.Regex
