import Testbed.Proofs.Regex.Longer.Atoms

/-!
# Openings and repetitions before more text

An opening that is read alone is read the same before more text (`alike_read`), and so are the
counts of a repetition (`alike_bounds`).
-/

namespace Testbed.Regex

variable {t l : List Char} {a : Char} {c c' d d' : Cursor} {n n' : Nat}

/-! ## Openings without places -/

/-- A name without its place. -/
def NamedGroup.bare (g : NamedGroup) : NamedGroup := { g with span := .nowhere }

/-- An opening without places. -/
def Opening.bare : Opening → Opening
  | capture name => .capture (name.map NamedGroup.bare)
  | plain signs => .plain signs
  | flags signs => .flags signs

namespace Opening

/-! ## Names -/

theorem isNameChar_closing (ha : a = ')' ∨ a = '$') (first : Bool) :
    isNameChar first a = false := by
  obtain rfl | rfl := ha <;> cases first <;> decide

theorem takesChars_nameChars : TakesChars nameChars Cursor.next where
  ended {n name c} hc := by
    cases n with
    | zero => rfl
    | succ n => rw [nameChars, hc]
  each name a := by
    by_cases hend : a = '>'
    · exact .inl fun hc => by simp [nameChars, hc, hend]
    · by_cases hfits : isNameChar name.isEmpty a = true
      · exact .inr (.inl fun hc => by simp [nameChars, hc, hend, hfits])
      · exact .inr (.inr fun hc => ⟨_, by simp [nameChars, hc, hend, hfits]; rfl⟩)
  longer _ h hc := h.next hc
  suffix hc := Cursor.suffix_of_next hc

theorem refuses_nameChars (name : List Char) (ha : a = ')' ∨ a = '$') :
    Refuses nameChars name a := by
  intro n c l hc
  have hend : a ≠ '>' := by obtain rfl | rfl := ha <;> decide
  exact ⟨_, by simp [nameChars, hc, hend, isNameChar_closing ha]; rfl⟩

/-- A name is in use or not, wherever it was given. -/
theorem find?_of_bare_eq {used used' : List NamedGroup}
    (h : used.map NamedGroup.bare = used'.map NamedGroup.bare) (name : String) :
    (used.find? (·.name = name)).isSome = (used'.find? (·.name = name)).isSome := by
  have hbare (gs : List NamedGroup) : (gs.find? (·.name = name)).isSome =
      ((gs.map NamedGroup.bare).find? (·.name = name)).isSome := by
    rw [List.find?_map, Option.isSome_map]
    rfl
  rw [hbare, h, ← hbare]

theorem name_bind (used : List NamedGroup) (c : Cursor) :
    name used c = (nameChars c.rest.length [] c).bind fun (chars, d) =>
      if d.atEnd then Cursor.fail .groupNameUnclosed d.point
      else if chars.isEmpty then Cursor.fail .groupNameEmpty (.point c.loc)
      else match used.find? (·.name = String.ofList chars) with
        | some earlier => .error
          { cause := .groupNameDuplicate, span := ⟨c.loc, d.loc⟩, other := earlier.span }
        | none => .ok (⟨String.ofList chars, ⟨c.loc, d.loc⟩⟩, d.next) := by
  rw [name_eq]
  rcases nameChars c.rest.length [] c with f | ⟨chars, d⟩ <;> rfl

theorem alike_name (ht : Closing t) (h : c.Longer t c') {used used' : List NamedGroup}
    (hused : used.map NamedGroup.bare = used'.map NamedGroup.bare) :
    Alike t (fun g g' => g.bare = g'.bare) (fun _ _ => False) (name used c) (name used' c') := by
  rw [name_bind, name_bind]
  have hchars := takesChars_nameChars.alikeUpTo (fun name a ha => .inr (refuses_nameChars name ha))
    ht h (Nat.le_refl _) (Nat.le_refl _) []
  refine hchars.bind ?_ ?_ ?_
  · intro chars d d' hd hlonger
    obtain ⟨hend, -⟩ | ⟨b, l, hl, hne, hne'⟩ := hlonger.atEnd_or_not
    · exact absurd (Cursor.atEnd_iff.mp hend) hd
    have hfind := find?_of_bare_eq hused (String.ofList chars)
    simp only [if_neg hne, if_neg hne']
    split
    · exact alike_fail
    · rcases hx : used.find? (·.name = String.ofList chars) with _ | g <;>
        rcases hx' : used'.find? (·.name = String.ofList chars) with _ | g' <;>
        rw [hx, hx'] at hfind <;> simp only [hx, hx']
      · exact .ok rfl (hlonger.next hl)
      · cases hfind
      · cases hfind
      · exact .error (gives_error _)
  · intro chars d hd
    exact ⟨_, if_pos (Cursor.atEnd_iff.mpr hd)⟩
  · intro chars d hd
    exact ⟨_, if_pos (Cursor.atEnd_iff.mpr hd)⟩

/-! ## Flags -/

theorem find?_of_fst_eq {done done' : List (FlagSign × Span)}
    (h : done.map (·.1) = done'.map (·.1)) (sign : FlagSign) :
    (done.find? (·.1 = sign)).isSome = (done'.find? (·.1 = sign)).isSome := by
  have hfst (ss : List (FlagSign × Span)) : (ss.find? (·.1 = sign)).isSome =
      ((ss.map (·.1)).find? (· = sign)).isSome := by
    rw [List.find?_map, Option.isSome_map]
    rfl
  rw [hfst, h, ← hfst]

theorem alike_endSigns {done done' : List (FlagSign × Span)} {P : List FlagSign → Cursor → Prop}
    (h : c.Longer t c') (hdone : done.map (·.1) = done'.map (·.1)) :
    Alike t Eq P (endSigns done c) (endSigns done' c') := by
  have hsigns : done.reverse.map (·.1) = done'.reverse.map (·.1) := by
    rw [List.map_reverse, hdone, List.map_reverse]
  rcases done with _ | ⟨⟨sign, span⟩, done⟩
  · obtain rfl := List.map_eq_nil_iff.mp hdone.symm
    exact .ok hsigns h
  · rcases done' with _ | ⟨⟨sign', span'⟩, done'⟩
    · cases hdone
    · obtain rfl : sign = sign' := (List.cons.inj hdone).1
      cases sign with
      | negation => exact alike_fail
      | flag f => exact .ok hsigns h

theorem alike_signs (h : c.Longer t c') (hn : c.rest.length ≤ n)
    (hn' : c'.rest.length ≤ n') {done done' : List (FlagSign × Span)}
    (hdone : done.map (·.1) = done'.map (·.1)) :
    Alike t Eq (fun _ d => d.rest <:+ t) (signs n done c) (signs n' done' c') := by
  have hgives (hc : c.rest = []) : Gives (fun _ d => d.rest <:+ t) (signs n' done' c') :=
    fun ss d hd => (leaves_signs n' done' c' ss d hd).trans (h.suffix hc)
  induction n generalizing n' done done' c c' with
  | zero =>
    exact .error (hgives (List.length_eq_zero_iff.mp (Nat.le_zero.mp hn)))
  | succ n ih =>
    rw [signs_succ]
    cases hc : c.rest with
    | nil => exact .error (hgives hc)
    | cons a l =>
      obtain ⟨m, rfl, hl'⟩ := exists_succ (h.cons hc) hn'
      rw [hc] at hn
      rw [signs_succ, h.cons hc]
      simp only
      split
      · exact alike_endSigns h hdone
      · cases sign? a with
        | none => exact alike_fail
        | some sign =>
          have hfind := find?_of_fst_eq hdone sign
          simp only
          rcases hx : done.find? (·.1 = sign) with _ | s <;>
            rcases hx' : done'.find? (·.1 = sign) with _ | s' <;>
            rw [hx, hx'] at hfind <;> simp only [hx, hx']
          · have hnext := h.next hc
            refine ih hnext ?_ ?_ ?_ ?_
            · exact Nat.le_trans (Cursor.suffix_of_next hc).length_le (Nat.le_of_succ_le_succ hn)
            · exact Nat.le_trans (Cursor.suffix_of_next (h.cons hc)).length_le hl'
            · rw [List.map_cons, List.map_cons, hdone]
            · exact fun hend ss d hd => (leaves_signs _ _ _ ss d hd).trans (hnext.suffix hend)
          · cases hfind
          · cases hfind
          · exact .error (gives_error _)

/-- Signs end before a sign that ends them. -/
theorem rest_of_signs {done : List (FlagSign × Span)} {given : List FlagSign}
    (h : signs n done c = .ok (given, d)) : d.rest ≠ [] := by
  induction n generalizing done c with
  | zero => cases h
  | succ n ih =>
    rw [signs_succ] at h
    split at h
    · cases h
    · rename_i a l hl
      split at h
      · unfold endSigns at h
        split at h
        · cases h
        · cases h
          simp [hl]
      · split at h
        · cases h
        · split at h
          · cases h
          · exact ih h

/-! ## Openings -/

/-- Past the beginning of a name. -/
def nameStart? (c : Cursor) : Option Cursor := c.pass? "?P<" <|> c.pass? "?<"

/-- The flags of an opening, which comes before the sign that ends them. -/
def ofSigns (c : Cursor) (given : List FlagSign) (stop : Cursor) :
    Except Fault (Opening × Cursor) :=
  if stop.sees ')' then
    if given.isEmpty then Cursor.fail .repetitionMissing c.point
    else .ok (.flags given, stop.next)
  else .ok (.plain given, stop.next)

theorem read_eq (used : List NamedGroup) (c : Cursor) :
    read used c = match lookAround? c.advance with
      | some after => Cursor.fail .lookAround ⟨c.loc, after.loc⟩
      | none => match nameStart? c.advance with
        | some d => (name used d).bind fun (g, e) => .ok (.capture (some g), e)
        | none => match c.advance.pass? "?" with
          | none => .ok (.capture none, c.advance)
          | some inner =>
            if inner.atEnd then Cursor.fail .groupUnclosed c.charSpan
            else (signs inner.rest.length [] inner).bind fun (given, stop) =>
              ofSigns c.advance given stop := by
  unfold read nameStart? ofSigns
  simp only
  rcases lookAround? c.advance with _ | after
  · rcases (c.advance.pass? "?P<" <|> c.advance.pass? "?<") with _ | d
    · rcases c.advance.pass? "?" with _ | inner
      · rfl
      · simp only
        split
        · rfl
        · rcases signs inner.rest.length [] inner with f | ⟨given, stop⟩ <;> rfl
    · simp only
      rcases name used d with f | ⟨g, e⟩ <;> rfl
  · rfl

theorem longer_lookAround? (ht : Closing t) (h : c.Longer t c') :
    (lookAround? c = none ∧ lookAround? c' = none) ∨
      ∃ d d', lookAround? c = some d ∧ lookAround? c' = some d' := by
  unfold lookAround?
  obtain ⟨h1, h1'⟩ | ⟨d, d', hd, hd', -⟩ := h.pass? ht "?=" (by simp) (by simp)
  · obtain ⟨h2, h2'⟩ | ⟨d, d', hd, hd', -⟩ := h.pass? ht "?!" (by simp) (by simp)
    · obtain ⟨h3, h3'⟩ | ⟨d, d', hd, hd', -⟩ := h.pass? ht "?<=" (by simp) (by simp)
      · obtain ⟨h4, h4'⟩ | ⟨d, d', hd, hd', -⟩ := h.pass? ht "?<!" (by simp) (by simp)
        · exact .inl ⟨by rw [h1, h2, h3, h4]; rfl, by rw [h1', h2', h3', h4']; rfl⟩
        · exact .inr ⟨d, d', by rw [h1, h2, h3, hd]; rfl, by rw [h1', h2', h3', hd']; rfl⟩
      · exact .inr ⟨d, d', by rw [h1, h2, hd]; rfl, by rw [h1', h2', hd']; rfl⟩
    · exact .inr ⟨d, d', by rw [h1, hd]; rfl, by rw [h1', hd']; rfl⟩
  · exact .inr ⟨d, d', by rw [hd]; rfl, by rw [hd']; rfl⟩

theorem longer_nameStart? (ht : Closing t) (h : c.Longer t c') :
    (nameStart? c = none ∧ nameStart? c' = none) ∨
      ∃ d d', nameStart? c = some d ∧ nameStart? c' = some d' ∧ d.Longer t d' := by
  unfold nameStart?
  obtain ⟨h1, h1'⟩ | ⟨d, d', hd, hd', hlonger⟩ := h.pass? ht "?P<" (by simp) (by simp)
  · obtain ⟨h2, h2'⟩ | ⟨d, d', hd, hd', hlonger⟩ := h.pass? ht "?<" (by simp) (by simp)
    · exact .inl ⟨by rw [h1, h2]; rfl, by rw [h1', h2']; rfl⟩
    · exact .inr ⟨d, d', by rw [h1, hd]; rfl, by rw [h1', hd']; rfl, hlonger⟩
  · exact .inr ⟨d, d', by rw [hd]; rfl, by rw [hd']; rfl, hlonger⟩

theorem tail_suffix_tail {l l' : List Char} (h : l <:+ l') : l.tail <:+ l'.tail := by
  obtain ⟨front, rfl⟩ := h
  cases front with
  | nil => exact List.suffix_refl _
  | cons b front => exact (List.tail_suffix l).trans (List.suffix_append front l)

theorem gives_ofSigns (c : Cursor) (given : List FlagSign) (hd : d.rest <:+ t) :
    Gives (fun _ d => d.rest <:+ t.tail) (ofSigns c given d) := by
  have hnext : d.next.rest <:+ t.tail := Cursor.rest_next d ▸ tail_suffix_tail hd
  unfold ofSigns
  split
  · split
    · exact gives_fail _ _
    · exact gives_ok hnext
  · exact gives_ok hnext

theorem alike_ofSigns (given : List FlagSign) (hd : d.Longer t d') (hne : d.rest ≠ [])
    {P : Opening → Cursor → Prop} :
    Alike t (fun x x' => x.bare = x'.bare) P (ofSigns c given d) (ofSigns c' given d') := by
  obtain ⟨b, l, hl⟩ := List.exists_cons_of_ne_nil hne
  have hsees : d'.sees ')' = d.sees ')' := by
    simp only [Cursor.sees, hl, hd.cons hl, List.head?_cons]
  unfold ofSigns
  rw [hsees]
  split
  · split
    · exact alike_fail
    · exact .ok rfl (hd.next hl)
  · exact .ok rfl (hd.next hl)

/-- **Theorem.** An opening is read the same before more text. An open one takes the first closing
sign at least. -/
theorem alike_read (ht : Closing t) (h : c.Longer t c') (hc : c.rest = a :: l)
    {used used' : List NamedGroup}
    (hused : used.map NamedGroup.bare = used'.map NamedGroup.bare) :
    Alike t (fun x x' => x.bare = x'.bare) (fun _ d => d.rest <:+ t.tail) (read used c)
      (read used' c') := by
  have hadv := h.advance ht hc
  rw [read_eq, read_eq]
  obtain ⟨hlook, hlook'⟩ | ⟨d, d', hd, hd'⟩ := longer_lookAround? ht hadv
  · rw [hlook, hlook']
    obtain ⟨hname, hname'⟩ | ⟨d, d', hd, hd', hlonger⟩ := longer_nameStart? ht hadv
    · rw [hname, hname']
      obtain ⟨hmark, hmark'⟩ | ⟨d, d', hd, hd', hlonger⟩ :=
        hadv.pass? ht "?" (by simp) (by simp)
      · rw [hmark, hmark']
        exact .ok rfl hadv
      · rw [hd, hd']
        have hgives (hstop : ∀ given stop, signs d'.rest.length [] d' = .ok (given, stop) →
            stop.rest <:+ t) : Gives (fun _ e => e.rest <:+ t.tail)
              ((signs d'.rest.length [] d').bind fun (given, stop) =>
                ofSigns c'.advance given stop) := by
          rcases hx : signs d'.rest.length [] d' with f | ⟨given, stop⟩
          · exact gives_error f
          · exact gives_ofSigns _ _ (hstop given stop hx)
        simp only
        obtain ⟨hend, hsuffix⟩ | ⟨b, l, -, hne, hne'⟩ := hlonger.atEnd_or_not
        · rw [if_pos hend]
          refine .error ?_
          split
          · exact gives_fail _ _
          · refine hgives fun given stop hx => ?_
            exact (leaves_signs _ _ _ _ _ hx).trans hsuffix
        · rw [if_neg hne, if_neg hne']
          obtain ⟨given, given', e, e', hx, hx', rfl, he⟩ | ⟨f, hf, hsigns⟩ :=
            (alike_signs hlonger (Nat.le_refl _) (Nat.le_refl _) rfl).ok_or_error
          · rw [hx, hx']
            exact alike_ofSigns given he (rest_of_signs hx)
          · rw [hf]
            exact .error (hgives hsigns)
    · rw [hd, hd']
      refine (alike_name ht hlonger hused).bind ?_ fun _ _ => False.elim
      intro g g' e e' hg he
      exact .ok (by simp only [Opening.bare, Option.map_some, hg]) he
  · rw [hd, hd']
    exact alike_fail

end Opening

/-! ## Counts of repetitions -/

namespace Reading

theorem longer_lazily (ht : Closing t) (h : c.Longer t c') :
    (lazily c).1 = (lazily c').1 ∧ (lazily c).2.Longer t (lazily c').2 := by
  unfold lazily
  rw [h.sees ht (by decide) (by decide)]
  split
  · rename_i hsees
    obtain ⟨l, hl⟩ := Cursor.sees_iff.mp hsees
    exact ⟨rfl, h.next hl⟩
  · exact ⟨rfl, h⟩

theorem takesChars_digits :
    TakesChars (fun n done c => .ok (digits n done c)) Cursor.advance where
  ended {n done c} hc := by
    cases n with
    | zero => rfl
    | succ n => rw [digits, hc]
  each done a := by
    by_cases hdigit : a.isDigit = true
    · exact .inr (.inl fun hc => by simp [digits, hc, hdigit])
    · exact .inl fun hc => by simp [digits, hc, hdigit]
  longer ht h hc := h.advance ht hc
  suffix hc := Cursor.suffix_of_advance hc

theorem stops_digits (done : List Char) (ha : a = ')' ∨ a = '$') :
    Stops (fun n done c => .ok (digits n done c)) done a := by
  intro n c l hc
  have hdigit : a.isDigit = false := by obtain rfl | rfl := ha <;> decide
  simp [digits, hc, hdigit]

theorem longer_digits (ht : Closing t) (h : c.Longer t c') :
    (digits c.rest.length [] c).1 = (digits c'.rest.length [] c').1 ∧
      (digits c.rest.length [] c).2.Longer t (digits c'.rest.length [] c').2 := by
  obtain ⟨done, done', d, d', hd, hd', rfl, hlonger⟩ | ⟨f, hf, -⟩ :=
    (takesChars_digits.alike (fun done a ha => stops_digits done ha) ht h (Nat.le_refl _)
      (Nat.le_refl _) []).ok_or_error
  · rw [Except.ok.inj hd, Except.ok.inj hd']
    exact ⟨rfl, hlonger⟩
  · cases hf

theorem longer_count (ht : Closing t) (h : c.Longer t c') :
    (count c).1.toOption = (count c').1.toOption ∧ (count c).2.Longer t (count c').2 := by
  obtain ⟨hdone, hd⟩ := longer_digits ht (h.dropBlanks ht)
  refine ⟨?_, hd.dropBlanks ht⟩
  simp only [count, hdone]
  split
  · rfl
  · split
    · rfl
    · rfl

theorem count_closing (hc : Closing c.rest) : Closing (count c).2.rest :=
  hc.suffix (count_suffix c)

/-- Among closing signs no count is closed. -/
theorem boundsBehind_closing (hc : Closing c.rest) (start : Position) (first : Except Fault Nat) :
    ∃ f, boundsBehind start first c = .error f := by
  unfold boundsBehind
  rw [Cursor.sees_closing hc (by decide) (by decide),
    Cursor.sees_closing (count_closing hc) (by decide) (by decide)]
  split
  · exact ⟨_, rfl⟩
  · cases first with
    | error f => exact ⟨_, rfl⟩
    | ok low =>
      cases (count c).1 with
      | error f => exact ⟨_, rfl⟩
      | ok high => exact ⟨_, rfl⟩

theorem bounds_closing (hc : Closing (count c).2.rest) (start : Position) :
    ∃ f, bounds start c = .error f := by
  rw [bounds_eq, Cursor.sees_closing hc (by decide) (by decide),
    Cursor.sees_closing hc (by decide) (by decide)]
  split
  · exact ⟨_, rfl⟩
  · split
    · exact ⟨_, rfl⟩
    · cases (count c).1 with
      | error f => exact ⟨_, rfl⟩
      | ok n => exact ⟨_, rfl⟩

/-- Results that are alike up to their faults. -/
theorem ok_or_error_of_toOption {α : Type} {x x' : Except Fault α}
    (h : x.toOption = x'.toOption) :
    (∃ n, x = .ok n ∧ x' = .ok n) ∨ ∃ f f', x = .error f ∧ x' = .error f' := by
  rcases x with f | n <;> rcases x' with f' | n' <;> cases h
  · exact .inr ⟨f, f', rfl, rfl⟩
  · exact .inl ⟨n, rfl, rfl⟩

/-- Counts end before a closing brace. -/
theorem sees_of_boundsBehind {start : Position} {first : Except Fault Nat}
    {x : Nat × Option Nat} (h : boundsBehind start first c = .ok (x, d)) :
    d.sees '\x7d' = true := by
  unfold boundsBehind at h
  split at h
  · cases h
  · split at h
    · rename_i hsees
      rcases first with f | low <;> cases h
      exact hsees
    · rcases first with f | low
      · cases h
      · rcases hx : (count c).1 with f | high <;> simp only [hx, Except.bind] at h
        · cases h
        · split at h
          · rename_i hsees
            cases h
            exact hsees
          · cases h

theorem sees_of_bounds {start : Position} {x : Nat × Option Nat}
    (h : bounds start c = .ok (x, d)) : d.sees '\x7d' = true := by
  rw [bounds_eq] at h
  split at h
  · cases h
  · split at h
    · cases h
    · split at h
      · exact sees_of_boundsBehind h
      · rcases hx : (count c).1 with f | n <;> simp only [hx, Except.bind] at h
        · cases h
        · split at h
          · rename_i hsees
            cases h
            exact hsees
          · cases h

theorem alike_boundsBehind (ht : Closing t) (h : c.Longer t c') (start start' : Position)
    {first first' : Except Fault Nat} (hfirst : first.toOption = first'.toOption) :
    Alike t Eq (fun _ _ => False) (boundsBehind start first c) (boundsBehind start' first' c') := by
  obtain ⟨hend, hsuffix⟩ | ⟨b, l, -, hne, hne'⟩ := h.atEnd_or_not
  · obtain ⟨f, hf⟩ := boundsBehind_closing (ht.suffix hsuffix) start' first'
    rw [hf, boundsBehind, if_pos hend]
    exact .error (gives_error f)
  · obtain ⟨hsecond, hd⟩ := longer_count ht h
    unfold boundsBehind
    rw [if_neg hne, if_neg hne', h.sees ht (by decide) (by decide),
      hd.sees ht (by decide) (by decide)]
    obtain ⟨low, rfl, rfl⟩ | ⟨f, f', rfl, rfl⟩ := ok_or_error_of_toOption hfirst
    · split
      · exact .ok rfl h
      · obtain ⟨high, hx, hx'⟩ | ⟨f, f', hf, hf'⟩ := ok_or_error_of_toOption hsecond
        · simp only [hx, hx', Except.bind]
          split
          · exact .ok rfl hd
          · exact alike_fail
        · simp only [hf, hf', Except.bind]
          exact .error (gives_error f')
    · split
      · exact .error (gives_error f')
      · exact .error (gives_error f')

/-- **Theorem.** The counts of a repetition are read the same before more text, and are not read
there if they are not read alone. -/
theorem alike_bounds (ht : Closing t) (h : c.Longer t c') (start start' : Position) :
    Alike t Eq (fun _ _ => False) (bounds start c) (bounds start' c') := by
  obtain ⟨hfirst, hd⟩ := longer_count ht h
  obtain ⟨hend, hsuffix⟩ | ⟨b, l, -, hne, hne'⟩ := h.atEnd_or_not
  · obtain ⟨f, hf⟩ := bounds_closing (count_closing (ht.suffix hsuffix)) start'
    rw [hf, bounds_eq, if_pos hend]
    exact .error (gives_error f)
  obtain ⟨hend, hsuffix⟩ | ⟨b1, l1, hl1, hne1, hne1'⟩ := hd.atEnd_or_not
  · obtain ⟨f, hf⟩ := bounds_closing (ht.suffix hsuffix) start'
    rw [hf, bounds_eq, if_neg hne, if_pos hend]
    exact .error (gives_error f)
  · rw [bounds_eq, bounds_eq, if_neg hne, if_neg hne1, if_neg hne', if_neg hne1',
      hd.sees ht (a := ',') (by decide) (by decide),
      hd.sees ht (a := '\x7d') (by decide) (by decide)]
    split
    · exact alike_boundsBehind ht (hd.advance ht hl1) start start' hfirst
    · obtain ⟨low, hx, hx'⟩ | ⟨f, f', hf, hf'⟩ := ok_or_error_of_toOption hfirst
      · simp only [hx, hx', Except.bind]
        split
        · exact .ok rfl hd
        · exact alike_fail
      · simp only [hf, hf', Except.bind]
        exact .error (gives_error f')

end Reading
end Testbed.Regex
