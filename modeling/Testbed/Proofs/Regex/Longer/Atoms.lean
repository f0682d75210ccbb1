import Testbed.Proofs.Regex.Bare
import Testbed.Proofs.Regex.Longer.Readers

/-!
# Atoms before more text

**Theorem (`alike_read`).** An atom is read the same before more text. One that the end of the text
cuts short takes the first closing sign behind it, unless it is a boundary before an opening brace,
which is then left to a repetition.
-/

namespace Testbed.Regex

variable {t l : List Char} {a : Char} {c c' d d' : Cursor}

/-! ## Atoms -/

/-- An atom without its place. -/
def Atom.bare : Atom → Atom
  | literal l => .literal l.bare
  | dot _ => .dot .nowhere
  | assertion _ kind => .assertion .nowhere kind
  | letter _ negated kind => .letter .nowhere negated kind
  | property _ negated query => .property .nowhere negated query

namespace Atom

theorem isHex_closing (ht : a = ')' ∨ a = '$') : isHex a = false := by
  obtain rfl | rfl := ht <;> decide

theorem alike_fixedHex (ht : Closing t) (h : c.Longer t c') (n : Nat) (ds : List Char) :
    Alike t Eq (fun _ _ => False) (fixedHex n ds c) (fixedHex n ds c') := by
  induction n generalizing ds c c' with
  | zero => exact .ok rfl h
  | succ n ih =>
    rw [fixedHex, fixedHex]
    cases hc : c.rest with
    | nil =>
      refine .error ?_
      obtain hc' | ⟨b, hb, hc', -⟩ := h.ended ht hc
      · simp only [hc']
        exact gives_fail _ _
      · simp only [hc', isHex_closing hb]
        exact gives_fail _ _
    | cons d l =>
      simp only [h.cons hc]
      split
      · exact ih (h.advance ht hc) _
      · exact alike_fail

theorem takesChars_bracedHex : TakesChars bracedHex Cursor.advance where
  ended {n ds c} hc := by
    cases n with
    | zero => rfl
    | succ n => rw [bracedHex, hc]
  each ds a := by
    by_cases hclose : a = '\x7d'
    · exact .inl fun hc => by simp [bracedHex, hc, hclose]
    · by_cases hdigit : isHex a = true
      · exact .inr (.inl fun hc => by simp [bracedHex, hc, hclose, hdigit])
      · exact .inr (.inr fun hc => ⟨_, by simp [bracedHex, hc, hclose, hdigit]; rfl⟩)
  longer ht h hc := h.advance ht hc
  suffix hc := Cursor.suffix_of_advance hc

theorem refuses_bracedHex (ds : List Char) (ha : a = ')' ∨ a = '$') : Refuses bracedHex ds a := by
  intro n c l hc
  have hclose : a ≠ '\x7d' := by obtain rfl | rfl := ha <;> decide
  exact ⟨_, by simp [bracedHex, hc, hclose, isHex_closing ha]; rfl⟩

theorem numbered_eq (start : Position) (kind : Char) (c : Cursor) :
    numbered start kind c =
      if c.advance.atEnd then Cursor.fail .escapeIncomplete c.advance.point
      else if c.advance.sees '\x7b' then
        (bracedHex c.advance.rest.length [] c.advance.advance).bind fun (ds, d) =>
          if d.atEnd then Cursor.fail .escapeIncomplete ⟨c.advance.loc, d.loc⟩
          else if ds.isEmpty then Cursor.fail .hexEmpty ⟨c.advance.loc, d.advance.loc⟩
          else match charOfHex? ds with
            | none => Cursor.fail .hexInvalid ⟨c.advance.next.loc, d.loc⟩
            | some a => .ok (literal { span := ⟨start, d.advance.loc⟩, char := a }, d.advance)
      else
        (fixedHex (digitCount kind) [] c.advance).bind fun (ds, d) =>
          match charOfHex? ds with
          | none => Cursor.fail .hexInvalid ⟨c.advance.loc, d.loc⟩
          | some a =>
            .ok (literal { span := ⟨start, d.loc⟩, char := a, isByte := kind = 'x' }, d) := by
  simp only [numbered]
  split
  · rfl
  · split
    · rcases bracedHex c.advance.rest.length [] c.advance.advance with f | ⟨ds, d⟩ <;> rfl
    · rcases fixedHex (digitCount kind) [] c.advance with f | ⟨ds, d⟩ <;> rfl

theorem exists_digitCount (kind : Char) : ∃ n, digitCount kind = n + 1 := by
  unfold digitCount
  split
  · exact ⟨1, rfl⟩
  · split
    · exact ⟨3, rfl⟩
    · exact ⟨7, rfl⟩

theorem alike_numbered (ht : Closing t) (h : c.Longer t c') (hc : c.rest = a :: l)
    (start start' : Position) (kind : Char) :
    Alike t (fun x x' => x.bare = x'.bare) (fun _ _ => False) (numbered start kind c)
      (numbered start' kind c') := by
  have hadv := h.advance ht hc
  have hfixed := alike_fixedHex ht hadv (digitCount kind) []
  rw [numbered_eq, numbered_eq, hadv.sees ht (by decide) (by decide)]
  obtain ⟨hend, -⟩ | ⟨b, l1, hc1, hne, hne'⟩ := hadv.atEnd_or_not
  · have hrest := Cursor.atEnd_iff.mp hend
    have hnone : c.advance.sees '\x7b' = false := by simp [Cursor.sees, hrest]
    have hfault : ∃ f, fixedHex (digitCount kind) [] c.advance = .error f := by
      obtain ⟨n, hn⟩ := exists_digitCount kind
      rw [hn, fixedHex, hrest]
      exact ⟨_, rfl⟩
    obtain ⟨f, hf⟩ := hfault
    rw [if_pos hend, hnone, if_neg Bool.false_ne_true]
    refine .error ?_
    split
    · exact gives_fail _ _
    · rw [hf] at hfixed
      obtain ⟨_, _, _, _, hok, -⟩ | ⟨_, -, hgives⟩ := hfixed.ok_or_error
      · cases hok
      · rcases hx : fixedHex (digitCount kind) [] c'.advance with f' | ⟨ds, d⟩
        · exact gives_error f'
        · exact (hgives ds d hx).elim
  · rw [if_neg hne, if_neg hne']
    split
    · refine (takesChars_bracedHex.alikeUpTo (fun ds _ ha => .inr (refuses_bracedHex ds ha)) ht
        (hadv.advance ht hc1) c.advance.advance_suffix_rest.length_le
        c'.advance.advance_suffix_rest.length_le []).bind ?_ ?_ ?_
      · intro ds d d' hne hd
        obtain ⟨hend, -⟩ | ⟨b, l2, hl2, hmore, hmore'⟩ := hd.atEnd_or_not
        · exact absurd (Cursor.atEnd_iff.mp hend) hne
        · simp only [if_neg hmore, if_neg hmore']
          split
          · exact alike_fail
          · cases charOfHex? ds with
            | none => exact alike_fail
            | some a => exact .ok rfl (hd.advance ht hl2)
      · intro ds d hd
        exact ⟨_, if_pos (Cursor.atEnd_iff.mpr hd)⟩
      · intro ds d hd
        exact ⟨_, if_pos (Cursor.atEnd_iff.mpr hd)⟩
    · refine hfixed.bind (fun ds ds' d d' hds hd => ?_) (fun _ _ => False.elim)
      subst hds
      simp only
      cases charOfHex? ds with
      | none => exact alike_fail
      | some a => exact .ok rfl hd

theorem takesChars_bracedName :
    TakesChars (fun n name c => .ok (bracedName n name c)) Cursor.advance where
  ended {n name c} hc := by
    cases n with
    | zero => rfl
    | succ n => rw [bracedName, hc]
  each name a := by
    by_cases hclose : a = '\x7d'
    · exact .inl fun hc => by simp [bracedName, hc, hclose]
    · exact .inr (.inl fun hc => by simp [bracedName, hc, hclose])
  longer ht h hc := h.advance ht hc
  suffix hc := Cursor.suffix_of_advance hc

theorem goesOn_bracedName (name : List Char) (ha : a = ')' ∨ a = '$') :
    GoesOn (fun n name c => .ok (bracedName n name c)) Cursor.advance name a := by
  intro n c l hc
  have hclose : a ≠ '\x7d' := by obtain rfl | rfl := ha <;> decide
  simp [bracedName, hc, hclose]

theorem propertyClass_eq (start : Position) (c : Cursor) :
    propertyClass start c = match c.advance.rest with
      | [] => Cursor.fail .escapeIncomplete c.advance.point
      | a :: _ =>
        if a = '\x7b' then
          (.ok (bracedName c.advance.rest.length [] c.advance.advance) : Except Fault _).bind
            fun (name, d) =>
              if d.atEnd then Cursor.fail .escapeIncomplete d.point
              else .ok (property ⟨start, d.next.loc⟩ (c.sees 'P') (queryOf name), d.next)
        else if a = '\\' then Cursor.fail .propertyClassInvalid c.advance.charSpan
        else .ok (property ⟨start, c.advance.advance.loc⟩ (c.sees 'P')
          (.named (String.ofList [a])), c.advance.advance) := rfl

theorem alike_propertyClass (ht : Closing t) (h : c.Longer t c') (hc : c.rest = a :: l)
    (start start' : Position) :
    Alike t (fun x x' => x.bare = x'.bare) (fun _ d => d.rest <:+ t.tail) (propertyClass start c)
      (propertyClass start' c') := by
  have hadv := h.advance ht hc
  rw [propertyClass_eq, propertyClass_eq, h.sees ht (by decide) (by decide)]
  cases hc1 : c.advance.rest with
  | nil =>
    refine .error ?_
    obtain hc1' | ⟨b, hb, hc1', -⟩ := hadv.ended ht hc1
    · simp only [hc1']
      exact gives_fail _ _
    · have hbrace : b ≠ '\x7b' := by obtain rfl | rfl := hb <;> decide
      have hslash : b ≠ '\\' := by obtain rfl | rfl := hb <;> decide
      simp only [hc1', hbrace, hslash, if_false]
      exact gives_ok (Cursor.suffix_of_advance hc1')
  | cons b l1 =>
    have hadv1 := hadv.advance ht hc1
    simp only [hadv.cons hc1]
    split
    · refine (takesChars_bracedName.alikeUpTo (fun name _ ha => .inl (goesOn_bracedName name ha)) ht
        hadv1 (Nat.le_succ_of_le (Cursor.suffix_of_advance hc1).length_le)
        (Nat.le_succ_of_le (Cursor.suffix_of_advance (hadv.cons hc1)).length_le) []).bind ?_ ?_ ?_
      · intro name d d' hne hd
        obtain ⟨hend, -⟩ | ⟨e, l2, hl2, hmore, hmore'⟩ := hd.atEnd_or_not
        · exact absurd (Cursor.atEnd_iff.mp hend) hne
        · simp only [if_neg hmore, if_neg hmore']
          exact .ok rfl (hd.next hl2)
      · intro name d hd
        exact ⟨_, if_pos (Cursor.atEnd_iff.mpr hd)⟩
      · intro name d hd
        exact ⟨_, if_pos (Cursor.atEnd_iff.mpr hd)⟩
    · split
      · exact alike_fail
      · exact .ok rfl hadv1

theorem takesChars_boundaryName :
    TakesChars (fun n name c => .ok (boundaryName n name c)) Cursor.advance where
  ended {n name c} hc := by
    cases n with
    | zero => rfl
    | succ n => rw [boundaryName, hc]
  each name a := by
    by_cases hfits : isBoundaryChar a = true
    · exact .inr (.inl fun hc => by simp [boundaryName, hc, hfits])
    · exact .inl fun hc => by simp [boundaryName, hc, hfits]
  longer ht h hc := h.advance ht hc
  suffix hc := Cursor.suffix_of_advance hc

theorem isBoundaryChar_closing (ha : a = ')' ∨ a = '$') : isBoundaryChar a = false := by
  obtain rfl | rfl := ha <;> decide

theorem stops_boundaryName (name : List Char) (ha : a = ')' ∨ a = '$') :
    Stops (fun n name c => .ok (boundaryName n name c)) name a := by
  intro n c l hc
  simp [boundaryName, hc, isBoundaryChar_closing ha]

/-- A brace that was taken for a repetition, with a text behind it. -/
def OpensBefore (t : List Char) (d : Cursor) : Prop :=
  d.sees '\x7b' = true ∧ d.advance.rest = t

theorem alike_boundaryBraces (ht : Closing t) (h : c.Longer t c') (hc : c.rest = '\x7b' :: l)
    (start start' : Position) :
    Alike t Eq (fun x d => x = none ∧ OpensBefore t d) (boundaryBraces start c)
      (boundaryBraces start' c') := by
  have hadv := h.advance ht hc
  cases hc1 : c.advance.rest with
  | nil =>
    -- The brace is the last sign. A closing sign behind it begins no name of a boundary, so the
    -- brace is left to a repetition there.
    simp only [boundaryBraces, hc1]
    refine .error ?_
    obtain hc1' | ⟨b, hb, hc1', htail⟩ := hadv.ended ht hc1
    · simp only [hc1']
      exact gives_fail _ _
    · simp only [hc1', isBoundaryChar_closing hb, Bool.not_false, if_true]
      exact gives_ok ⟨rfl, Cursor.sees_iff.mpr ⟨_, h.cons hc⟩, hc1'.trans htail.symm⟩
  | cons b l1 =>
    simp only [boundaryBraces, hc1, hadv.cons hc1]
    split
    · exact .ok rfl h
    · obtain ⟨name, name', d, d', hx, hx', rfl, hd⟩ | ⟨f, hf, -⟩ :=
        (takesChars_boundaryName.alike (fun name _ ha => stops_boundaryName name ha) ht hadv
          (Nat.le_of_eq (congrArg _ hc1)) (Nat.le_of_eq (congrArg _ (hadv.cons hc1)))
          []).ok_or_error
      · rw [Except.ok.inj hx, Except.ok.inj hx']
        simp only [hd.sees ht (a := '\x7d') (by decide) (by decide)]
        split
        · exact alike_fail
        · rename_i hsees
          rw [Bool.not_eq_true', Bool.not_eq_false] at hsees
          obtain ⟨l2, hl2⟩ := Cursor.sees_iff.mp hsees
          cases boundary? (String.ofList name) with
          | none => exact alike_fail
          | some kind => exact .ok rfl (hd.next hl2)
      · cases hf

/-- What an atom read beyond a text can leave of the closing signs behind it: not the first one,
unless it is a boundary before the brace of a repetition. -/
def Overrun (t : List Char) (x : Atom) (d : Cursor) : Prop :=
  d.rest <:+ t.tail ∨ x.bare = .assertion .nowhere .wordBoundary ∧ OpensBefore t d

/-- The boundary behind its letter, with the braces that may follow. -/
def boundaryBehind (start : Position) (span : Span) (c : Cursor) : Except Fault (Atom × Cursor) :=
  if c.sees '\x7b' then
    match boundaryBraces start c with
    | .error f => .error f
    | .ok (some kind, c) => .ok (assertion ⟨start, c.loc⟩ kind, c)
    | .ok (none, c) => .ok (assertion span .wordBoundary, c)
  else .ok (assertion span .wordBoundary, c)

theorem alike_boundaryBehind (ht : Closing t) (h : c.Longer t c') (start start' : Position)
    (span span' : Span) :
    Alike t (fun x x' => x.bare = x'.bare) (Overrun t) (boundaryBehind start span c)
      (boundaryBehind start' span' c') := by
  unfold boundaryBehind
  rw [h.sees ht (by decide) (by decide)]
  split
  · rename_i hsees
    obtain ⟨l, hc⟩ := Cursor.sees_iff.mp hsees
    obtain ⟨kind, kind', d, d', hx, hx', hkind, hd⟩ | ⟨f, hf, hgives⟩ :=
      (alike_boundaryBraces ht h hc start start').ok_or_error
    · subst hkind
      rw [hx, hx']
      cases kind with
      | some kind => exact .ok rfl hd
      | none => exact .ok rfl hd
    · rw [hf]
      refine .error ?_
      rcases hx' : boundaryBraces start' c' with f' | ⟨kind, d⟩
      · exact gives_error f'
      · obtain ⟨rfl, hopens⟩ := hgives kind d hx'
        exact gives_ok (.inr ⟨rfl, hopens⟩)
  · exact .ok rfl h

theorem alike_escape (ht : Closing t) (h : c.Longer t c') (hc : c.rest = a :: l) :
    Alike t (fun x x' => x.bare = x'.bare) (Overrun t) (escape c) (escape c') := by
  have h1 := h.next hc
  cases hc1 : c.next.rest with
  | nil =>
    simp only [escape, hc1]
    refine .error ?_
    obtain hc1' | ⟨b, hb, hc1', htail⟩ := h1.ended ht hc1
    · simp only [hc1']
      exact gives_fail _ _
    · simp only [hc1']
      have hleft : c'.next.next.rest = t.tail := by rw [Cursor.rest_next, hc1']; rfl
      obtain rfl | rfl := hb
      · exact gives_ok (.inl (hleft ▸ List.suffix_refl _))
      · exact gives_ok (.inl (hleft ▸ List.suffix_refl _))
  | cons b l1 =>
    have h2 := h1.next hc1
    simp only [escape, hc1, h1.cons hc1]
    split
    · exact alike_fail
    · split
      · exact (alike_numbered ht h1 hc1 _ _ b).mono fun _ _ => False.elim
      · split
        · exact (alike_propertyClass ht h1 hc1 _ _).mono fun _ _ => .inl
        · cases letterClass? b with
          | some kind => exact .ok rfl h2
          | none =>
            simp only
            split
            · exact .ok rfl h2
            · cases control? b with
              | some e => exact .ok rfl h2
              | none =>
                cases place? b with
                | some kind => exact .ok rfl h2
                | none =>
                  simp only
                  split
                  · exact alike_boundaryBehind ht h2 _ _ _ _
                  · exact alike_fail

theorem alike_read (ht : Closing t) (h : c.Longer t c') (hc : c.rest = a :: l) :
    Alike t (fun x x' => x.bare = x'.bare) (Overrun t) (read c) (read c') := by
  have h1 := h.next hc
  unfold read
  simp only [hc, h.cons hc]
  split
  · exact alike_escape ht h hc
  · split
    · exact .ok rfl h1
    · split
      · exact .ok rfl h1
      · split
        · exact .ok rfl h1
        · exact .ok rfl h1

theorem alike_readInClass (ht : Closing t) (h : c.Longer t c') (hc : c.rest = a :: l) :
    Alike t (fun x x' => x.bare = x'.bare) (Overrun t) (readInClass c) (readInClass c') := by
  unfold readInClass
  simp only [hc, h.cons hc]
  split
  · exact alike_escape ht h hc
  · exact .ok rfl (h.next hc)

theorem bare_toAst (x : Atom) : x.toAst.bare = x.bare.toAst := by
  cases x <;> rfl

end Atom

end Testbed.Regex
