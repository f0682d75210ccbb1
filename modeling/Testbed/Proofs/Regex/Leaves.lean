import Testbed.Regex.Parser

/-!
# What readers leave

A reader takes characters from the front of what it is given and leaves the rest (`Leaves`).
-/

namespace Testbed.Regex

variable {α β : Type} {q q' : List Char} {c c' : Cursor} {a : Char} {l : List Char}

/-! ## Cursors -/

namespace Cursor

@[simp] theorem rest_next (c : Cursor) : c.next.rest = c.rest.tail := by
  rcases c with ⟨_ | ⟨a, l⟩, loc, free⟩ <;> rfl

@[simp] theorem free_next (c : Cursor) : c.next.free = c.free := by
  rcases c with ⟨_ | ⟨a, l⟩, loc, free⟩ <;> rfl

theorem skipBlanks_suffix (comment : Bool) (l : List Char) (p : Position) :
    (skipBlanks comment l p).1 <:+ l := by
  induction l generalizing comment p with
  | nil => exact List.suffix_refl []
  | cons a l ih =>
    rw [skipBlanks]
    split
    · exact (ih _ _).trans (List.suffix_cons a l)
    · split
      · exact (ih _ _).trans (List.suffix_cons a l)
      · split
        · exact (ih _ _).trans (List.suffix_cons a l)
        · exact List.suffix_refl _

theorem rest_skip (c : Cursor) :
    c.skip.rest = if c.free then (skipBlanks false c.rest c.loc).1 else c.rest := by
  unfold skip
  split <;> rfl

@[simp] theorem free_skip (c : Cursor) : c.skip.free = c.free := by
  unfold skip
  split <;> rfl

theorem skip_suffix (c : Cursor) : c.skip.rest <:+ c.rest := by
  rw [rest_skip]
  split
  · exact skipBlanks_suffix false c.rest c.loc
  · exact List.suffix_refl _

theorem next_suffix (c : Cursor) : c.next.rest <:+ c.rest.tail :=
  c.rest_next ▸ List.suffix_refl _

theorem next_suffix_rest (c : Cursor) : c.next.rest <:+ c.rest :=
  c.next_suffix.trans (List.tail_suffix _)

theorem advance_suffix (c : Cursor) : c.advance.rest <:+ c.rest.tail :=
  c.next.skip_suffix.trans c.next_suffix

theorem dropBlanks_suffix (c : Cursor) : c.dropBlanks.rest <:+ c.rest :=
  List.dropWhile_suffix _

theorem advance_suffix_rest (c : Cursor) : c.advance.rest <:+ c.rest :=
  c.advance_suffix.trans (List.tail_suffix _)

theorem sees_iff : c.sees a = true ↔ ∃ l, c.rest = a :: l := by
  unfold sees
  cases c.rest <;> simp

theorem atEnd_iff : c.atEnd = true ↔ c.rest = [] := List.isEmpty_iff

/-- What stands in front is passed. -/
theorem exists_pass? {text : String} (h : c.rest = text.toList ++ l) :
    ∃ d, c.pass? text = some d ∧ d.rest = l ∧ d.free = c.free := by
  have hprefix : text.toList.isPrefixOf c.rest = true :=
    List.isPrefixOf_iff_prefix.mpr (h ▸ List.prefix_append _ _)
  refine ⟨_, if_pos hprefix, ?_, rfl⟩
  simp only [h, List.drop_left]

/-- What is passed stands in front of what is left. -/
theorem rest_of_pass? {text : String} (h : c.pass? text = some c') :
    c.rest = text.toList ++ c'.rest ∧ c'.free = c.free := by
  simp only [pass?] at h
  split at h
  · rename_i hprefix
    cases h
    obtain ⟨l, hl⟩ := List.isPrefixOf_iff_prefix.mp hprefix
    simp [← hl]
  · cases h

theorem pass?_suffix {text : String} (h : c.pass? text = some c') : c'.rest <:+ c.rest := by
  rw [(rest_of_pass? h).1]
  exact List.suffix_append _ _

/-- Something is passed by a text that is not empty. -/
theorem pass?_suffix_tail {text : String} (h : c.pass? text = some c') (ht : text.toList ≠ []) :
    c'.rest <:+ c.rest.tail := by
  rw [(rest_of_pass? h).1, List.tail_append_of_ne_nil ht]
  exact List.suffix_append _ _

end Cursor

/-! ## Readers -/

section

variable (cause : Cause) (span : Span) (a : α) (k : α → Except Fault β)

theorem fail_bind : (Cursor.fail cause span >>= k) = Cursor.fail cause span := rfl

theorem ok_bind : ((.ok a : Except Fault α) >>= k) = k a := rfl

end

/-- Whether a reader, if it comes to an end, leaves an end of a text. -/
def Leaves (q : List Char) (x : Except Fault (α × Cursor)) : Prop :=
  ∀ a c, x = .ok (a, c) → c.rest <:+ q

theorem Leaves.fail (cause : Cause) (span : Span) :
    Leaves q (Cursor.fail cause span : Except Fault (α × Cursor)) := nofun

theorem Leaves.error (f : Fault) : Leaves q (.error f : Except Fault (α × Cursor)) := nofun

theorem Leaves.ok {a : α} (h : c.rest <:+ q) : Leaves q (.ok (a, c)) := by
  rintro _ _ ⟨⟩
  exact h

theorem Leaves.mono {x : Except Fault (α × Cursor)} (h : Leaves q x) (hq : q <:+ q') :
    Leaves q' x := fun a c hx => (h a c hx).trans hq

theorem Leaves.bind {x : Except Fault (α × Cursor)} {k : α × Cursor → Except Fault (β × Cursor)}
    (h : Leaves q x) (hk : ∀ a c, c.rest <:+ q → Leaves q (k (a, c))) : Leaves q (x >>= k) := by
  rcases x with f | ⟨a, c⟩
  · exact .error f
  · exact hk a c (h a c rfl)

theorem Leaves.map {x : Except Fault (α × Cursor)} (h : Leaves q x) (f : α → β) :
    Leaves q (x.map fun (a, c) => (f a, c)) := by
  rcases x with f | ⟨a, c⟩
  · exact .error f
  · exact .ok (h a c rfl)

/-! ## Atoms -/

namespace Atom

theorem leaves_fixedHex (n : Nat) (ds : List Char) (c : Cursor) :
    Leaves c.rest (fixedHex n ds c) := by
  induction n generalizing ds c with
  | zero => exact .ok (List.suffix_refl _)
  | succ n ih =>
    rw [fixedHex]
    split
    · exact .fail _ _
    · split
      · exact (ih _ _).mono c.advance_suffix_rest
      · exact .fail _ _

theorem leaves_bracedHex (fuel : Nat) (ds : List Char) (c : Cursor) :
    Leaves c.rest (bracedHex fuel ds c) := by
  induction fuel generalizing ds c with
  | zero => exact .ok (List.suffix_refl _)
  | succ fuel ih =>
    rw [bracedHex]
    split
    · exact .ok (List.suffix_refl _)
    · split
      · exact .ok (List.suffix_refl _)
      · split
        · exact (ih _ _).mono c.advance_suffix_rest
        · exact .fail _ _

theorem leaves_numbered (start : Position) (kind : Char) (c : Cursor) :
    Leaves c.rest.tail (numbered start kind c) := by
  simp only [numbered]
  split
  · exact .fail _ _
  · split
    · have hbraced := leaves_bracedHex c.advance.rest.length [] c.advance.advance
      split
      · exact .error _
      · rename_i ds d hd
        have hd : d.rest <:+ c.rest.tail :=
          ((hbraced _ _ hd).trans c.advance.advance_suffix_rest).trans c.advance_suffix
        split
        · exact .fail _ _
        · split
          · exact .fail _ _
          · split
            · exact .fail _ _
            · exact .ok (d.advance_suffix_rest.trans hd)
    · have hfixed := leaves_fixedHex (digitCount kind) [] c.advance
      split
      · exact .error _
      · rename_i ds d hd
        split
        · exact .fail _ _
        · exact .ok ((hfixed _ _ hd).trans c.advance_suffix)

theorem bracedName_suffix (fuel : Nat) (name : List Char) (c : Cursor) :
    (bracedName fuel name c).2.rest <:+ c.rest := by
  induction fuel generalizing name c with
  | zero => exact List.suffix_refl _
  | succ fuel ih =>
    rw [bracedName]
    split
    · exact List.suffix_refl _
    · split
      · exact List.suffix_refl _
      · exact (ih _ _).trans c.advance_suffix_rest

theorem boundaryName_suffix (fuel : Nat) (name : List Char) (c : Cursor) :
    (boundaryName fuel name c).2.rest <:+ c.rest := by
  induction fuel generalizing name c with
  | zero => exact List.suffix_refl _
  | succ fuel ih =>
    rw [boundaryName]
    split
    · exact List.suffix_refl _
    · split
      · exact (ih _ _).trans c.advance_suffix_rest
      · exact List.suffix_refl _

theorem leaves_propertyClass (start : Position) (c : Cursor) :
    Leaves c.rest.tail (propertyClass start c) := by
  simp only [propertyClass]
  split
  · exact .fail _ _
  · split
    · have hname := bracedName_suffix c.advance.rest.length [] c.advance.advance
      split
      · exact .fail _ _
      · exact .ok (((Cursor.next_suffix_rest _).trans hname).trans
          (c.advance.advance_suffix_rest.trans c.advance_suffix))
    · split
      · exact .fail _ _
      · exact .ok (c.advance.advance_suffix_rest.trans c.advance_suffix)

theorem leaves_boundaryBraces (start : Position) (c : Cursor) :
    Leaves c.rest (boundaryBraces start c) := by
  simp only [boundaryBraces]
  split
  · exact .fail _ _
  · split
    · exact .ok (List.suffix_refl _)
    · have hname := boundaryName_suffix c.advance.rest.length [] c.advance
      split
      · exact .fail _ _
      · split
        · exact .ok (((Cursor.next_suffix_rest _).trans hname).trans c.advance_suffix_rest)
        · exact .fail _ _

theorem leaves_escape (c : Cursor) : Leaves c.rest.tail (escape c) := by
  have hafter : c.next.next.rest <:+ c.rest.tail := c.next.next_suffix_rest.trans c.next_suffix
  simp only [escape]
  split
  · exact .fail _ _
  · split
    · exact .fail _ _
    · split
      · exact (leaves_numbered _ _ _).mono ((List.tail_suffix _).trans c.next_suffix)
      · split
        · exact (leaves_propertyClass _ _).mono ((List.tail_suffix _).trans c.next_suffix)
        · split
          · exact .ok hafter
          · split
            · exact .ok hafter
            · split
              · exact .ok hafter
              · exact .ok hafter
              · split
                · split
                  · have hbraces := leaves_boundaryBraces c.loc c.next.next
                    split
                    · exact .error _
                    · rename_i kind d hd
                      exact .ok ((hbraces _ _ hd).trans hafter)
                    · rename_i d hd
                      exact .ok ((hbraces _ _ hd).trans hafter)
                  · exact .ok hafter
                · exact .fail _ _

theorem leaves_read (c : Cursor) : Leaves c.rest.tail (read c) := by
  have hnext := c.next_suffix
  unfold read
  split
  · exact .fail _ _
  · split
    · exact leaves_escape c
    · split
      · exact .ok hnext
      · split
        · exact .ok hnext
        · split <;> exact .ok hnext

theorem leaves_readInClass (c : Cursor) : Leaves c.rest.tail (readInClass c) := by
  unfold readInClass
  split
  · exact .fail _ _
  · split
    · exact leaves_escape c
    · exact .ok c.next_suffix

end Atom

/-! ## Openings of groups -/

namespace Opening

theorem leaves_nameChars (fuel : Nat) (name : List Char) (c : Cursor) :
    Leaves c.rest (nameChars fuel name c) := by
  induction fuel generalizing name c with
  | zero => exact .ok (List.suffix_refl _)
  | succ fuel ih =>
    rw [nameChars]
    split
    · exact .ok (List.suffix_refl _)
    · split
      · exact .ok (List.suffix_refl _)
      · split
        · exact (ih _ _).mono c.next_suffix_rest
        · exact .fail _ _

theorem name_eq (used : List NamedGroup) (c : Cursor) :
    name used c = match nameChars c.rest.length [] c with
      | .error f => .error f
      | .ok (chars, d) =>
        if d.atEnd then Cursor.fail .groupNameUnclosed d.point
        else if chars.isEmpty then Cursor.fail .groupNameEmpty (.point c.loc)
        else match used.find? (·.name = String.ofList chars) with
          | some earlier => .error
            { cause := .groupNameDuplicate, span := ⟨c.loc, d.loc⟩, other := earlier.span }
          | none => .ok (⟨String.ofList chars, ⟨c.loc, d.loc⟩⟩, d.next) := by
  unfold name
  rcases nameChars c.rest.length [] c with f | ⟨chars, d⟩
  · rfl
  · simp only [ok_bind, fail_bind]
    rfl

theorem leaves_name (used : List NamedGroup) (c : Cursor) : Leaves c.rest (name used c) := by
  have hchars := leaves_nameChars c.rest.length [] c
  rw [name_eq]
  split
  · exact .error _
  · rename_i chars d hd
    split
    · exact .fail _ _
    · split
      · exact .fail _ _
      · split
        · exact .error _
        · exact .ok (d.next_suffix_rest.trans (hchars _ _ hd))

/-- The sign of a character. -/
def sign? (a : Char) : Option FlagSign :=
  if a = '-' then some .negation else (flag? a).map .flag

/-- The end of the signs: the last one must not negate. -/
def endSigns (done : List (FlagSign × Span)) (c : Cursor) :
    Except Fault (List FlagSign × Cursor) :=
  match done with
  | (.negation, span) :: _ => Cursor.fail .flagDanglingNegation span
  | _ => .ok (done.reverse.map (·.1), c)

theorem signs_succ (fuel : Nat) (done : List (FlagSign × Span)) (c : Cursor) :
    signs (fuel + 1) done c = match c.rest with
      | [] => Cursor.fail .flagIncomplete c.point
      | a :: _ =>
        if a = ':' ∨ a = ')' then endSigns done c
        else match sign? a with
          | none => Cursor.fail .flagUnknown c.charSpan
          | some sign =>
            match done.find? (·.1 = sign) with
            | some (_, earlier) => .error
              { cause := if a = '-' then .flagRepeatedNegation else .flagDuplicate
                span := c.charSpan, other := earlier }
            | none => signs fuel ((sign, c.charSpan) :: done) c.next := by
  conv => lhs; unfold signs
  cases c.rest with
  | nil => rfl
  | cons a l =>
    simp only
    split
    · rfl
    · by_cases ha : a = '-'
      · simp [sign?, ha]
        rfl
      · cases hf : flag? a with
        | none => simp [sign?, ha, hf, fail_bind]
        | some f =>
          simp [sign?, ha, hf]
          rfl

theorem leaves_signs (fuel : Nat) (done : List (FlagSign × Span)) (c : Cursor) :
    Leaves c.rest (signs fuel done c) := by
  induction fuel generalizing done c with
  | zero => exact .fail _ _
  | succ fuel ih =>
    rw [signs_succ]
    split
    · exact .fail _ _
    · split
      · unfold endSigns
        split
        · exact .fail _ _
        · exact .ok (List.suffix_refl _)
      · split
        · exact .fail _ _
        · split
          · exact .error _
          · exact (ih _ _).mono c.next_suffix_rest

theorem leaves_read (used : List NamedGroup) (c : Cursor) : Leaves c.rest.tail (read used c) := by
  have hpass {text : String} {d : Cursor} (h : c.advance.pass? text = some d) :
      d.rest <:+ c.rest.tail := (Cursor.pass?_suffix h).trans c.advance_suffix
  simp only [read]
  split
  · exact .fail _ _
  · split
    · rename_i d hd
      have hd : d.rest <:+ c.rest.tail := by
        rcases hname : c.advance.pass? "?P<" with _ | e <;> rw [hname] at hd
        · exact hpass hd
        · cases hd
          exact hpass hname
      exact ((leaves_name _ _).mono hd).bind fun group e he => .ok he
    · split
      · exact .ok c.advance_suffix
      · rename_i inner hinner
        split
        · exact .fail _ _
        · refine ((leaves_signs _ _ _).mono (hpass hinner)).bind fun given stop hstop => ?_
          have hnext : stop.next.rest <:+ c.rest.tail := stop.next_suffix_rest.trans hstop
          dsimp only
          split
          · split
            · exact .fail _ _
            · exact .ok hnext
          · exact .ok hnext

end Opening

/-! ## Classes -/

namespace Bracket

/-- Past the sign that negates a named class, and whether it is there. -/
def unnegated (c : Cursor) : Bool × Cursor :=
  match c.pass? "^" with
  | some after => (true, after)
  | none => (false, c)

/-- The name up to a colon. -/
def nameOf (c : Cursor) : List Char := c.rest.takeWhile (· != ':')

/-- Past the name. -/
def pastName (c : Cursor) : Cursor :=
  { c with rest := c.rest.drop (nameOf c).length, loc := (nameOf c).foldl Position.after c.loc }

theorem named?_eq (c : Cursor) :
    named? c = (c.pass? "[:").bind fun inner =>
      ((pastName (unnegated inner).2).pass? ":]").bind fun after =>
        (namedClass? (String.ofList (nameOf (unnegated inner).2))).map fun kind =>
          (.named ⟨c.loc, after.loc⟩ (unnegated inner).1 kind, after) := by
  unfold named?
  simp only [Option.bind_eq_bind]
  congr 1
  funext inner
  congr 1
  funext after
  change ((namedClass? (String.ofList (nameOf (unnegated inner).2))).bind fun kind =>
    some (ClassTerm.named ⟨c.loc, after.loc⟩ (unnegated inner).1 kind, after)) = _
  cases namedClass? (String.ofList (nameOf (unnegated inner).2)) <;> rfl

theorem unnegated_suffix (c : Cursor) : (unnegated c).2.rest <:+ c.rest := by
  unfold unnegated
  split
  · rename_i after h
    exact Cursor.pass?_suffix h
  · exact List.suffix_refl _

theorem named?_suffix {x : ClassTerm × Cursor} (h : named? c = some x) :
    x.2.rest <:+ c.rest.tail := by
  simp only [named?_eq, Option.bind_eq_some_iff, Option.map_eq_some_iff] at h
  obtain ⟨inner, hinner, after, hafter, kind, -, rfl⟩ := h
  have hname : (pastName (unnegated inner).2).rest <:+ (unnegated inner).2.rest :=
    List.drop_suffix _ _
  exact ((Cursor.pass?_suffix hafter).trans (hname.trans (unnegated_suffix inner))).trans
    (Cursor.pass?_suffix_tail hinner (by decide))

theorem leaves_hyphens (start : Position) (fuel : Nat) (items : Items) (c : Cursor) :
    Leaves c.rest (hyphens start fuel items c) := by
  induction fuel generalizing items c with
  | zero => exact .ok (List.suffix_refl _)
  | succ fuel ih =>
    simp only [hyphens]
    split
    · split
      · exact .fail _ _
      · exact (ih _ _).mono c.advance_suffix_rest
    · exact .ok (List.suffix_refl _)

/-- Past the sign that negates a bracketed class. -/
def inside (c : Cursor) : Cursor := if c.sees '^' then c.advance else c

theorem inside_suffix (c : Cursor) : (inside c).rest <:+ c.rest := by
  unfold inside
  split
  · exact c.advance_suffix_rest
  · exact List.suffix_refl _

theorem opening_eq (c : Cursor) :
    opening c =
      if c.advance.atEnd then Cursor.fail .classUnclosed ⟨c.loc, c.advance.loc⟩
      else if (inside c.advance).atEnd then
        Cursor.fail .classUnclosed ⟨c.loc, (inside c.advance).loc⟩
      else match hyphens c.loc (inside c.advance).rest.length (.emptyAt (inside c.advance).loc)
          (inside c.advance) with
        | .error f => .error f
        | .ok (items, d) =>
          if items.items.isEmpty && d.sees ']' then
            if d.advance.atEnd then Cursor.fail .classUnclosed ⟨c.loc, d.advance.loc⟩
            else .ok (⟨c.loc, d.advance.loc⟩, c.advance.sees '^',
              items.push (.literal { span := d.charSpan, char := ']' }), d.advance)
          else .ok (⟨c.loc, d.loc⟩, c.advance.sees '^', items, d) := by
  have hinside : (if c.advance.sees '^' then c.advance.advance else c.advance) =
    inside c.advance := rfl
  unfold opening
  simp only [fail_bind, hinside]
  split
  · rfl
  · split
    · rfl
    · rcases hyphens c.loc (inside c.advance).rest.length (.emptyAt (inside c.advance).loc)
        (inside c.advance) with f | ⟨items, d⟩ <;> rfl

theorem opening_suffix {span : Span} {negated : Bool} {items : Items} {d : Cursor}
    (h : opening c = .ok (span, negated, items, d)) : d.rest <:+ (inside c.advance).rest := by
  have hhyphens := leaves_hyphens c.loc (inside c.advance).rest.length
    (.emptyAt (inside c.advance).loc) (inside c.advance)
  rw [opening_eq] at h
  split at h
  · cases h
  · split at h
    · cases h
    · split at h
      · cases h
      · rename_i items' d' hd
        have hsuffix := hhyphens _ _ hd
        split at h
        · split at h
          · cases h
          · cases h
            exact d'.advance_suffix_rest.trans hsuffix
        · cases h
          exact hsuffix

/-- A range, of two atoms. -/
def rangeOf (first second : Atom) : Except Fault ClassTerm := do
  let low ← rangeEnd first
  let high ← rangeEnd second
  let span : Span := ⟨low.span.start, high.span.stop⟩
  if high.char < low.char then Cursor.fail .classRangeInvalid span
  else return .range span low high

/-- The other end of a range. -/
def rangeTo (first : Atom) (c : Cursor) : Except Fault (ClassTerm × Cursor) :=
  (Atom.readInClass c).bind fun (second, d) => (rangeOf first second).map fun t => (t, d)

/-- What follows the first atom of an item: nothing, or the other end of a range. -/
def rangeBehind (levels : List Level) (first : Atom) (c : Cursor) :
    Except Fault (ClassTerm × Cursor) :=
  if c.atEnd then .error (unclosed levels)
  else if !c.sees '-' || c.secondSolid? == some ']' || c.secondSolid? == some '-' then
    (item first).map fun t => (t, c)
  else if c.advance.atEnd then .error (unclosed levels)
  else rangeTo first c.advance

theorem rangeOrItem_eq (levels : List Level) (c : Cursor) :
    rangeOrItem levels c =
      (Atom.readInClass c).bind fun (first, d) => rangeBehind levels first d.skip := by
  unfold rangeOrItem
  rcases Atom.readInClass c with f | ⟨first, d⟩
  · rfl
  · simp only [ok_bind, Except.bind, rangeBehind]
    split
    · rfl
    · split
      · cases item first <;> rfl
      · split
        · rfl
        · rcases he : Atom.readInClass d.skip.advance with f | ⟨second, e⟩
          · rw [rangeTo, he]
            rfl
          · simp only [ok_bind, rangeTo, rangeOf, he, Except.bind]
            cases rangeEnd first with
            | error f => rfl
            | ok low =>
              cases rangeEnd second with
              | error f => rfl
              | ok high =>
                simp only [ok_bind]
                split <;> rfl

theorem leaves_rangeTo (first : Atom) (c : Cursor) : Leaves c.rest.tail (rangeTo first c) := by
  refine (Atom.leaves_readInClass c).bind fun second d hd => ?_
  simp only
  cases rangeOf first second with
  | error f => exact .error f
  | ok t => exact .ok hd

theorem leaves_rangeBehind (levels : List Level) (first : Atom) (c : Cursor) :
    Leaves c.rest (rangeBehind levels first c) := by
  unfold rangeBehind
  split
  · exact .error _
  · split
    · cases item first with
      | error f => exact .error f
      | ok t => exact .ok (List.suffix_refl _)
    · split
      · exact .error _
      · exact (leaves_rangeTo first c.advance).mono
          ((List.tail_suffix _).trans c.advance_suffix_rest)

theorem leaves_rangeOrItem (levels : List Level) (c : Cursor) :
    Leaves c.rest.tail (rangeOrItem levels c) := by
  rw [rangeOrItem_eq]
  exact (Atom.leaves_readInClass c).bind fun first d hd =>
    (leaves_rangeBehind levels first d.skip).mono (d.skip_suffix.trans hd)

theorem operator?_suffix {x : ClassOp × Cursor} (h : operator? c = some x) :
    x.2.rest <:+ c.rest.tail := by
  unfold operator? at h
  rcases hand : c.pass? "&&" with _ | d
  · rcases hminus : c.pass? "--" with _ | d
    · rcases htilde : c.pass? "~~" with _ | d
      · simp [hand, hminus, htilde] at h
      · simp only [hand, hminus, htilde] at h
        cases h
        exact Cursor.pass?_suffix_tail htilde (by decide)
    · simp only [hand, hminus] at h
      cases h
      exact Cursor.pass?_suffix_tail hminus (by decide)
  · simp only [hand] at h
    cases h
    exact Cursor.pass?_suffix_tail hand (by decide)

/-- One more level, past the opening of a class. -/
def descend (n : Nat) (levels : List Level) (items : Items) (c : Cursor) :
    Except Fault (Ast × Cursor) :=
  match opening c with
  | .error f => .error f
  | .ok (span, negated, inner, d) => loop n (.opened items span negated :: levels) inner d

/-- A step at an opening bracket: a class of a name, or one more level. -/
def atOpening (n : Nat) (levels : List Level) (items : Items) (c : Cursor) :
    Except Fault (Ast × Cursor) :=
  match if levels.isEmpty then none else named? c with
  | some (t, d) => loop n levels (items.push t) d
  | none => descend n levels items c

/-- A step at a closing bracket: one level less. -/
def atClosing (n : Nat) (levels : List Level) (items : Items) (c : Cursor) :
    Except Fault (Ast × Cursor) :=
  match join levels items.close with
  | (body, .opened outer span negated :: rest) =>
    let d := c.next
    if rest.isEmpty then .ok (.bracketed (span.upTo d.loc) negated body, d)
    else loop n rest (outer.push (.bracketed (span.upTo d.loc) negated body)) d
  | (_, levels) => .error (unclosed levels)

/-- A step at anything else: an operator or an item. -/
def atItem (n : Nat) (levels : List Level) (items : Items) (c : Cursor) :
    Except Fault (Ast × Cursor) :=
  match operator? c with
  | some (kind, d) =>
    loop n (.waiting kind (join levels items.close).1 :: (join levels items.close).2)
      (.emptyAt d.loc) d
  | none => match rangeOrItem levels c with
    | .error f => .error f
    | .ok (t, d) => loop n levels (items.push t) d

theorem loop_succ (n : Nat) (levels : List Level) (items : Items) (c : Cursor) :
    loop (n + 1) levels items c =
      if c.skip.atEnd then .error (unclosed levels)
      else if c.skip.sees '[' then atOpening n levels items c.skip
      else if c.skip.sees ']' then atClosing n levels items c.skip
      else atItem n levels items c.skip := by
  unfold atOpening descend atClosing atItem
  conv => lhs; unfold loop
  simp only
  split
  · rfl
  · split
    · rcases (if levels.isEmpty then none else named? c.skip) with _ | ⟨t, d⟩
      · rcases opening c.skip with f | ⟨span, negated, inner, d⟩ <;> rfl
      · rfl
    · split
      · rcases join levels items.close with ⟨body, _ | ⟨_ | _, rest⟩⟩ <;> rfl
      · rcases operator? c.skip with _ | ⟨kind, d⟩
        · rcases rangeOrItem levels c.skip with f | ⟨t, d⟩ <;> rfl
        · rfl

/-- A class leaves what stands behind a closing bracket. -/
theorem loop_suffix {fuel : Nat} {levels : List Level} {items : Items} {c d : Cursor} {a : Ast}
    (h : loop fuel levels items c = .ok (a, d)) : ']' :: d.rest <:+ c.skip.rest := by
  induction fuel generalizing levels items c with
  | zero => cases h
  | succ fuel ih =>
    rw [loop_succ] at h
    have htail {e : Cursor} (he : e.rest <:+ c.skip.rest.tail)
        (hd : ']' :: d.rest <:+ e.skip.rest) : ']' :: d.rest <:+ c.skip.rest :=
      hd.trans (e.skip_suffix.trans (he.trans (List.tail_suffix _)))
    split at h
    · cases h
    · split at h
      · unfold atOpening descend at h
        split at h
        · rename_i t e ht
          split at ht
          · cases ht
          · exact htail (named?_suffix ht) (ih h)
        · split at h
          · cases h
          · rename_i span negated inner e he
            exact htail (((opening_suffix he).trans (inside_suffix _)).trans c.skip.advance_suffix)
              (ih h)
      · split at h
        · rename_i hsees
          unfold atClosing at h
          split at h
          · simp only at h
            split at h
            · cases h
              obtain ⟨l, hl⟩ := Cursor.sees_iff.mp hsees
              simp [hl]
            · exact htail c.skip.next_suffix (ih h)
          · cases h
        · unfold atItem at h
          split at h
          · rename_i kind e he
            exact htail (operator?_suffix he) (ih h)
          · have hitem := leaves_rangeOrItem levels c.skip
            split at h
            · cases h
            · rename_i t e he
              exact htail (hitem _ _ he) (ih h)

theorem leaves_read (c : Cursor) : Leaves c.rest.tail (read c) := by
  intro a d h
  obtain ⟨front, hfront⟩ := (loop_suffix h).trans c.skip_suffix
  rw [← hfront]
  cases front with
  | nil => exact List.suffix_refl _
  | cons b front => exact (List.suffix_cons _ _).trans (List.suffix_append _ _)

end Bracket

/-! ## Repetitions, groups and steps -/

namespace Reading

theorem lazily_suffix (c : Cursor) : (lazily c).2.rest <:+ c.rest := by
  unfold lazily
  split
  · exact c.next_suffix_rest
  · exact List.suffix_refl _

theorem digits_suffix (fuel : Nat) (done : List Char) (c : Cursor) :
    (digits fuel done c).2.rest <:+ c.rest := by
  induction fuel generalizing done c with
  | zero => exact List.suffix_refl _
  | succ fuel ih =>
    rw [digits]
    split
    · exact List.suffix_refl _
    · split
      · exact (ih _ _).trans c.advance_suffix_rest
      · exact List.suffix_refl _

theorem count_suffix (c : Cursor) : (count c).2.rest <:+ c.rest :=
  (Cursor.dropBlanks_suffix _).trans ((digits_suffix _ _ _).trans c.dropBlanks_suffix)

/-- What follows a first count and a comma. -/
def boundsBehind (start : Position) (first : Except Fault Nat) (c : Cursor) :
    Except Fault ((Nat × Option Nat) × Cursor) :=
  if c.atEnd then Cursor.fail .repetitionUnclosed ⟨start, c.loc⟩
  else if c.sees '\x7d' then first.map fun low => ((low, none), c)
  else first.bind fun low => (count c).1.bind fun high =>
    if (count c).2.sees '\x7d' then .ok ((low, some high), (count c).2)
    else Cursor.fail .repetitionUnclosed ⟨start, (count c).2.loc⟩

theorem bounds_eq (start : Position) (c : Cursor) :
    bounds start c =
      if c.atEnd then Cursor.fail .repetitionUnclosed ⟨start, c.loc⟩
      else if (count c).2.atEnd then Cursor.fail .repetitionUnclosed ⟨start, (count c).2.loc⟩
      else if (count c).2.sees ',' then boundsBehind start (count c).1 (count c).2.advance
      else (count c).1.bind fun n =>
        if (count c).2.sees '\x7d' then .ok ((n, some n), (count c).2)
        else Cursor.fail .repetitionUnclosed ⟨start, (count c).2.loc⟩ := by
  unfold bounds boundsBehind
  split
  · rfl
  · rcases count c with ⟨first, d⟩
    simp only
    split
    · rfl
    · split
      · split
        · rfl
        · split
          · cases first <;> rfl
          · rfl
      · rfl

theorem leaves_boundsBehind (start : Position) (first : Except Fault Nat) (c : Cursor) :
    Leaves c.rest (boundsBehind start first c) := by
  unfold boundsBehind
  split
  · exact .fail _ _
  · split
    · cases first with
      | error f => exact .error f
      | ok low => exact .ok (List.suffix_refl _)
    · cases first with
      | error f => exact .error f
      | ok low =>
        cases (count c).1 with
        | error f => exact .error f
        | ok high =>
          simp only [Except.bind]
          split
          · exact .ok (count_suffix _)
          · exact .fail _ _

theorem leaves_bounds (start : Position) (c : Cursor) : Leaves c.rest (bounds start c) := by
  have hcount := count_suffix c
  rw [bounds_eq]
  split
  · exact .fail _ _
  · split
    · exact .fail _ _
    · split
      · exact (leaves_boundsBehind _ _ _).mono ((count c).2.advance_suffix_rest.trans hcount)
      · cases (count c).1 with
        | error f => exact .error f
        | ok n =>
          simp only [Except.bind]
          split
          · exact .ok hcount
          · exact .fail _ _

/-- With a part repeated, in place of the part. -/
def repeated (r : Reading) (low : Nat) (high : Option Nat) (greedy : Bool) (body : Ast)
    (before : Sequence) (c : Cursor) : Reading :=
  { r with
    cursor := c
    current := ⟨before.start, .repetition (body.span.upTo c.loc) low high greedy body ::
      before.parts⟩ }

theorem sign_eq (r : Reading) (low : Nat) (high : Option Nat) :
    r.sign low high = r.operand.map fun (body, before) =>
      r.repeated low high (lazily r.cursor.next).1 body before (lazily r.cursor.next).2 := by
  unfold sign
  rcases r.operand with f | ⟨body, before⟩ <;> rfl

theorem counted_eq (r : Reading) :
    r.counted = r.operand.bind fun (body, before) =>
      (bounds r.cursor.loc r.cursor.advance).bind fun ((low, high), c) =>
        if (high.map fun h => decide (h < low)).getD false then
          Cursor.fail .repetitionRangeInvalid ⟨r.cursor.loc, (lazily c.advance).2.loc⟩
        else .ok (r.repeated low high (lazily c.advance).1 body before (lazily c.advance).2) := by
  rfl

/-- After an opening. -/
def opened (r : Reading) (opening : Opening) (c : Cursor) : Reading :=
  match opening with
  | .flags signs => r.push (.flags ⟨r.cursor.loc, c.loc⟩ signs)
      { c with free := (FlagSign.state? signs .freeSpacing).getD c.free }
  | .plain signs =>
    r.enter (.plain signs) ((FlagSign.state? signs .freeSpacing).getD c.free) c
  | .capture name =>
    { r with groups := r.groups + 1, names := name.toList ++ r.names }.enter
      (.capture (r.groups + 1)) c.free c

theorem openGroup_eq (r : Reading) :
    r.openGroup = (Opening.read r.names r.cursor).map fun (opening, c) => r.opened opening c := by
  unfold openGroup
  rcases Opening.read r.names r.cursor with f | ⟨opening, c⟩
  · rfl
  · cases opening <;> rfl

@[simp] theorem opened_rest (r : Reading) (opening : Opening) (c : Cursor) :
    (r.opened opening c).cursor.rest = c.rest := by
  cases opening <;> rfl

theorem sign_suffix {r r' : Reading} {low : Nat} {high : Option Nat}
    (h : r.sign low high = .ok r') : r'.cursor.rest <:+ r.cursor.rest.tail := by
  rw [sign_eq] at h
  rcases hoperand : r.operand with f | ⟨body, before⟩ <;> rw [hoperand] at h <;> cases h
  exact (lazily_suffix _).trans (Cursor.next_suffix _)

theorem counted_suffix {r r' : Reading} (h : r.counted = .ok r') :
    r'.cursor.rest <:+ r.cursor.rest.tail := by
  have hbounds := leaves_bounds r.cursor.loc r.cursor.advance
  rw [counted_eq] at h
  rcases hoperand : r.operand with f | ⟨body, before⟩ <;> rw [hoperand] at h
  · cases h
  · rcases hx : bounds r.cursor.loc r.cursor.advance with f | ⟨⟨low, high⟩, c⟩ <;>
      simp only [hx, Except.bind] at h
    · cases h
    · split at h
      · cases h
      · cases h
        exact ((lazily_suffix _).trans c.advance_suffix_rest).trans
          ((hbounds _ _ hx).trans r.cursor.advance_suffix)

theorem closeGroup_suffix {r r' : Reading} (h : r.closeGroup = .ok r') :
    r'.cursor.rest <:+ r.cursor.rest.tail := by
  simp only [closeGroup] at h
  split at h
  · cases h
    exact Cursor.next_suffix _
  · cases h

/-- A step takes a character at least. -/
theorem step_suffix {r r' : Reading} (h : r.step a = .ok r') :
    r'.cursor.rest <:+ r.cursor.rest.tail := by
  have hpush {x : Except Fault (Atom × Cursor)} (hx : Leaves r.cursor.rest.tail x)
      (h : (x.map fun (atom, c) => r.push atom.toAst c) = .ok r') :
      r'.cursor.rest <:+ r.cursor.rest.tail := by
    rcases x with f | ⟨atom, c⟩ <;> cases h
    exact hx _ _ rfl
  unfold step at h
  split at h
  · rw [openGroup_eq] at h
    rcases hx : Opening.read r.names r.cursor with f | ⟨opening, c⟩ <;> rw [hx] at h <;> cases h
    rw [opened_rest]
    exact Opening.leaves_read _ _ _ _ hx
  · exact closeGroup_suffix h
  · cases h
    exact Cursor.next_suffix _
  · rcases hx : Bracket.read r.cursor with f | ⟨part, c⟩ <;> rw [hx] at h <;> cases h
    exact Bracket.leaves_read _ _ _ hx
  · exact sign_suffix h
  · exact sign_suffix h
  · exact sign_suffix h
  · exact counted_suffix h
  · exact hpush (Atom.leaves_read _) h

end Reading

end Testbed.Regex
