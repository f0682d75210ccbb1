import Testbed.Proofs.Regex.Leaves

/-!
# Readers before more text

A reader can be given a text, or the same text with signs behind it that close a group or end an
expression. The two cursors stay in step (`Cursor.Longer`) while the reader is inside the text.

**Alike readers** (`Alike`). What is read from the text alone is read from the longer one too. What
fails alone, because the text ends too early or is wrong, may be read from the longer one, but then
it takes some of what is behind; how much is stated for each reader.

**Character by character** (`TakesChars`). Readers that take characters up to some sign, or as long
as they fit, are alike for one reason, whatever they take.
-/

namespace Testbed.Regex

variable {α β : Type} {t l : List Char} {a : Char} {c c' d d' : Cursor}

/-! ## Cursors -/

/-- Whether a text consists of signs that close a group or end an expression. -/
def Closing (t : List Char) : Prop := ∀ a ∈ t, a = ')' ∨ a = '$'

theorem Closing.suffix (ht : Closing t) (h : l <:+ t) : Closing l := fun a ha => ht a (h.subset ha)

namespace Cursor

/-- The second cursor has what the first one has and a text behind it, unless a comment at the end
has swallowed that text. -/
structure Longer (t : List Char) (c c' : Cursor) : Prop where
  free : c'.free = c.free
  rest : c'.rest = c.rest ++ t ∨ c.rest = [] ∧ c'.rest = []

theorem Longer.cons (h : c.Longer t c') (hc : c.rest = a :: l) : c'.rest = a :: (l ++ t) := by
  obtain hrest | ⟨hnil, -⟩ := h.rest
  · rw [hrest, hc, List.cons_append]
  · rw [hc] at hnil
    cases hnil

theorem Longer.nil (h : c.Longer t c') (hc : c.rest = []) : c'.rest = t ∨ c'.rest = [] := by
  obtain hrest | ⟨-, hrest⟩ := h.rest
  · exact .inl (by rw [hrest, hc, List.nil_append])
  · exact .inr hrest

/-- At the end of the first text, the second one has closing signs at most. -/
theorem Longer.suffix (h : c.Longer t c') (hc : c.rest = []) : c'.rest <:+ t := by
  obtain hrest | hrest := h.nil hc
  · exact hrest ▸ List.suffix_refl _
  · exact hrest ▸ List.nil_suffix

/-- At the end of the first text, the second one is at its end or at a closing sign. -/
theorem Longer.ended (ht : Closing t) (h : c.Longer t c') (hc : c.rest = []) :
    c'.rest = [] ∨ ∃ b, (b = ')' ∨ b = '$') ∧ c'.rest = b :: t.tail ∧ t = b :: t.tail := by
  obtain hrest | hrest := h.nil hc
  · cases t with
    | nil => exact .inl hrest
    | cons b t => exact .inr ⟨b, ht b List.mem_cons_self, hrest, rfl⟩
  · exact .inl hrest

theorem Longer.next (h : c.Longer t c') (hc : c.rest = a :: l) : c.next.Longer t c'.next where
  free := by rw [free_next, free_next, h.free]
  rest := .inl (by rw [rest_next, rest_next, h.cons hc, hc]; rfl)

theorem Longer.setFree (h : c.Longer t c') (free : Bool) :
    Longer t { c with free } { c' with free } := ⟨rfl, h.rest⟩

/-- A comment swallows what has no line end. -/
theorem skipBlanks_comment (ht : Closing t) (p : Position) : (skipBlanks true t p).1 = [] := by
  induction t generalizing p with
  | nil => rfl
  | cons b t ih =>
    have hb : (b != '\n') = true := by
      obtain rfl | rfl := ht b List.mem_cons_self <;> rfl
    rw [skipBlanks, if_pos rfl, hb]
    exact ih (fun a ha => ht a (List.mem_cons_of_mem b ha)) _

theorem not_isBlank (ht : Closing t) (ha : a ∈ t) : Text.isBlank a = false := by
  obtain rfl | rfl := ht a ha <;> decide

theorem skipBlanks_closing (ht : Closing t) (p : Position) : (skipBlanks false t p).1 = t := by
  cases t with
  | nil => rfl
  | cons b t =>
    have hb : b ≠ '#' := by
      obtain rfl | rfl := ht b List.mem_cons_self <;> decide
    simp [skipBlanks, not_isBlank ht List.mem_cons_self, hb]

theorem skipBlanks_append (ht : Closing t) (comment : Bool) (l : List Char) (p p' : Position) :
    (skipBlanks comment (l ++ t) p').1 = (skipBlanks comment l p).1 ++ t ∨
      (skipBlanks comment l p).1 = [] ∧ (skipBlanks comment (l ++ t) p').1 = [] := by
  induction l generalizing comment p p' with
  | nil =>
    cases comment with
    | true => exact .inr ⟨rfl, skipBlanks_comment ht p'⟩
    | false => exact .inl (skipBlanks_closing ht p')
  | cons a l ih =>
    rw [List.cons_append, skipBlanks, skipBlanks]
    split
    · exact ih _ _ _
    · split
      · exact ih _ _ _
      · split
        · exact ih _ _ _
        · exact .inl rfl

theorem Longer.skip (ht : Closing t) (h : c.Longer t c') : c.skip.Longer t c'.skip := by
  refine ⟨by rw [free_skip, free_skip, h.free], ?_⟩
  rw [rest_skip, rest_skip, h.free]
  split
  · obtain hrest | ⟨hc, hc'⟩ := h.rest
    · rw [hrest]
      exact skipBlanks_append ht false c.rest c.loc c'.loc
    · exact .inr ⟨by rw [hc]; rfl, by rw [hc']; rfl⟩
  · exact h.rest

theorem Longer.advance (ht : Closing t) (h : c.Longer t c') (hc : c.rest = a :: l) :
    c.advance.Longer t c'.advance := (h.next hc).skip ht

theorem suffix_of_next (hc : c.rest = a :: l) : c.next.rest <:+ l := by
  have := c.next_suffix
  rwa [hc] at this

theorem suffix_of_advance (hc : c.rest = a :: l) : c.advance.rest <:+ l := by
  have := c.advance_suffix
  rwa [hc] at this

theorem Longer.dropBlanks (ht : Closing t) (h : c.Longer t c') :
    c.dropBlanks.Longer t c'.dropBlanks := by
  refine ⟨h.free, ?_⟩
  have hdrop : t.dropWhile Text.isBlank = t := by
    cases t with
    | nil => rfl
    | cons b t => simp [not_isBlank ht List.mem_cons_self]
  obtain hrest | ⟨hc, hc'⟩ := h.rest
  · refine .inl ?_
    show c'.rest.dropWhile _ = c.rest.dropWhile _ ++ t
    rw [hrest, List.dropWhile_append]
    split
    · rename_i hempty
      rw [hdrop, List.isEmpty_iff.mp hempty, List.nil_append]
    · rfl
  · refine .inr ⟨?_, ?_⟩
    · show c.rest.dropWhile _ = []
      rw [hc]
      rfl
    · show c'.rest.dropWhile _ = []
      rw [hc']
      rfl

/-- A sign that closes nothing is seen before more text if and only if it was seen already. -/
theorem Longer.sees (ht : Closing t) (h : c.Longer t c') (ha : a ≠ ')') (ha' : a ≠ '$') :
    c'.sees a = c.sees a := by
  unfold Cursor.sees
  obtain hrest | ⟨hc, hc'⟩ := h.rest
  · rw [hrest]
    cases hc : c.rest with
    | cons b l => rfl
    | nil =>
      cases t with
      | nil => rfl
      | cons b t =>
        have hb : b ≠ a := by
          rintro rfl
          exact (ht b List.mem_cons_self).elim ha ha'
        simp [hb]
  · rw [hc, hc']

/-- Either the first cursor is at its end and the second one has closing signs at most, or none is
at its end. -/
theorem Longer.atEnd_or_not (h : c.Longer t c') :
    c.atEnd = true ∧ c'.rest <:+ t ∨
      ∃ a l, c.rest = a :: l ∧ ¬ c.atEnd = true ∧ ¬ c'.atEnd = true := by
  cases hc : c.rest with
  | nil => exact .inl ⟨atEnd_iff.mpr hc, h.suffix hc⟩
  | cons a l =>
    refine .inr ⟨a, l, rfl, ?_, ?_⟩
    · rw [atEnd_iff, hc]
      exact List.cons_ne_nil a l
    · rw [atEnd_iff, h.cons hc]
      exact List.cons_ne_nil a _

/-- A text that closes nothing stands before more text if and only if it stood there already. -/
theorem prefix_append_closing (ht : Closing t) {text : List Char}
    (htext : ∀ a ∈ text, a ≠ ')' ∧ a ≠ '$') : text <+: l ++ t ↔ text <+: l := by
  refine ⟨fun h => ?_, fun h => h.trans (List.prefix_append l t)⟩
  induction text generalizing l with
  | nil => exact List.nil_prefix
  | cons a text ih =>
    rw [List.forall_mem_cons] at htext
    cases l with
    | nil =>
      obtain hclosing | hclosing := ht a (h.subset List.mem_cons_self)
      · exact absurd hclosing htext.1.1
      · exact absurd hclosing htext.1.2
    | cons b l =>
      rw [List.cons_append, List.cons_prefix_cons] at h
      exact List.cons_prefix_cons.mpr ⟨h.1, ih htext.2 h.2⟩

/-- A text that closes nothing is passed before more text if and only if it was passed already. -/
theorem Longer.pass? (ht : Closing t) (h : c.Longer t c') (text : String)
    (htext : ∀ a ∈ text.toList, a ≠ ')' ∧ a ≠ '$') (hne : text.toList ≠ []) :
    (c.pass? text = none ∧ c'.pass? text = none) ∨
      ∃ d d', c.pass? text = some d ∧ c'.pass? text = some d' ∧ d.Longer t d' := by
  cases hd : c.pass? text with
  | some d =>
    obtain ⟨hrest, hfree⟩ := rest_of_pass? hd
    have hc' : c'.rest = text.toList ++ (d.rest ++ t) := by
      obtain hrest' | ⟨hnil, -⟩ := h.rest
      · rw [hrest', hrest, List.append_assoc]
      · rw [hnil] at hrest
        exact absurd (List.append_eq_nil_iff.mp hrest.symm).1 hne
    obtain ⟨d', hd', hrest', hfree'⟩ := exists_pass? hc'
    exact .inr ⟨d, d', rfl, hd', by rw [hfree', h.free, hfree], .inl hrest'⟩
  | none =>
    refine .inl ⟨rfl, ?_⟩
    cases hd' : c'.pass? text with
    | none => rfl
    | some d' =>
      have hprefix : text.toList <+: c'.rest := ⟨d'.rest, (rest_of_pass? hd').1.symm⟩
      have hprefix : text.toList <+: c.rest := by
        obtain hrest | ⟨hc, hc'⟩ := h.rest
        · rwa [hrest, prefix_append_closing ht htext] at hprefix
        · rwa [hc', ← hc] at hprefix
      obtain ⟨l, hl⟩ := hprefix
      obtain ⟨d, hd'', -⟩ := exists_pass? hl.symm
      rw [hd] at hd''
      cases hd''

/-- Among closing signs no other one is seen. -/
theorem sees_closing (hd : Closing d.rest) (ha : a ≠ ')') (ha' : a ≠ '$') : d.sees a = false := by
  cases hrest : d.rest with
  | nil => simp [Cursor.sees, hrest]
  | cons b l =>
    have hb : b ≠ a := by
      rintro rfl
      exact (hd b (hrest ▸ List.mem_cons_self)).elim ha ha'
    simp [Cursor.sees, hrest, hb]

/-- No text that closes nothing stands before closing signs. -/
theorem pass?_closing (hd : Closing d.rest) {text : String}
    (htext : ∀ a ∈ text.toList, a ≠ ')' ∧ a ≠ '$') (hne : text.toList ≠ []) :
    d.pass? text = none := by
  cases he : d.pass? text with
  | none => rfl
  | some e =>
    have hprefix : text.toList <+: [] ++ d.rest := ⟨e.rest, (rest_of_pass? he).1.symm⟩
    rw [prefix_append_closing hd htext, List.prefix_nil] at hprefix
    exact absurd hprefix hne

end Cursor

/-! ## Readers -/

/-- Whether a reader, if it comes to an end, gives what is as required. -/
def Gives (P : α → Cursor → Prop) (x : Except Fault (α × Cursor)) : Prop :=
  ∀ a c, x = .ok (a, c) → P a c

/-- What a reader does with a text and with more text behind it. If it reads the first one, it reads
the same from the second one. If not, it reads from the second one at most what is said. -/
inductive Alike (t : List Char) (R : α → α → Prop) (P : α → Cursor → Prop) :
    Except Fault (α × Cursor) → Except Fault (α × Cursor) → Prop where
  | ok {a a' : α} {c c' : Cursor} (value : R a a') (cursor : c.Longer t c') :
    Alike t R P (.ok (a, c)) (.ok (a', c'))
  | error {f : Fault} {x : Except Fault (α × Cursor)} (gives : Gives P x) :
    Alike t R P (.error f) x

theorem gives_fail {P : α → Cursor → Prop} (cause : Cause) (span : Span) :
    Gives P (Cursor.fail cause span) := nofun

theorem gives_error {P : α → Cursor → Prop} (f : Fault) : Gives P (.error f) := nofun

theorem gives_ok {P : α → Cursor → Prop} {a : α} (h : P a c) : Gives P (.ok (a, c)) := by
  rintro _ _ ⟨⟩
  exact h

/-- Two readers that both have a fault. -/
theorem alike_fail {R : α → α → Prop} {P : α → Cursor → Prop} {cause cause' : Cause}
    {span span' : Span} : Alike t R P (Cursor.fail cause span) (Cursor.fail cause' span') :=
  .error (gives_fail _ _)

theorem Alike.ok_or_error {R : α → α → Prop} {P : α → Cursor → Prop}
    {x x' : Except Fault (α × Cursor)} (h : Alike t R P x x') :
    (∃ a a' d d', x = .ok (a, d) ∧ x' = .ok (a', d') ∧ R a a' ∧ d.Longer t d') ∨
      ∃ f, x = .error f ∧ Gives P x' := by
  cases h with
  | ok value cursor => exact .inl ⟨_, _, _, _, rfl, rfl, value, cursor⟩
  | error gives => exact .inr ⟨_, rfl, gives⟩

theorem Alike.mono {R : α → α → Prop} {P Q : α → Cursor → Prop}
    {x x' : Except Fault (α × Cursor)} (h : Alike t R P x x') (hp : ∀ a d, P a d → Q a d) :
    Alike t R Q x x' := by
  cases h with
  | ok value cursor => exact .ok value cursor
  | error gives => exact .error fun a d hx => hp a d (gives a d hx)

/-- One reader after another. -/
theorem Alike.bind {R : α → α → Prop} {S : β → β → Prop} {P : α → Cursor → Prop}
    {Q : β → Cursor → Prop} {x x' : Except Fault (α × Cursor)}
    {k k' : α × Cursor → Except Fault (β × Cursor)} (h : Alike t R P x x')
    (hk : ∀ a a' d d', R a a' → d.Longer t d' → Alike t S Q (k (a, d)) (k' (a', d')))
    (hp : ∀ a' d', P a' d' → Gives Q (k' (a', d'))) : Alike t S Q (x.bind k) (x'.bind k') := by
  obtain ⟨a, a', d, d', rfl, rfl, hR, hd⟩ | ⟨f, rfl, hgives⟩ := h.ok_or_error
  · exact hk a a' d d' hR hd
  · refine .error ?_
    rcases x' with f' | ⟨a', d'⟩
    · exact gives_error f'
    · exact hp a' d' (hgives a' d' rfl)

/-- Readers up to a sign. If the first one finds it, both read the same; if not, the second one
does not find it either. -/
structure AlikeUpTo (t : List Char) (x x' : Except Fault (α × Cursor)) : Prop where
  found : ∀ {a d}, x = .ok (a, d) → d.rest ≠ [] → ∃ d', x' = .ok (a, d') ∧ d.Longer t d'
  missed : (∀ a d, x = .ok (a, d) → d.rest = []) → Gives (fun _ d => d.rest = []) x'

theorem AlikeUpTo.found_or_missed {x x' : Except Fault (α × Cursor)} (h : AlikeUpTo t x x') :
    (∃ a d d', x = .ok (a, d) ∧ x' = .ok (a, d') ∧ d.rest ≠ [] ∧ d.Longer t d') ∨
      Gives (fun _ d => d.rest = []) x ∧ Gives (fun _ d => d.rest = []) x' := by
  by_cases hx : ∃ a d, x = .ok (a, d) ∧ d.rest ≠ []
  · obtain ⟨a, d, hx, hd⟩ := hx
    obtain ⟨d', hx', hd'⟩ := h.found hx hd
    exact .inl ⟨a, d, d', hx, hx', hd, hd'⟩
  · have hend : Gives (fun _ d => d.rest = []) x := fun a d hxd =>
      Decidable.byContradiction fun hd => hx ⟨a, d, hxd, hd⟩
    exact .inr ⟨hend, h.missed hend⟩

/-- A reader up to a sign that must be there, and then another one. -/
theorem AlikeUpTo.bind {S : β → β → Prop} {Q : β → Cursor → Prop}
    {x x' : Except Fault (α × Cursor)} {k k' : α × Cursor → Except Fault (β × Cursor)}
    (h : AlikeUpTo t x x')
    (hk : ∀ a d d', d.rest ≠ [] → d.Longer t d' → Alike t S Q (k (a, d)) (k' (a, d')))
    (hend : ∀ a d, d.rest = [] → ∃ f, k (a, d) = .error f)
    (hend' : ∀ a d, d.rest = [] → ∃ f, k' (a, d) = .error f) :
    Alike t S Q (x.bind k) (x'.bind k') := by
  obtain ⟨a, d, d', rfl, rfl, hne, hd⟩ | ⟨hx, hx'⟩ := h.found_or_missed
  · exact hk a d d' hne hd
  · have hfault : ∃ f, x.bind k = .error f := by
      rcases x with f | ⟨a, d⟩
      · exact ⟨f, rfl⟩
      · exact hend a d (hx a d rfl)
    have hfault' : ∃ f, x'.bind k' = .error f := by
      rcases x' with f | ⟨a, d⟩
      · exact ⟨f, rfl⟩
      · exact hend' a d (hx' a d rfl)
    obtain ⟨f, hf⟩ := hfault
    obtain ⟨f', hf'⟩ := hfault'
    rw [hf, hf']
    exact .error (gives_error f')

theorem AlikeUpTo.stop {a : α} (h : c.Longer t c') (hc : c.rest ≠ []) :
    AlikeUpTo t (.ok (a, c)) (.ok (a, c')) where
  found := by
    rintro _ _ ⟨⟩ -
    exact ⟨c', rfl, h⟩
  missed hend := absurd (hend a c rfl) hc

theorem AlikeUpTo.fault {f f' : Fault} :
    AlikeUpTo t (.error f : Except Fault (α × Cursor)) (.error f') where
  found := nofun
  missed _ := gives_error f'

theorem AlikeUpTo.ended {a : α} {x' : Except Fault (α × Cursor)} (hc : c.rest = [])
    (h : Gives (fun _ d => d.rest = []) x') : AlikeUpTo t (.ok (a, c)) x' where
  found := by
    rintro _ _ ⟨⟩ hne
    exact absurd hc hne
  missed _ := h

/-- A bound on the length of a text that is not empty. -/
theorem exists_succ {n : Nat} (hc : c.rest = a :: l) (hn : c.rest.length ≤ n) :
    ∃ m, n = m + 1 ∧ l.length ≤ m := by
  rw [hc, List.length_cons] at hn
  exact ⟨n - 1, by omega, by omega⟩

/-! ## Readers of characters -/

section

variable {F : Nat → List Char → Cursor → Except Fault (List Char × Cursor)}
  {move : Cursor → Cursor} {ds : List Char} {n n' : Nat}

/-- Whether a reader stops in front of a character. -/
def Stops (F : Nat → List Char → Cursor → Except Fault (List Char × Cursor)) (ds : List Char)
    (a : Char) : Prop := ∀ {n c l}, c.rest = a :: l → F (n + 1) ds c = .ok (ds.reverse, c)

/-- Whether a reader takes a character and goes on behind it. -/
def GoesOn (F : Nat → List Char → Cursor → Except Fault (List Char × Cursor))
    (move : Cursor → Cursor) (ds : List Char) (a : Char) : Prop :=
  ∀ {n c l}, c.rest = a :: l → F (n + 1) ds c = F n (a :: ds) (move c)

/-- Whether a reader refuses a character. -/
def Refuses (F : Nat → List Char → Cursor → Except Fault (List Char × Cursor)) (ds : List Char)
    (a : Char) : Prop := ∀ {n c l}, c.rest = a :: l → ∃ f, F (n + 1) ds c = .error f

/-- A reader that takes characters one by one, which it collects the last one first. -/
structure TakesChars (F : Nat → List Char → Cursor → Except Fault (List Char × Cursor))
    (move : Cursor → Cursor) : Prop where
  ended : ∀ {n ds c}, c.rest = [] → F n ds c = .ok (ds.reverse, c)
  each : ∀ ds a, Stops F ds a ∨ GoesOn F move ds a ∨ Refuses F ds a
  longer : ∀ {t c c' a l}, Closing t → c.Longer t c' → c.rest = a :: l →
    (move c).Longer t (move c')
  suffix : ∀ {c a l}, c.rest = a :: l → (move c).rest <:+ l

/-- A reader that does not stop at closing signs is at their end, or refuses one. -/
theorem TakesChars.gives_end (hF : TakesChars F move)
    (hgo : ∀ ds a, a = ')' ∨ a = '$' → GoesOn F move ds a ∨ Refuses F ds a)
    (hc : Closing c.rest) (hn : c.rest.length ≤ n) (ds : List Char) :
    Gives (fun _ d => d.rest = []) (F n ds c) := by
  induction n generalizing ds c with
  | zero =>
    have hnil := List.length_eq_zero_iff.mp (Nat.le_zero.mp hn)
    rw [hF.ended hnil]
    exact gives_ok hnil
  | succ n ih =>
    cases hrest : c.rest with
    | nil =>
      rw [hF.ended hrest]
      exact gives_ok hrest
    | cons a l =>
      have hsuffix := hF.suffix hrest
      rw [hrest] at hc hn
      obtain hgoes | hrefuses := hgo ds a (hc a List.mem_cons_self)
      · rw [hgoes hrest]
        exact ih (hc.suffix (hsuffix.trans (List.suffix_cons a l)))
          (Nat.le_trans hsuffix.length_le (Nat.le_of_succ_le_succ hn)) _
      · obtain ⟨f, hf⟩ := hrefuses hrest
        rw [hf]
        exact gives_error f

/-- What two runs of a reader have in common, if it holds where they stop or refuse a character both,
and where the first one is at its end. -/
theorem TakesChars.both (hF : TakesChars F move)
    {Q : Except Fault (List Char × Cursor) → Except Fault (List Char × Cursor) → Prop}
    (hstop : ∀ (ds : List Char) {d d' : Cursor}, d.Longer t d' → d.rest ≠ [] →
      Q (.ok (ds.reverse, d)) (.ok (ds.reverse, d')))
    (hfault : ∀ f f', Q (.error f) (.error f'))
    (hend : ∀ (m : Nat) (ds : List Char) {d d' : Cursor}, d.Longer t d' → d.rest = [] → d'.rest.length ≤ m →
      Q (.ok (ds.reverse, d)) (F m ds d'))
    (ht : Closing t) (h : c.Longer t c') (hn : c.rest.length ≤ n) (hn' : c'.rest.length ≤ n')
    (ds : List Char) : Q (F n ds c) (F n' ds c') := by
  induction n generalizing n' ds c c' with
  | zero =>
    have hnil := List.length_eq_zero_iff.mp (Nat.le_zero.mp hn)
    rw [hF.ended hnil]
    exact hend n' ds h hnil hn'
  | succ n ih =>
    cases hc : c.rest with
    | nil =>
      rw [hF.ended hc]
      exact hend n' ds h hc hn'
    | cons a l =>
      obtain ⟨m, rfl, hm⟩ := exists_succ (h.cons hc) hn'
      rw [hc] at hn
      obtain hstops | hgoes | hrefuses := hF.each ds a
      · rw [hstops hc, hstops (h.cons hc)]
        exact hstop ds h (by simp [hc])
      · rw [hgoes hc, hgoes (h.cons hc)]
        exact ih (hF.longer ht h hc)
          (Nat.le_trans (hF.suffix hc).length_le (Nat.le_of_succ_le_succ hn))
          (Nat.le_trans (hF.suffix (h.cons hc)).length_le hm) _
      · obtain ⟨f, hf⟩ := hrefuses hc
        obtain ⟨f', hf'⟩ := hrefuses (h.cons hc)
        rw [hf, hf']
        exact hfault f f'

/-- Readers up to a sign that closes nothing. -/
theorem TakesChars.alikeUpTo (hF : TakesChars F move)
    (hgo : ∀ ds a, a = ')' ∨ a = '$' → GoesOn F move ds a ∨ Refuses F ds a) (ht : Closing t)
    (h : c.Longer t c') (hn : c.rest.length ≤ n) (hn' : c'.rest.length ≤ n') (ds : List Char) :
    AlikeUpTo t (F n ds c) (F n' ds c') := by
  refine hF.both (fun ds d d' hd hne => .stop hd hne) (fun f f' => .fault) ?_ ht h hn hn' ds
  intro m ds d d' hd hnil hm
  exact .ended hnil (hF.gives_end hgo (ht.suffix (hd.suffix hnil)) hm ds)

/-- Readers of characters that fit, where no closing sign does. -/
theorem TakesChars.alike (hF : TakesChars F move)
    (hstop : ∀ ds a, a = ')' ∨ a = '$' → Stops F ds a) (ht : Closing t) (h : c.Longer t c')
    (hn : c.rest.length ≤ n) (hn' : c'.rest.length ≤ n') (ds : List Char) :
    Alike t Eq (fun _ _ => False) (F n ds c) (F n' ds c') := by
  refine hF.both (fun ds d d' hd _ => .ok rfl hd) (fun f f' => .error (gives_error f')) ?_ ht h hn
    hn' ds
  intro m ds d d' hd hnil hm
  have hend : F m ds d' = .ok (ds.reverse, d') := by
    obtain hd' | ⟨b, hb, hd', -⟩ := hd.ended ht hnil
    · exact hF.ended hd'
    · obtain ⟨k, rfl, -⟩ := exists_succ hd' hm
      exact hstop ds b hb hd'
  rw [hend]
  exact .ok rfl hd

end

end Testbed.Regex
