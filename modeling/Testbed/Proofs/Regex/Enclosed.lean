import Testbed.Proofs.Regex.Runs

/-!
# Enclosed patterns

A pattern is enclosed by writing it between `^(?:` and `)$`. This is done on its text, so it can go
wrong: a comment at the end of the pattern swallows what is written behind it, and a closing
parenthesis too many in the pattern closes the group around it.

**Theorem (`result_enclosed`, `enclosed_of_swallowed`, `enclosed_of_fault`).** A pattern that is
read alone is read the same where it is enclosed if it does not end in a comment, and not at all if
it does. A pattern that is not read alone is not read where it is enclosed, unless it closes a group
that it did not open.
-/

namespace Testbed.Regex

variable {p : String} {x y : Ast} {f : Fault} {e e' : Reading}

open Reading

/-- What the text of a pattern is read as. -/
def scan (pattern : String) : Except Fault Ast := (ofString pattern).result

theorem parse_eq (pattern : String) :
    Ast.parse pattern = match scan pattern with
      | .error f => .error f
      | .ok a => match a.tooDeep? 0 with
        | some f => .error f
        | none => .ok a := rfl

/-- What is open when a pattern is enclosed. -/
def enclosing : List Frame :=
  [.group ⟨.first, [.assertion ⟨.first, ⟨1, 2⟩⟩ .lineStart]⟩ ⟨⟨1, 2⟩, ⟨1, 3⟩⟩ (.plain []) false]

/-- Where the reading of an enclosed pattern comes to the pattern. -/
def enclosure (pattern : String) : Reading :=
  { cursor := ⟨pattern.toList ++ [')', '$'], ⟨1, 5⟩, false⟩
    frames := enclosing
    current := ⟨⟨1, 5⟩, []⟩ }

/-- The shape of an enclosed pattern. -/
def Ast.enclosed (a : Ast) : Ast :=
  .concat .nowhere [.assertion .nowhere .lineStart, .group .nowhere (.plain []) a,
    .assertion .nowhere .lineEnd]

/-- After the first sign of an enclosed pattern. -/
def anchoredAt (rest : List Char) : Reading :=
  { cursor := ⟨rest, ⟨1, 2⟩, false⟩
    current := ⟨.first, [.assertion ⟨.first, ⟨1, 2⟩⟩ .lineStart]⟩ }

theorem reads_enclosure (pattern : String) :
    Reads (ofString ("^(?:" ++ pattern ++ ")$")) (enclosure pattern) := by
  have hrest : ofString ("^(?:" ++ pattern ++ ")$") =
      { cursor := ⟨'^' :: '(' :: '?' :: ':' :: (pattern.toList ++ [')', '$']), .first, false⟩
        current := ⟨.first, []⟩ } := by
    simp [ofString, Cursor.ofString]
  rw [hrest]
  refine .step (s := anchoredAt ('(' :: '?' :: ':' :: (pattern.toList ++ [')', '$']))) rfl rfl ?_
  exact .step (s := enclosure pattern) rfl rfl (.here _)

theorem grouped_enclosing : Grouped enclosing := nofun

theorem depth_enclosing : depth enclosing = 1 := rfl

/-! ## Joined readings -/

theorem closing_behind : Closing [')'] := by simp [Closing]

theorem closing_end : Closing ['$'] := by simp [Closing]

theorem closing_enclosed : Closing [')', '$'] := by simp [Closing]

theorem joined_behind (p : String) : Joined [')'] [] (ofString p) (ofString (p ++ ")")) where
  cursor := ⟨rfl, .inl (by simp [ofString, Cursor.ofString])⟩
  frames := rfl
  current := rfl
  groups := rfl
  names := rfl

theorem joined_end (p : String) :
    Joined ['$'] enclosing (ofString (p ++ ")")) (enclosure p) where
  cursor := ⟨rfl, .inl (by simp [ofString, Cursor.ofString, enclosure])⟩
  frames := rfl
  current := rfl
  groups := rfl
  names := rfl

theorem joined_enclosed (p : String) : Joined [')', '$'] enclosing (ofString p) (enclosure p) where
  cursor := ⟨rfl, .inl rfl⟩
  frames := rfl
  current := rfl
  groups := rfl
  names := rfl

theorem stacked_start (p : String) : Stacked (ofString p).frames := .nil

theorem stacked_enclosure (p : String) : Stacked (enclosure p).frames := .group .nil

/-! ## Readings that come to no result -/

/-- A reading with more groups open than parentheses left to close them. -/
theorem result_of_depth (h : Stacked e.frames)
    (hdepth : e.skipped.cursor.rest.count ')' < depth e.frames) : ∃ f, e.result = .error f := by
  rcases hx : e.result with f | x
  · exact ⟨f, rfl⟩
  · have := depth_le_count h hx
    omega

/-- A brace before closing signs repeats nothing. -/
theorem result_of_opensBefore {t : List Char} (ht : Closing t) (h : Atom.OpensBefore t e.cursor) :
    ∃ f, e.result = .error f := by
  obtain ⟨hsees, hrest⟩ := h
  obtain ⟨l, hl⟩ := Cursor.sees_iff.mp hsees
  have hskip : e.skipped = e := by
    unfold skipped
    rw [Bracket.skip_of_sees hsees]
  have hclosing : Closing e.cursor.advance.rest := by rwa [hrest]
  obtain ⟨f, hf⟩ := bounds_closing (count_closing hclosing) e.cursor.loc
  have hcounted : ∃ f, e.counted = .error f := by
    rw [counted_eq]
    rcases e.operand with f' | ⟨body, before⟩
    · exact ⟨f', rfl⟩
    · simp only [Except.bind, hf]
      exact ⟨f, rfl⟩
  obtain ⟨f', hf'⟩ := hcounted
  refine ⟨f', result_of_error (a := '\x7b') (l := l) ?_ ?_⟩
  · rw [hskip, hl]
  · rw [hskip]
    exact hf'

/-- A reading that has gone astray from an enclosed pattern. -/
theorem result_of_astray (h : Stacked e.frames) (hastray : Astray [')', '$'] enclosing e) :
    ∃ f, e.result = .error f := by
  obtain hrest | hopens := hastray.cursor
  · refine result_of_depth h ?_
    have hcount := (e.cursor.skip_suffix.trans hrest).sublist.count_le ')'
    have hdepth := hastray.depth
    rw [depth_enclosing] at hdepth
    have hnone : ([')', '$'].tail).count ')' = 0 := by decide
    show e.cursor.skip.rest.count ')' < _
    omega
  · exact result_of_opensBefore closing_enclosed hopens

/-! ## Where the reading of a pattern ends -/

theorem exists_end (hx : scan p = .ok x) :
    ∃ e, Reads (ofString p) e ∧ e.skipped.cursor.rest = [] ∧ e.skipped.finish = .ok x := by
  obtain ⟨e, hreads, hend | ⟨a, l, f, hrest, hf⟩⟩ := (ofString p).exists_reads
  · refine ⟨e, hreads, hend, ?_⟩
    rw [← result_of_nil hend, ← hreads.result]
    exact hx
  · rw [scan, hreads.result, result_of_error hrest hf] at hx
    cases hx

/-- The content of a reading that is finished is all there is. -/
theorem content_of_finish (h : Stacked e.frames) (hx : e.finish = .ok x) :
    e.content e.cursor.loc = (x, []) := by
  obtain ⟨-, hgrouped, hdepth⟩ := h.content e.cursor.loc
  have hnil := eq_nil_of_depth hgrouped (hdepth.trans (h.finish hx))
  unfold Reading.finish at hx
  rcases hc : e.content e.cursor.loc with ⟨body, frames⟩
  rw [hc] at hnil hx
  cases hnil
  cases hx
  rfl

/-- A reading that cannot be finished has a group open. -/
theorem depth_of_finish (h : Stacked e.frames) (hf : e.finish = .error f) :
    0 < depth e.frames := by
  obtain ⟨-, -, hdepth⟩ := h.content e.cursor.loc
  unfold Reading.finish at hf
  rcases hc : e.content e.cursor.loc with ⟨body, frames⟩
  rw [hc] at hf hdepth
  rcases frames with _ | ⟨⟨outer, span, kind, free⟩ | ⟨start, done⟩, rest⟩
  · cases hf
  · rw [← hdepth]
    simp [depth]
  · cases hf

/-- A closing fails only if no group is open. -/
theorem cause_of_closeGroup (hf : e.closeGroup = .error f) : f.cause = .groupUnopened := by
  unfold Reading.closeGroup at hf
  rcases hc : e.content e.cursor.loc with ⟨body, frames⟩
  rw [hc] at hf
  rcases frames with _ | ⟨⟨outer, span, kind, free⟩ | ⟨start, done⟩, rest⟩ <;> cases hf
  · rfl
  · rfl

/-- A reading that is finished is finished the same before more text that it has swallowed. -/
theorem finish_of_joined {t : List Char} (h : Joined t [] e e') (hstacked : Stacked e.frames)
    (hx : e.finish = .ok x) : ∃ x', e'.finish = .ok x' ∧ x'.bare = x.bare := by
  obtain ⟨hbody, hframes⟩ := h.content grouped_nil e.cursor.loc e'.cursor.loc
  rw [content_of_finish hstacked hx] at hbody hframes
  rcases hc : e'.content e'.cursor.loc with ⟨body, frames⟩
  rw [hc] at hbody hframes
  obtain rfl := List.map_eq_nil_iff.mp hframes
  refine ⟨body, ?_, hbody.symm⟩
  unfold Reading.finish
  rw [hc]

/-- A closing parenthesis behind a reading that is finished closes nothing. -/
theorem closeGroup_of_joined {t : List Char} (h : Joined t [] e e') (hstacked : Stacked e.frames)
    (hx : e.finish = .ok x) : ∃ f, e'.closeGroup = .error f := by
  obtain ⟨-, hframes⟩ := h.content grouped_nil e.cursor.loc e'.cursor.loc
  rw [content_of_finish hstacked hx] at hframes
  rcases hc : e'.content e'.cursor.loc with ⟨body, frames⟩
  rw [hc] at hframes
  obtain rfl := List.map_eq_nil_iff.mp hframes
  unfold Reading.closeGroup
  rw [hc]
  exact ⟨_, rfl⟩

theorem closeGroup_of_content {body : Ast} {outer : Sequence} {span : Span} {kind : GroupKind}
    {free : Bool} {rest : List Frame}
    (hc : e.content e.cursor.loc = (body, .group outer span kind free :: rest)) :
    ∃ s, e.closeGroup = .ok s ∧ s.cursor.rest = e.cursor.rest.tail ∧ s.cursor.free = free ∧
      s.frames = rest ∧
      s.current.parts = .group (span.upTo e.cursor.next.loc) kind body :: outer.parts := by
  unfold Reading.closeGroup
  rw [hc]
  exact ⟨_, rfl, Cursor.rest_next _, rfl, rfl, rfl⟩

/-- The last sign of an enclosed pattern. -/
theorem result_of_last {g b : Ast} (hrest : e.cursor.rest = ['$']) (hfree : e.cursor.free = false)
    (hframes : e.frames = []) (hparts : e.current.parts = [g, b]) :
    ∃ s s', e.result = .ok (.concat s [b, g, .assertion s' .lineEnd]) := by
  rcases e with ⟨⟨rest, loc, free⟩, frames, ⟨start, parts⟩, groups, names⟩
  cases hrest
  cases hfree
  cases hframes
  cases hparts
  exact ⟨_, _, rfl⟩

/-- The closing parenthesis and the last sign of an enclosed pattern. -/
theorem result_of_closing (hrest : e.skipped.cursor.rest = [')', '$'])
    (hframes : (e.skipped.content e.skipped.cursor.loc).2.map Frame.bare =
      enclosing.map Frame.bare) :
    ∃ y, e.result = .ok y ∧
      y.bare = (e.skipped.content e.skipped.cursor.loc).1.bare.enclosed := by
  rcases hc : e.skipped.content e.skipped.cursor.loc with ⟨body, frames⟩
  rw [hc] at hframes
  rcases frames with _ | ⟨⟨outer, span, kind, free⟩ | ⟨start, done⟩, rest⟩
  · cases hframes
  · simp only [enclosing, List.map_cons, List.map_nil, Frame.bare, List.cons.injEq,
      Frame.group.injEq, true_and, List.map_eq_nil_iff] at hframes
    obtain ⟨⟨houter, rfl, rfl⟩, rfl⟩ := hframes
    obtain ⟨b, hparts, hb⟩ : ∃ b, outer.parts = [b] ∧ b.bare = .assertion .nowhere .lineStart := by
      have := congrArg Sequence.parts houter
      simpa [Sequence.bare, Ast.bare, List.map_eq_singleton_iff] using this
    obtain ⟨s, hs, hleft, hfree, hnone, hboth⟩ := closeGroup_of_content hc
    rw [hrest] at hleft
    rw [hparts] at hboth
    obtain ⟨place, place', hlast⟩ := result_of_last hleft hfree hnone hboth
    refine ⟨_, (result_of_ok hrest hs).trans hlast, ?_⟩
    simp [Ast.bare, Ast.bareAll, Ast.enclosed, hb]
  · cases hframes

/-! ## Enclosed patterns -/

/-- A comment at the end of a pattern swallows what encloses it. -/
theorem enclosed_of_swallowed (hx : scan (p ++ ")") = .ok x) :
    ∃ f, (enclosure p).result = .error f := by
  obtain ⟨e, hreads, hend, -⟩ := exists_end hx
  obtain ⟨e', hreads', he⟩ := (joined_end p).reads closing_end grouped_enclosing hreads
  rw [hreads'.result]
  refine result_of_depth ((stacked_enclosure p).reads hreads') ?_
  have hcount := ((he.skipped closing_end).cursor.suffix hend).sublist.count_le ')'
  have hdepth := he.depth_le
  rw [depth_enclosing] at hdepth
  have hnone : ['$'].count ')' = 0 := by decide
  omega

/-- **Theorem.** A pattern that is read alone either ends in a comment, which swallows a parenthesis
behind it, or is read the same where it is enclosed. -/
theorem result_enclosed (hx : scan p = .ok x) :
    (∃ x', scan (p ++ ")") = .ok x' ∧ x'.bare = x.bare) ∨
      (∃ f, scan (p ++ ")") = .error f) ∧
        ∃ y, (enclosure p).result = .ok y ∧ y.bare = x.bare.enclosed := by
  obtain ⟨e, hreads, hend, hfinish⟩ := exists_end hx
  have hstacked : Stacked e.frames := (stacked_start p).reads hreads
  -- The text behind is taken in two parts, the parenthesis first: what becomes of it tells whether
  -- a comment swallows what follows.
  obtain ⟨e1, hreads1, he1⟩ := (joined_behind p).reads closing_behind grouped_nil hreads
  have hskip1 := he1.skipped closing_behind
  obtain hrest1 | hrest1 := hskip1.cursor.nil hend
  · refine .inr ⟨?_, ?_⟩
    · obtain ⟨f, hf⟩ := closeGroup_of_joined hskip1 (e := e.skipped) hstacked hfinish
      refine ⟨f, ?_⟩
      rw [scan, hreads1.result]
      exact result_of_error hrest1 hf
    · obtain ⟨e2, hreads2, he2⟩ := (joined_end p).reads closing_end grouped_enclosing hreads1
      have hskip2 := he2.skipped closing_end
      obtain ⟨hbody1, hframes1⟩ := hskip1.content grouped_nil e.skipped.cursor.loc
        e1.skipped.cursor.loc
      obtain ⟨hbody2, hframes2⟩ := hskip2.content grouped_enclosing e1.skipped.cursor.loc
        e2.skipped.cursor.loc
      rw [content_of_finish (e := e.skipped) hstacked hfinish] at hbody1 hframes1
      rw [hframes1, List.map_nil, List.append_nil, List.nil_append] at hframes2
      obtain ⟨y, hy, hbare⟩ := result_of_closing (hskip2.cursor.cons hrest1) hframes2
      refine ⟨y, ?_, ?_⟩
      · rw [hreads2.result, hy]
      · rw [hbare, ← hbody2, ← hbody1]
  · obtain ⟨x', hx', hbare⟩ := finish_of_joined hskip1 (e := e.skipped) hstacked hfinish
    refine .inl ⟨x', ?_, hbare⟩
    rw [scan, hreads1.result, result_of_nil hrest1, hx']

/-- **Theorem.** A pattern that is not read alone is not read where it is enclosed, unless it closes
a group that it did not open. -/
theorem enclosed_of_fault (hf : scan p = .error f) (hcause : f.cause ≠ .groupUnopened) :
    ∃ f', (enclosure p).result = .error f' := by
  obtain ⟨e, hreads, hstops⟩ := (ofString p).exists_reads
  obtain ⟨e', hreads', he⟩ := (joined_enclosed p).reads closing_enclosed grouped_enclosing hreads
  have hskip := he.skipped closing_enclosed
  have hstart : Stacked e.frames := (stacked_start p).reads hreads
  have hstacked : Stacked e'.frames := (stacked_enclosure p).reads hreads'
  rw [hreads'.result]
  rw [scan, hreads.result] at hf
  obtain hend | ⟨a, l, g, hrest, hg⟩ := hstops
  · -- The pattern leaves a group open, and there is one parenthesis for this one and the enclosing.
    rw [result_of_nil hend] at hf
    refine result_of_depth hstacked ?_
    have hcount := (hskip.cursor.suffix hend).sublist.count_le ')'
    have hone : [')', '$'].count ')' = 1 := by decide
    have hdepth := he.depth_eq
    rw [depth_enclosing] at hdepth
    have hopen : 0 < depth e.frames := depth_of_finish (e := e.skipped) hstart hf
    omega
  · rw [result_of_error hrest hg] at hf
    cases hf
    by_cases ha : a = ')'
    · subst ha
      exact absurd (cause_of_closeGroup hg) hcause
    · have honward := hskip.step closing_enclosed grouped_enclosing hrest ha
      rw [hg] at honward
      have hrest' := hskip.cursor.cons hrest
      rcases hs : e'.skipped.step a with f' | s
      · exact ⟨f', result_of_error hrest' hs⟩
      · rw [hs] at honward
        rw [result_of_ok hrest' hs]
        cases honward with
        | failed hastray =>
          exact result_of_astray (Stacked.step hstacked (r := e'.skipped) hs ha).1
            (hastray s rfl)

end Testbed.Regex
