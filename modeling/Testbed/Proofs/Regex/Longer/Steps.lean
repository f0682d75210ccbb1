import Testbed.Proofs.Regex.Longer.Classes
import Testbed.Proofs.Regex.Longer.Openings

/-!
# Steps before more text

A pattern can be read inside something that was opened before it, with more text behind it. As long
as the pattern closes nothing that it did not open, the two readings stay joined (`Joined`): what is
open is the same, above what was open before.

**Theorem (`Joined.step`).** A step that is made alone is made the same there. One that fails alone
fails there too, or takes the first closing sign of the text behind.
-/

namespace Testbed.Regex

variable {t l : List Char} {a : Char} {c c' : Cursor} {base : List Frame} {r r' : Reading}

/-! ## Readings without places -/

/-- Parts without places. -/
def Sequence.bare (s : Sequence) : Sequence := ⟨.first, s.parts.map Ast.bare⟩

/-- A frame without places. -/
def Frame.bare : Frame → Frame
  | .group outer _ kind free => .group outer.bare .nowhere kind free
  | .branches _ done => .branches .first (done.map Ast.bare)

/-- Whether frames begin with a group, if there are any. -/
def Grouped (frames : List Frame) : Prop := ∀ start done rest, frames ≠ .branches start done :: rest

theorem parts_of_bare_eq {s s' : Sequence} (h : s.bare = s'.bare) :
    s.parts.map Ast.bare = s'.parts.map Ast.bare := congrArg Sequence.parts h

theorem bare_close {s s' : Sequence} (h : s.bare = s'.bare) (p p' : Position) :
    (s.close p).bare = (s'.close p').bare := by
  have hparts := parts_of_bare_eq h
  rcases s with ⟨start, _ | ⟨x, _ | ⟨y, rest⟩⟩⟩ <;>
    rcases s' with ⟨start', _ | ⟨x', _ | ⟨y', rest'⟩⟩⟩ <;>
    simp only [List.map_cons, List.map_nil, List.cons.injEq, reduceCtorEq, and_false] at hparts
  · rfl
  · exact hparts.1
  · obtain ⟨hx, hy, hrest⟩ := hparts
    simp [Sequence.close, Ast.bare, Ast.bareAll_eq, hx, hy, hrest]

namespace Reading

/-- Two readings of the same, the second one above frames that were open before, and with a text
behind it. -/
structure Joined (t : List Char) (base : List Frame) (r r' : Reading) : Prop where
  cursor : r.cursor.Longer t r'.cursor
  frames : r'.frames.map Frame.bare = r.frames.map Frame.bare ++ base.map Frame.bare
  current : r.current.bare = r'.current.bare
  groups : r'.groups = r.groups
  names : r.names.map NamedGroup.bare = r'.names.map NamedGroup.bare

namespace Joined

theorem skip (ht : Closing t) (h : Joined t base r r') :
    Joined t base { r with cursor := r.cursor.skip } { r' with cursor := r'.cursor.skip } :=
  { h with cursor := h.cursor.skip ht }

theorem push (h : Joined t base r r') {x x' : Ast} (hx : x.bare = x'.bare) (hc : c.Longer t c') :
    Joined t base (r.push x c) (r'.push x' c') where
  cursor := hc
  frames := h.frames
  current := by
    simp only [Reading.push, Sequence.bare, List.map_cons, hx, parts_of_bare_eq h.current]
  groups := h.groups
  names := h.names

theorem enter (h : Joined t base r r') (kind : GroupKind) (free : Bool) (hc : c.Longer t c') :
    Joined t base (r.enter kind free c) (r'.enter kind free c') where
  cursor := hc.setFree free
  frames := by
    simp only [Reading.enter, List.map_cons, List.cons_append, Frame.bare, h.current,
      h.cursor.free, h.frames]
  current := rfl
  groups := h.groups
  names := h.names

/-! ## Repetitions -/

theorem operand (h : Joined t base r r') :
    (∃ x x' s s', r.operand = .ok (x, s) ∧ r'.operand = .ok (x', s') ∧ x.bare = x'.bare ∧
      s.bare = s'.bare) ∨ ∃ f f', r.operand = .error f ∧ r'.operand = .error f' := by
  have hparts := parts_of_bare_eq h.current
  unfold Reading.operand
  rcases hr : r.current.parts with _ | ⟨x, rest⟩ <;>
    rcases hr' : r'.current.parts with _ | ⟨x', rest'⟩ <;>
    rw [hr, hr'] at hparts <;> simp only [List.map_nil, List.map_cons, List.cons.injEq,
      reduceCtorEq] at hparts
  · exact .inr ⟨_, _, rfl, rfl⟩
  · obtain ⟨hx, hrest⟩ := hparts
    have hbefore : (⟨r.current.start, rest⟩ : Sequence).bare =
        (⟨r'.current.start, rest'⟩ : Sequence).bare := by
      simp only [Sequence.bare, hrest]
    have hbare := hx
    cases x <;> cases x' <;> simp only [Ast.bare, reduceCtorEq] at hx
    · exact .inr ⟨_, _, rfl, rfl⟩
    · exact .inr ⟨_, _, rfl, rfl⟩
    all_goals exact .inl ⟨_, _, _, _, rfl, rfl, hbare, hbefore⟩

theorem repeated (h : Joined t base r r') (low : Nat) (high : Option Nat) (greedy : Bool)
    {x x' : Ast} (hx : x.bare = x'.bare) {s s' : Sequence} (hs : s.bare = s'.bare)
    (hc : c.Longer t c') :
    Joined t base (r.repeated low high greedy x s c) (r'.repeated low high greedy x' s' c') where
  cursor := hc
  frames := h.frames
  current := by
    simp only [Reading.repeated, Sequence.bare, List.map_cons, Ast.bare, hx, parts_of_bare_eq hs]
  groups := h.groups
  names := h.names

end Joined

/-! ## Steps -/

/-- How many groups are open. -/
def depth (frames : List Frame) : Nat :=
  frames.countP fun f => match f with
    | .group .. => true
    | .branches .. => false

/-- Whether a reading has gone beyond its pattern, to where the first closing sign behind it is
lost. -/
structure Astray (t : List Char) (base : List Frame) (r : Reading) : Prop where
  depth : depth base ≤ depth r.frames
  cursor : r.cursor.rest <:+ t.tail ∨ Atom.OpensBefore t r.cursor

/-- What a step of two joined readings leads to. -/
inductive Onward (t : List Char) (base : List Frame) :
    Except Fault Reading → Except Fault Reading → Prop where
  | joined {r r' : Reading} (h : Joined t base r r') : Onward t base (.ok r) (.ok r')
  | failed {f : Fault} {x : Except Fault Reading} (h : ∀ r', x = .ok r' → Astray t base r') :
    Onward t base (.error f) x

theorem onward_fault (f f' : Fault) : Onward t base (.error f) (.error f') := .failed nofun

theorem depth_of_bare_eq {frames frames' : List Frame}
    (h : frames.map Frame.bare = frames'.map Frame.bare) : depth frames = depth frames' := by
  have hbare (fs : List Frame) : depth fs = depth (fs.map Frame.bare) := by
    unfold depth
    rw [List.countP_map]
    refine List.countP_congr fun f _ => ?_
    cases f <;> rfl
  rw [hbare, h, ← hbare]

namespace Joined

theorem depth_eq (h : Joined t base r r') :
    Reading.depth r'.frames = Reading.depth r.frames + Reading.depth base := by
  have hframes : r'.frames.map Frame.bare = (r.frames ++ base).map Frame.bare := by
    rw [h.frames, List.map_append]
  rw [depth_of_bare_eq hframes, Reading.depth, Reading.depth, Reading.depth, List.countP_append]

theorem depth_le (h : Joined t base r r') : Reading.depth base ≤ Reading.depth r'.frames := by
  rw [h.depth_eq]
  exact Nat.le_add_left _ _

theorem sign (ht : Closing t) (h : Joined t base r r') (hc : r.cursor.rest = a :: l) (low : Nat)
    (high : Option Nat) : Onward t base (r.sign low high) (r'.sign low high) := by
  obtain ⟨hgreedy, hlonger⟩ := longer_lazily ht (h.cursor.next hc)
  rw [sign_eq, sign_eq]
  obtain ⟨x, x', s, s', hx, hx', hbare, hs⟩ | ⟨f, f', hf, hf'⟩ := h.operand
  · rw [hx, hx', ← hgreedy]
    exact .joined (h.repeated low high _ hbare hs hlonger)
  · rw [hf, hf']
    exact onward_fault f f'

theorem counted (ht : Closing t) (h : Joined t base r r') (hc : r.cursor.rest = a :: l) :
    Onward t base r.counted r'.counted := by
  have hadv := h.cursor.advance ht hc
  rw [counted_eq, counted_eq]
  obtain ⟨x, x', s, s', hx, hx', hbare, hs⟩ | ⟨f, f', hf, hf'⟩ := h.operand
  · rw [hx, hx']
    simp only [Except.bind]
    obtain ⟨⟨low, high⟩, n', d, d', hd, hd', rfl, hlonger⟩ | ⟨f, hf, hgives⟩ :=
      (alike_bounds ht hadv r.cursor.loc r'.cursor.loc).ok_or_error
    · obtain ⟨l1, hl1⟩ := Cursor.sees_iff.mp (sees_of_bounds hd)
      obtain ⟨hgreedy, hlazily⟩ := longer_lazily ht (hlonger.advance ht hl1)
      simp only [hd, hd', ← hgreedy]
      split
      · exact onward_fault _ _
      · exact .joined (h.repeated low high _ hbare hs hlazily)
    · rw [hf]
      rcases hx : bounds r'.cursor.loc r'.cursor.advance with f' | ⟨n, d⟩
      · exact onward_fault f f'
      · exact (hgives n d hx).elim
  · rw [hf, hf']
    exact onward_fault f f'

end Joined

/-! ## Groups and branches -/

/-- Frames that agree above frames that begin with a group have branches at their top both, or not
at all. -/
theorem frames_cases (hbase : Grouped base) {fs fs' : List Frame}
    (h : fs'.map Frame.bare = fs.map Frame.bare ++ base.map Frame.bare) :
    Grouped fs ∧ Grouped fs' ∨
      ∃ start done rest start' done' rest', fs = .branches start done :: rest ∧
        fs' = .branches start' done' :: rest' ∧ done.map Ast.bare = done'.map Ast.bare ∧
        rest'.map Frame.bare = rest.map Frame.bare ++ base.map Frame.bare := by
  rcases fs with _ | ⟨⟨outer, span, kind, free⟩ | ⟨start, done⟩, rest⟩
  · refine .inl ⟨nofun, fun start' done' rest' hfs' => ?_⟩
    subst hfs'
    rcases base with _ | ⟨⟨outer, span, kind, free⟩ | ⟨start, done⟩, below⟩
    · cases h
    · cases h
    · exact hbase start done below rfl
  · refine .inl ⟨nofun, fun start' done' rest' hfs' => ?_⟩
    subst hfs'
    cases h
  · rcases fs' with _ | ⟨⟨outer, span, kind, free⟩ | ⟨start', done'⟩, rest'⟩
    · cases h
    · cases h
    · simp only [List.map_cons, List.cons_append, Frame.bare, List.cons.injEq,
        Frame.branches.injEq] at h
      exact .inr ⟨start, done, rest, start', done', rest', rfl, rfl, h.1.2.symm, h.2⟩

theorem frames_bar_of_grouped (h : Grouped r.frames) :
    r.bar.frames = .branches r.current.start [r.current.close r.cursor.loc] :: r.frames := by
  unfold bar
  rcases hfs : r.frames with _ | ⟨⟨outer, span, kind, free⟩ | ⟨start, done⟩, rest⟩
  · rfl
  · rfl
  · exact absurd hfs (h start done rest)

theorem frames_bar_of_branches {start : Position} {done : List Ast} {rest : List Frame}
    (h : r.frames = .branches start done :: rest) :
    r.bar.frames = .branches start (r.current.close r.cursor.loc :: done) :: rest := by
  unfold bar
  simp only [h]

theorem content_of_grouped (h : Grouped r.frames) (p : Position) :
    r.content p = (r.current.close p, r.frames) := by
  unfold content
  rcases hfs : r.frames with _ | ⟨⟨outer, span, kind, free⟩ | ⟨start, done⟩, rest⟩
  · rfl
  · rfl
  · exact absurd hfs (h start done rest)

theorem content_of_branches {start : Position} {done : List Ast} {rest : List Frame}
    (h : r.frames = .branches start done :: rest) (p : Position) :
    r.content p = (.alternation ⟨start, p⟩ (r.current.close p :: done).reverse, rest) := by
  unfold content
  simp only [h]

namespace Joined

theorem bar (h : Joined t base r r') (hbase : Grouped base) (hc : r.cursor.rest = a :: l) :
    Joined t base r.bar r'.bar where
  cursor := h.cursor.next hc
  frames := by
    have hbranch := bare_close h.current r.cursor.loc r'.cursor.loc
    obtain ⟨hgrouped, hgrouped'⟩ | ⟨start, done, rest, start', done', rest', hfs, hfs', hdone,
      hrest⟩ := frames_cases hbase h.frames
    · rw [frames_bar_of_grouped hgrouped, frames_bar_of_grouped hgrouped', List.map_cons,
        List.map_cons, h.frames]
      simp only [Frame.bare, List.map_cons, hbranch, List.map_nil, List.cons_append]
    · rw [frames_bar_of_branches hfs, frames_bar_of_branches hfs', List.map_cons, List.map_cons,
        hrest]
      simp only [Frame.bare, List.map_cons, hbranch, hdone, List.cons_append]
  current := rfl
  groups := h.groups
  names := h.names

theorem content (h : Joined t base r r') (hbase : Grouped base) (p p' : Position) :
    (r.content p).1.bare = (r'.content p').1.bare ∧
      (r'.content p').2.map Frame.bare =
        (r.content p).2.map Frame.bare ++ base.map Frame.bare := by
  have hbranch := bare_close h.current p p'
  obtain ⟨hgrouped, hgrouped'⟩ | ⟨start, done, rest, start', done', rest', hfs, hfs', hdone,
    hrest⟩ := frames_cases hbase h.frames
  · rw [content_of_grouped hgrouped, content_of_grouped hgrouped']
    exact ⟨hbranch, h.frames⟩
  · rw [content_of_branches hfs, content_of_branches hfs']
    refine ⟨?_, hrest⟩
    simp only [Ast.bare, Ast.bareAll_eq, List.map_reverse, List.map_cons, hbranch, hdone]

/-- A group that was opened in the pattern is closed the same before more text. -/
theorem closeGroup (h : Joined t base r r') (hbase : Grouped base)
    (hc : r.cursor.rest = a :: l) {s : Reading} (hs : r.closeGroup = .ok s) :
    ∃ s', r'.closeGroup = .ok s' ∧ Joined t base s s' := by
  obtain ⟨hbody, hframes⟩ := h.content hbase r.cursor.loc r'.cursor.loc
  unfold Reading.closeGroup at hs ⊢
  rcases hx : r.content r.cursor.loc with ⟨body, fs⟩
  rcases hx' : r'.content r'.cursor.loc with ⟨body', fs'⟩
  rw [hx, hx'] at hbody hframes
  rw [hx] at hs
  rcases fs with _ | ⟨⟨outer, span, kind, free⟩ | ⟨start, done⟩, rest⟩
  · cases hs
  · rcases fs' with _ | ⟨⟨outer', span', kind', free'⟩ | ⟨start', done'⟩, rest'⟩
    · cases hframes
    · simp only [List.map_cons, List.cons_append, Frame.bare, List.cons.injEq, Frame.group.injEq,
        true_and] at hframes
      obtain ⟨⟨houter, rfl, rfl⟩, hrest⟩ := hframes
      cases hs
      refine ⟨_, rfl, (h.cursor.next hc).setFree _, hrest, ?_, h.groups, h.names⟩
      simp only [Sequence.bare, List.map_cons, Ast.bare, hbody, parts_of_bare_eq houter]
    · cases hframes
  · cases hs

theorem opened (h : Joined t base r r') {x x' : Opening} (hx : x.bare = x'.bare)
    (hc : c.Longer t c') : Joined t base (r.opened x c) (r'.opened x' c') := by
  cases x <;> cases x' <;> simp only [Opening.bare, reduceCtorEq, Opening.capture.injEq,
    Opening.plain.injEq, Opening.flags.injEq] at hx
  · rename_i name name'
    have hnames : (name.toList ++ r.names).map NamedGroup.bare =
        (name'.toList ++ r'.names).map NamedGroup.bare := by
      have := congrArg Option.toList hx
      rw [Option.toList_map, Option.toList_map] at this
      rw [List.map_append, List.map_append, this, h.names]
    have hjoined : Joined t base { r with groups := r.groups + 1, names := name.toList ++ r.names }
        { r' with groups := r.groups + 1, names := name'.toList ++ r'.names } :=
      { h with groups := rfl, names := hnames }
    have henter := hjoined.enter (.capture (r.groups + 1)) c.free hc
    simp only [Reading.opened, h.groups, hc.free]
    exact henter
  · subst hx
    simp only [Reading.opened, hc.free]
    exact h.enter _ _ hc
  · subst hx
    simp only [Reading.opened, hc.free]
    exact h.push rfl (hc.setFree _)

theorem depth_le_opened (r : Reading) (x : Opening) (c : Cursor) :
    Reading.depth r.frames ≤ Reading.depth (r.opened x c).frames := by
  cases x with
  | capture name => exact (List.sublist_cons_self _ _).countP_le
  | plain signs => exact (List.sublist_cons_self _ _).countP_le
  | flags signs => exact Nat.le_refl _

theorem openGroup (ht : Closing t) (h : Joined t base r r') (hc : r.cursor.rest = a :: l) :
    Onward t base r.openGroup r'.openGroup := by
  rw [openGroup_eq, openGroup_eq]
  obtain ⟨x, x', d, d', hd, hd', hx, hlonger⟩ | ⟨f, hf, hgives⟩ :=
    (Opening.alike_read ht h.cursor hc h.names).ok_or_error
  · rw [hd, hd']
    exact .joined (h.opened hx hlonger)
  · rw [hf]
    rcases hx : Opening.read r'.names r'.cursor with f' | ⟨x, d⟩
    · exact onward_fault f f'
    · refine .failed fun s hs => ?_
      cases hs
      refine ⟨Nat.le_trans h.depth_le (depth_le_opened r' x d), .inl ?_⟩
      exact opened_rest r' x d ▸ hgives x d hx

theorem bracket (ht : Closing t) (h : Joined t base r r') :
    Onward t base ((Bracket.read r.cursor).map fun (part, c) => r.push part c)
      ((Bracket.read r'.cursor).map fun (part, c) => r'.push part c) := by
  obtain ⟨x, x', d, d', hd, hd', hx, hlonger⟩ | ⟨f, hf, hgives⟩ :=
    (Bracket.alike_read ht h.cursor).ok_or_error
  · rw [hd, hd']
    exact .joined (h.push hx hlonger)
  · rw [hf]
    rcases hx : Bracket.read r'.cursor with f' | ⟨x, d⟩
    · exact onward_fault f f'
    · exact (hgives x d hx).elim

theorem atom (ht : Closing t) (h : Joined t base r r') (hc : r.cursor.rest = a :: l) :
    Onward t base ((Atom.read r.cursor).map fun (x, c) => r.push x.toAst c)
      ((Atom.read r'.cursor).map fun (x, c) => r'.push x.toAst c) := by
  obtain ⟨x, x', d, d', hd, hd', hx, hlonger⟩ | ⟨f, hf, hgives⟩ :=
    (Atom.alike_read ht h.cursor hc).ok_or_error
  · rw [hd, hd']
    exact .joined (h.push (by rw [Atom.bare_toAst, hx, Atom.bare_toAst]) hlonger)
  · rw [hf]
    rcases hx : Atom.read r'.cursor with f' | ⟨x, d⟩
    · exact onward_fault f f'
    · refine .failed fun s hs => ?_
      cases hs
      exact ⟨h.depth_le, (hgives x d hx).imp_right And.right⟩

/-- **Theorem.** A step other than a closing is made before more text as it is made alone, or goes
astray there if it fails alone. -/
theorem step (ht : Closing t) (hbase : Grouped base) (h : Joined t base r r')
    (hc : r.cursor.rest = a :: l) (ha : a ≠ ')') : Onward t base (r.step a) (r'.step a) := by
  unfold Reading.step
  split
  · exact h.openGroup ht hc
  · exact absurd rfl ha
  · exact .joined (h.bar hbase hc)
  · exact h.bracket ht
  · exact h.sign ht hc 0 (some 1)
  · exact h.sign ht hc 0 none
  · exact h.sign ht hc 1 none
  · exact h.counted ht hc
  · exact h.atom ht hc

end Joined
end Reading
end Testbed.Regex
