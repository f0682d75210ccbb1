import Testbed.Regex.Meaning

/-!
# Shapes without places

Where the parts of a pattern stand matters for the reports of faults only. A shape without places is
*bare*; two shapes are alike if they are bare in the same way.

**Theorem (`meaning_of_bare_eq`, `tooDeep_of_bare_eq`).** Shapes that are alike have the same
meaning, or none, and are nested equally deep.
-/

namespace Testbed.Regex

/-- The span of a bare part. -/
def Span.nowhere : Span := .point .first

/-- A character without its place. -/
def Literal.bare (l : Literal) : Literal := { l with span := .nowhere }

mutual

/-- A class without places. -/
def ClassTerm.bare : ClassTerm → ClassTerm
  | .empty _ => .empty .nowhere
  | .literal l => .literal l.bare
  | .range _ low high => .range .nowhere low.bare high.bare
  | .named _ negated kind => .named .nowhere negated kind
  | .letter _ negated kind => .letter .nowhere negated kind
  | .property _ negated query => .property .nowhere negated query
  | .bracketed _ negated body => .bracketed .nowhere negated body.bare
  | .union _ items => .union .nowhere (ClassTerm.bareAll items)
  | .op _ kind left right => .op .nowhere kind left.bare right.bare

/-- Classes without places. -/
def ClassTerm.bareAll : List ClassTerm → List ClassTerm
  | [] => []
  | t :: rest => t.bare :: ClassTerm.bareAll rest

end

mutual

/-- A shape without places. -/
def Ast.bare : Ast → Ast
  | .empty _ => .empty .nowhere
  | .flags _ signs => .flags .nowhere signs
  | .literal l => .literal l.bare
  | .dot _ => .dot .nowhere
  | .assertion _ kind => .assertion .nowhere kind
  | .letter _ negated kind => .letter .nowhere negated kind
  | .property _ negated query => .property .nowhere negated query
  | .bracketed _ negated body => .bracketed .nowhere negated body.bare
  | .repetition _ low high greedy body => .repetition .nowhere low high greedy body.bare
  | .group _ kind body => .group .nowhere kind body.bare
  | .concat _ parts => .concat .nowhere (Ast.bareAll parts)
  | .alternation _ branches => .alternation .nowhere (Ast.bareAll branches)

/-- Shapes without places. -/
def Ast.bareAll : List Ast → List Ast
  | [] => []
  | a :: rest => a.bare :: Ast.bareAll rest

end

theorem ClassTerm.bareAll_eq (items : List ClassTerm) : bareAll items = items.map bare := by
  induction items with
  | nil => rfl
  | cons t rest ih => rw [bareAll, ih, List.map_cons]

theorem Ast.bareAll_eq (parts : List Ast) : bareAll parts = parts.map bare := by
  induction parts with
  | nil => rfl
  | cons a rest ih => rw [bareAll, ih, List.map_cons]

/-! ## Depth -/

mutual

theorem ClassTerm.isSome_tooDeep_bare (depth : Nat) :
    (t : ClassTerm) → (t.bare.tooDeep? depth).isSome = (t.tooDeep? depth).isSome
  | .empty _ | .literal _ | .range _ _ _ | .named _ _ _ | .letter _ _ _ | .property _ _ _ => rfl
  | .bracketed _ _ body => by
    have hbody := ClassTerm.isSome_tooDeep_bare (depth + 1) body
    simp only [ClassTerm.bare, ClassTerm.tooDeep?]
    split <;> simp [hbody]
  | .union _ items => by
    have hitems := ClassTerm.isSome_tooDeepIn_bare (depth + 1) items
    simp only [ClassTerm.bare, ClassTerm.tooDeep?]
    split <;> simp [hitems]
  | .op _ _ left right => by
    have hleft := ClassTerm.isSome_tooDeep_bare (depth + 1) left
    have hright := ClassTerm.isSome_tooDeep_bare (depth + 1) right
    simp only [ClassTerm.bare, ClassTerm.tooDeep?]
    split <;> simp [hleft, hright]

theorem ClassTerm.isSome_tooDeepIn_bare (depth : Nat) : (items : List ClassTerm) →
    (ClassTerm.tooDeepIn? depth (bareAll items)).isSome = (ClassTerm.tooDeepIn? depth items).isSome
  | [] => rfl
  | t :: rest => by
    have ht := ClassTerm.isSome_tooDeep_bare depth t
    have hrest := ClassTerm.isSome_tooDeepIn_bare depth rest
    simp [ClassTerm.bareAll, ClassTerm.tooDeepIn?, ht, hrest]

end

mutual

theorem Ast.isSome_tooDeep_bare (depth : Nat) :
    (a : Ast) → (a.bare.tooDeep? depth).isSome = (a.tooDeep? depth).isSome
  | .empty _ | .flags _ _ | .literal _ | .dot _ | .assertion _ _ | .letter _ _ _
  | .property _ _ _ => rfl
  | .bracketed _ _ body => by
    have hbody := body.isSome_tooDeep_bare (depth + 1)
    simp only [Ast.bare, Ast.tooDeep?]
    split <;> simp [hbody]
  | .repetition _ _ _ _ body | .group _ _ body => by
    have hbody := Ast.isSome_tooDeep_bare (depth + 1) body
    simp only [Ast.bare, Ast.tooDeep?]
    split <;> simp [hbody]
  | .concat _ parts | .alternation _ parts => by
    have hparts := Ast.isSome_tooDeepIn_bare (depth + 1) parts
    simp only [Ast.bare, Ast.tooDeep?]
    split <;> simp [hparts]

theorem Ast.isSome_tooDeepIn_bare (depth : Nat) : (parts : List Ast) →
    (Ast.tooDeepIn? depth (bareAll parts)).isSome = (Ast.tooDeepIn? depth parts).isSome
  | [] => rfl
  | a :: rest => by
    have ha := Ast.isSome_tooDeep_bare depth a
    have hrest := Ast.isSome_tooDeepIn_bare depth rest
    simp [Ast.bareAll, Ast.tooDeepIn?, ha, hrest]

end

/-- Alike shapes are nested equally deep. -/
theorem tooDeep_of_bare_eq {a b : Ast} (h : a.bare = b.bare) (depth : Nat) :
    a.tooDeep? depth = none ↔ b.tooDeep? depth = none := by
  rw [← Option.not_isSome_iff_eq_none, ← Option.not_isSome_iff_eq_none, ← a.isSome_tooDeep_bare, h,
    b.isSome_tooDeep_bare]

/-! ## Meaning -/

section

variable {α β : Type}

@[simp] theorem toOption_ok (a : α) : (.ok a : Except Fault α).toOption = some a := rfl

@[simp] theorem toOption_pure (a : α) : (pure a : Except Fault α).toOption = some a := rfl

@[simp] theorem toOption_fail (cause : Cause) (span : Span) :
    (Cursor.fail cause span : Except Fault α).toOption = none := rfl

@[simp] theorem toOption_bind (x : Except Fault α) (k : α → Except Fault β) :
    (x >>= k).toOption = x.toOption.bind fun a => (k a).toOption := by
  cases x <;> rfl

@[simp] theorem toOption_map (x : Except Fault α) (f : α → β) :
    (x.map f).toOption = x.toOption.map f := by
  cases x <;> rfl

@[simp] theorem toOption_functorMap (f : α → β) (x : Except Fault α) :
    (f <$> x).toOption = x.toOption.map f := toOption_map x f

end

section

variable (w : Switches)

theorem toOption_foldAndNegate (span : Span) (negated : Bool) (s : CharSet) :
    (foldAndNegate w span negated s).toOption = (foldAndNegate w .nowhere negated s).toOption := by
  simp only [foldAndNegate, apply_ite Except.toOption, toOption_fail]

theorem toOption_letterMeaning (span : Span) (negated : Bool) (kind : LetterClass) :
    (letterMeaning w span negated kind).toOption =
      (letterMeaning w .nowhere negated kind).toOption := by
  simp only [letterMeaning, apply_ite Except.toOption, toOption_fail]

theorem toOption_propertyMeaning (span : Span) (negated : Bool) (query : PropertyQuery) :
    (propertyMeaning w span negated query).toOption =
      (propertyMeaning w .nowhere negated query).toOption := by
  simp only [propertyMeaning]
  split
  · rfl
  · split
    · exact toOption_foldAndNegate w span negated _
    · rfl

theorem toOption_dotMeaning (span : Span) :
    (dotMeaning w span).toOption = (dotMeaning w .nowhere).toOption := by
  simp only [dotMeaning, apply_ite Except.toOption, toOption_fail]

theorem toOption_member (l : Literal) : (l.bare.member w).toOption = (l.member w).toOption := by
  simp only [Literal.member, apply_ite Except.toOption, toOption_fail]
  rfl

theorem toOption_literal (l : Literal) : (l.bare.meaning w).toOption = (l.meaning w).toOption := by
  simp only [Literal.meaning, apply_ite Except.toOption, toOption_fail]
  rfl

mutual

theorem ClassTerm.toOption_meaning_bare :
    (t : ClassTerm) → (t.bare.meaning w).toOption = (t.meaning w).toOption
  | .empty _ => rfl
  | .literal l => by simp [ClassTerm.bare, ClassTerm.meaning, toOption_member]
  | .range _ low high => by simp [ClassTerm.bare, ClassTerm.meaning, toOption_member]
  | .named span negated kind => (toOption_foldAndNegate w span negated kind.members).symm
  | .letter span negated kind => (toOption_letterMeaning w span negated kind).symm
  | .property span negated query => (toOption_propertyMeaning w span negated query).symm
  | .bracketed span negated body => by
    have hbody := body.toOption_meaning_bare
    simp [ClassTerm.bare, ClassTerm.meaning, hbody, toOption_foldAndNegate w span negated]
  | .union _ items => ClassTerm.toOption_meaningOfAny_bare items
  | .op _ kind left right => by
    have hleft := left.toOption_meaning_bare
    have hright := right.toOption_meaning_bare
    simp [ClassTerm.bare, ClassTerm.meaning, hleft, hright]

theorem ClassTerm.toOption_meaningOfAny_bare : (items : List ClassTerm) →
    (ClassTerm.meaningOfAny w (bareAll items)).toOption = (ClassTerm.meaningOfAny w items).toOption
  | [] => rfl
  | t :: rest => by
    have ht := t.toOption_meaning_bare
    have hrest := ClassTerm.toOption_meaningOfAny_bare rest
    simp [ClassTerm.bareAll, ClassTerm.meaningOfAny, ht, hrest]

end

end

mutual

theorem Ast.toOption_meaning_bare :
    (a : Ast) → (w : Switches) → (a.bare.meaning w).toOption = (a.meaning w).toOption
  | .empty _, _ | .flags _ _, _ | .assertion _ _, _ => rfl
  | .literal l, w => by simp [Ast.bare, Ast.meaning, toOption_literal]
  | .dot span, w => by simp [Ast.bare, Ast.meaning, toOption_dotMeaning w span]
  | .letter span negated kind, w => by
    simp [Ast.bare, Ast.meaning, toOption_letterMeaning w span negated]
  | .property span negated query, w => by
    simp [Ast.bare, Ast.meaning, toOption_propertyMeaning w span negated]
  | .bracketed span negated body, w => by
    simp [Ast.bare, Ast.meaning, ClassTerm.toOption_meaning_bare, toOption_foldAndNegate w span]
  | .repetition _ low high greedy body, w => by
    have hbody := body.toOption_meaning_bare w
    simp [Ast.bare, Ast.meaning, hbody]
  | .group _ (.capture index) body, w => by
    have hbody := body.toOption_meaning_bare w
    simp [Ast.bare, Ast.meaning, hbody]
  | .group _ (.plain signs) body, w => by
    have hbody := body.toOption_meaning_bare (w.set signs)
    simp [Ast.bare, Ast.meaning, hbody]
  | .concat _ parts, w | .alternation _ parts, w => by
    have hparts := Ast.toOption_meanings_bare parts w
    simp [Ast.bare, Ast.meaning, hparts]

theorem Ast.toOption_meanings_bare : (parts : List Ast) → (w : Switches) →
    (Ast.meanings w (bareAll parts)).toOption = (Ast.meanings w parts).toOption
  | [], _ => rfl
  | a :: rest, w => by
    have ha := a.toOption_meaning_bare w
    have hrest := Ast.toOption_meanings_bare rest
    simp [Ast.bareAll, Ast.meanings, ha, hrest]

end

/-- Alike shapes have the same meaning. -/
theorem meaning_of_bare_eq {a b : Ast} (h : a.bare = b.bare) (w : Switches) :
    (a.meaning w).toOption = (b.meaning w).toOption := by
  rw [← a.toOption_meaning_bare, h, b.toOption_meaning_bare]

end Testbed.Regex
