import Testbed.Http.Exchange
import Testbed.Regex.Basic

/-!
# Routes

A route accepts requests by path and perhaps by method, and has a target.

**Paths** are given exactly or as a regular expression that must match the whole path; what its
groups capture become the parameters of the path, the empty text for a group that took no part.

**Selection.** `selectRoute` takes the first route that accepts both path and method. A request
whose path is accepted by no route, or only by routes for other methods, is answered with a status.
-/

namespace Testbed.Http

/-- How a route accepts paths. -/
inductive PathMatcher where
  | exact (path : String)
  | pattern (regex : Regex)

/-- A pattern that is not a regular expression. -/
structure PatternError where
  pattern : String
  reason : Regex.Error

def PatternError.message (e : PatternError) : String :=
  "invalid route pattern `" ++ e.pattern ++ "`: " ++ e.reason.message

namespace PathMatcher

/-- The text of an expression that matches a whole path or not at all. -/
def anchored (pattern : String) : String := "^(?:" ++ pattern ++ ")$"

def ofPattern (budget : Regex.Budget) (pattern : String) : Except PatternError PathMatcher :=
  match Regex.compile budget (anchored pattern) with
  | .ok regex => .ok (.pattern regex)
  | .error reason => .error ⟨pattern, reason⟩

/-- The parameters of a path, if it is accepted. -/
def params? (m : PathMatcher) (path : String) : Option (List String) :=
  match m with
  | exact expected => if expected = path then some [] else none
  | pattern regex => (regex.captures path).map fun groups => groups.map fun g => g.getD ""

end PathMatcher

structure Route (τ : Type) where
  /-- The method that is accepted, in upper case, or any. -/
  method : Option String
  matcher : PathMatcher
  target : τ

namespace Route

variable {τ : Type}

/-- A route for a method given in any case. -/
def make (method : Option String) (matcher : PathMatcher) (target : τ) : Route τ :=
  ⟨method.map fun m => m.map Char.toUpper, matcher, target⟩

def acceptsMethod (r : Route τ) (method : String) : Bool :=
  match r.method with
  | some m => Exchange.sameName m method
  | none => true

end Route

/-- Where a request goes. -/
inductive Selection (τ : Type) where
  /-- To a target, with the parameters of its path. -/
  | route (params : List String) (target : τ)
  /-- Its path is accepted for other methods only. -/
  | otherMethod
  | noPath

/-- The first route that accepts a path and a method. -/
def selectRoute {τ : Type} (path method : String) : List (Route τ) → Selection τ
  | [] => .noPath
  | r :: rest =>
    match r.matcher.params? path with
    | none => selectRoute path method rest
    | some params =>
      if r.acceptsMethod method then .route params r.target
      else match selectRoute path method rest with
        | .noPath => .otherMethod
        | found => found

/-- The exchange that a route hands to its target: its parameters replace others, if it has any. -/
def Exchange.withParams (x : Exchange) (params : List String) : Exchange :=
  if params.isEmpty then x else x.setParams params

end Testbed.Http
