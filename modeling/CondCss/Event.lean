import CondCss.Text.Basic

/-!
# Events

What happens in a session is announced by events.
-/

namespace CondCss

/-- An announcement. -/
inductive Event where
  /-- A media query is watched from now on. -/
  | queryRegistered (query : Text)
  /-- The answer to a watched media query is another one now. -/
  | queryChanged (query : Text) (isMatch : Bool)
  /-- A style sheet was rendered in place of its source; an inline one has the source `style`. -/
  | sheetRendered (source : Text) (length : Nat)
  /-- A call could not be read and was left as it is. -/
  | expressionFailed (call : Text) (error : String)
  /-- A linked style sheet was not loaded. -/
  | linkSkipped (href : Text) (reason : String)
  deriving DecidableEq, Repr

/-- The kinds of events. -/
inductive EventKind where
  | queryRegistered
  | queryChanged
  | sheetRendered
  | expressionFailed
  | linkSkipped
  deriving DecidableEq, Repr

/-- The kind of an event. -/
def Event.kind : Event → EventKind
  | queryRegistered _ => .queryRegistered
  | queryChanged _ _ => .queryChanged
  | sheetRendered _ _ => .sheetRendered
  | expressionFailed _ _ => .expressionFailed
  | linkSkipped _ _ => .linkSkipped

end CondCss
