/-!
# Log entries

What the library does is told in log entries, each from one part of it.
-/

namespace CondCss
namespace Log

/-- How important an entry is. -/
inductive Level where
  | debug
  | warning
  deriving DecidableEq, Repr

/-- The word for a level. -/
def Level.name : Level → String
  | debug => "DEBUG"
  | warning => "WARNING"

/-- The part of the library that an entry comes from. -/
inductive Source where
  /-- Resolving texts and processing documents. -/
  | session
  /-- Subscriptions to media queries. -/
  | subscriptions
  /-- Loading linked style sheets. -/
  | loader
  /-- Evaluating conditions. -/
  | conditions
  /-- Expanding one declaration. -/
  | declaration
  /-- Expanding a style sheet. -/
  | sheet
  deriving DecidableEq, Repr

/-- The name under which a part logs. -/
def Source.name : Source → String
  | session => "cssif.runtime.engine"
  | subscriptions => "cssif.runtime.subscriptions"
  | loader => "cssif.runtime.loader"
  | conditions => "cssif.conditions"
  | declaration => "cssif.transforms.native"
  | sheet => "cssif.transforms.build"

/-- One log entry. -/
structure Entry where
  /-- How important it is. -/
  level : Level := .debug
  /-- Where it comes from. -/
  source : Source
  /-- What happened. -/
  message : String
  deriving DecidableEq, Repr

/-- An entry on one line. -/
def Entry.render (e : Entry) : String :=
  e.level.name ++ " " ++ e.source.name ++ ": " ++ e.message

end Log
end CondCss
