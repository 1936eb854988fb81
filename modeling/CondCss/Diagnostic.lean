import CondCss.Text.Quoted

/-!
# Diagnostics

A diagnostic is one finding about a style sheet: what kind of finding, how serious, in which rule
and at which property.
-/

namespace CondCss

/-- How serious a finding is. -/
inductive Severity where
  | error
  | warning
  | info
  deriving DecidableEq, Repr

namespace Severity

/-- The word for a severity. -/
def name : Severity → String
  | error => "ERROR"
  | warning => "WARNING"
  | info => "INFO"

/-- A word that names no severity. -/
structure Unknown where
  /-- The word. -/
  word : Text
  deriving DecidableEq, Repr

/-- What is said of a word that names no severity. -/
def Unknown.message (u : Unknown) : String :=
  Text.quotedString u.word ++ " is not a valid Severity"

/-- The severity that a word names. -/
def ofName (word : Text) : Except Unknown Severity :=
  match [error, warning, info].find? (·.name.toList == word) with
  | some severity => .ok severity
  | none => .error ⟨word⟩

end Severity

/-- One finding. -/
structure Diagnostic where
  /-- The kind of finding, as one word. -/
  code : String
  /-- How serious it is. -/
  severity : Severity
  /-- What was found. -/
  message : String
  /-- The selector of the rule. -/
  selector : Option Text := none
  /-- The property of the declaration. -/
  property : Option Text := none
  deriving DecidableEq, Repr

namespace Diagnostic

/-- Whether the finding is an error. -/
def isError (d : Diagnostic) : Bool :=
  d.severity == .error

/-- Whether the finding is a warning. -/
def isWarning (d : Diagnostic) : Bool :=
  d.severity == .warning

/-- Whether the finding is only information. -/
def isInfo (d : Diagnostic) : Bool :=
  d.severity == .info

/-- Where the finding is, in brackets; an empty selector or property counts as absent. -/
def location (d : Diagnostic) : Text :=
  match d.selector.getD [], d.property.getD [] with
  | [], _ => []
  | selector, [] => [' ', '['] ++ selector ++ [']']
  | selector, property =>
    [' ', '['] ++ selector ++ [' ', '{', ' '] ++ property ++ [' ', '}', ']']

/-- The diagnostic on one line. -/
def render (d : Diagnostic) : String :=
  d.severity.name ++ " " ++ d.code ++ String.ofList d.location ++ ": " ++ d.message

end Diagnostic
end CondCss
