import CondCss.Diagnostic
import CondCss.Log
import CondCss.Expand.Variant

/-!
# Expanding one declaration

A declaration is written as variants when each of its conditional parts can be read, asks only about
media and features, and no value has a conditional part of its own. Otherwise it is deferred: kept
whole, to be evaluated later, with a diagnostic that says why.
-/

namespace CondCss
namespace Expand

/-- The largest number of variants that one declaration is written as. -/
def maxVariants : Nat := 64

/-- Why a declaration is deferred. -/
inductive Deferral where
  /-- Its `if(` is never closed. -/
  | unclosed
  /-- A call cannot be read. -/
  | malformed (error : Conditional.Error) (call : Text)
  /-- A condition asks about computed styles. -/
  | needsStyles
  /-- There are too many variants. -/
  | tooMany (count : Nat)
  /-- A value has a conditional part of its own. -/
  | nested
  deriving DecidableEq, Repr

namespace Deferral

/-- The kind of finding. -/
def code : Deferral → String
  | unclosed => "unterminated_function"
  | malformed _ _ => "malformed_expression"
  | needsStyles => "runtime_condition"
  | tooMany _ => "too_many_variants"
  | nested => "nested_if"

/-- How serious the finding is. -/
def severity : Deferral → Severity
  | unclosed | malformed _ _ => .error
  | needsStyles | nested => .info
  | tooMany _ => .warning

/-- What was found. -/
def message : Deferral → String
  | unclosed => "if() has no matching ')'"
  | malformed error call => error.message ++ " in " ++ String.ofList call
  | needsStyles => "style() condition requires runtime evaluation"
  | tooMany count => s!"{count} condition combinations exceed the limit of {maxVariants}"
  | nested => "nested if() requires runtime evaluation"

/-- The finding, with its place. -/
def diagnostic (selector property : Text) (d : Deferral) : Diagnostic where
  code := d.code
  severity := d.severity
  message := d.message
  selector := some selector
  property := some property

end Deferral

/-- Reads one call for expansion: it must be well formed and ask only about media and features. -/
def readNative (o : Occurrence) : Except Deferral Conditional :=
  match Conditional.parse .strict o.content with
  | .error e => .error (.malformed e o.fullText)
  | .ok c => if c.isNative then .ok c else .error .needsStyles

/-- The variants of a value, in the order in which they are written. -/
def variants (value : Text) : Except Deferral (List Variant) := do
  match Occurrence.allIn value with
  | [] =>
    if Occurrence.anyIn value then throw .unclosed
    return [⟨[], value⟩]
  | occurrences =>
    let conditionals ← occurrences.mapM readNative
    let count := selectionCount conditionals
    if maxVariants < count then throw (.tooMany count)
    let all := (orderedSelections conditionals).map (variant value occurrences conditionals)
    if all.any fun v => Occurrence.anyIn v.value then throw .nested
    return all

/-- What a declaration becomes. -/
structure DeclarationExpansion where
  /-- The rules and blocks that stand for it; empty if it is deferred. -/
  native : Text := []
  /-- The whole declaration as a rule, if it is deferred. -/
  deferred : Option Text := none
  /-- Why it is deferred. -/
  diagnostics : List Diagnostic := []
  deriving DecidableEq, Repr

/-- Expands one declaration. -/
def declaration (selector property value : Text) : DeclarationExpansion :=
  match variants value with
  | .ok all => { native := Text.joinWith ['\n'] (all.map (·.render selector property)) }
  | .error why =>
    { deferred := some (declarationRule selector property value)
      diagnostics := [why.diagnostic selector property] }

end Expand
end CondCss
