import CondCss.Minify
import CondCss.Expand.Declaration
import CondCss.Sheet

/-!
# Expanding a style sheet

A style sheet is expanded item by item into two streams: the native one, which needs no evaluation,
and the deferred one. Items without conditional values go to the native stream as they are. A rule
with some is expanded declaration by declaration; the declarations without conditional parts stay
together and come first. A nested block with a conditional value is deferred whole.
-/

namespace CondCss
namespace Expand

/-- What one item contributes to the result. -/
structure ItemExpansion where
  /-- Texts for the native stream. -/
  native : List Text := []
  /-- Texts for the deferred stream. -/
  deferred : List Text := []
  /-- Findings, one for each deferred text. -/
  diagnostics : List Diagnostic := []
  /-- Whether the item was expanded or deferred. -/
  changed : Bool := false
  deriving DecidableEq, Repr

/-- How many characters of a deferred block its diagnostic shows. -/
def excerptLength : Nat := 40

/-- The finding about a nested block with a conditional value. -/
def opaqueBlock (block : Text) : Diagnostic where
  code := "opaque_block"
  severity := .warning
  message := "if() inside a nested block is left for runtime: " ++
    Text.quotedString (block.take excerptLength)

/-- Prints a rule with several declarations. -/
def baseRule (selector : Text) (declarations : List Declaration) : Text :=
  selector ++ [' ', '{', ' '] ++ Text.joinWith [';', ' '] (declarations.map (·.render)) ++
    [';', ' ', '}']

/-- Whether a declaration has a conditional part. -/
def isConditional (d : Declaration) : Bool :=
  Occurrence.anyIn d.value

/-- Expands a rule. -/
def rule (r : Rule) : ItemExpansion :=
  let base := r.declarations.filter (!isConditional ·)
  let expanded := (r.declarations.filter isConditional).map fun d =>
    declaration r.selector d.property d.value
  { native := (if base.isEmpty then [] else [baseRule r.selector base]) ++
      (expanded.map (·.native)).filter (!·.isEmpty)
    deferred := expanded.filterMap (·.deferred)
    diagnostics := expanded.flatMap (·.diagnostics)
    changed := true }

/-- Expands one item. -/
def item (s : Text) : ItemExpansion :=
  match Sheet.readRule? s with
  | some r => if r.declarations.any isConditional then rule r else { native := [s] }
  | none =>
    if !Sheet.startsComment s && Occurrence.anyIn s then
      { deferred := [s], diagnostics := [opaqueBlock s], changed := true }
    else { native := [s] }

/-- The result of expanding a style sheet. -/
structure Report where
  /-- The native stream. -/
  native : Text
  /-- The deferred stream. -/
  deferred : Text := []
  /-- Whether anything was deferred. -/
  hasDeferred : Bool := false
  /-- How many items the style sheet has. -/
  total : Nat
  /-- How many of them were expanded or deferred. -/
  changed : Nat := 0
  /-- The findings. -/
  diagnostics : List Diagnostic := []
  deriving DecidableEq, Repr

/-- The findings that are errors. -/
def Report.errors (r : Report) : List Diagnostic :=
  r.diagnostics.filter (·.isError)

/-- Whether a style sheet has the letters of a call at all; without them it is not read further. -/
def hasToken (s : Text) : Bool :=
  Text.hasInfix Occurrence.token s

/-- Expands a style sheet, minifying the native stream if asked to. -/
def sheet (shorten : Bool) (s : Text) : Report :=
  let finish (native : Text) := if shorten then minify native else native
  let items := Sheet.items s
  if !hasToken s then
    { native := if shorten then minify s else Text.trim s, total := items.length }
  else
    let expanded := items.map item
    let join (texts : List Text) := Text.trim (Text.joinWith ['\n'] texts)
    let deferred := expanded.flatMap (·.deferred)
    { native := finish (join (expanded.flatMap (·.native)))
      deferred := join deferred
      hasDeferred := !deferred.isEmpty
      total := items.length
      changed := expanded.countP (·.changed)
      diagnostics := expanded.flatMap (·.diagnostics) }

/-- The log entry about a deferred declaration. A deferred block has none. -/
def deferralEntry? (d : Diagnostic) : Option Log.Entry :=
  match d.selector, d.property with
  | some selector, some property =>
    some { source := .declaration,
           message := "Deferring " ++ String.ofList selector ++ " \x7b " ++
             String.ofList property ++ " \x7d to runtime: " ++ d.message }
  | _, _ => none

/-- What expanding the style sheet `s` logs, where `r` is the result. -/
def logEntries (s : Text) (r : Report) : List Log.Entry :=
  if hasToken s then
    r.diagnostics.filterMap deferralEntry? ++
      [{ source := .sheet,
         message := s!"Transformed {r.changed}/{r.total} rules, " ++
           s!"{r.diagnostics.length} diagnostic(s)" }]
  else []

end Expand
end CondCss
