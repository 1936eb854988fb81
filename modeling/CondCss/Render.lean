import CondCss.Condition
import CondCss.Event
import CondCss.Log
import CondCss.Expand.Sheet

/-!
# Rendering

To render a text is to replace its conditional values by their values on a host. The style sheet is
expanded first, unless that is switched off, so that only deferred declarations need evaluation.
Values may have conditional parts of their own, which are resolved in further passes.

A rendering has its text and its effects, in order: the media queries on which the text depends,
calls that could not be read, and log entries.
-/

namespace CondCss

/-- How texts are rendered. -/
structure Options where
  /-- Whether every step is logged. -/
  debug : Bool := false
  /-- Whether the style sheet is expanded before it is evaluated. -/
  expandFirst : Bool := true
  deriving DecidableEq, Repr

/-- What happens while a text is rendered. -/
inductive Effect where
  /-- The text depends on a media query. -/
  | asked (query : Text)
  /-- A call could not be read. -/
  | failed (call : Text) (error : Conditional.Error)
  | logged (entry : Log.Entry)
  deriving DecidableEq, Repr

/-- The media query that an effect is about. -/
def Effect.query? : Effect → Option Text
  | asked query => some query
  | failed _ _ => none
  | logged _ => none

/-- A rendered text, with what happened. -/
structure Rendering where
  /-- The text. -/
  text : Text
  /-- What happened, in order. -/
  effects : List Effect := []
  deriving DecidableEq, Repr

/-- The media queries that a rendering depends on. -/
def Rendering.queries (r : Rendering) : List Text :=
  r.effects.filterMap Effect.query?

namespace Render

/-- At most this many passes are made. -/
def maxPasses : Nat := 32

/-- A log entry that is written only when every step is logged. -/
def debugEntry (options : Options) (message : String) : List Effect :=
  if options.debug then [.logged { source := .session, message }] else []

/-- The outcome of one pass over the calls of a text. -/
structure Pass where
  /-- What each call is replaced by. -/
  replacements : List Text := []
  /-- Calls that could not be read, in this pass or before. -/
  failed : List Text
  /-- Whether any call was resolved. -/
  changed : Bool := false
  /-- What happened, in order. -/
  effects : List Effect := []
  deriving DecidableEq, Repr

/-- What happens when a call cannot be read; it is told once. -/
def failureEffects (options : Options) (failed : List Text) (call : Text)
    (error : Conditional.Error) : List Effect :=
  if failed.contains call then []
  else debugEntry options
      ("Error processing if() function " ++ String.ofList call ++ ": " ++ error.message) ++
    [.failed call error]

/-- What happens when a conditional is resolved: its media queries are told first, whether they are
    looked at or not. -/
def selectEffects (h : Host) (options : Options) (call : Text) (c : Conditional) : List Effect :=
  c.mediaQueries.map .asked ++
  (Condition.choose h none c.clauses).failures.map
    (fun f => .logged { source := .conditions, message := f.message }) ++
  debugEntry options ("Resolved " ++ String.ofList call ++ " -> " ++
    Text.quotedString (c.select h none))

/-- Resolves the calls of a text, from left to right. -/
def pass (h : Host) (options : Options) (failed : List Text) : List Occurrence → Pass
  | [] => { failed }
  | o :: rest =>
    let call := o.fullText
    match Conditional.parse .literal o.content with
    | .error e =>
      let seen := if failed.contains call then failed else call :: failed
      let later := pass h options seen rest
      { later with
        replacements := call :: later.replacements
        effects := failureEffects options failed call e ++ later.effects }
    | .ok c =>
      let later := pass h options failed rest
      { later with
        replacements := c.select h none :: later.replacements
        changed := true
        effects := selectEffects h options call c ++ later.effects }

/-- Resolves a text in at most so many passes. -/
def resolveWithin (h : Host) (options : Options) :
    (passes : Nat) → (failed : List Text) → Text → Rendering
  | 0, _, s =>
    ⟨s, [.logged
      { level := .warning, source := .session,
        message := s!"Stopped resolving if() after {maxPasses} passes; " ++
          "output may contain if()" }]⟩
  | passes + 1, failed, s =>
    let calls := Occurrence.allIn s
    let done := pass h options failed calls
    if done.changed then
      let r := resolveWithin h options passes done.failed
        (Occurrence.replaceAll s calls done.replacements)
      ⟨r.text, done.effects ++ r.effects⟩
    else ⟨s, done.effects⟩

/-- Replaces every call in a text that can be read by its value. -/
def resolve (h : Host) (options : Options) (s : Text) : Rendering :=
  resolveWithin h options maxPasses [] s

end Render

/-- Renders a style sheet. -/
def render (h : Host) (options : Options) (s : Text) : Rendering :=
  if !Expand.hasToken s then ⟨s, []⟩
  else if !options.expandFirst then Render.resolve h options s
  else
    let report := Expand.sheet false s
    let effects := (Expand.logEntries s report).map .logged ++
      if report.native.isEmpty then []
      else Render.debugEntry options "Native CSS transformation applied"
    if report.hasDeferred then
      let r := Render.resolve h options report.deferred
      ⟨Text.joinWith ['\n'] ([report.native, r.text].filter (!·.isEmpty)), effects ++ r.effects⟩
    else ⟨report.native, effects⟩

end CondCss
