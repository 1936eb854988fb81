import CondCss.Proofs.Media.Canonical
import CondCss.Proofs.Render.Dependence
import CondCss.Proofs.Render.Unreadable

/-!
# Hosts that cannot answer

A question that a host cannot answer counts as answered with a no, or with an empty style. So every
condition has the truth that it has by the answers of a host that says just that
(`Host.truth_silenced`), and a style sheet is rendered to the text that it has by these answers
(`render_text`), in every pass and for calls inside each other.

No host can say no to all media queries, but one can say no to those that a rendering asks. On such a
host, which can answer everything, the rendering is the same (`render_answering`).
-/

namespace CondCss

/-! ### Answers -/

/-- Answers to the questions that conditions ask. -/
structure Answers where
  /-- Whether a media query matches. -/
  matchMedia : Text → Bool
  /-- Whether a feature is supported. -/
  supports : Text → Bool
  /-- The computed value of a property of the root. -/
  computedStyle : Text → Text

namespace Answers

/-- The truth of conditions by these answers. -/
def truth (a : Answers) : Truth
  | .literal, expression => Condition.trueLiterals.contains (Text.lower (Text.trim expression))
  | .media, expression => a.matchMedia (['('] ++ expression ++ [')'])
  | .supports, expression => a.supports expression
  | .style, expression =>
    Condition.styleHolds (Condition.readStyle expression).2
      (Text.trim (a.computedStyle (Condition.readStyle expression).1))

end Answers

namespace Host

variable (h : Host)

/-- What a host answers, with a no or an empty style in place of every answer that it cannot give. -/
def silenced : Answers where
  matchMedia query := if h.failing.contains .matchMedia then false else h.isMatch query
  supports condition :=
    if h.failing.contains .supports then false else h.features.contains (Media.normalize condition)
  computedStyle property :=
    if h.failing.contains .computedStyle then [] else (h.styles.lookup property).getD []

/-- A question without an answer counts as one that is answered with a no or an empty style. -/
theorem truth_silenced : h.silenced.truth = h.truth := by
  funext kind expression
  cases kind with
  | literal => rfl
  | media =>
    simp only [Answers.truth, silenced, truth, Condition.ask, matchMedia, ask]
    split <;> rfl
  | supports =>
    simp only [Answers.truth, silenced, truth, Condition.ask, supports, ask]
    split <;> rfl
  | style =>
    simp only [Answers.truth, silenced, truth, Condition.ask, computedStyle, ask]
    split
    · exact Condition.styleHolds_nil expression
    · rfl

end Host

/-! ### Rendering by answers -/

namespace Render

/-- What a call with this content is replaced by, when conditions have this truth. -/
def callValueUnder (truth : Truth) (content : Text) : Text :=
  match Conditional.parse .literal content with
  | .ok c => (c.valueUnder truth).getD []
  | .error _ => Occurrence.token ++ content ++ [')']

/-- A text with every call that can be read replaced by its value. -/
def stageUnder (truth : Truth) (s : Text) : Text :=
  Occurrence.mapCalls (callValueUnder truth) s

/-- The part of a style sheet that is not evaluated. -/
def ready (options : Options) (s : Text) : Text :=
  if options.expandFirst then (Expand.sheet false s).native else []

/-- The part of a style sheet that is evaluated. -/
def evaluated (options : Options) (s : Text) : Text :=
  if options.expandFirst then (Expand.sheet false s).deferred else s

/-- The text that a style sheet is rendered to, when conditions have this truth. -/
def textUnder (truth : Truth) (options : Options) (s : Text) : Text :=
  if !Expand.hasToken s then s
  else Text.joinWith ['\n']
    ([ready options s, (stageUnder truth)^[maxPasses] (evaluated options s)].filter (!·.isEmpty))

theorem stage_eq_stageUnder (h : Host) : stage h = stageUnder h.truth := by
  have same : callValue h = callValueUnder h.truth := by
    funext content
    unfold callValue callValueUnder
    cases Conditional.parse .literal content with
    | ok c => exact Conditional.select_eq_valueUnder h c
    | error e => rfl
  funext s
  rw [stage, stageUnder, same]

theorem iterate_stageUnder (h : Host) (n : Nat) (s : Text) :
    (stageUnder h.silenced.truth)^[n] s = (stage h)^[n] s := by
  rw [h.truth_silenced, stage_eq_stageUnder]

/-- A style sheet is rendered to the text that it has by the answers of the host, with a no or an empty
    style in place of every answer that the host cannot give. -/
theorem render_text (h : Host) (options : Options) (s : Text) :
    (render h options s).text = textUnder h.silenced.truth options s := by
  unfold textUnder
  rw [iterate_stageUnder]
  cases token : Expand.hasToken s with
  | false => simp [render, token]
  | true =>
    obtain ⟨debug, expandFirst⟩ := options
    cases expandFirst with
    | false =>
      simp only [render, token, ready, evaluated, resolve_text, Bool.not_true, Bool.not_false,
        Bool.false_eq_true, if_false, if_true]
      generalize (stage h)^[maxPasses] s = text
      cases text <;> simp [Text.joinWith]
    | true =>
      rw [text_of_hasToken h debug token]
      simp only [ready, evaluated, Expand.sheet, token, Bool.not_true, Bool.false_eq_true, if_false,
        if_true, List.flatMap_map]

/-- A call of the evaluated part that cannot be read stands in the text, unless a pass behind the first
    finds a call in its place that can be read. -/
theorem isInfix_of_unreadable {h : Host} {options : Options} {s : Text} {o : Occurrence}
    (member : o ∈ Occurrence.allIn (evaluated options s)) (unreadable : isUnreadable o.content = true)
    (free : ∀ m < maxPasses, 0 < m → ¬Reaches ((stage h)^[m] (evaluated options s))
      (place h (evaluated options s) o.start m) o.fullText.length) :
    o.fullText <:+: (render h options s).text := by
  have stands := (stands_of_unreadable member unreadable free).isInfix
  rw [render_text, textUnder, iterate_stageUnder]
  cases token : Expand.hasToken s with
  | false =>
    cases expandFirst : options.expandFirst with
    | false =>
      simp only [evaluated, expandFirst, Bool.false_eq_true, if_false] at member
      exact (standsAt_of_mem member).isInfix
    | true =>
      simp only [evaluated, expandFirst, Expand.sheet, token, Bool.not_false, if_true] at member
      cases member
  | true =>
    simp only [Bool.not_true, Bool.false_eq_true, if_false]
    generalize (stage h)^[maxPasses] (evaluated options s) = text at stands
    have some : text ≠ [] := by
      rintro rfl
      simp [Occurrence.fullText] at stands
    refine stands.trans ?_
    cases ready options s with
    | nil => simp [Text.joinWith, some]
    | cons c front =>
      exact ⟨c :: front ++ ['\n'], [], by simp [Text.joinWith, some, List.intercalate]⟩

end Render

/-! ### Hosts that can answer -/

namespace Host

/-- A host that can answer every question. Where the first one cannot, it says no to these media queries,
    supports no feature and has no styles. -/
def answering (h : Host) (queries : List Text) : Host :=
  { h with
    failing := []
    overrides :=
      if h.failing.contains .matchMedia then
        queries.map fun query => (Media.normalize (['('] ++ query ++ [')']), false)
      else h.overrides
    features := if h.failing.contains .supports then [] else h.features
    styles := if h.failing.contains .computedStyle then [] else h.styles }

/-- Media queries are not about features and styles. -/
theorem isMatch_with (h : Host) (features : List Text) (styles : List (Text × Text))
    (failing : List Oracle) (query : Text) :
    { h with features, styles, failing }.isMatch query = h.isMatch query := by
  have within (fuel : Nat) (query : Text) :
      { h with features, styles, failing }.evaluateWithin fuel query =
        h.evaluateWithin fuel query := by
    induction fuel generalizing query with
    | zero => rfl
    | succ fuel ih =>
      rw [evaluateWithin, evaluateWithin, funext ih]
      rfl
  rw [isMatch, evaluate?, within]
  rfl

/-- On a host that can answer, the same conditions hold, those on media among the queries. -/
theorem agreeFor_answering (h : Host) (queries : List Text) :
    AgreeFor h (h.answering queries) queries := by
  intro kind expression asked
  rw [← truth_silenced, ← truth_silenced]
  cases kind with
  | literal => rfl
  | media =>
    change (h.answering queries).isMatch _ = _
    simp only [Answers.truth, silenced]
    split
    · rename_i unable
      have fixed : (h.answering queries).overrides.lookup
          (Media.normalize (['('] ++ expression ++ [')'])) = some false := by
        simp only [answering, if_pos unable]
        exact Assoc.lookup_map_const (fun query => Media.normalize (['('] ++ query ++ [')'])) false
          (asked rfl)
      rw [isMatch, evaluate?_of_fixed fixed]
      rfl
    · rename_i able
      simp only [answering, if_neg able]
      exact h.isMatch_with _ _ _ _
  | supports =>
    change (h.answering queries).features.contains _ = _
    simp only [Answers.truth, silenced, answering]
    split <;> simp
  | style =>
    have same : (h.answering queries).silenced.computedStyle = h.silenced.computedStyle := by
      funext property
      change ((h.answering queries).styles.lookup property).getD [] = _
      simp only [silenced, answering]
      split <;> rfl
    simp only [Answers.truth, same]

end Host

/-- A rendering is the same on a host that can answer, and says no where the first one cannot. -/
theorem render_answering (h : Host) (options : Options) (s : Text) :
    let answering := h.answering (render h options s).queries
    (render answering options s).text = (render h options s).text ∧
      (render answering options s).queries = (render h options s).queries :=
  render_lockstep (h.agreeFor_answering _)

end CondCss
