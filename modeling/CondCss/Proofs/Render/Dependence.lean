import CondCss.Proofs.Render.Stages

/-!
# What a rendering depends on

A rendering tells the media queries it depends on. Two hosts that give the same answers to these, and
to every condition of another kind, render to the same text and tell the same queries
(`render_lockstep`).

Which queries a pass tells depends on the text alone: all queries of a call are told, also those of
clauses that are not looked at (`queriesOf_pass`). The host has its say in what the next pass starts
from. So two hosts that agree on what is told stay in step, pass after pass (`stages_lockstep`).
-/

namespace CondCss

namespace Host

/-- Two hosts answer every question in the same way that is not about media. -/
structure AgreeBesidesMedia (h h' : Host) : Prop where
  features : h'.features = h.features
  styles : h'.styles = h.styles
  elementStyles : h'.elementStyles = h.elementStyles
  failing : h'.failing = h.failing

/-- Two hosts give the same answers to media queries. -/
def AgreeOn (h h' : Host) (queries : List Text) : Prop :=
  ∀ query ∈ queries, h'.isMatch (['('] ++ query ++ [')']) = h.isMatch (['('] ++ query ++ [')'])

/-- The same conditions hold on two hosts, those on media among these queries. -/
def AgreeFor (h h' : Host) (queries : List Text) : Prop :=
  ∀ kind expression, (kind = .media → expression ∈ queries) →
    h'.truth kind expression = h.truth kind expression

variable {h h' : Host} {queries first second : List Text}

theorem AgreeFor.mono (agree : AgreeFor h h' second) (part : ∀ query ∈ first, query ∈ second) :
    AgreeFor h h' first :=
  fun kind expression asked => agree kind expression fun isMedia => part _ (asked isMedia)

theorem AgreeFor.append (agree : AgreeFor h h' (first ++ second)) :
    AgreeFor h h' first ∧ AgreeFor h h' second :=
  ⟨agree.mono fun _ => List.mem_append_left _, agree.mono fun _ => List.mem_append_right _⟩

theorem AgreeBesidesMedia.agreeFor (same : AgreeBesidesMedia h h') (media : AgreeOn h h' queries) :
    AgreeFor h h' queries := by
  intro kind expression asked
  cases kind with
  | literal => rfl
  | media =>
    have answer := media expression (asked rfl)
    simp only [truth, Condition.ask, matchMedia, ask, same.failing, answer]
  | supports => simp only [truth, Condition.ask, supports, ask, same.failing, same.features]
  | style =>
    simp only [truth, Condition.ask, computedStyle, ask, same.failing, same.styles,
      same.elementStyles]

end Host

/-- An empty style is never as asked. -/
theorem Condition.styleHolds_nil (expression : Text) :
    styleHolds (readStyle expression).2 [] = false := by
  unfold readStyle
  cases Scan.cut? (· == ':') expression with
  | none => rfl
  | some parts =>
    cases empty : (Text.trim parts.2).isEmpty with
    | true => simp [empty, styleHolds]
    | false =>
      simp only [empty]
      simpa [styleHolds] using empty

namespace Host

/-- Hosts agree if they answer alike. A question without an answer counts as answered with a no, or
    with an empty style. -/
theorem agreeFor_of_answers
    (supports : ∀ condition, (h'.supports condition).toOption.getD false =
      (h.supports condition).toOption.getD false)
    (style : ∀ property, (h'.computedStyle none property).toOption.getD [] =
      (h.computedStyle none property).toOption.getD [])
    (media : ∀ query ∈ queries, (h'.matchMedia (['('] ++ query ++ [')'])).toOption.getD false =
      (h.matchMedia (['('] ++ query ++ [')'])).toOption.getD false) :
    AgreeFor h h' queries := by
  have truth_media (h : Host) (query : Text) : h.truth .media query =
      (h.matchMedia (['('] ++ query ++ [')'])).toOption.getD false := by
    simp only [truth, Condition.ask]
    cases h.matchMedia (['('] ++ query ++ [')']) <;> rfl
  have truth_supports (h : Host) (condition : Text) :
      h.truth .supports condition = (h.supports condition).toOption.getD false := by
    simp only [truth, Condition.ask]
    cases h.supports condition <;> rfl
  have truth_style (h : Host) (expression : Text) : h.truth .style expression =
      Condition.styleHolds (Condition.readStyle expression).2 (Text.trim
        ((h.computedStyle none (Condition.readStyle expression).1).toOption.getD [])) := by
    simp only [truth, Condition.ask]
    cases h.computedStyle none (Condition.readStyle expression).1 with
    | ok actual => rfl
    | error e => exact (Condition.styleHolds_nil expression).symm
  intro kind expression asked
  cases kind with
  | literal => rfl
  | media => rw [truth_media, truth_media, media expression (asked rfl)]
  | supports => rw [truth_supports, truth_supports, supports]
  | style => rw [truth_style, truth_style, style]

end Host

open Host

variable {h h' : Host} {options : Options}

/-! ### Calls -/

/-- Hosts that agree on the media queries of a conditional give it the same value. -/
theorem Conditional.select_congr {c : Conditional} (agree : AgreeFor h h' c.mediaQueries) :
    c.select h' none = c.select h none := by
  have same : ∀ clause ∈ c.clauses, clause.isTrue h'.truth = clause.isTrue h.truth := by
    intro clause member
    refine agree clause.kind clause.expression fun isMedia => ?_
    exact List.mem_map.2 ⟨clause, List.mem_filter.2 ⟨member, by simp [isMedia]⟩, rfl⟩
  have found : c.clauses.find? (·.isTrue h'.truth) = c.clauses.find? (·.isTrue h.truth) := by
    rw [← List.head?_filter, ← List.head?_filter, List.filter_congr same]
  rw [select_eq_valueUnder, select_eq_valueUnder, valueUnder, valueUnder, found]

namespace Render

/-- The media queries that a call with this content tells. -/
def callQueries (content : Text) : List Text :=
  match Conditional.parse .literal content with
  | .ok c => c.mediaQueries
  | .error _ => []

theorem callValue_congr {content : Text} (agree : AgreeFor h h' (callQueries content)) :
    callValue h' content = callValue h content := by
  unfold callQueries at agree
  unfold callValue
  cases read : Conditional.parse .literal content with
  | ok c =>
    rw [read] at agree
    exact Conditional.select_congr agree
  | error e => rfl

/-- The media queries that the calls of a text tell. -/
def stageQueries (s : Text) : List Text :=
  (Occurrence.allIn s).flatMap fun o => callQueries o.content

theorem stage_congr {s : Text} (agree : AgreeFor h h' (stageQueries s)) :
    stage h' s = stage h s := by
  have same : (Occurrence.allIn s).map (fun o => callValue h' o.content) =
      (Occurrence.allIn s).map fun o => callValue h o.content := by
    refine List.map_congr_left fun o member => callValue_congr (agree.mono fun query asked => ?_)
    exact List.mem_flatMap.2 ⟨o, member, asked⟩
  rw [stage, stage, ← Occurrence.replaceAll_allIn, ← Occurrence.replaceAll_allIn, same]

/-! ### Stages -/

/-- The media queries that a text and what it becomes tell, in so many stages. -/
def stagesQueries (h : Host) : (stages : Nat) → Text → List Text
  | 0, _ => []
  | stages + 1, s => stageQueries s ++ stagesQueries h stages (stage h s)

/-- Hosts that agree on what is told on one of them stay in step. -/
theorem stages_lockstep {stages : Nat} {s : Text}
    (agree : AgreeFor h h' (stagesQueries h stages s)) :
    (stage h')^[stages] s = (stage h)^[stages] s ∧
      stagesQueries h' stages s = stagesQueries h stages s := by
  induction stages generalizing s with
  | zero => exact ⟨rfl, rfl⟩
  | succ stages ih =>
    obtain ⟨here, later⟩ := agree.append
    have step : stage h' s = stage h s := stage_congr here
    obtain ⟨text, queries⟩ := ih later
    refine ⟨?_, ?_⟩
    · rw [Function.iterate_succ_apply, Function.iterate_succ_apply, step, text]
    · rw [stagesQueries, stagesQueries, step, queries]

/-- A text without calls that can be read tells nothing in any stage. -/
theorem stagesQueries_of_fixed {s : Text} (fixed : stage h s = s) (none : stageQueries s = [])
    (stages : Nat) : stagesQueries h stages s = [] := by
  induction stages with
  | zero => rfl
  | succ stages ih => rw [stagesQueries, none, fixed, ih, List.append_nil]

/-! ### Passes -/

/-- The media queries among effects. -/
def queriesOf (effects : List Effect) : List Text :=
  effects.filterMap Effect.query?

theorem queriesOf_append (first second : List Effect) :
    queriesOf (first ++ second) = queriesOf first ++ queriesOf second :=
  List.filterMap_append ..

theorem queriesOf_debugEntry (options : Options) (message : String) :
    queriesOf (debugEntry options message) = [] := by
  unfold debugEntry
  split <;> rfl

theorem queriesOf_failureEffects (options : Options) (failed : List Text) (call : Text)
    (error : Conditional.Error) : queriesOf (failureEffects options failed call error) = [] := by
  unfold failureEffects
  split
  · rfl
  · rw [queriesOf_append, queriesOf_debugEntry]
    rfl

theorem queriesOf_selectEffects (h : Host) (options : Options) (call : Text) (c : Conditional) :
    queriesOf (selectEffects h options call c) = c.mediaQueries := by
  have asked (queries : List Text) : queriesOf (queries.map .asked) = queries := by
    rw [queriesOf, List.filterMap_map]
    exact List.filterMap_some
  have logged (failures : List Condition.Failure) :
      queriesOf (failures.map fun f =>
        .logged { source := .conditions, message := f.message }) = [] := by
    rw [queriesOf, List.filterMap_map]
    exact List.filterMap_eq_nil_iff.2 fun _ _ => rfl
  rw [selectEffects, queriesOf_append, queriesOf_append, asked, logged, queriesOf_debugEntry,
    List.append_nil, List.append_nil]

/-- What a pass tells does not depend on the host. -/
theorem queriesOf_pass (failed : List Text) (calls : List Occurrence) :
    queriesOf (pass h options failed calls).effects =
      calls.flatMap fun o => callQueries o.content := by
  induction calls generalizing failed with
  | nil => rfl
  | cons o calls ih =>
    unfold pass
    cases read : Conditional.parse .literal o.content with
    | error e =>
      simp only [queriesOf_append, queriesOf_failureEffects, ih, List.flatMap_cons, callQueries,
        read]
    | ok c =>
      simp only [queriesOf_append, queriesOf_selectEffects, ih, List.flatMap_cons, callQueries,
        read]

theorem stageQueries_of_not_changed {failed : List Text} {s : Text}
    (same : (pass h options failed (Occurrence.allIn s)).changed = false) :
    stageQueries s = [] := by
  refine List.flatMap_eq_nil_iff.2 fun o member => ?_
  obtain ⟨e, read⟩ := exists_error_of_not_changed same member
  simp only [callQueries, read]

theorem queriesOf_resolveWithin (passes : Nat) (failed : List Text) (s : Text) :
    queriesOf (resolveWithin h options passes failed s).effects = stagesQueries h passes s := by
  induction passes generalizing failed s with
  | zero => rfl
  | succ passes ih =>
    unfold resolveWithin
    cases changed : (pass h options failed (Occurrence.allIn s)).changed with
    | true =>
      simp only [changed, if_true, queriesOf_append, queriesOf_pass, ih, replaceAll_pass]
      rfl
    | false =>
      have none := stageQueries_of_not_changed changed
      have told : queriesOf (pass h options failed (Occurrence.allIn s)).effects = [] :=
        (queriesOf_pass failed (Occurrence.allIn s)).trans none
      simp only [changed, Bool.false_eq_true, if_false, told,
        stagesQueries_of_fixed (stage_of_not_changed changed) none]

/-- Hosts that agree on what is told while a text is resolved resolve it alike. -/
theorem resolve_lockstep {s : Text}
    (agree : AgreeFor h h' (queriesOf (resolve h options s).effects)) :
    (resolve h' options s).text = (resolve h options s).text ∧
      queriesOf (resolve h' options s).effects = queriesOf (resolve h options s).effects := by
  have told (h : Host) :
      queriesOf (resolve h options s).effects = stagesQueries h maxPasses s :=
    queriesOf_resolveWithin maxPasses [] s
  rw [told] at agree
  obtain ⟨text, queries⟩ := stages_lockstep agree
  rw [resolve_text, resolve_text, told, told]
  exact ⟨text, queries⟩

end Render

/-! ### Renderings -/

/-- Hosts that agree on the media queries of a rendering, and besides media, render a style sheet to
    the same text and tell the same queries. -/
theorem render_lockstep {s : Text} (agree : AgreeFor h h' (render h options s).queries) :
    (render h' options s).text = (render h options s).text ∧
      (render h' options s).queries = (render h options s).queries := by
  unfold render at agree ⊢
  cases token : Expand.hasToken s with
  | false => exact ⟨rfl, rfl⟩
  | true =>
    cases expandFirst : options.expandFirst with
    | false =>
      simp only [token, expandFirst, Bool.not_true, Bool.not_false, Bool.false_eq_true, if_false,
        if_true] at agree ⊢
      exact Render.resolve_lockstep agree
    | true =>
      simp only [token, expandFirst, Bool.not_true, Bool.false_eq_true, if_false] at agree ⊢
      cases deferred : (Expand.sheet false s).hasDeferred with
      | false => exact ⟨rfl, rfl⟩
      | true =>
        simp only [deferred, if_true, Rendering.queries, List.filterMap_append] at agree ⊢
        obtain ⟨text, queries⟩ := Render.resolve_lockstep agree.append.2
        rw [text]
        exact ⟨rfl, congrArg _ queries⟩

/-- The media queries that a rendering tells are all that it depends on. Two hosts that give the same
    answers about features and styles, and to these queries, render a style sheet to the same text
    and tell the same queries in the same order. -/
theorem render_eq_of_answers {s : Text}
    (supports : ∀ condition, (h'.supports condition).toOption.getD false =
      (h.supports condition).toOption.getD false)
    (style : ∀ property, (h'.computedStyle none property).toOption.getD [] =
      (h.computedStyle none property).toOption.getD [])
    (media : ∀ query ∈ (render h options s).queries,
      (h'.matchMedia (['('] ++ query ++ [')'])).toOption.getD false =
        (h.matchMedia (['('] ++ query ++ [')'])).toOption.getD false) :
    (render h' options s).text = (render h options s).text ∧
      (render h' options s).queries = (render h options s).queries :=
  render_lockstep (agreeFor_of_answers supports style media)

/-- A value that is deferred, with calls in both branches of a call. -/
def nestedBranches : Text :=
  (".a \x7b top: if(media(min-width: 100px): if(style(--x): 1px; media(hover): 2px; else: 3px); " ++
    "else: if(media(max-width: 600px): 4px; else: 5px)) \x7d").toList

/-- Hosts that disagree on a query of a branch that is not taken, one of which has no computed
    styles to tell. -/
theorem render_eq_of_answers_nestedBranches :
    let wide : Host := { width := 800 }
    let narrow : Host := { width := 500, failing := [.computedStyle] }
    ((render wide {} nestedBranches).queries = ["min-width: 100px".toList, "hover".toList] ∧
      wide.matchMedia "(max-width: 600px)".toList ≠ narrow.matchMedia "(max-width: 600px)".toList) ∧
    (render narrow {} nestedBranches).text = (render wide {} nestedBranches).text ∧
      (render narrow {} nestedBranches).queries = (render wide {} nestedBranches).queries := by
  intro wide narrow
  have told : (render wide {} nestedBranches).queries =
      ["min-width: 100px".toList, "hover".toList] := by
    decide +kernel
  refine ⟨⟨told, by decide +kernel⟩, render_eq_of_answers (fun _ => rfl) (fun _ => rfl) ?_⟩
  rw [told]
  decide +kernel

end CondCss
