import CondCss.Proofs.Conditional.Parts
import CondCss.Proofs.Expand.Blocks
import CondCss.Proofs.Render.Stages

/-!
# Well-formed values and rules

A value settles when each of its calls is closed, can be read and has an `else`, and when the value
with any choice for each of them settles in turn. A stage makes one choice for every call
(`stage_eq_variant`), so a value that settles goes on to settle (`Settles.iterate`), and a rule made
of such values stays a rule with the values of that stage (`reads_iterate`).
-/

namespace CondCss

namespace Conditional

/-- Whether a call has a value on every host, and its conditions can stand in the header of a block if
    all of them are about media and features. -/
def fits (c : Conditional) : Bool :=
  c.hasElse && (!c.isNative ||
    c.clauses.all fun clause => decide (Sheet.FitsHeader clause.expression))

end Conditional

/-! ### Values that settle -/

namespace Render

open Occurrence (allIn anyIn callsClosed)
open Expand (variant selections choices)
open Sheet (FitsBody)

/-- The calls of a text, if all of them can be read without literals. -/
def readCalls (s : Text) : Option (List Conditional) :=
  (allIn s).mapM fun o => (Conditional.parse .strict o.content).toOption

/-- Whether a value is closed and not blank, and all of its calls are closed, can be read and fit, now
    and after every choice for each of them, until there are none after so many stages. -/
def settlesWithin : (stages : Nat) → (value : Text) → Bool
  | 0, v => decide (FitsBody v) && !(Text.trim v).isEmpty && !anyIn v
  | stages + 1, v =>
    decide (FitsBody v) && !(Text.trim v).isEmpty && callsClosed v &&
      (readCalls v).any fun calls => calls.all Conditional.fits &&
        (selections (calls.map choices)).all fun selection =>
          settlesWithin stages (variant v (allIn v) calls selection).value

/-- Whether a value settles after some number of stages. -/
def Settles (v : Text) : Prop :=
  ∃ stages, settlesWithin stages v = true

theorem settlesWithin_succ {stages : Nat} {v : Text} (h : settlesWithin (stages + 1) v = true) :
    FitsBody v ∧ Text.trim v ≠ [] ∧ callsClosed v = true ∧
      ∃ calls, readCalls v = some calls ∧ (∀ c ∈ calls, c.fits = true) ∧
        ∀ selection, List.Forall₂ (· ∈ ·) selection (calls.map choices) →
          settlesWithin stages (variant v (allIn v) calls selection).value = true := by
  simp only [settlesWithin, Bool.and_eq_true, decide_eq_true_eq, Bool.not_eq_true',
    List.isEmpty_eq_false_iff, Option.any_eq_true, List.all_eq_true] at h
  obtain ⟨⟨⟨fits, some⟩, closed⟩, calls, read, good, later⟩ := h
  exact ⟨fits, some, closed, calls, read, good, fun selection member =>
    later selection (Expand.mem_selections.2 member)⟩

theorem settlesWithin_zero {v : Text} (h : settlesWithin 0 v = true) :
    FitsBody v ∧ Text.trim v ≠ [] ∧ anyIn v = false := by
  simp only [settlesWithin, Bool.and_eq_true, decide_eq_true_eq, Bool.not_eq_true',
    List.isEmpty_eq_false_iff] at h
  exact ⟨h.1.1, h.1.2, h.2⟩

theorem Settles.fitsBody {v : Text} (h : Settles v) : FitsBody v := by
  obtain ⟨stages, h⟩ := h
  cases stages with
  | zero => exact (settlesWithin_zero h).1
  | succ stages => exact (settlesWithin_succ h).1

theorem Settles.not_blank {v : Text} (h : Settles v) : Text.trim v ≠ [] := by
  obtain ⟨stages, h⟩ := h
  cases stages with
  | zero => exact (settlesWithin_zero h).2.1
  | succ stages => exact (settlesWithin_succ h).2.1

theorem Settles.callsClosed {v : Text} (h : Settles v) : callsClosed v = true := by
  obtain ⟨stages, h⟩ := h
  cases stages with
  | zero => exact Occurrence.callsClosed_of_anyIn (settlesWithin_zero h).2.2
  | succ stages => exact (settlesWithin_succ h).2.2.1

theorem settles_of_anyIn {v : Text} (fits : FitsBody v) (some : Text.trim v ≠ [])
    (none : anyIn v = false) : Settles v := by
  refine ⟨0, ?_⟩
  simp only [settlesWithin, Bool.and_eq_true, decide_eq_true_eq, Bool.not_eq_true',
    List.isEmpty_eq_false_iff]
  exact ⟨⟨fits, some⟩, none⟩

/-! ### Stages of a value -/

theorem exists_firstChoices (truth : Truth) {calls : List Conditional}
    (hasElse : ∀ c ∈ calls, c.hasElse = true) :
    ∃ firsts, calls.mapM (Expand.firstChoice truth) = some firsts := by
  induction calls with
  | nil => exact ⟨[], rfl⟩
  | cons c calls ih =>
    obtain ⟨here, later⟩ := List.forall_mem_cons.1 hasElse
    obtain ⟨firsts, rest⟩ := ih later
    obtain ⟨first, chosen⟩ : ∃ first, Expand.firstChoice truth c = some first := by
      unfold Expand.firstChoice
      cases c.clauses.find? (·.isTrue truth) with
      | none => exact ⟨none, by simp [here]⟩
      | some clause => exact ⟨some clause, rfl⟩
    exact ⟨first :: firsts, by simp [List.mapM_cons, chosen, rest]⟩

theorem map_callValue (h : Host) {occurrences : List Occurrence} {calls : List Conditional}
    (read : (occurrences.mapM fun o => (Conditional.parse .strict o.content).toOption) =
      some calls) {values : List Text}
    (valued : calls.mapM (Conditional.valueUnder h.truth) = some values) :
    occurrences.map (fun o => callValue h o.content) = values := by
  induction occurrences generalizing calls values with
  | nil =>
    cases read
    cases valued
    rfl
  | cons o occurrences ih =>
    rw [List.mapM_cons] at read
    cases parsed : Conditional.parse .strict o.content with
    | error e =>
      rw [parsed] at read
      cases read
    | ok c =>
      rw [parsed] at read
      obtain ⟨rest, readRest, rfl⟩ : ∃ rest,
          (occurrences.mapM fun o => (Conditional.parse .strict o.content).toOption) = some rest ∧
            c :: rest = calls := by
        simpa [Except.toOption, Option.bind_eq_some_iff] using read
      obtain ⟨value, chosen, later, valuedRest, rfl⟩ :
          ∃ value, Conditional.valueUnder h.truth c = some value ∧
            ∃ later, rest.mapM (Conditional.valueUnder h.truth) = some later ∧
              value :: later = values := by
        simpa [List.mapM_cons, Option.bind_eq_some_iff] using valued
      have here : callValue h o.content = value := by
        rw [callValue, Conditional.parse_literal parsed]
        simp only [Conditional.select_eq_valueUnder, chosen, Option.getD_some]
      rw [List.map_cons, here, ih readRest valuedRest]

/-- A stage takes the first choice of every call. -/
theorem stage_eq_variant (h : Host) {v : Text} {calls : List Conditional}
    (read : readCalls v = some calls) {firsts : List Expand.Choice}
    (chosen : calls.mapM (Expand.firstChoice h.truth) = some firsts) :
    stage h v = (variant v (allIn v) calls firsts).value := by
  have valued : calls.mapM (Conditional.valueUnder h.truth) =
      some (List.zipWith Expand.chosenValue calls firsts) := by
    rw [Expand.mapM_valueUnder, chosen]
    rfl
  rw [stage, ← Occurrence.replaceAll_allIn, map_callValue h read valued]
  rfl

theorem Settles.stage (h : Host) {v : Text} (settles : Settles v) : Settles (stage h v) := by
  obtain ⟨stages, settles⟩ := settles
  cases stages with
  | zero =>
    rw [stage_of_anyIn (settlesWithin_zero settles).2.2]
    exact ⟨0, settles⟩
  | succ stages =>
    obtain ⟨-, -, -, calls, read, good, later⟩ := settlesWithin_succ settles
    have hasElse : ∀ c ∈ calls, c.hasElse = true := fun c hc =>
      (Bool.and_eq_true_iff.1 (good c hc)).1
    obtain ⟨firsts, chosen⟩ := exists_firstChoices h.truth hasElse
    rw [stage_eq_variant h read chosen]
    exact ⟨stages, later firsts (Expand.firstChoices_mem chosen).1⟩

/-- A value that settles goes on to settle. -/
theorem Settles.iterate (h : Host) {v : Text} (settles : Settles v) (n : Nat) :
    Settles ((Render.stage h)^[n] v) := by
  induction n with
  | zero => exact settles
  | succ n ih =>
    rw [Function.iterate_succ_apply']
    exact ih.stage h

/-! ### Stages of a fragment -/

/-- A fragment of a rule without calls, or one whose calls are in its value, and settle. -/
inductive FitsFragment : Text → Prop where
  | plain {t : Text} (body : FitsBody t) (none : anyIn t = false) : FitsFragment t
  | declaration {property value : Text} (body : FitsBody property)
      (colon : (':', 0) ∉ Scan.outside none none 0 property) (none : anyIn property = false)
      (named : Text.trim property ≠ []) (settles : Settles (Text.trim value)) :
      FitsFragment (property ++ ':' :: value)

theorem iterate_of_anyIn (h : Host) {t : Text} (none : anyIn t = false) (n : Nat) :
    (stage h)^[n] t = t :=
  Function.iterate_fixed (stage_of_anyIn none) n

/-- Blanks around a value and the property in front of it stay in every stage. -/
theorem iterate_fragment (h : Host) {property v front back : Text} (none : anyIn property = false)
    (hfront : ∀ c ∈ front, Text.isBlank c = true) (hback : ∀ c ∈ back, Text.isBlank c = true)
    (settles : Settles v) (n : Nat) :
    (stage h)^[n] (property ++ ':' :: (front ++ (v ++ back))) =
        property ++ ':' :: (front ++ ((stage h)^[n] v ++ back)) ∧
      callsClosed (property ++ ':' :: (front ++ ((stage h)^[n] v ++ back))) = true := by
  have closed (w : Text) (hw : Settles w) :
      callsClosed (property ++ ':' :: (front ++ (w ++ back))) = true := by
    rw [Occurrence.callsClosed_append_cons Occurrence.isBoundary_colon
      (Occurrence.callsClosed_of_anyIn none),
      (Occurrence.mapCalls_of_blank_append (f := id) hfront _).2]
    exact (Occurrence.mapCalls_append_of_blank (f := id) hback hw.callsClosed).2
  refine ⟨?_, closed _ (settles.iterate h n)⟩
  induction n with
  | zero => rfl
  | succ n ih =>
    have step (w : Text) (hw : Settles w) : stage h (property ++ ':' :: (front ++ (w ++ back))) =
        property ++ ':' :: (front ++ (stage h w ++ back)) := by
      rw [stage, Occurrence.mapCalls_append_cons Occurrence.isBoundary_colon
        (Occurrence.callsClosed_of_anyIn none), Occurrence.mapCalls_of_anyIn none,
        (Occurrence.mapCalls_of_blank_append hfront _).1,
        (Occurrence.mapCalls_append_of_blank hback hw.callsClosed).1]
      rfl
    rw [Function.iterate_succ_apply', ih, step _ (settles.iterate h n),
      Function.iterate_succ_apply']

theorem FitsFragment.fitsBody {t : Text} (fits : FitsFragment t) : FitsBody t := by
  cases fits with
  | plain body _ => exact body
  | declaration body _ _ _ settles =>
    exact body.append_colon (Sheet.fitsBody_trim.1 settles.fitsBody)

theorem anyIn_append_colon {property value : Text} (none : anyIn (property ++ ':' :: value) = false) :
    anyIn property = false ∧ anyIn (Text.trim value) = false := by
  rw [anyIn, Occurrence.startsAfter_append_cons Occurrence.isBoundary_colon,
    Bool.or_eq_false_iff] at none
  rw [Occurrence.anyIn_trim]
  exact none

/-- A declaration as it is read: trimmed, and with calls only in its value, which settles. -/
structure FitsRead (d : Declaration) : Prop where
  fits : Expand.FitsDeclaration d
  noCall : anyIn d.property = false
  settles : Settles d.value
  property : Text.trim d.property = d.property
  value : Text.trim d.value = d.value

theorem FitsFragment.of_readDeclaration? {t : Text} {d : Declaration} (fits : FitsFragment t)
    (read : Sheet.readDeclaration? t = some d) : FitsRead d := by
  obtain ⟨property, value, eq, closed, colon, rfl, named, valued⟩ :=
    Sheet.readDeclaration?_eq_some read
  have bodies : FitsBody property ∧ FitsBody value :=
    FitsBody.of_append_colon closed (eq ▸ fits.fitsBody)
  have parts : anyIn property = false ∧ Settles (Text.trim value) := by
    cases fits with
    | plain body none =>
      rw [eq] at none
      obtain ⟨noneBefore, noneBehind⟩ := anyIn_append_colon none
      refine ⟨noneBefore, settles_of_anyIn (Sheet.fitsBody_trim.2 bodies.2) ?_ noneBehind⟩
      rwa [Text.trim_trim]
    | @declaration property' value' body colon' none _ settles =>
      -- The first colon at the top level is the same one.
      have cut : Scan.cut? (· == ':') (property ++ ':' :: value) = some (property, value) :=
        Scan.cutTopLevel?_append_sep Scan.isSeparator_colon closed colon
      have cut' : Scan.cut? (· == ':') (property' ++ ':' :: value') = some (property', value') :=
        Scan.cutTopLevel?_append_sep Scan.isSeparator_colon body.closed colon'
      rw [eq, cut] at cut'
      cases cut'
      exact ⟨none, settles⟩
  obtain ⟨sameOutside, -⟩ := Scan.sameScan_trim property none 0
  refine ⟨⟨Sheet.fitsBody_trim.2 bodies.1, sameOutside ▸ colon, ?_, Sheet.fitsBody_trim.2 bodies.2, ?_⟩,
    ?_, parts.2, Text.trim_trim _, Text.trim_trim _⟩
  · rwa [Text.trim_trim]
  · rwa [Text.trim_trim]
  · rw [Occurrence.anyIn_trim]
    exact parts.1

/-- In every stage, a fragment is a fragment with the value of that stage. -/
theorem FitsFragment.iterate (h : Host) {t : Text} (fits : FitsFragment t) (n : Nat) :
    FitsBody ((stage h)^[n] t) ∧ callsClosed ((stage h)^[n] t) = true ∧
      Sheet.readDeclaration? ((stage h)^[n] t) = (Sheet.readDeclaration? t).map fun d =>
        ⟨d.property, Text.trim ((stage h)^[n] d.value)⟩ := by
  cases fits with
  | plain body none =>
    rw [iterate_of_anyIn h none]
    refine ⟨body, Occurrence.callsClosed_of_anyIn none, ?_⟩
    cases read : Sheet.readDeclaration? t with
    | none => rfl
    | some d =>
      obtain ⟨property, value, rfl, -, -, rfl, -⟩ := Sheet.readDeclaration?_eq_some read
      rw [Option.map_some, iterate_of_anyIn h (anyIn_append_colon none).2, Text.trim_trim]
  | @declaration property value body colon none named settles =>
    obtain ⟨front, back, eq, hfront, hback⟩ := Text.exists_eq_append_trim value
    obtain ⟨staged, closed⟩ := iterate_fragment h none hfront hback settles n
    have final := settles.iterate h n
    have trimmed : Text.trim (front ++ ((stage h)^[n] (Text.trim value) ++ back)) =
        Text.trim ((stage h)^[n] (Text.trim value)) := Text.trim_append_of_blank hfront hback
    rw [← eq] at staged
    rw [staged]
    refine ⟨body.append_colon ?_, closed, ?_⟩
    · rw [← Sheet.fitsBody_trim, trimmed, Sheet.fitsBody_trim]
      exact final.fitsBody
    · rw [Sheet.readDeclaration?_append_colon body.closed colon,
        Sheet.readDeclaration?_append_colon body.closed colon, trimmed,
        if_neg (not_or.2 ⟨named, final.not_blank⟩), if_neg (not_or.2 ⟨named, ?_⟩)]
      · rfl
      · have := settles.not_blank
        rwa [Text.trim_trim] at this

/-! ### Stages of rules -/

/-- The parts of a rule, as they stand in its text. -/
structure Layout where
  /-- What stands in front of the braces. -/
  selector : Text
  /-- What stands between the semicolons in the braces. -/
  fragments : List Text

/-- The text of a rule. -/
def Layout.text (l : Layout) : Text :=
  Sheet.ruleText l.selector l.fragments

/-- The declarations among the fragments of a rule. -/
def Layout.declarations (l : Layout) : List Declaration :=
  l.fragments.filterMap Sheet.readDeclaration?

/-- A rule whose calls are in the values of its declarations, and settle. -/
structure Layout.Fits (l : Layout) : Prop where
  header : Sheet.FitsHeader l.selector
  noCall : anyIn l.selector = false
  nonempty : l.fragments ≠ []
  fragments : ∀ t ∈ l.fragments, FitsFragment t

/-- The rule that is read from its text. -/
def Layout.rule (l : Layout) : Rule :=
  ⟨Text.trim l.selector, l.declarations, l.text⟩

theorem Layout.Fits.reads {l : Layout} (fits : l.Fits) :
    Cascade.Reads l.text
      (l.declarations.map fun d => Cascade.plainWrite (Text.tidy l.selector) d.tidy) :=
  Cascade.reads_ruleText fits.header fits.nonempty fun t ht => (fits.fragments t ht).fitsBody

theorem Layout.Fits.readRule? {l : Layout} (fits : l.Fits) :
    Sheet.readRule? l.text = some l.rule :=
  Sheet.readRule?_ruleText fits.header fits.nonempty fun t ht => (fits.fragments t ht).fitsBody

theorem Layout.Fits.fitsRead {l : Layout} (fits : l.Fits) {d : Declaration}
    (member : d ∈ l.declarations) : FitsRead d := by
  obtain ⟨t, ht, read⟩ := List.mem_filterMap.1 member
  exact (fits.fragments t ht).of_readDeclaration? read

/-- A rule after so many stages. -/
def Layout.iterate (h : Host) (n : Nat) (l : Layout) : Layout :=
  ⟨l.selector, l.fragments.map (stage h)^[n]⟩

/-- A stage of a rule and what follows it. -/
theorem stage_text_append (h : Host) {l : Layout} (noCall : anyIn l.selector = false)
    (closed : ∀ t ∈ l.fragments, callsClosed t = true) (rest : Text) :
    stage h (l.text ++ rest) = (l.iterate h 1).text ++ stage h rest := by
  obtain ⟨staged, closedBody⟩ := stage_intercalate h Occurrence.isBoundary_semicolon closed
  have shape (selector : Text) (fragments : List Text) (s : Text) :
      Sheet.ruleText selector fragments ++ s =
        selector ++ '{' :: ([';'].intercalate fragments ++ '}' :: s) := by
    simp [Sheet.ruleText]
  rw [Layout.text, Layout.text, shape, shape, stage,
    Occurrence.mapCalls_append_cons Occurrence.isBoundary_opening
      (Occurrence.callsClosed_of_anyIn noCall),
    Occurrence.mapCalls_of_anyIn noCall,
    Occurrence.mapCalls_append_cons Occurrence.isBoundary_closing closedBody]
  exact congrArg (fun body => l.selector ++ '{' :: (body ++ '}' :: stage h rest)) staged

/-- A text made of rules stays a text made of rules in every stage. -/
theorem spread_iterate (h : Host) {layouts : List Layout} {s : Text}
    (spread : Sheet.Spread (layouts.map Layout.text) s) (fits : ∀ l ∈ layouts, l.Fits) (n : Nat) :
    Sheet.Spread (layouts.map fun l => (l.iterate h n).text) ((stage h)^[n] s) := by
  have step {layouts : List Layout} {s : Text} (spread : Sheet.Spread (layouts.map Layout.text) s)
      (ready : ∀ l ∈ layouts, anyIn l.selector = false ∧ ∀ t ∈ l.fragments, callsClosed t = true) :
      Sheet.Spread (layouts.map fun l => (l.iterate h 1).text) (stage h s) := by
    generalize texts : layouts.map Layout.text = items at spread
    induction spread generalizing layouts with
    | nil =>
      rw [List.map_eq_nil_iff.1 texts]
      exact .nil
    | blank hc _ ih =>
      rw [stage, Occurrence.mapCalls_cons (Occurrence.isBoundary_of_blank hc)]
      exact .blank hc (ih ready texts)
    | item t _ ih =>
      obtain ⟨l, layouts, rfl, rfl, rest⟩ := List.map_eq_cons_iff.1 texts
      obtain ⟨here, later⟩ := List.forall_mem_cons.1 ready
      rw [stage_text_append h here.1 here.2, List.map_cons]
      exact .item _ (ih later rest)
  induction n with
  | zero =>
    have same (l : Layout) : l.iterate h 0 = l := by
      simp [Layout.iterate]
    simp only [same]
    exact spread
  | succ n ih =>
    have ready : ∀ l ∈ layouts.map (Layout.iterate h n), anyIn l.selector = false ∧
        ∀ t ∈ l.fragments, callsClosed t = true := by
      intro staged member
      obtain ⟨l, hl, rfl⟩ := List.mem_map.1 member
      refine ⟨(fits l hl).noCall, fun fragment isFragment => ?_⟩
      obtain ⟨t, ht, rfl⟩ := List.mem_map.1 isFragment
      exact (((fits l hl).fragments t ht).iterate h n).2.1
    have next (l : Layout) : (l.iterate h n).iterate h 1 = l.iterate h (n + 1) := by
      simp only [Layout.iterate, List.map_map, ← Function.iterate_add, Nat.add_comm 1 n]
    have texts : layouts.map (fun l => (l.iterate h n).text) =
        (layouts.map (Layout.iterate h n)).map Layout.text := by
      rw [List.map_map]
      rfl
    rw [texts] at ih
    have spread' := step ih ready
    rw [List.map_map] at spread'
    rw [Function.iterate_succ_apply']
    simpa only [Function.comp_def, next] using spread'

/-- What a declaration writes after so many stages, up to blanks. -/
def stagedWrite (h : Host) (n : Nat) (selector : Text) (d : Declaration) : Cascade.Write where
  selector := Text.tidy selector
  property := Text.tidy d.property
  value := Text.tidy ((stage h)^[n] d.value)

/-- In every stage a rule writes its declarations with the values of that stage. -/
theorem reads_iterate (h : Host) (n : Nat) {l : Layout} (fits : l.Fits) :
    Cascade.Reads (l.iterate h n).text (l.declarations.map (stagedWrite h n l.selector)) := by
  have bodies : ∀ t ∈ l.fragments.map (stage h)^[n], FitsBody t := by
    intro fragment isFragment
    obtain ⟨t, ht, rfl⟩ := List.mem_map.1 isFragment
    exact ((fits.fragments t ht).iterate h n).1
  have nonempty : l.fragments.map (stage h)^[n] ≠ [] := by
    simpa using fits.nonempty
  have reads := Cascade.reads_ruleText fits.header nonempty bodies
  have declarations : (l.fragments.map (stage h)^[n]).filterMap Sheet.readDeclaration? =
      l.declarations.map fun d => ⟨d.property, Text.trim ((stage h)^[n] d.value)⟩ := by
    rw [Layout.declarations, List.filterMap_map, List.map_filterMap]
    exact List.filterMap_congr fun t ht => ((fits.fragments t ht).iterate h n).2.2
  rw [declarations, List.map_map] at reads
  simp only [Function.comp_def, Cascade.plainWrite, Declaration.tidy, Text.tidy_trim] at reads
  exact reads

/-- A text made of rules writes, after so many stages, its declarations with the values of that
    stage. -/
theorem readsAll_iterate (h : Host) (n : Nat) {layouts : List Layout} {s : Text}
    (spread : Sheet.Spread (layouts.map Layout.text) s) (fits : ∀ l ∈ layouts, l.Fits) :
    Cascade.ReadsAll ((stage h)^[n] s)
      (layouts.flatMap fun l => l.declarations.map (stagedWrite h n l.selector)) := by
  refine ⟨_, spread_iterate h spread fits n, ?_⟩
  rw [List.map_eq_flatMap]
  exact .flatMap fun l hl => .singleton (reads_iterate h n (fits l hl))

end Render
end CondCss
