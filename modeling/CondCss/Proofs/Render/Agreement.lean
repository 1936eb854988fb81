import CondCss.Proofs.Render.NativeStream

/-!
# Expanding first and evaluating in place

A style sheet of rules can be rendered in two ways: every call is resolved where it stands, or the
style sheet is expanded first and only what is deferred is resolved, behind the native stream. Both
texts are read as cascades on the host that they were rendered for.

Evaluated in place, the text has the declarations of the style sheet in their order, with their values
on the host. Expanded first, it has the same ones in another order (`nativeOrder`): in each rule the
unconditional ones come before the others, and deferred ones come last of all. So the two agree for
every property of a selector that has the same last declaration in both orders
(`expandFirst_winner`), and need not agree for others (`expandFirst_winner_differs`).
-/

namespace CondCss
namespace Expand

/-- A rule with the declarations that are in the native stream, in their order there. -/
def nativeRule (r : Rule) : Rule :=
  { r with declarations := (baseFirst r).declarations.filter (!isDeferred ·) }

/-- A rule with the declarations that are deferred. -/
def deferredRule (r : Rule) : Rule :=
  { r with declarations := r.declarations.filter isDeferred }

/-- The order of the declarations once a style sheet is expanded: in each rule the unconditional ones
    come first, and those that are deferred come last of all. -/
def nativeOrder (rules : List Rule) : List Rule :=
  rules.map nativeRule ++ rules.map deferredRule

end Expand

namespace Render

open Cascade
open Occurrence (anyIn)
open Expand (isConditional isDeferred deferredRule nativeRule nativeOrder nativeWrites declarationRule)

/-! ### Resolved declarations -/

/-- The value of a declaration on a host, up to blanks. -/
def resolvedValue (h : Host) (d : Declaration) : Text :=
  Text.tidy (resolve h {} d.value).text

/-- What rules write on a host if every value is resolved, up to blanks. -/
def resolvedWrites (h : Host) (rules : List Rule) : List Write :=
  rules.flatMap fun r => r.declarations.map fun d =>
    { selector := Text.tidy r.selector, property := Text.tidy d.property, value := resolvedValue h d }

/-- The last declaration of a property for a selector, up to blanks. -/
def lastTo (selector property : Text) (rules : List Rule) : Option Declaration :=
  (rules.flatMap fun r => r.declarations.filter fun d =>
    Text.tidy r.selector == selector && Text.tidy d.property == property).getLast?

theorem winner_resolvedWrites (truth : Truth) (h : Host) (rules : List Rule)
    (selector property : Text) :
    winner truth (resolvedWrites h rules) selector property =
      (lastTo selector property rules).map (resolvedValue h) := by
  rw [winner, resolvedWrites, lastTo, List.filter_flatMap, ← List.getLast?_map, ← List.getLast?_map,
    List.map_flatMap, List.map_flatMap]
  simp only [List.filter_map, List.map_map]
  rfl

theorem stagedWrite_eq (h : Host) (selector : Text) (d : Declaration) :
    stagedWrite h maxPasses selector d =
      { selector := Text.tidy selector, property := Text.tidy d.property,
        value := resolvedValue h d } := by
  rw [stagedWrite, resolvedValue, resolve_text]

/-! ### Style sheets of well-formed rules -/

/-- A style sheet of rules whose calls are in the values of declarations, and settle. -/
def WellFormed (s : Text) : Prop :=
  ∀ item ∈ Sheet.items s, ∃ l : Layout, l.text = item ∧ l.Fits

theorem exists_layouts {items : List Text}
    (wellFormed : ∀ item ∈ items, ∃ l : Layout, l.text = item ∧ l.Fits) :
    ∃ layouts : List Layout, layouts.map Layout.text = items ∧ ∀ l ∈ layouts, l.Fits := by
  induction items with
  | nil => exact ⟨[], rfl, fun l hl => absurd hl List.not_mem_nil⟩
  | cons item items ih =>
    obtain ⟨⟨l, rfl, fits⟩, later⟩ := List.forall_mem_cons.1 wellFormed
    obtain ⟨layouts, rfl, fitsRest⟩ := ih later
    exact ⟨l :: layouts, rfl, List.forall_mem_cons.2 ⟨fits, fitsRest⟩⟩

theorem rules_of_layouts {s : Text} {layouts : List Layout}
    (texts : layouts.map Layout.text = Sheet.items s) (fits : ∀ l ∈ layouts, l.Fits) :
    Sheet.rules s = layouts.map Layout.rule := by
  rw [Sheet.rules, ← texts, List.filterMap_map, ← List.filterMap_eq_map]
  exact List.filterMap_congr fun l hl => (fits l hl).readRule?

/-- Evaluated in place, a style sheet writes its declarations with their values. -/
theorem readsAll_inPlace (h : Host) {s : Text} {layouts : List Layout}
    (texts : layouts.map Layout.text = Sheet.items s) (fits : ∀ l ∈ layouts, l.Fits) :
    ReadsAll ((stage h)^[maxPasses] s) (resolvedWrites h (layouts.map Layout.rule)) := by
  have spread : Sheet.Spread (layouts.map Layout.text) s := texts ▸ Sheet.Spread.items s
  have reads := readsAll_iterate h maxPasses spread fits
  have writes (l : Layout) : l.declarations.map (stagedWrite h maxPasses l.selector) =
      resolvedWrites h [l.rule] := by
    simp only [resolvedWrites, List.flatMap_singleton, Layout.rule, Text.tidy_trim]
    exact List.map_congr_left fun d _ => stagedWrite_eq h l.selector d
  simp only [writes] at reads
  simpa only [resolvedWrites, List.flatMap_map, List.flatMap_singleton] using reads

/-! ### The deferred stream -/

/-- A deferred declaration as a rule of its own. -/
def deferredLayout (selector : Text) (d : Declaration) : Layout :=
  ⟨Text.trimLeft (selector ++ [' ']), Expand.fragments [d]⟩

theorem trim_declarationRule (selector : Text) (d : Declaration) :
    Text.trim (declarationRule selector d.property d.value) = (deferredLayout selector d).text := by
  rw [Expand.declarationRule_eq_baseRule, Expand.baseRule_eq_ruleText (List.cons_ne_nil _ _),
    Sheet.trim_ruleText]
  rfl

theorem declarations_deferredLayout (selector : Text) {d : Declaration} (fits : FitsRead d) :
    (deferredLayout selector d).declarations = [d] := by
  have read := fits.fits.readDeclaration?
  rw [fits.property, fits.value] at read
  simp only [Layout.declarations, deferredLayout, Expand.fragments, List.map_cons, List.map_nil,
    List.singleton_append, List.filterMap_cons_some read]
  rfl

theorem fits_deferredLayout {selector : Text} (header : Sheet.FitsHeader selector)
    (noCall : anyIn selector = false) {d : Declaration} (fits : FitsRead d) :
    (deferredLayout selector d).Fits := by
  refine ⟨Sheet.fitsHeader_trimLeft.2 (fitsHeader_concat_space header), ?_, ?_, ?_⟩
  · have trimmed : Text.trim (Text.trimLeft (selector ++ [' '])) = Text.trim selector := by
      rw [Text.trim, Text.trimLeft_trimLeft]
      exact Text.trim_concat_of_blank (by decide)
    rw [deferredLayout, ← Occurrence.anyIn_trim, trimmed, Occurrence.anyIn_trim]
    exact noCall
  · simp [deferredLayout, Expand.fragments]
  · intro t ht
    have cases : t = ' ' :: d.render ∨ t = [' '] := by
      simpa [deferredLayout, Expand.fragments] using ht
    rcases cases with rfl | rfl
    · obtain ⟨sameOutside, -⟩ :=
        Scan.sameScan_blank (c := ' ') (by decide) none d.property none 0
      rw [Expand.cons_render]
      refine .declaration ((Sheet.fitsBody_cons_of_blank (by decide)).2 fits.fits.property)
        (sameOutside ▸ fits.fits.colon) ?_ ?_ ?_
      · rw [Occurrence.anyIn_cons (Occurrence.isBoundary_of_blank (by decide))]
        exact fits.noCall
      · rw [Text.trim_cons_of_blank (by decide)]
        exact fits.fits.named
      · rw [Text.trim_cons_of_blank (by decide), fits.value]
        exact fits.settles
    · exact .plain (by decide) (by decide)

/-- The texts that are deferred from a rule. -/
theorem deferred_item {l : Layout} (fits : l.Fits) :
    (Expand.item l.text).deferred = (deferredRule l.rule).declarations.map fun d =>
      declarationRule l.rule.selector d.property d.value := by
  have text (d : Declaration) :
      (Expand.declaration l.rule.selector d.property d.value).deferred =
        if isDeferred d then some (declarationRule l.rule.selector d.property d.value) else none := by
    unfold Expand.declaration isDeferred
    cases Expand.variants d.value <;> rfl
  have conditional : (l.rule.declarations.filter isConditional).filter isDeferred =
      l.rule.declarations.filter isDeferred := by
    rw [List.filter_filter]
    refine List.filter_congr fun d _ => ?_
    cases deferred : isDeferred d with
    | false => rfl
    | true => rw [Expand.isConditional_of_isDeferred deferred]; rfl
  have whole : (Expand.rule l.rule).deferred = (deferredRule l.rule).declarations.map fun d =>
      declarationRule l.rule.selector d.property d.value := by
    have texts (declarations : List Declaration) :
        (declarations.filter isDeferred).map
            (fun d => declarationRule l.rule.selector d.property d.value) =
          declarations.filterMap fun d =>
            (Expand.declaration l.rule.selector d.property d.value).deferred := by
      rw [← List.filterMap_eq_map, List.filterMap_filter]
      exact List.filterMap_congr fun d _ => (text d).symm
    simp only [deferredRule]
    rw [← conditional, texts, Expand.rule, List.filterMap_map]
    rfl
  simp only [Expand.item, fits.readRule?]
  cases any : l.rule.declarations.any isConditional with
  | true => exact whole
  | false =>
    have none : (deferredRule l.rule).declarations = [] := by
      rw [deferredRule, ← conditional, (Expand.filter_of_plain any).1]
      rfl
    rw [none]
    rfl

/-- Declarations in rules of their own write, once resolved, their values. -/
theorem readsAll_ownRules (h : Host) {placed : List (Text × Declaration)}
    (fits : ∀ p ∈ placed, Sheet.FitsHeader p.1 ∧ anyIn p.1 = false ∧ FitsRead p.2) :
    ReadsAll ((stage h)^[maxPasses] (Text.trim (Text.joinWith ['\n']
        (placed.map fun p => declarationRule p.1 p.2.property p.2.value))))
      (placed.map fun p => stagedWrite h maxPasses p.1 p.2) := by
  let layouts := placed.map fun p => deferredLayout p.1 p.2
  have texts : (placed.map fun p => declarationRule p.1 p.2.property p.2.value).map Text.trim =
      layouts.map Layout.text := by
    simp only [layouts, List.map_map]
    exact List.map_congr_left fun p _ => trim_declarationRule p.1 p.2
  have spread : Sheet.Spread (layouts.map Layout.text) (Text.trim (Text.joinWith ['\n']
      (placed.map fun p => declarationRule p.1 p.2.property p.2.value))) := by
    rw [← texts]
    refine (Sheet.Spread.joinWith _).trim fun t ht => ?_
    obtain ⟨p, -, rfl⟩ := List.mem_map.1 ht
    rw [trim_declarationRule]
    simp [Layout.text, Sheet.ruleText]
  have fitsLayouts : ∀ l ∈ layouts, l.Fits := by
    intro l hl
    obtain ⟨p, hp, rfl⟩ := List.mem_map.1 hl
    obtain ⟨header, noCall, read⟩ := fits p hp
    exact fits_deferredLayout header noCall read
  have writes : layouts.flatMap (fun l => l.declarations.map (stagedWrite h maxPasses l.selector)) =
      placed.map fun p => stagedWrite h maxPasses p.1 p.2 := by
    rw [List.flatMap_map, List.map_eq_flatMap]
    refine List.flatMap_congr fun p hp => ?_
    have selector : Text.tidy (Text.trimLeft (p.1 ++ [' '])) = Text.tidy p.1 := by
      rw [Text.tidy, Text.trim, Text.trimLeft_trimLeft]
      exact congrArg Text.collapse (Text.trim_concat_of_blank (by decide))
    rw [declarations_deferredLayout p.1 (fits p hp).2.2]
    simp only [deferredLayout, stagedWrite, selector, List.map_cons, List.map_nil]
  rw [← writes]
  exact readsAll_iterate h maxPasses spread fitsLayouts

/-- The deferred stream, resolved, writes the deferred declarations with their values. -/
theorem readsAll_deferred (h : Host) {layouts : List Layout} (fits : ∀ l ∈ layouts, l.Fits) :
    ReadsAll ((stage h)^[maxPasses] (Text.trim (Text.joinWith ['\n']
        (layouts.flatMap fun l => (Expand.item l.text).deferred))))
      (resolvedWrites h ((layouts.map Layout.rule).map deferredRule)) := by
  let placed := layouts.flatMap fun l =>
    (deferredRule l.rule).declarations.map fun d => (l.rule.selector, d)
  have fitsPlaced : ∀ p ∈ placed, Sheet.FitsHeader p.1 ∧ anyIn p.1 = false ∧ FitsRead p.2 := by
    intro p hp
    obtain ⟨l, hl, inRule⟩ := List.mem_flatMap.1 hp
    obtain ⟨d, hd, rfl⟩ := List.mem_map.1 inRule
    refine ⟨Sheet.fitsHeader_trimRight.2 (Sheet.fitsHeader_trimLeft.2 (fits l hl).header), ?_,
      (fits l hl).fitsRead (List.mem_filter.1 hd).1⟩
    exact (Occurrence.anyIn_trim l.selector).trans (fits l hl).noCall
  have texts : layouts.flatMap (fun l => (Expand.item l.text).deferred) =
      placed.map fun p => declarationRule p.1 p.2.property p.2.value := by
    simp only [placed, List.map_flatMap, List.map_map]
    exact List.flatMap_congr fun l hl => deferred_item (fits l hl)
  have writes : resolvedWrites h ((layouts.map Layout.rule).map deferredRule) =
      placed.map fun p => stagedWrite h maxPasses p.1 p.2 := by
    simp only [placed, resolvedWrites, List.map_flatMap, List.map_map, List.flatMap_map]
    exact List.flatMap_congr fun l _ => List.map_congr_left fun d _ => (stagedWrite_eq h _ d).symm
  rw [texts, writes]
  exact readsAll_ownRules h fitsPlaced

/-! ### The two renderings -/

/-- On a host, the native stream of a rule writes the values of its declarations that are not
    deferred. -/
theorem winner_nativeWrites (h : Host) {r : Rule} (fits : ∀ d ∈ r.declarations, FitsRead d)
    (selector property : Text) :
    winner h.truth (nativeWrites r) selector property =
      winner h.truth (resolvedWrites h [nativeRule r]) selector property := by
  have writes : resolvedWrites h [nativeRule r] =
      (Expand.baseFirst r).declarations.flatMap fun d =>
        if isDeferred d then [] else [stagedWrite h maxPasses r.selector d] := by
    simp only [resolvedWrites, nativeRule, List.flatMap_singleton, ← stagedWrite_eq]
    induction (Expand.baseFirst r).declarations with
    | nil => rfl
    | cons d declarations ih =>
      rw [List.flatMap_cons, ← ih]
      cases deferred : isDeferred d <;> simp [deferred]
  rw [writes, nativeWrites]
  refine winner_flatMap_congr fun d hd => ?_
  have member : d ∈ r.declarations := by
    rcases List.mem_append.1 hd with plain | conditional
    · exact (List.mem_filter.1 plain).1
    · exact (List.mem_filter.1 conditional).1
  cases deferred : isDeferred d with
  | true => rw [Expand.variantWrites_of_isDeferred r.selector deferred]; rfl
  | false => exact Expand.winner_variantWrites h (fits d member).settles deferred _ _ _

theorem resolvedWrites_append (h : Host) (rules rules' : List Rule) :
    resolvedWrites h (rules ++ rules') = resolvedWrites h rules ++ resolvedWrites h rules' :=
  List.flatMap_append

theorem text_inPlace (h : Host) (options : Options) (s : Text) :
    (render h { options with expandFirst := false } s).text = (stage h)^[maxPasses] s := by
  unfold render
  cases token : Expand.hasToken s with
  | true => exact resolve_text h _ s
  | false =>
    have none : anyIn s = false := by
      cases any : anyIn s with
      | false => rfl
      | true =>
        have present := Text.hasInfix_iff.2 (Occurrence.token_infix_of_startsAfter any)
        rw [Expand.hasToken, present] at token
        cases token
    exact (iterate_of_anyIn h none maxPasses).symm

/-- Expanded first, a style sheet is read as the native streams of its rules with the resolved
    deferred stream behind them. -/
theorem readsAll_expandFirst (h : Host) (options : Options) {s : Text} {layouts : List Layout}
    (token : Expand.hasToken s = true) (texts : layouts.map Layout.text = Sheet.items s)
    (fits : ∀ l ∈ layouts, l.Fits) :
    ReadsAll (render h { options with expandFirst := true } s).text
      ((layouts.map Layout.rule).flatMap nativeWrites ++
        resolvedWrites h ((layouts.map Layout.rule).map deferredRule)) := by
  have native : ReadsAll (Text.trim (Text.joinWith ['\n']
      (layouts.flatMap fun l => (Expand.item l.text).native)))
        ((layouts.map Layout.rule).flatMap nativeWrites) := by
    rw [List.flatMap_map]
    exact .trim (.join (.flatMap fun l hl => Expand.each_item (fits l hl)))
  have deferred := readsAll_deferred h fits
  have report : (Expand.sheet false s).native = Text.trim (Text.joinWith ['\n']
        (layouts.flatMap fun l => (Expand.item l.text).native)) ∧
      (Expand.sheet false s).deferred = Text.trim (Text.joinWith ['\n']
        (layouts.flatMap fun l => (Expand.item l.text).deferred)) ∧
      (Expand.sheet false s).hasDeferred =
        !(layouts.flatMap fun l => (Expand.item l.text).deferred).isEmpty := by
    simp [Expand.sheet, token, ← texts, List.flatMap_map, Function.comp_def]
  obtain ⟨nativeText, deferredText, some⟩ := report
  rw [← nativeText] at native
  simp only [render, token, Bool.not_true, Bool.false_eq_true, if_false]
  cases hasDeferred : (Expand.sheet false s).hasDeferred with
  | true =>
    rw [← deferredText, ← resolve_text h { options with expandFirst := true }] at deferred
    exact .join (ReadsAll.filter_nonempty (.cons native (.singleton deferred)))
  | false =>
    rw [hasDeferred, eq_comm, Bool.not_eq_false', List.isEmpty_iff] at some
    rw [some] at deferred
    have nothing : resolvedWrites h ((layouts.map Layout.rule).map deferredRule) = [] :=
      deferred.read.symm.trans (congrArg Cascade.read (iterate_of_anyIn h rfl maxPasses))
    rw [nothing, List.append_nil]
    exact native

theorem resolvedWrites_map (h : Host) (f : Rule → Rule) (rules : List Rule) :
    resolvedWrites h (rules.map f) = rules.flatMap fun r => resolvedWrites h [f r] := by
  simp only [resolvedWrites, List.flatMap_singleton, List.flatMap_map]

/-- Without conditional declarations nothing is moved. -/
theorem resolvedWrites_nativeOrder_of_plain (h : Host) {rules : List Rule}
    (plain : ∀ r ∈ rules, r.declarations.any isConditional = false) :
    resolvedWrites h (nativeOrder rules) = resolvedWrites h rules := by
  have noneDeferred : ∀ r ∈ rules, ∀ d ∈ r.declarations, ¬isDeferred d = true := by
    intro r hr d hd deferred
    exact List.any_eq_false.1 (plain r hr) d hd (Expand.isConditional_of_isDeferred deferred)
  have native : ∀ r ∈ rules, nativeRule r = r := by
    intro r hr
    obtain ⟨none, all⟩ := Expand.filter_of_plain (plain r hr)
    have kept : r.declarations.filter (!isDeferred ·) = r.declarations :=
      List.filter_eq_self.2 fun d hd => by simp [noneDeferred r hr d hd]
    simp only [nativeRule, Expand.baseFirst, none, all, List.append_nil, kept]
  have deferred : ∀ r ∈ rules, resolvedWrites h [deferredRule r] = [] := by
    intro r hr
    have none : r.declarations.filter isDeferred = [] :=
      List.filter_eq_nil_iff.2 (noneDeferred r hr)
    simp only [resolvedWrites, deferredRule, none, List.map_nil, List.flatMap_cons, List.flatMap_nil,
      List.append_nil]
  rw [nativeOrder, resolvedWrites_append, resolvedWrites_map h deferredRule,
    List.flatMap_eq_nil_iff.2 deferred, List.append_nil, List.map_congr_left native, List.map_id']

/-- Expanded first, a style sheet writes its declarations with their values in the native order. -/
theorem winner_expandFirst (h : Host) (options : Options) {s : Text} {layouts : List Layout}
    (texts : layouts.map Layout.text = Sheet.items s) (fits : ∀ l ∈ layouts, l.Fits)
    (selector property : Text) :
    winner h.truth (read (render h { options with expandFirst := true } s).text) selector property =
      winner h.truth (resolvedWrites h (nativeOrder (layouts.map Layout.rule))) selector
        property := by
  cases token : Expand.hasToken s with
  | true =>
    have native : winner h.truth ((layouts.map Layout.rule).flatMap nativeWrites) selector property =
        winner h.truth (resolvedWrites h ((layouts.map Layout.rule).map nativeRule)) selector
          property := by
      rw [resolvedWrites_map]
      refine winner_flatMap_congr fun r hr => ?_
      obtain ⟨l, hl, rfl⟩ := List.mem_map.1 hr
      exact winner_nativeWrites h (fun d hd => (fits l hl).fitsRead hd) selector property
    rw [(readsAll_expandFirst h options token texts fits).read, nativeOrder, resolvedWrites_append,
      winner_append, winner_append, native]
  | false =>
    have unchanged : (render h { options with expandFirst := true } s).text =
        (render h { options with expandFirst := false } s).text := by
      simp only [render, token, Bool.not_false, if_true]
    have plain : ∀ r ∈ layouts.map Layout.rule, r.declarations.any isConditional = false := by
      intro r hr
      obtain ⟨l, hl, rfl⟩ := List.mem_map.1 hr
      have isItem : l.text ∈ Sheet.items s := texts ▸ List.mem_map_of_mem hl
      have noComment := (fits l hl).reads.comment
      rw [List.any_eq_false]
      intro d hd
      simp [Expand.isConditional_eq_false_of_hasToken token noComment isItem (fits l hl).readRule? hd]
    rw [unchanged, text_inPlace, (readsAll_inPlace h texts fits).read,
      resolvedWrites_nativeOrder_of_plain h plain]

/-- Rendered in two ways on a host, a style sheet of well-formed rules is read as the same values in
    two orders: evaluated in place, the last declaration of a property for a selector wins; expanded
    first, the last one in the native order. Hence both texts agree wherever these are the same. -/
theorem expandFirst_winner (h : Host) (options : Options) {s : Text} (wellFormed : WellFormed s)
    (selector property : Text) :
    winner h.truth (read (render h { options with expandFirst := true } s).text) selector property =
        (lastTo selector property (nativeOrder (Sheet.rules s))).map (resolvedValue h) ∧
      winner h.truth (read (render h { options with expandFirst := false } s).text) selector
          property = (lastTo selector property (Sheet.rules s)).map (resolvedValue h) ∧
      (lastTo selector property (nativeOrder (Sheet.rules s)) =
          lastTo selector property (Sheet.rules s) →
        winner h.truth (read (render h { options with expandFirst := true } s).text) selector
            property =
          winner h.truth (read (render h { options with expandFirst := false } s).text) selector
            property) := by
  obtain ⟨layouts, texts, fits⟩ := exists_layouts wellFormed
  have expanded := winner_expandFirst h options texts fits selector property
  have inPlace := (readsAll_inPlace h texts fits).read
  rw [winner_resolvedWrites, ← rules_of_layouts texts fits] at expanded
  rw [← text_inPlace h options, ← rules_of_layouts texts fits] at inPlace
  rw [expanded, inPlace, winner_resolvedWrites]
  exact ⟨rfl, rfl, fun same => by rw [same]⟩

/-- A rule with a call in a call, which is deferred, and one with a call that is expanded. -/
def nestedThenPlain : List Layout :=
  [⟨".a ".toList, [" top: 0".toList, (" color: if(media(w): red; supports(g): " ++
      "if(style(--x): 1; else: teal); else: blue) ").toList]⟩,
    ⟨".b ".toList, [" top: calc(2 * if(supports(g): 1px; else: 2px))".toList, [' ']]⟩]

/-- A host with one feature and no styles. -/
def oneFeature : Host := { features := [['g']] }

theorem fits_nestedThenPlain : ∀ l ∈ nestedThenPlain, l.Fits := by
  intro l hl
  rcases List.mem_cons.1 hl with rfl | hl
  · refine ⟨by decide +kernel, by decide +kernel, by decide, ?_⟩
    intro t ht
    rcases List.mem_cons.1 ht with rfl | ht
    · exact .plain (by decide +kernel) (by decide +kernel)
    · rw [List.mem_singleton.1 ht]
      exact @FitsFragment.declaration " color".toList _ (by decide +kernel) (by decide +kernel)
        (by decide +kernel) (by decide +kernel) ⟨2, by decide +kernel⟩
  · rw [List.mem_singleton.1 hl]
    refine ⟨by decide +kernel, by decide +kernel, by decide, ?_⟩
    intro t ht
    rcases List.mem_cons.1 ht with rfl | ht
    · exact @FitsFragment.declaration " top".toList _ (by decide +kernel) (by decide +kernel)
        (by decide +kernel) (by decide +kernel) ⟨1, by decide +kernel⟩
    · rw [List.mem_singleton.1 ht]
      exact .plain (by decide +kernel) (by decide +kernel)

theorem expandFirst_winner_nestedThenPlain :
    WellFormed (Text.joinWith [' '] (nestedThenPlain.map Layout.text)) ∧
    winner oneFeature.truth (read (render oneFeature { expandFirst := true }
      (Text.joinWith [' '] (nestedThenPlain.map Layout.text))).text)
        ".a".toList "color".toList = some "teal".toList := by
  have items : Sheet.items (Text.joinWith [' '] (nestedThenPlain.map Layout.text)) =
      nestedThenPlain.map Layout.text := by decide +kernel
  have wellFormed : WellFormed (Text.joinWith [' '] (nestedThenPlain.map Layout.text)) := by
    intro item isItem
    rw [items] at isItem
    obtain ⟨l, hl, rfl⟩ := List.mem_map.1 isItem
    exact ⟨l, rfl, fits_nestedThenPlain l hl⟩
  obtain ⟨-, inPlace, agree⟩ :=
    expandFirst_winner oneFeature {} wellFormed ".a".toList "color".toList
  refine ⟨wellFormed, ?_⟩
  rw [agree (by decide +kernel), inPlace]
  decide +kernel

/-- Two rules for one selector, of which the first is deferred. -/
def deferredThenPlain : Text :=
  ".a \x7b color: if(style(--x): red; else: blue); \x7d .a \x7b color: green; \x7d".toList

/-- A host with two features, one with a semicolon in its name. -/
def oddFeature : Host := { features := [['g'], ['a', ';', 'b']] }

/-- Rules for which it matters whether they are expanded first: an unconditional declaration behind a
    conditional one, comments around a call, a call as a property, a call as a declaration, a blank
    value, a semicolon in a condition, and a parenthesis that is not closed. -/
def expandedOtherwise : List Text :=
  [".a \x7b color: if(supports(g): red; else: blue); color: green \x7d".toList,
    "/* if( */ .a \x7b color: if(supports(g): red; else: blue) \x7d /* ) */".toList,
    ".a \x7b if(supports(g): color; else: top): red \x7d".toList,
    ".a \x7b if(supports(g): color: red; else: top: red) \x7d".toList,
    ".a \x7b color: red; color: if(supports(g): ; else: blue) \x7d".toList,
    ".a \x7b color: if(supports(a;b): red; else: blue) \x7d".toList,
    ".a \x7b top: if(supports(g): 1px; else: 2px); color: ( \x7d".toList]

/-- What is deferred overrides what follows it in the style sheet. -/
theorem expandFirst_winner_differs :
    (render {} { expandFirst := true } deferredThenPlain).text =
      ".a \x7b color: green; \x7d\n.a \x7b color: blue; \x7d".toList ∧
    (render {} { expandFirst := false } deferredThenPlain).text =
      ".a \x7b color: blue; \x7d .a \x7b color: green; \x7d".toList ∧
    winner (Host.truth {}) (read (render {} { expandFirst := true } deferredThenPlain).text)
      ".a".toList "color".toList = some "blue".toList ∧
    winner (Host.truth {}) (read (render {} { expandFirst := false } deferredThenPlain).text)
      ".a".toList "color".toList = some "green".toList ∧
    ∀ s ∈ expandedOtherwise,
      winner oddFeature.truth (read (render oddFeature { expandFirst := true } s).text)
          ".a".toList "color".toList ≠
        winner oddFeature.truth (read (render oddFeature { expandFirst := false } s).text)
          ".a".toList "color".toList := by
  decide +kernel

end Render
end CondCss
