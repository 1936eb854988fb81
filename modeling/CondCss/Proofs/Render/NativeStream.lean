import CondCss.Proofs.Expand.NativeCascade
import CondCss.Proofs.Render.WellFormed

/-!
# The native stream on a host

The native stream of a well-formed rule is read as a cascade: the unconditional declarations, then the
variants of the others that are expanded (`each_item`). On a host, the variants of a declaration write
what the declaration resolves to there (`winner_variantWrites`). A condition in the header of a block
is the one of the call up to blanks, so this needs that hosts do not tell blanks apart in a condition
(`Host.truth_collapse`).
-/

namespace CondCss

/-! ### Answers up to blanks -/

namespace Host

variable (h : Host)

theorem evaluateWithin_collapse (fuel : Nat) (query : Text) :
    h.evaluateWithin fuel (Text.collapse query) = h.evaluateWithin fuel query := by
  have same : Media.normalize (Text.collapse query) = Media.normalize query := by
    rw [Media.normalize, Media.normalize, Text.collapse_collapse]
  cases fuel with
  | zero => rfl
  | succ fuel => simp only [evaluateWithin, same]

theorem isMatch_collapse (query : Text) : h.isMatch (Text.collapse query) = h.isMatch query := by
  rw [isMatch, isMatch, evaluate?, evaluate?, evaluateWithin_collapse, ← Text.length_ink,
    Text.ink_collapse, Text.length_ink]

/-- Hosts do not tell how many blanks there are in a condition on media or features. -/
theorem truth_collapse {kind : ConditionKind} (isBlock : kind ∈ Expand.blockKinds) (e : Text) :
    h.truth kind (Text.collapse e) = h.truth kind e := by
  have cases : kind = .media ∨ kind = .supports := by simpa [Expand.blockKinds] using isBlock
  rcases cases with rfl | rfl
  · have query : ['('] ++ Text.collapse e ++ [')'] = Text.collapse (['('] ++ e ++ [')']) := by
      rw [Text.collapse_append_cons (by decide)]
      rfl
    simp only [truth, Condition.ask, matchMedia, query, isMatch_collapse]
    unfold Host.ask
    split <;> rfl
  · have same : Media.normalize (Text.collapse e) = Media.normalize e := by
      rw [Media.normalize, Media.normalize, Text.collapse_collapse]
    simp only [truth, Condition.ask, supports, same]
    unfold Host.ask
    split <;> rfl

end Host

namespace Expand

open Cascade
open Occurrence (allIn anyIn)
open Render (Settles stage maxPasses stagedWrite)
open Sheet (FitsHeader)

/-! ### Variants on a host -/

/-- What is known about the variants of a value that settles. -/
theorem fits_variants {value : Text} (settles : Settles value) (conditional : anyIn value = true)
    {all : List Variant} (hall : variants value = .ok all) :
    ∃ calls, Render.readCalls value = some calls ∧ (∀ c ∈ calls, c.hasElse = true) ∧
      all = (orderedSelections calls).map (variant value (allIn value) calls) ∧
      ∀ v ∈ all, Settles v.value ∧ anyIn v.value = false ∧
        ∀ c ∈ v.conditions, c.kind ∈ blockKinds ∧ FitsParens c.expression := by
  obtain ⟨calls, read, -, rfl, simple⟩ :=
    variants_eq_ok (allIn_ne_nil_of_variants conditional hall) hall
  obtain ⟨parsed, isNative⟩ := mapM_readNative_eq_ok read
  obtain ⟨stages, settles⟩ := settles
  cases stages with
  | zero =>
    rw [(Render.settlesWithin_zero settles).2.2] at conditional
    cases conditional
  | succ stages =>
    obtain ⟨-, -, -, calls', read', good, later⟩ := Render.settlesWithin_succ settles
    have readCalls : Render.readCalls value = some calls := mapM_parse_toOption parsed
    obtain rfl : calls = calls' := Option.some.inj (readCalls.symm.trans read')
    refine ⟨calls, readCalls, fun c hc => (Bool.and_eq_true_iff.1 (good c hc)).1, rfl, ?_⟩
    intro v hv
    refine ⟨?_, simple v hv, ?_⟩
    · obtain ⟨selection, member, rfl⟩ := List.mem_map.1 hv
      exact ⟨stages, later selection (mem_orderedSelections.1 member)⟩
    · intro clause hclause
      obtain ⟨isBlock, closed, within⟩ := (closed_of_variants conditional hall hv).2 clause hclause
      obtain ⟨selection, member, rfl⟩ := List.mem_map.1 hv
      obtain ⟨c, hc, inClauses⟩ := exists_of_mem_conditions member hclause
      have header : FitsHeader clause.expression := by
        have fits := (Bool.and_eq_true_iff.1 (good c hc)).2
        rw [isNative c hc, Bool.not_true, Bool.false_or, List.all_eq_true] at fits
        exact of_decide_eq_true (fits clause inClauses)
      exact ⟨isBlock, closed, within, header⟩

theorem applies_upToBlanks (h : Host) {v : Variant}
    (native : ∀ c ∈ v.conditions, c.kind ∈ blockKinds) :
    v.applies h.truth.upToBlanks = v.applies h.truth := by
  rw [Variant.applies, Variant.applies, Bool.eq_iff_iff, List.all_eq_true, List.all_eq_true]
  refine forall₂_congr fun c hc => ?_
  rw [Clause.isTrue, Clause.isTrue, ← h.truth_collapse (native c hc)]
  rfl

/-- On a host, the variants of a declaration that settles write what it resolves to. -/
theorem winner_variantWrites (h : Host) {d : Declaration} (settles : Settles d.value)
    (expanded : isDeferred d = false) (selector selector' property' : Text) :
    winner h.truth (variantWrites selector d) selector' property' =
      winner h.truth [stagedWrite h maxPasses selector d] selector' property' := by
  cases conditional : isConditional d with
  | false =>
    have staged : stagedWrite h maxPasses selector d = plainWrite (Text.tidy selector) d.tidy := by
      rw [stagedWrite, Render.iterate_of_anyIn h conditional]
      rfl
    rw [variantWrites_of_plain selector conditional, staged]
  | true =>
    obtain ⟨all, hall⟩ := exists_variants_of_not_isDeferred expanded
    obtain ⟨calls, read, hasElse, shape, fits⟩ := fits_variants settles conditional hall
    obtain ⟨firsts, chosen⟩ := Render.exists_firstChoices h.truth hasElse
    -- The last variant that applies is that of the first choices, and so is the next stage.
    have last : (all.filter (·.applies h.truth)).getLast? =
        some (variant d.value (allIn d.value) calls firsts) := by
      rw [shape, getLast?_filter_applies, chosen]
      rfl
    have simple : anyIn (stage h d.value) = false := by
      rw [Render.stage_eq_variant h read chosen]
      exact (fits _ (List.mem_of_mem_filter (List.mem_of_getLast? last))).2.1
    have settled : (stage h)^[maxPasses] d.value = stage h d.value := by
      rw [maxPasses, Function.iterate_succ_apply, Render.iterate_of_anyIn h simple]
    have sameTest : all.filter (fun v => (v.tidyWrite selector d.property).applies h.truth) =
        all.filter (·.applies h.truth) := by
      refine List.filter_congr fun v hv => ?_
      have native : ∀ c ∈ v.conditions, c.kind ∈ blockKinds := fun c hc => ((fits v hv).2.2 c hc).1
      rw [applies_tidyWrite h.truth selector d.property native, applies_upToBlanks h native]
    have place (v : Variant) : ((v.tidyWrite selector d.property).selector,
      (v.tidyWrite selector d.property).property) = (Text.tidy selector, Text.tidy d.property) := rfl
    rw [variantWrites, hall]
    simp only [Except.toOption, Option.getD_some]
    rw [winner_map place, sameTest, last, winner_singleton rfl, stagedWrite, settled,
      Render.stage_eq_variant h read chosen]
    rfl

/-! ### The native stream of a rule -/

/-- The variants of a declaration that is read from a fitting fragment fit. -/
theorem fitsVariants_of_fitsRead {d : Declaration} (fits : Render.FitsRead d) : FitsVariants d := by
  intro v hv
  cases conditional : isConditional d with
  | false =>
    rw [variants_of_anyIn conditional] at hv
    obtain rfl := List.mem_singleton.1 hv
    exact ⟨fits.fits, fun c hc => absurd hc List.not_mem_nil⟩
  | true =>
    cases hall : variants d.value with
    | error why =>
      rw [hall] at hv
      exact absurd hv List.not_mem_nil
    | ok all =>
      rw [hall] at hv
      obtain ⟨-, -, -, -, fitsAll⟩ := fits_variants fits.settles conditional hall
      obtain ⟨settles, -, conditions⟩ := fitsAll v hv
      exact ⟨⟨fits.fits.property, fits.fits.colon, fits.fits.named, settles.fitsBody,
        settles.not_blank⟩, fun c hc => (conditions c hc).2.header⟩

theorem each_item {l : Render.Layout} (fits : l.Fits) :
    Each ReadsAll (item l.text).native (nativeWrites l.rule) := by
  have fitsRule : FitsRule l.rule :=
    ⟨Sheet.fitsHeader_trimRight.2 (Sheet.fitsHeader_trimLeft.2 fits.header),
      fun d hd => fitsVariants_of_fitsRead (fits.fitsRead hd)⟩
  cases conditional : l.rule.declarations.any isConditional with
  | true =>
    rw [native_item_of_conditional fits.readRule? conditional]
    exact each_rule fitsRule
  | false =>
    have selector : Text.tidy l.rule.selector = Text.tidy l.selector := Text.tidy_trim l.selector
    rw [native_item_of_plain fits.readRule? conditional, nativeWrites_of_plain conditional, selector]
    exact .singleton (.singleton fits.reads)

end Expand
end CondCss
