import Mathlib.Data.List.Basic
import CondCss.Proofs.Expand.FirstMatch
import CondCss.Proofs.Text.Blanks

/-!
# What a style sheet means

A style sheet of rules means a list of writes, in which every conditional part has its value. Blanks do
not count, in what is written or in the conditions.

An expanded rule has its unconditional declarations in front. A rule in this order (`baseFirst`) means
what it means in its own order for every property that it does not set unconditionally after setting it
conditionally (`winner_baseFirst`).
-/

namespace CondCss

/-! ### The meaning of a style sheet -/

/-- A truth assignment that takes conditions up to blanks. -/
def Truth.upToBlanks (truth : Truth) : Truth :=
  fun kind expression => truth kind (Text.collapse expression)

namespace Cascade

/-- The write of an unconditional declaration. -/
def plainWrite (selector : Text) (d : Declaration) : Write :=
  { selector, property := d.property, value := d.value }

/-- The write of a declaration in which every conditional part has its value, up to blanks; none if one
    has no value. -/
def sourceWrite? (truth : Truth) (selector : Text) (d : Declaration) : Option Write :=
  (Text.valueUnder truth.upToBlanks d.value).map fun value =>
    { selector := Text.tidy selector, property := Text.tidy d.property, value := Text.tidy value }

/-- The writes of rules, in order. -/
def sourceWrites (truth : Truth) (rules : List Rule) : List Write :=
  rules.flatMap fun r => r.declarations.filterMap (sourceWrite? truth r.selector)

end Cascade

/-- The rules among the items of a style sheet. -/
def Sheet.rules (s : Text) : List Rule :=
  (Sheet.items s).filterMap Sheet.readRule?

/-- A rule with its unconditional declarations in front. -/
def Expand.baseFirst (r : Rule) : Rule :=
  { r with declarations :=
      r.declarations.filter (!isConditional ·) ++ r.declarations.filter isConditional }

namespace Expand

open Cascade

/-! ### One declaration -/

theorem mapM_parse_toOption {occurrences : List Occurrence} {conditionals : List Conditional}
    (h : occurrences.mapM (fun o => Conditional.parse .strict o.content) = .ok conditionals) :
    occurrences.mapM (fun o => (Conditional.parse .strict o.content).toOption) =
      some conditionals := by
  induction occurrences generalizing conditionals with
  | nil =>
    cases h
    rfl
  | cons o occurrences ih =>
    obtain ⟨c, rest, hread, hrest, rfl⟩ := mapM_cons_eq_ok_iff.1 h
    rw [List.mapM_cons, hread, ih hrest]
    rfl

theorem valueUnder_of_parse (truth : Truth) {s : Text} {conditionals : List Conditional}
    (h : (Occurrence.allIn s).mapM (fun o => (Conditional.parse .strict o.content).toOption) =
      some conditionals) :
    Text.valueUnder truth s = (conditionals.mapM (Conditional.valueUnder truth)).map
      (Occurrence.replaceAll s (Occurrence.allIn s)) := by
  unfold Text.valueUnder
  rw [h]
  cases hvalues : conditionals.mapM (Conditional.valueUnder truth) <;> simp [hvalues]

theorem valueUnder_of_anyIn_eq_false (truth : Truth) {s : Text} (h : Occurrence.anyIn s = false) :
    Text.valueUnder truth s = some s := by
  unfold Text.valueUnder
  rw [Occurrence.allIn_eq_nil_of_anyIn h]
  rfl

/-- A value with a call that has variants has a closed call. -/
theorem allIn_ne_nil_of_variants {value : Text} {all : List Variant}
    (conditional : Occurrence.anyIn value = true) (h : variants value = .ok all) :
    Occurrence.allIn value ≠ [] := by
  intro none
  simp only [variants, none, conditional, if_true] at h
  cases h

/-! ### One rule -/

/-- Elements that are moved to the end keep their place among those of interest, if none of interest
    stays behind one that is moved. -/
theorem filter_moveToEnd {α : Type} {moved interest : α → Bool} {l : List α}
    (h : l.Pairwise fun a b => interest a = true → interest b = true → moved a = true →
      moved b = true) :
    (l.filter (!moved ·) ++ l.filter moved).filter interest = l.filter interest := by
  induction l with
  | nil => rfl
  | cons a l ih =>
    obtain ⟨behind, rest⟩ := List.pairwise_cons.1 h
    have ih := ih rest
    cases isMoved : moved a with
    | false => simp only [List.filter_cons, isMoved, Bool.not_false, if_true, List.cons_append,
        Bool.false_eq_true, if_false, ih]
    | true =>
      cases ofInterest : interest a with
      | false =>
        simp only [List.filter_cons, isMoved, ofInterest, Bool.not_true, Bool.false_eq_true,
          if_false, if_true, List.filter_append] at ih ⊢
        exact ih
      | true =>
        -- Nothing of interest stays behind `a`, so `a` is also the first one that is moved.
        have none : (l.filter (!moved ·)).filter interest = [] := by
          rw [List.filter_filter, List.filter_eq_nil_iff]
          intro b hb both
          obtain ⟨ofInterestB, stays⟩ := Bool.and_eq_true_iff.1 both
          rw [behind b hb ofInterest ofInterestB isMoved] at stays
          cases stays
        rw [List.filter_append, none, List.nil_append] at ih
        simp only [List.filter_cons, isMoved, ofInterest, Bool.not_true, Bool.false_eq_true,
          if_false, if_true, List.filter_append, none, List.nil_append, ih]

/-- In a rule where no unconditional declaration of the property follows a conditional one, the order
    of the rule and the unconditional declarations in front give the same value. -/
theorem winner_baseFirst (truth : Truth) {r : Rule} {selector property : Text}
    (ordered : Text.tidy r.selector = selector → r.declarations.Pairwise fun a b =>
      Text.tidy a.property = property → Text.tidy b.property = property → isConditional a = true →
        isConditional b = true) :
    winner truth (sourceWrites truth [baseFirst r]) selector property =
      winner truth (sourceWrites truth [r]) selector property := by
  simp only [sourceWrites, List.flatMap_singleton, baseFirst]
  apply winner_congr_of_filter
  by_cases same : Text.tidy r.selector = selector
  · have toDeclarations (l : List Declaration) :
        (l.filterMap (sourceWrite? truth r.selector)).filter (·.isTo selector property) =
          (l.filter (Text.tidy ·.property == property)).filterMap
            (sourceWrite? truth r.selector) := by
      rw [List.filter_filterMap, List.filterMap_filter]
      refine List.filterMap_congr fun d _ => ?_
      unfold sourceWrite?
      cases Text.valueUnder truth.upToBlanks d.value <;> simp [Write.isTo, same, Option.filter]
    rw [toDeclarations, toDeclarations, filter_moveToEnd]
    exact (ordered same).imp fun h ha hb => h (beq_iff_eq.1 ha) (beq_iff_eq.1 hb)
  · have nothing (l : List Declaration) :
        (l.filterMap (sourceWrite? truth r.selector)).filter (·.isTo selector property) = [] := by
      rw [List.filter_filterMap, List.filterMap_eq_nil_iff]
      intro d _
      unfold sourceWrite?
      cases Text.valueUnder truth.upToBlanks d.value <;> simp [Write.isTo, same, Option.filter]
    rw [nothing, nothing]

/-! ### The whole style sheet -/

theorem Variant.render_ne_nil (selector property : Text) (v : Variant) :
    v.render selector property ≠ [] := by
  unfold Variant.render wrapIn
  split
  · split <;> simp [declarationRule, wrap]
  · simp [wrap]

theorem joinWith_ne_nil {texts : List Text} (some : texts ≠ []) (h : ∀ t ∈ texts, t ≠ []) :
    Text.joinWith ['\n'] texts ≠ [] := by
  cases texts with
  | nil => exact absurd rfl some
  | cons first rest =>
    have := h first List.mem_cons_self
    cases rest with
    | nil => rwa [Text.joinWith, List.intercalate_singleton]
    | cons second rest => simp [Text.joinWith, List.intercalate_cons_cons]

theorem filter_of_plain {declarations : List Declaration}
    (plain : declarations.any isConditional = false) :
    declarations.filter isConditional = [] ∧
      declarations.filter (!isConditional ·) = declarations := by
  rw [List.any_eq_false] at plain
  exact ⟨List.filter_eq_nil_iff.2 plain, List.filter_eq_self.2 fun d hd => by simp [plain d hd]⟩

/-- If nothing of a style sheet is deferred, no conditional declaration of its rules is. -/
theorem deferred_eq_none_of_sheet {s : Text} (noComment : Text.hasInfix ['/', '*'] s = false)
    (expanded : (sheet false s).hasDeferred = false) {item : Text} {r : Rule}
    (isItem : item ∈ Sheet.items s) (read : Sheet.readRule? item = some r) {d : Declaration}
    (member : d ∈ r.declarations) (conditional : isConditional d = true) :
    (declaration r.selector d.property d.value).deferred = none := by
  cases token : hasToken s with
  | false =>
    have noCommentItem :=
      Text.hasInfix_eq_false_of_infix (Sheet.infix_of_mem_items isItem) noComment
    have plain := isConditional_eq_false_of_hasToken token noCommentItem isItem read member
    rw [conditional] at plain
    cases plain
  | true =>
    simp only [sheet, token, Bool.not_true, Bool.false_eq_true, if_false, Bool.not_eq_false',
      List.isEmpty_iff, List.flatMap_eq_nil_iff, List.mem_map, forall_exists_index, and_imp,
      forall_apply_eq_imp_iff₂] at expanded
    have whole := expanded item isItem
    have some : r.declarations.any isConditional = true :=
      List.any_eq_true.2 ⟨d, member, conditional⟩
    simp only [Expand.item, read, some, if_true, rule, List.filterMap_eq_nil_iff, List.mem_map,
      List.mem_filter, forall_exists_index, and_imp] at whole
    exact whole _ d member conditional rfl

theorem sourceWrites_map (truth : Truth) (f : Rule → Rule) (rules : List Rule) :
    sourceWrites truth (rules.map f) = rules.flatMap fun r => sourceWrites truth [f r] := by
  simp only [sourceWrites, List.flatMap_singleton, List.flatMap_map]

end Expand
end CondCss
