import CondCss.Proofs.Expand.Faults
import CondCss.Proofs.Render.NativeStream
import CondCss.Proofs.Render.Settled

/-!
# What becomes of printed texts

The rules and blocks that expanding a style sheet prints are blocks of a style sheet again, and are read
back as they were printed. A printed variant is not taken apart (`isBlock_render`), and a printed rule is
settled once its calls are resolved as far as they can be read (`settled_declarationRule`).
-/

namespace CondCss
namespace Expand

open Sheet (FitsHeader FitsBody IsBlock Stands)
open Occurrence (anyIn callsClosed contents)
open Render (stage maxPasses isInert stays Settled)

/-! ### Printed rules and blocks -/

section Printed

variable {selector property value : Text} {declarations : List Declaration}

theorem isBlock_baseRule (header : FitsHeader selector) (nonempty : declarations ≠ [])
    (fits : ∀ d ∈ declarations, FitsBody d.property ∧ FitsBody d.value) :
    IsBlock (baseRule selector declarations) := by
  rw [baseRule_eq_ruleText nonempty]
  exact Sheet.isBlock_ruleText (Cascade.fitsHeader_concat_space header) (fitsBody_of_mem_fragments fits)

theorem isBlock_declarationRule (header : FitsHeader selector) (hproperty : FitsBody property)
    (hvalue : FitsBody value) : IsBlock (declarationRule selector property value) := by
  rw [declarationRule_eq_baseRule]
  exact isBlock_baseRule header (List.cons_ne_nil _ _) (List.forall_mem_singleton.2 ⟨hproperty, hvalue⟩)

theorem isBlock_wrapIn {kind : ConditionKind} (isKind : kind ∈ blockKinds) {expressions : List Text}
    (fits : ∀ e ∈ expressions, FitsParens e) {inner : Text} (hinner : IsBlock inner) :
    IsBlock (wrapIn (Cascade.blockWord kind) expressions inner) ∧
      (expressions ≠ [] → Sheet.readRule? (wrapIn (Cascade.blockWord kind) expressions inner) = none) := by
  unfold wrapIn
  split
  · rename_i empty
    exact ⟨hinner, fun some => absurd (List.isEmpty_iff.1 empty) some⟩
  · have word : FitsHeader (Cascade.blockWord kind) := by
      revert kind
      decide
    have header : FitsHeader (header (Cascade.blockWord kind) expressions) :=
      fitsHeader_append_conjunction word fun e he => fits e (List.mem_eraseDups.1 he)
    exact ⟨hinner.wrap header, fun _ => Sheet.readRule?_wrap header hinner⟩

/-- What is read from a printed rule with one declaration. -/
theorem readRule?_declarationRule (header : FitsHeader selector) (hproperty : FitsBody property)
    (colon : (':', 0) ∉ Scan.outside none none 0 property) (hvalue : FitsBody value) :
    Sheet.readRule? (declarationRule selector property value) =
      some ⟨Text.trim selector,
        if Text.trim property = [] ∨ Text.trim value = [] then []
        else [⟨Text.trim property, Text.trim value⟩],
        declarationRule selector property value⟩ := by
  rw [declarationRule_eq_baseRule, readRule?_baseRule_of_isFragment header.opening (List.cons_ne_nil _ _)
      (List.forall_mem_singleton.2 ⟨hproperty.isFragment, hvalue.isFragment⟩),
    List.filterMap_cons, readDeclaration?_render hproperty.closed colon, List.filterMap_nil]
  by_cases blank : Text.trim property = [] ∨ Text.trim value = []
  · simp only [if_pos blank]
  · simp only [if_neg blank]

/-- What is read from a printed rule with several declarations. -/
theorem readRule?_baseRule (header : FitsHeader selector) (nonempty : declarations ≠ [])
    (fits : ∀ d ∈ declarations, FitsDeclaration d) :
    Sheet.readRule? (baseRule selector declarations) =
      some ⟨Text.trim selector,
        declarations.map fun d => ⟨Text.trim d.property, Text.trim d.value⟩,
        baseRule selector declarations⟩ := by
  have declared : declarations.filterMap (fun d => Sheet.readDeclaration? (' ' :: d.render)) =
      declarations.map fun d => ⟨Text.trim d.property, Text.trim d.value⟩ := by
    rw [← List.filterMap_eq_map]
    exact List.filterMap_congr fun d hd => (fits d hd).readDeclaration?
  rw [readRule?_baseRule_of_isFragment header.opening nonempty fun d hd =>
    ⟨(fits d hd).property.isFragment, (fits d hd).value.isFragment⟩, declared]

/-- What is printed for a trimmed selector begins with no blank. -/
theorem head_render {c : Char} {tail : Text} (hc : Text.isBlank c = false) (property : Text)
    (v : Variant) : ∀ d ∈ (v.render (c :: tail) property).head?, Text.isBlank d = false := by
  unfold Variant.render wrapIn
  split
  · split
    · rintro d ⟨⟩
      exact hc
    · rintro d ⟨⟩
      decide
  · rintro d ⟨⟩
    decide

end Printed

/-! ### What becomes of a printed text -/

namespace Fate

/-- Whether the item is not taken apart. -/
def isWhole : Fate → Bool
  | rewritten _ _ _ => false
  | _ => true

variable {t : Text} {r : Rule}

theorem of_eq_kept (read : Sheet.readRule? t = some r)
    (plain : ∀ d ∈ r.declarations, isConditional d = false) : of t = .kept t := by
  have none : r.declarations.any isConditional = false := by
    rw [List.any_eq_false]
    exact fun d hd => by simp [plain d hd]
  simp [of, read, none]

theorem isWhole_of_readRule?_eq_none (read : Sheet.readRule? t = none) : (of t).isWhole = true := by
  unfold of
  rw [read]
  simp only
  split <;> rfl

end Fate

section Settling

variable {selector property value t : Text}

theorem settled_of_kept (kept : Fate.of t = .kept t) : Settled t := by
  refine .kept ?_ ?_ <;>
  · rw [Fate.item_eq, kept]
    rfl

/-- A text that is not taken apart is settled, if nothing is left to resolve in it. -/
theorem settled_of_isWhole (whole : (Fate.of t).isWhole = true) (inert : isInert t = true) :
    Settled t := by
  have sound := Fate.sound_of t
  have same := Fate.item_of t
  cases fate : Fate.of t with
  | kept i =>
    rw [fate] at same
    obtain rfl : i = t := same
    exact settled_of_kept fate
  | moved i =>
    rw [fate] at same sound
    obtain rfl : i = t := same
    obtain ⟨-, -, call⟩ := sound
    refine .waiting ?_ ?_ call inert <;>
    · rw [Fate.item_eq, fate]
      rfl
  | rewritten i r placements =>
    rw [fate] at whole
    cases whole

/-- A value with calls none of which can be read is not expanded. -/
theorem exists_variants_eq_error (call : anyIn value = true) (inert : isInert value = true) :
    ∃ why, variants value = .error why := by
  obtain ⟨closed, unreadable⟩ := Bool.and_eq_true_iff.1 inert
  obtain ⟨o, calls, shape⟩ :=
    List.exists_cons_of_ne_nil (Occurrence.allIn_ne_nil_of_closed closed call)
  have malformed : ∃ e, Conditional.parse .strict o.content = .error e := by
    have member : o.content ∈ contents value := by simp [contents, shape]
    obtain ⟨e, literal⟩ := Render.isUnreadable_iff.1 (List.all_eq_true.1 unreadable _ member)
    cases read : Conditional.parse .strict o.content with
    | error e => exact ⟨e, rfl⟩
    | ok c =>
      rw [Conditional.parse_literal read] at literal
      cases literal
  obtain ⟨e, read⟩ := malformed
  refine ⟨.malformed e o.fullText, variants_of_mapM_eq_error ?_⟩
  refine mapM_readNative_eq_error_iff.2 ⟨[], o, calls, shape, by simp, ?_⟩
  exact readNative_eq_error_iff.2 (.inl ⟨e, read, rfl⟩)

/-- A printed rule with one declaration is settled: it is kept if the value has no call, and deferred as
    it is if the calls of the value cannot be read. -/
theorem settled_declarationRule (header : FitsHeader selector)
    (trimmed : Text.trim selector = selector) (hproperty : FitsBody property)
    (colon : (':', 0) ∉ Scan.outside none none 0 property) (named : Text.trim property = property)
    (some : property ≠ []) (hvalue : FitsBody value)
    (waiting : anyIn value = true → Text.trim value = value ∧ isInert value = true ∧
      isInert (declarationRule selector property value) = true) :
    Settled (declarationRule selector property value) := by
  have read := readRule?_declarationRule header hproperty colon hvalue
  cases call : anyIn value with
  | false =>
    refine settled_of_kept (Fate.of_eq_kept read fun d hd => ?_)
    simp only at hd
    split at hd
    · exact absurd hd List.not_mem_nil
    · rw [List.mem_singleton.1 hd, isConditional, Occurrence.anyIn_trim]
      exact call
  | true =>
    obtain ⟨whole, inertValue, inert⟩ := waiting call
    have valued : value ≠ [] := by
      rintro rfl
      cases call
    obtain ⟨why, deferred⟩ := exists_variants_eq_error call inertValue
    rw [named, whole, trimmed, if_neg (not_or.2 ⟨some, valued⟩)] at read
    have fate : Fate.of (declarationRule selector property value) =
        .rewritten (declarationRule selector property value)
          ⟨selector, [⟨property, value⟩], declarationRule selector property value⟩
          [.deferred ⟨property, value⟩ why] := by
      simp [Fate.of, read, Placement.of, isConditional, call, deferred]
    refine .waiting ?_ ?_ ?_ inert
    · rw [Fate.item_eq, fate]
      rfl
    · rw [Fate.item_eq, fate]
      rfl
    · simp [anyIn_declarationRule, call]

/-- A printed variant is a block and is not taken apart. -/
theorem isBlock_render (header : FitsHeader selector) (hproperty : FitsBody property)
    (colon : (':', 0) ∉ Scan.outside none none 0 property) {v : Variant} (hvalue : FitsBody v.value)
    (plain : anyIn v.value = false) (conditions : ∀ c ∈ v.conditions, FitsParens c.expression) :
    IsBlock (v.render selector property) ∧ (Fate.of (v.render selector property)).isWhole = true := by
  have fitsKind (kind : ConditionKind) : ∀ e ∈ expressionsOf kind v.conditions, FitsParens e := by
    intro e he
    obtain ⟨c, hc, rfl⟩ := List.mem_map.1 he
    exact conditions c (List.mem_filter.1 hc).1
  obtain ⟨inner, innerNested⟩ := isBlock_wrapIn
    (show ConditionKind.supports ∈ blockKinds by decide) (fitsKind .supports)
    (isBlock_declarationRule header hproperty hvalue)
  obtain ⟨outer, outerNested⟩ := isBlock_wrapIn
    (show ConditionKind.media ∈ blockKinds by decide) (fitsKind .media) inner
  have shape : v.render selector property =
      wrapIn (Cascade.blockWord .media) (expressionsOf .media v.conditions)
        (wrapIn (Cascade.blockWord .supports) (expressionsOf .supports v.conditions)
          (declarationRule selector property v.value)) := rfl
  rw [shape]
  refine ⟨outer, ?_⟩
  by_cases media : expressionsOf .media v.conditions = []
  · have same (t : Text) : wrapIn (Cascade.blockWord .media) [] t = t := rfl
    rw [media, same]
    by_cases supports : expressionsOf .supports v.conditions = []
    · have same (t : Text) : wrapIn (Cascade.blockWord .supports) [] t = t := rfl
      rw [supports, same, Fate.of_eq_kept (readRule?_declarationRule header hproperty colon hvalue)]
      · rfl
      · intro d hd
        simp only at hd
        split at hd
        · exact absurd hd List.not_mem_nil
        · rw [List.mem_singleton.1 hd, isConditional, Occurrence.anyIn_trim]
          exact plain
    · exact Fate.isWhole_of_readRule?_eq_none (innerNested supports)
  · exact Fate.isWhole_of_readRule?_eq_none (outerNested media)

end Settling

/-! ### Calls in a deferred rule -/

section Deferred

variable {selector property value : Text}

theorem declarationRule_eq_cons (selector property value : Text) :
    declarationRule selector property value =
      selector ++ ' ' :: ('{' :: (' ' :: (property ++ ':' :: (' ' :: (value ++ ';' :: [' ', '}']))))) := by
  simp [declarationRule]

/-- The calls of a rule whose selector and property have none are those of the value. -/
theorem calls_declarationRule (h : Host) (noneBefore : anyIn selector = false)
    (none : anyIn property = false) (closed : callsClosed value = true) :
    stage h (declarationRule selector property value) =
        declarationRule selector property (stage h value) ∧
      callsClosed (declarationRule selector property value) = true ∧
      contents (declarationRule selector property value) = contents value := by
  have space := Occurrence.isBoundary_space
  have opening := Occurrence.isBoundary_opening
  have colon := Occurrence.isBoundary_colon
  have semicolon := Occurrence.isBoundary_semicolon
  have closedSelector := Occurrence.callsClosed_of_anyIn noneBefore
  have closedProperty := Occurrence.callsClosed_of_anyIn none
  have cons {c : Char} (hc : Occurrence.IsBoundary c) (rest : Text) :
      contents (c :: rest) = contents rest := Occurrence.contents_append_cons (t := []) hc rfl rest
  have noContents {t : Text} (none : anyIn t = false) : contents t = [] := by
    rw [contents, Occurrence.allIn_eq_nil_of_anyIn none]
    rfl
  have last : anyIn [' ', '}'] = false := by decide
  simp only [declarationRule_eq_cons]
  refine ⟨?_, ?_, ?_⟩
  · rw [stage, Occurrence.mapCalls_append_cons space closedSelector, Occurrence.mapCalls_of_anyIn noneBefore,
      Occurrence.mapCalls_cons opening, Occurrence.mapCalls_cons space,
      Occurrence.mapCalls_append_cons colon closedProperty, Occurrence.mapCalls_of_anyIn none,
      Occurrence.mapCalls_cons space, Occurrence.mapCalls_append_cons semicolon closed,
      Occurrence.mapCalls_of_anyIn last]
    rfl
  · rw [Occurrence.callsClosed_append_cons space closedSelector, Occurrence.callsClosed_cons opening,
      Occurrence.callsClosed_cons space, Occurrence.callsClosed_append_cons colon closedProperty,
      Occurrence.callsClosed_cons space, Occurrence.callsClosed_append_cons semicolon closed,
      Occurrence.callsClosed_of_anyIn last]
  · rw [Occurrence.contents_append_cons space closedSelector, noContents noneBefore, cons opening,
      cons space, Occurrence.contents_append_cons colon closedProperty, noContents none, cons space,
      Occurrence.contents_append_cons semicolon closed, noContents last]
    simp

theorem iterate_declarationRule (h : Host) (noneBefore : anyIn selector = false)
    (none : anyIn property = false) {n : Nat}
    (closed : ∀ k < n, callsClosed ((stage h)^[k] value) = true) :
    (stage h)^[n] (declarationRule selector property value) =
      declarationRule selector property ((stage h)^[n] value) := by
  induction n with
  | zero => rfl
  | succ n ih =>
    rw [Function.iterate_succ_apply', ih fun k below => closed k (Nat.lt_succ_of_lt below),
      (calls_declarationRule h noneBefore none (closed n (Nat.lt_succ_self n))).1,
      Function.iterate_succ_apply']

end Deferred

end Expand
end CondCss
