import CondCss.Proofs.Expand.Blocks
import CondCss.Proofs.Sheet.Comment

/-!
# Printed rules are read back

A declaration is legible when its property and its value are trimmed, balanced and free of whatever could
end them: a semicolon at the top level, an opening brace, a comment, and in the property a colon at the
top level. A rule that is printed for legible declarations is read as these declarations, and what is read
from a balanced body is legible (`printed_rule_read_back`).
-/

namespace CondCss

open Scan (outside endOf Balanced)
open Sheet (IsFragment readDeclaration? readDeclarations readRule? withoutComments)

/-! ### Legible declarations -/

/-- A text that can stand in a printed declaration: every string and parenthesis that opens in it ends in
    it, and nothing in it ends the declaration or the rule. -/
@[mk_iff]
structure Confined (t : Text) : Prop where
  balanced : Balanced t
  fragment : IsFragment t

/-- A declaration that is read back when it is printed. -/
@[mk_iff]
structure Declaration.Legible (d : Declaration) : Prop where
  property : Confined d.property
  colon : (':', 0) ∉ outside none none 0 d.property
  property_trim : Text.trim d.property = d.property
  named : d.property ≠ []
  value : Confined d.value
  value_trim : Text.trim d.value = d.value
  valued : d.value ≠ []

instance (t : Text) : Decidable (Confined t) :=
  decidable_of_iff _ (confined_iff t).symm

theorem colon_notMem_iff (d : Declaration) :
    (∀ m ∈ outside none none 0 d.property, m ≠ (':', 0)) ↔ (':', 0) ∉ outside none none 0 d.property :=
  List.forall_mem_ne'

instance (d : Declaration) : Decidable d.Legible :=
  haveI : Decidable ((':', 0) ∉ outside none none 0 d.property) :=
    decidable_of_iff _ (colon_notMem_iff d)
  decidable_of_iff _ (Declaration.legible_iff d).symm

variable {s t selector body : Text} {d : Declaration} {declarations : List Declaration} {r : Rule}

theorem confined_trim : Confined (Text.trim t) ↔ Confined t := by
  rw [confined_iff, confined_iff, Scan.balanced_trim, Sheet.isFragment_trim]

theorem confined_append_colon {property value : Text}
    (closed : endOf none none 0 property = (none, 0)) :
    Confined (property ++ ':' :: value) ↔ Confined property ∧ Confined value := by
  rw [confined_iff, confined_iff, confined_iff, Sheet.isFragment_append_colon closed,
    Scan.balanced_append_sep Scan.isSeparator_colon closed]
  tauto

/-- What is read as a declaration is legible, if it is confined. -/
theorem Confined.legible (h : Confined t) (read : readDeclaration? t = some d) : d.Legible := by
  obtain ⟨property, value, rfl, closed, colon, rfl, named, valued⟩ :=
    Sheet.readDeclaration?_eq_some read
  obtain ⟨inProperty, inValue⟩ := (confined_append_colon closed).1 h
  obtain ⟨sameOutside, -⟩ := Scan.sameScan_trim property none 0
  refine ⟨confined_trim.2 inProperty, ?_, Text.trim_trim property, named,
    confined_trim.2 inValue, Text.trim_trim value, valued⟩
  show (':', 0) ∉ outside none none 0 (Text.trim property)
  rw [sameOutside]
  exact colon

/-- The fragments of a balanced body are confined. -/
theorem confined_of_mem_splitTopLevel (balanced : Balanced t) (opening : '{' ∉ t)
    (comment : Text.hasInfix ['/', '*'] t = false) {piece : Text}
    (member : piece ∈ Scan.splitTopLevel (· == ';') t) : Confined piece := by
  obtain ⟨balancedPiece, single⟩ := Scan.balanced_of_mem_splitTopLevelFrom
    Scan.isSeparator_semicolon (by decide) balanced member
  have inside : piece <:+: t := Scan.infix_of_mem_splitTopLevelFrom member
  refine ⟨balancedPiece, balancedPiece.closed, single, ?_, ?_⟩
  · intro brace
    exact opening (inside.subset brace)
  · exact Text.hasInfix_eq_false_of_infix inside comment

/-- The declarations of a body are legible, if what is left of it without its comments is balanced. -/
theorem legible_of_mem_readDeclarations (balanced : Balanced (withoutComments body))
    (opening : '{' ∉ withoutComments body)
    (comment : Text.hasInfix ['/', '*'] (withoutComments body) = false)
    (member : d ∈ readDeclarations body) : d.Legible := by
  obtain ⟨piece, isPiece, read⟩ := List.mem_filterMap.1 member
  exact (confined_of_mem_splitTopLevel balanced opening comment isPiece).legible read

/-! ### Printing and reading -/

theorem Declaration.Legible.readDeclaration? (h : d.Legible) :
    readDeclaration? (' ' :: d.render) = some d := by
  have notBlank : ¬(Text.trim d.property = [] ∨ Text.trim d.value = []) := by
    rw [h.property_trim, h.value_trim, not_or]
    exact ⟨h.named, h.valued⟩
  rw [Expand.readDeclaration?_render h.property.fragment.closed h.colon, if_neg notBlank,
    h.property_trim, h.value_trim]

/-- A rule that is printed for legible declarations is read as these. -/
theorem readRule?_baseRule_of_legible (trimmed : Text.trim selector = selector)
    (opening : '{' ∉ selector) (nonempty : declarations ≠ [])
    (legible : ∀ d ∈ declarations, d.Legible) :
    readRule? (Expand.baseRule selector declarations) =
      some ⟨selector, declarations, Expand.baseRule selector declarations⟩ := by
  have fragments : ∀ d ∈ declarations, IsFragment d.property ∧ IsFragment d.value := by
    intro d member
    exact ⟨(legible d member).property.fragment, (legible d member).value.fragment⟩
  have same : declarations.filterMap (fun d => readDeclaration? (' ' :: d.render)) =
      declarations := by
    have each : ∀ d ∈ declarations, readDeclaration? (' ' :: d.render) = some d :=
      fun d member => (legible d member).readDeclaration?
    rw [List.filterMap_congr each, List.filterMap_some]
  rw [Expand.readRule?_baseRule_of_isFragment opening nonempty fragments, trimmed, same]

/-- The selector of a rule is trimmed and has no opening brace, and its declarations are those of its
    body. -/
theorem exists_of_readRule? (read : readRule? s = some r) :
    ∃ selector body, Sheet.cutBraces? s = some (selector, body) ∧ '{' ∉ selector ∧
      '{' ∉ withoutComments body ∧ r = ⟨Text.trim selector, readDeclarations body, s⟩ := by
  cases cut : Sheet.cutBraces? s with
  | none =>
    simp only [readRule?, cut] at read
    cases read
  | some parts =>
    obtain ⟨selector, body⟩ := parts
    obtain ⟨tail, -, opening, -⟩ := Sheet.cutBraces?_eq_some_iff.1 cut
    simp only [readRule?, cut] at read
    split at read
    · cases read
    · rename_i flat
      cases read
      exact ⟨selector, body, rfl, opening, by simpa using flat, rfl⟩

/-- What is printed for a trimmed selector without an opening brace and for legible declarations is read
    back, several of them in one rule and each in a rule of its own. The declarations of a balanced body
    are legible. So what is read from a rule is read again from what is printed for it. -/
theorem printed_rule_read_back :
    (∀ (selector : Text) (declarations : List Declaration), Text.trim selector = selector →
      '{' ∉ selector → declarations ≠ [] → (∀ d ∈ declarations, d.Legible) →
        readRule? (Expand.baseRule selector declarations) =
          some ⟨selector, declarations, Expand.baseRule selector declarations⟩ ∧
        ∀ d ∈ declarations, readRule? (Expand.declarationRule selector d.property d.value) =
          some ⟨selector, [d], Expand.declarationRule selector d.property d.value⟩) ∧
    (∀ body : Text, Balanced body → '{' ∉ body → Text.hasInfix ['/', '*'] body = false →
      ∀ d ∈ readDeclarations body, d.Legible) ∧
    ∀ (s selector body : Text) (r : Rule), readRule? s = some r →
      Sheet.cutBraces? s = some (selector, body) → Balanced (withoutComments body) →
        Text.hasInfix ['/', '*'] (withoutComments body) = false → r.declarations ≠ [] →
          readRule? (Expand.baseRule r.selector r.declarations) =
            some ⟨r.selector, r.declarations, Expand.baseRule r.selector r.declarations⟩ := by
  refine ⟨?_, ?_, ?_⟩
  · intro selector declarations trimmed opening nonempty legible
    refine ⟨readRule?_baseRule_of_legible trimmed opening nonempty legible, ?_⟩
    intro d member
    rw [Expand.declarationRule_eq_baseRule]
    apply readRule?_baseRule_of_legible trimmed opening (List.cons_ne_nil _ _)
    exact List.forall_mem_singleton.2 (legible d member)
  · intro body balanced opening comment d member
    have clean : withoutComments body = body :=
      Sheet.withoutComments_of_hasInfix_eq_false comment
    rw [← clean] at balanced opening comment
    exact legible_of_mem_readDeclarations balanced opening comment member
  · intro s selector body r read cut balanced comment nonempty
    obtain ⟨selector', body', cut', noOpening, flat, rfl⟩ := exists_of_readRule? read
    obtain ⟨rfl, rfl⟩ := Prod.mk.inj (Option.some.inj (cut.symm.trans cut'))
    apply readRule?_baseRule_of_legible (Text.trim_trim selector) ?_ nonempty
    · intro d member
      exact legible_of_mem_readDeclarations balanced flat comment member
    · rwa [Text.mem_trim (by decide)]

/-- Declarations with separators, braces and escapes in strings and parentheses, a body with fragments
    that are none, and a rule with comments. -/
theorem printed_rule_read_back_quotedParts :
    let selector := "a[b=\"\x7d\"]:is(c, d)\x7d".toList
    let first : Declaration := ⟨"--x".toList, "url(a;b) \"\\\";:\" \x7d".toList⟩
    let second : Declaration := ⟨"(y:z)".toList, ": ')\\''".toList⟩
    let body := " --x: url(;) ; y ; z:; \"a:;\" b : 'c' ; :d;".toList
    let s := ".a \x7b /* x: \x7b */ b: \"\x7d\" ; c : d/**/ \x7d".toList
    let r : Rule := ⟨".a".toList, [⟨['b'], "\"\x7d\"".toList⟩, ⟨['c'], ['d']⟩], s⟩
    (readRule? (Expand.baseRule selector [first, second]) =
        some ⟨selector, [first, second], Expand.baseRule selector [first, second]⟩ ∧
      readRule? (Expand.declarationRule selector second.property second.value) =
        some ⟨selector, [second],
          Expand.declarationRule selector second.property second.value⟩) ∧
    (⟨"\"a:;\" b".toList, "'c'".toList⟩ ∈ readDeclarations body ∧
      ∀ d ∈ readDeclarations body, d.Legible) ∧
    (readRule? s = some r ∧ readRule? (Expand.baseRule r.selector r.declarations) =
      some ⟨r.selector, r.declarations, Expand.baseRule r.selector r.declarations⟩) := by
  intro selector first second body s r
  have trimmed : Text.trim selector = selector := by decide
  have opening : '{' ∉ selector := by decide
  have legible : ∀ d ∈ [first, second], d.Legible := by decide
  have balanced : Balanced body := by decide
  have read : readRule? s = some r := by decide +kernel
  have printed := printed_rule_read_back.1 selector [first, second] trimmed opening
    (List.cons_ne_nil _ _) legible
  refine ⟨⟨printed.1, printed.2 second ?_⟩, ⟨by decide, ?_⟩, read, ?_⟩
  · exact List.mem_cons_of_mem _ List.mem_cons_self
  · exact printed_rule_read_back.2.1 body balanced (by decide) (by decide)
  · exact printed_rule_read_back.2.2 s ".a ".toList _ r read rfl (by decide +kernel)
      (by decide +kernel) (List.cons_ne_nil _ _)

end CondCss
