import Mathlib.Tactic.TFAE
import CondCss.Condition
import CondCss.Proofs.Media.NormalForm
import CondCss.Proofs.Scan.Balanced

/-!
# Spellings of a query

Queries are looked up by their normal form, so two spellings of a query are the same query just if
they have the same one. Parentheses around a query make no difference, unless the query ends with a
colon: the colon gets its space, which is trimmed off inside parentheses only (`normalize_paren`). For
the same reason a normal form is its own normal form unless it ends with a colon
(`normalize_normalize`).
-/

namespace CondCss
namespace Media

variable {c : Char} {s t inside query : Text}

/-! ### What a scan sees of spaces at colons -/

/-- Behind a character that is no quote, it does not matter what stood in front. -/
theorem sameScan_cons_of_not_quote (h : Quote.ofChar? c = none) (before before' : Option Char)
    (t : Text) : Scan.SameScan before (c :: t) before' (c :: t) := by
  intro quote depth
  simp only [Scan.outside, Scan.endOf, Scan.mark, Scan.depthAfter, Quote.next_of_ofChar?_eq_none h]
  exact ⟨trivial, trivial⟩

/-- A scan does not tell where spaces are put at colons. -/
theorem sameScan_spaceColons (before : Option Char) (t : Text) :
    Scan.SameScan before (spaceColons t) before t := by
  induction t generalizing before with
  | nil => exact .refl _ _
  | cons c t ih =>
    cases hc : Text.isBlank c with
    | true =>
      rw [spaceColons_of_blank hc]
      split
      · rename_i colon
        obtain ⟨rest, shape⟩ := List.head?_eq_some_iff.1 colon
        have behind : Scan.SameScan before (spaceColons t) none (spaceColons t) := by
          rw [shape]
          exact sameScan_cons_of_not_quote (by decide) before none rest
        exact behind.trans ((ih none).trans (Scan.sameScan_blank hc before t).symm)
      · exact (ih (some c)).cons before
    | false =>
      by_cases colon : c = ':'
      · subst colon
        rw [spaceColons_colon]
        have rest : Scan.SameScan none (Text.trimLeft (spaceColons t)) none t :=
          (Scan.sameScan_trimLeft (by decide) _).trans (ih none)
        have behind : Scan.SameScan (some ':') (' ' :: Text.trimLeft (spaceColons t)) (some ':') t :=
          (Scan.sameScan_blank (by decide) _ _).trans
            (rest.trans (Scan.sameScan_before (by decide) (by decide) t))
        exact behind.cons before
      · rw [spaceColons_of_not_blank colon hc]
        exact (ih (some c)).cons before

/-! ### Blanks at the end -/

theorem head?_trimRight (h : Text.isBlank c = false) (t : Text) :
    (Text.trimRight t).head? = some c ↔ t.head? = some c := by
  cases t with
  | nil => exact Iff.rfl
  | cons d t =>
    rw [Text.trimRight_cons]
    split
    · rename_i gone
      refine iff_of_false (by simp) ?_
      intro same
      rw [Option.some.inj same, h] at gone
      cases gone.2
    · exact Iff.rfl

/-- Blanks at the end of a text leave nothing behind but blanks. -/
theorem trimRight_spaceColons (t : Text) :
    Text.trimRight (spaceColons t) = Text.trimRight (spaceColons (Text.trimRight t)) := by
  induction t with
  | nil => rfl
  | cons c t ih =>
    rw [Text.trimRight_cons]
    split
    · rename_i gone
      rw [gone.1] at ih
      rw [spaceColons_of_blank gone.2]
      split
      · exact ih
      · rw [Text.trimRight_cons, if_pos ⟨ih, gone.2⟩]
        rfl
    · cases hc : Text.isBlank c with
      | true =>
        have sameHead : (spaceColons t).head? = some ':' ↔
            (spaceColons (Text.trimRight t)).head? = some ':' := by
          rw [← head?_trimRight (by decide) (spaceColons t), ih, head?_trimRight (by decide)]
        rw [spaceColons_of_blank hc, spaceColons_of_blank hc]
        simp only [sameHead]
        split
        · exact ih
        · rw [Text.trimRight_cons, Text.trimRight_cons, ih]
      | false =>
        by_cases colon : c = ':'
        · subst colon
          have later : Text.trimRight (Text.trimLeft (spaceColons t)) =
              Text.trimRight (Text.trimLeft (spaceColons (Text.trimRight t))) := by
            rw [Text.trimRight_trimLeft, ih, Text.trimRight_trimLeft]
          rw [spaceColons_colon, spaceColons_colon, Text.trimRight_of_not_blank hc,
            Text.trimRight_of_not_blank hc, Text.trimRight_cons, Text.trimRight_cons ' ', later]
        · rw [spaceColons_of_not_blank colon hc, spaceColons_of_not_blank colon hc,
            Text.trimRight_of_not_blank hc, Text.trimRight_of_not_blank hc, ih]

/-! ### Queries with their spaces in place -/

/-- A stretch of a query with single spaces and its colons spaced. -/
def settle (t : Text) : Text :=
  spaceColons (Text.collapse t)

theorem settle_settle (t : Text) : settle (settle t) = settle t := by
  rw [settle, settle, collapse_spaceColons, Text.collapse_collapse, spaceColons_spaceColons]

theorem balanced_settle : Scan.Balanced (settle t) ↔ Scan.Balanced t :=
  Scan.balanced_congr ((sameScan_spaceColons none _).trans (Scan.sameScan_collapse none t))

theorem ink_settle (t : Text) : Text.ink (settle t) = Text.ink t := by
  rw [settle, ink_spaceColons, Text.ink_collapse]

/-- A query with its spaces in place, still in its parentheses. -/
def spaced (query : Text) : Text :=
  settle (Text.trim query)

theorem normalize_eq_peel (query : Text) : normalize query = peel (spaced query) := by
  rw [normalize, Text.trim_collapse]
  rfl

theorem spaced_trim (query : Text) : spaced (Text.trim query) = spaced query := by
  rw [spaced, Text.trim_trim, spaced]

/-- A query that ends with a colon gets a space at its end, and no other query does. -/
theorem spaced_cases (query : Text) :
    (∃ front, (Text.trim query).getLast? = some ':' ∧ spaced query = front ++ [':', ' ']) ∨
      (Text.trim query).getLast? ≠ some ':' ∧ Text.trimRight (spaced query) = spaced query ∧
        (spaced query).getLast? ≠ some ':' := by
  obtain empty | ⟨front, c, ends⟩ := List.eq_nil_or_concat' (Text.trim query)
  · rw [spaced, empty]
    exact .inr ⟨by simp, rfl, by simp [settle, Text.collapse, spaceColons]⟩
  · have notBlank : Text.isBlank c = false := by
      refine Text.not_blank_of_trim_concat (t := front) ?_
      rw [← ends, Text.trim_trim]
    have collapsed : Text.collapse (front ++ [c]) = Text.collapse front ++ [c] :=
      Text.collapse_append_cons notBlank
    rw [spaced, ends, settle, collapsed]
    by_cases colon : c = ':'
    · subst colon
      obtain ⟨before, shape⟩ := exists_spaceColons_concat_colon (Text.collapse front)
      exact .inl ⟨before, by simp, shape⟩
    · refine .inr ⟨by simpa using colon, ?_, ?_⟩
      · rw [spaceColons_concat colon notBlank, Text.trimRight_append_cons notBlank]
        rfl
      · rw [spaceColons_concat colon notBlank]
        simpa using colon

theorem trim_settle (t : Text) : Text.trim (settle t) = Text.trimRight (spaced t) := by
  rw [Text.trim, settle, trimLeft_spaceColons, trimRight_spaceColons, Text.trimLeft_collapse,
    Text.trimRight_collapse]
  rfl

theorem trimRight_concat_colon_space (t : Text) :
    Text.trimRight (t ++ [':', ' ']) = t ++ [':'] := by
  rw [Text.trimRight_append_cons (by decide)]
  rfl

/-- Spaces are put in place once and for all. -/
theorem spaced_spaced (query : Text) : spaced (spaced query) = spaced query := by
  have again : settle (spaced query) = spaced query := settle_settle _
  have trimmed : Text.trim (spaced query) = Text.trimRight (spaced query) := by
    rw [spaced, trim_settle, spaced_trim, spaced]
  have collapsed : Text.collapse (Text.trimRight (spaced query)) = Text.trimRight (spaced query) := by
    rw [← Text.trimRight_collapse, spaced, settle, collapse_spaceColons, Text.collapse_collapse]
  rw [spaced, trimmed]
  obtain ⟨front, -, ends⟩ | ⟨-, whole, -⟩ := spaced_cases query
  · rw [settle, collapsed, ends, trimRight_concat_colon_space, ← spaceColons_concat_colon_space,
      ← ends]
    exact spaceColons_spaceColons _
  · rw [whole, again]

theorem spaced_paren (t : Text) : spaced ('(' :: (t ++ [')'])) = '(' :: (settle t ++ [')']) := by
  have trimmed : Text.trim ('(' :: (t ++ [')'])) = '(' :: (t ++ [')']) := by
    rw [← List.cons_append, Text.trim_append_cons (by decide), Text.trimLeft_of_not_blank (by decide)]
    rfl
  rw [spaced, trimmed, settle, Text.collapse_of_not_blank (by decide),
    Text.collapse_append_cons (by decide), spaceColons_of_not_blank (by decide) (by decide)]
  exact congrArg ('(' :: ·) (spaceColons_concat (by decide) (by decide) _)

/-! ### Parentheses around a query -/

theorem peel_of_unwrap? (h : unwrap? s = some inside) : peel s = peel (Text.trim inside) := by
  rw [peel]
  split
  · rename_i inside' wrapped
    rw [h] at wrapped
    cases wrapped
    rfl
  · rename_i bare
    rw [h] at bare
    cases bare

/-- A text with parentheses around it ends with one. -/
theorem unwrap?_concat (h : c ≠ ')') (t : Text) : unwrap? (t ++ [c]) = none := by
  rw [Option.eq_none_iff_forall_ne_some]
  intro inside wrapped
  have ends := congrArg List.getLast? (unwrap?_eq_some wrapped)
  rw [← List.cons_append, List.getLast?_concat, List.getLast?_concat] at ends
  exact h (Option.some.inj ends)

theorem peel_concat (h : c ≠ ')') (t : Text) : peel (t ++ [c]) = t ++ [c] :=
  peel_of_unwrap?_eq_none (unwrap?_concat h t)

/-- The parentheses around a balanced query are taken off, and then the blanks at its end. -/
theorem normalize_paren (balanced : Scan.Balanced query) :
    normalize ('(' :: (query ++ [')'])) = peel (Text.trimRight (spaced query)) := by
  have wrapped : unwrap? ('(' :: (settle query ++ [')'])) = some (settle query) := by
    rw [unwrap?, (balanced_settle.2 balanced).cutParen? []]
  rw [normalize_eq_peel, spaced_paren, peel_of_unwrap? wrapped, trim_settle]

/-- Parentheses around a balanced query make no difference, but for the space behind a last colon. -/
theorem normalize_paren_cases (balanced : Scan.Balanced query) :
    (Text.trim query).getLast? = some ':' ∧
        normalize query = normalize ('(' :: (query ++ [')'])) ++ [' '] ∨
      (Text.trim query).getLast? ≠ some ':' ∧
        normalize ('(' :: (query ++ [')'])) = normalize query := by
  rw [normalize_paren balanced, normalize_eq_peel]
  obtain ⟨front, colon, ends⟩ | ⟨noColon, trimmed, -⟩ := spaced_cases query
  · refine .inl ⟨colon, ?_⟩
    have space : peel (front ++ [':', ' ']) = front ++ [':', ' '] := by
      rw [List.append_cons]
      exact peel_concat (by decide) _
    rw [ends, trimRight_concat_colon_space, space, peel_concat (by decide), List.append_assoc]
    rfl
  · exact .inr ⟨noColon, by rw [trimmed]⟩

/-! ### Normal forms of normal forms -/

/-- Taking parentheses off keeps spaces in place, but for the one behind a last colon. -/
theorem spaced_of_unwrap? (inPlace : spaced s = s) (wrapped : unwrap? s = some inside) :
    (Text.trim inside).getLast? = some ':' ∧
        spaced (Text.trim inside) = Text.trim inside ++ [' '] ∨
      (Text.trim inside).getLast? ≠ some ':' ∧ spaced (Text.trim inside) = Text.trim inside := by
  have same : settle inside = inside := by
    rw [unwrap?_eq_some wrapped, spaced_paren] at inPlace
    exact List.append_inj_left' (List.cons.inj inPlace).2 rfl
  have trimmed : Text.trim inside = Text.trimRight (spaced inside) := by
    rw [← trim_settle, same]
  rw [spaced_trim]
  obtain ⟨front, colon, ends⟩ | ⟨noColon, all, -⟩ := spaced_cases inside
  · refine .inl ⟨colon, ?_⟩
    rw [trimmed, ends, trimRight_concat_colon_space, List.append_assoc]
    rfl
  · exact .inr ⟨noColon, by rw [trimmed, all]⟩

theorem normalize_peel (inPlace : spaced s = s) :
    (peel s).getLast? = some ':' ∧ normalize (peel s) = peel s ++ [' '] ∨
      (peel s).getLast? ≠ some ':' ∧ normalize (peel s) = peel s := by
  fun_induction peel s with
  | case1 s inside wrapped _ ih =>
    obtain ⟨colon, space⟩ | ⟨-, stays⟩ := spaced_of_unwrap? inPlace wrapped
    · -- What ends with a colon has no parentheses around it, so that nothing more is taken off.
      obtain ⟨front, ends⟩ := List.getLast?_eq_some_iff.1 colon
      have whole : peel (Text.trim inside) = Text.trim inside := by
        rw [ends]
        exact peel_concat (by decide) _
      refine .inl ⟨by rw [whole, colon], ?_⟩
      rw [whole, normalize_eq_peel, space]
      exact peel_concat (by decide) _
    · exact ih stays
  | case2 s bare =>
    refine .inr ⟨?_, by rw [normalize_eq_peel, inPlace, peel_of_unwrap?_eq_none bare]⟩
    obtain ⟨front, -, ends⟩ | ⟨-, -, noColon⟩ := spaced_cases s
    · rw [← inPlace, ends]
      simp
    · rw [← inPlace]
      exact noColon

/-- A normal form is its own normal form, but for the space behind a last colon. -/
theorem normalize_normalize (query : Text) :
    (normalize query).getLast? = some ':' ∧ normalize (normalize query) = normalize query ++ [' '] ∨
      (normalize query).getLast? ≠ some ':' ∧ normalize (normalize query) = normalize query := by
  rw [normalize_eq_peel query]
  exact normalize_peel (spaced_spaced query)

end Media

/-! ### Spellings on a host -/

namespace Host

open Media (normalize)

variable {h : Host} {query : Text}

theorem evaluate?_of_fixed {answer : Bool}
    (fixed : h.overrides.lookup (normalize query) = some answer) :
    h.evaluate? query = some answer := by
  rw [evaluate?, evaluateWithin, fixed]

/-- A fixed answer is given to every spelling with the same normal form. -/
theorem isMatch_setMedia {spelling : Text} (same : normalize spelling = normalize query)
    (h : Host) (answer : Bool) : (h.setMedia query answer).isMatch spelling = answer := by
  have fixed : (h.setMedia query answer).overrides.lookup (normalize spelling) = some answer := by
    rw [setMedia, Assoc.lookup_insert, same, beq_self_eq_true, if_pos rfl]
  rw [isMatch, evaluate?_of_fixed fixed]
  rfl

/-- A spelling with another normal form keeps the answer that was fixed for it. -/
theorem isMatch_setMedia_setMedia {spelling : Text} (differs : normalize spelling ≠ normalize query)
    (h : Host) (answer answer' : Bool) :
    ((h.setMedia spelling answer').setMedia query answer).isMatch spelling = answer' := by
  have fixed : ((h.setMedia spelling answer').setMedia query answer).overrides.lookup
      (normalize spelling) = some answer' := by
    rw [setMedia, Assoc.lookup_insert, if_neg (by simpa using differs), setMedia,
      Assoc.lookup_insert, beq_self_eq_true, if_pos rfl]
  rw [isMatch, evaluate?_of_fixed fixed]
  rfl

/-- A condition on media asks for its query in parentheses. -/
theorem ask_media (answers : Oracle.matchMedia ∉ h.failing) (element : Option Text) (query : Text) :
    Condition.ask h element .media query = .ok (h.isMatch ('(' :: (query ++ [')']))) := by
  rw [Condition.ask, matchMedia, Host.ask, if_neg (by simpa using answers)]
  rfl

/-- Only spellings with the same normal form are supported together on every host. -/
theorem supports_eq_iff {spelling : Text} :
    (∀ h : Host, h.supports spelling = h.supports query) ↔ normalize spelling = normalize query := by
  constructor
  · intro same
    have only := same { features := [normalize query] }
    simpa [supports, Host.ask] using only
  · intro same h
    rw [supports, supports, same]

/-- When spellings of a query count as one. Parentheses around a balanced query make no difference,
    neither to an answer that is fixed for it nor to what is supported, just if it does not end with a
    colon. And the normal form can stand for the query just if it does not end with a colon. -/
theorem same_query_tfae (balanced : Scan.Balanced query) :
    [(Text.trim query).getLast? ≠ some ':',
      normalize ('(' :: (query ++ [')'])) = normalize query,
      ∀ (h : Host) (element : Option Text) (answer : Bool), .matchMedia ∉ h.failing →
        Condition.ask (h.setMedia query answer) element .media query = .ok answer,
      ∀ h : Host, h.supports ('(' :: (query ++ [')'])) = h.supports query].TFAE ∧
    [(normalize query).getLast? ≠ some ':',
      normalize (normalize query) = normalize query,
      ∀ h : Host, h.supports (normalize query) = h.supports query].TFAE := by
  have longer (s : Text) : s ≠ s ++ [' '] := by simp
  constructor
  · tfae_have 1 ↔ 2 := by
      obtain ⟨colon, space⟩ | ⟨noColon, same⟩ := Media.normalize_paren_cases balanced
      · refine iff_of_false (not_not_intro colon) ?_
        rw [space]
        exact longer _
      · exact iff_of_true noColon same
    tfae_have 2 → 3 := by
      intro same h element answer answers
      rw [ask_media (by exact answers), isMatch_setMedia same]
    tfae_have 3 → 2 := by
      intro fixed
      by_contra differs
      have asked := fixed (setMedia ('(' :: (query ++ [')'])) false {}) none true (by exact List.not_mem_nil)
      rw [ask_media (by exact List.not_mem_nil), isMatch_setMedia_setMedia differs] at asked
      cases asked
    tfae_have 2 ↔ 4 := supports_eq_iff.symm
    tfae_finish
  · tfae_have 1 ↔ 2 := by
      obtain ⟨colon, space⟩ | ⟨noColon, same⟩ := Media.normalize_normalize query
      · refine iff_of_false (not_not_intro colon) ?_
        rw [space]
        exact (longer _).symm
      · exact iff_of_true noColon same
    tfae_have 2 ↔ 3 := supports_eq_iff.symm
    tfae_finish

theorem same_query_of_quoted_paren :
    Scan.Balanced "( a :')' )".toList ∧
      ∀ h : Host, h.supports "(( a :')' ))".toList = h.supports "( a :')' )".toList := by
  have balanced : Scan.Balanced "( a :')' )".toList := by decide
  exact ⟨balanced, ((same_query_tfae balanced).1.out 0 3).1 (by decide)⟩

/-- A query that ends with a colon, which parentheses and a second normal form change. Its fixed answer
    is not found, and it is supported only as it is written. -/
theorem last_colon_spellings :
    Scan.Balanced "a:".toList ∧
      normalize "(a:)".toList ≠ normalize "a:".toList ∧
      normalize (normalize "(a:)".toList) ≠ normalize "(a:)".toList ∧
      Condition.ask (setMedia "a:".toList true {}) none .media "a:".toList = .ok false ∧
      (addFeature "a:".toList {}).supports "a:".toList = .ok true ∧
      (addFeature "a:".toList {}).supports "(a:)".toList = .ok false := by
  decide +kernel

end Host
end CondCss
