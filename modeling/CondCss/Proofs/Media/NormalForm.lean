import Mathlib.Data.List.Basic
import CondCss.Media.Query
import CondCss.Proofs.Scan.Closed
import CondCss.Proofs.Text.Blanks

/-!
# Queries in normal form

A query in normal form begins with no blank. It ends with one only behind a colon, and then only one:
without it the query has the same normal form (`normalize_of_blank_end`). Of the characters that are no
blanks, bringing a query to its normal form takes some away and adds none (`ink_normalize`).
-/

namespace CondCss
namespace Media

variable {c : Char} {s t : Text}

/-! ### Spaces at colons -/

theorem spaceColons_colon (t : Text) :
    spaceColons (':' :: t) = ':' :: ' ' :: Text.trimLeft (spaceColons t) := by
  simp [spaceColons]

theorem spaceColons_of_not_blank (notColon : c ≠ ':') (notBlank : Text.isBlank c = false) :
    spaceColons (c :: t) = c :: spaceColons t := by
  simp [spaceColons, notColon, notBlank]

theorem spaceColons_of_blank (blank : Text.isBlank c = true) :
    spaceColons (c :: t) =
      if (spaceColons t).head? = some ':' then spaceColons t else c :: spaceColons t := by
  have notColon : c ≠ ':' := by
    rintro rfl
    exact absurd blank (by decide)
  simp [spaceColons, notColon, blank]

/-- A character that is no blank stays in front. -/
theorem head?_spaceColons (notBlank : Text.isBlank c = false) :
    (spaceColons (c :: t)).head? = some c := by
  by_cases colon : c = ':'
  · subst colon
    rw [spaceColons_colon]
    rfl
  · rw [spaceColons_of_not_blank colon notBlank]
    rfl

theorem trimLeft_spaceColons (t : Text) :
    Text.trimLeft (spaceColons t) = spaceColons (Text.trimLeft t) := by
  induction t with
  | nil => rfl
  | cons c t ih =>
    cases hc : Text.isBlank c with
    | true =>
      rw [Text.trimLeft_of_blank hc, ← ih, spaceColons_of_blank hc]
      split
      · rfl
      · rw [Text.trimLeft_of_blank hc]
    | false =>
      obtain ⟨rest, shape⟩ := List.head?_eq_some_iff.1 (head?_spaceColons (t := t) hc)
      rw [Text.trimLeft_of_not_blank hc, shape, Text.trimLeft_of_not_blank hc]

/-- Spaces are put at colons once and for all. -/
theorem spaceColons_spaceColons (t : Text) : spaceColons (spaceColons t) = spaceColons t := by
  induction t with
  | nil => rfl
  | cons c t ih =>
    cases hc : Text.isBlank c with
    | true =>
      rw [spaceColons_of_blank hc]
      split
      · exact ih
      · rename_i noColon
        rw [spaceColons_of_blank hc, ih, if_neg noColon]
    | false =>
      by_cases colon : c = ':'
      · subst colon
        have space : Text.trimLeft (spaceColons (' ' :: Text.trimLeft (spaceColons t))) =
            Text.trimLeft (spaceColons t) := by
          rw [trimLeft_spaceColons, Text.trimLeft_of_blank (by decide), Text.trimLeft_trimLeft,
            ← trimLeft_spaceColons, ih]
        rw [spaceColons_colon, spaceColons_colon, space]
      · rw [spaceColons_of_not_blank colon hc, spaceColons_of_not_blank colon hc, ih]

/-- No blank is left before a colon. -/
theorem head?_of_trimLeft_spaceColons (h : (Text.trimLeft (spaceColons t)).head? = some ':') :
    (spaceColons t).head? = some ':' := by
  induction t with
  | nil => exact h
  | cons c t ih =>
    cases hc : Text.isBlank c with
    | true =>
      rw [spaceColons_of_blank hc] at h ⊢
      split
      · assumption
      · rename_i noColon
        rw [if_neg noColon, Text.trimLeft_of_blank hc] at h
        exact absurd (ih h) noColon
    | false =>
      obtain ⟨rest, shape⟩ := List.head?_eq_some_iff.1 (head?_spaceColons (t := t) hc)
      rw [shape, Text.trimLeft_of_not_blank hc] at h
      rw [shape]
      exact h

theorem head?_of_collapse (hc : c ≠ ' ') (h : (Text.collapse t).head? = some c) :
    t.head? = some c := by
  cases t with
  | nil => exact h
  | cons d t =>
    cases hd : Text.isBlank d with
    | true =>
      rw [Text.collapse_of_blank hd] at h
      exact absurd (Option.some.inj h).symm hc
    | false => rwa [Text.collapse_of_not_blank hd] at h

theorem collapse_spaceColons (t : Text) :
    Text.collapse (spaceColons t) = spaceColons (Text.collapse t) := by
  induction t with
  | nil => rfl
  | cons c t ih =>
    cases hc : Text.isBlank c with
    | true =>
      have later : Text.collapse (Text.trimLeft (spaceColons t)) =
          spaceColons (Text.collapse (Text.trimLeft t)) := by
        rw [← Text.trimLeft_collapse, ih, trimLeft_spaceColons, Text.trimLeft_collapse]
      rw [Text.collapse_of_blank hc, spaceColons_of_blank hc, spaceColons_of_blank (by decide), ← later]
      by_cases colon : (spaceColons t).head? = some ':'
      · obtain ⟨rest, shape⟩ := List.head?_eq_some_iff.1 colon
        rw [if_pos colon, shape, Text.trimLeft_of_not_blank (by decide),
          Text.collapse_of_not_blank (by decide)]
        rfl
      · have noColon : (Text.collapse (Text.trimLeft (spaceColons t))).head? ≠ some ':' := fun first =>
          colon (head?_of_trimLeft_spaceColons (head?_of_collapse (by decide) first))
        rw [if_neg colon, if_neg noColon, Text.collapse_of_blank hc]
    | false =>
      by_cases colon : c = ':'
      · subst colon
        rw [spaceColons_colon, Text.collapse_of_not_blank (by decide),
          Text.collapse_of_blank (by decide), Text.trimLeft_trimLeft, ← Text.trimLeft_collapse, ih,
          Text.collapse_of_not_blank (by decide), spaceColons_colon]
      · rw [spaceColons_of_not_blank colon hc, Text.collapse_of_not_blank hc, ih,
          Text.collapse_of_not_blank hc, spaceColons_of_not_blank colon hc]

theorem ink_spaceColons (t : Text) : Text.ink (spaceColons t) = Text.ink t := by
  induction t with
  | nil => rfl
  | cons c t ih =>
    cases hc : Text.isBlank c with
    | true =>
      rw [spaceColons_of_blank hc, Text.ink_cons_of_blank hc]
      split
      · exact ih
      · rw [Text.ink_cons_of_blank hc, ih]
    | false =>
      by_cases colon : c = ':'
      · subst colon
        rw [spaceColons_colon, Text.ink_cons_of_not_blank hc, Text.ink_cons_of_blank (by decide),
          Text.ink_trimLeft, ih, Text.ink_cons_of_not_blank hc]
      · rw [spaceColons_of_not_blank colon hc, Text.ink_cons_of_not_blank hc, ih,
          Text.ink_cons_of_not_blank hc]

/-- A character that is neither a blank nor a colon stands between stretches of their own. -/
theorem spaceColons_append_cons (notColon : c ≠ ':') (notBlank : Text.isBlank c = false)
    (t rest : Text) : spaceColons (t ++ c :: rest) = spaceColons t ++ c :: spaceColons rest := by
  induction t with
  | nil => exact spaceColons_of_not_blank notColon notBlank
  | cons d t ih =>
    rw [List.cons_append]
    cases hd : Text.isBlank d with
    | true =>
      have sameHead : (spaceColons t ++ c :: spaceColons rest).head? = some ':' ↔
          (spaceColons t).head? = some ':' := by
        cases spaceColons t with
        | nil => simp [notColon]
        | cons e s => rfl
      rw [spaceColons_of_blank hd, spaceColons_of_blank hd, ih]
      simp only [sameHead]
      split
      · rfl
      · rfl
    | false =>
      by_cases colon : d = ':'
      · subst colon
        rw [spaceColons_colon, spaceColons_colon, ih, Text.trimLeft_append_cons notBlank]
        rfl
      · rw [spaceColons_of_not_blank colon hd, spaceColons_of_not_blank colon hd, ih,
          List.cons_append]

/-- A last character that is neither a blank nor a colon stays the last one. -/
theorem spaceColons_concat (notColon : c ≠ ':') (notBlank : Text.isBlank c = false) (t : Text) :
    spaceColons (t ++ [c]) = spaceColons t ++ [c] :=
  spaceColons_append_cons notColon notBlank t []

/-- A last colon gets its space. -/
theorem exists_spaceColons_concat_colon (t : Text) :
    ∃ front, spaceColons (t ++ [':']) = front ++ [':', ' '] := by
  induction t with
  | nil => exact ⟨[], rfl⟩
  | cons d t ih =>
    obtain ⟨front, shape⟩ := ih
    rw [List.cons_append]
    cases hd : Text.isBlank d with
    | true =>
      rw [spaceColons_of_blank hd, shape]
      split
      · exact ⟨front, rfl⟩
      · exact ⟨d :: front, rfl⟩
    | false =>
      by_cases colon : d = ':'
      · subst colon
        refine ⟨':' :: ' ' :: Text.trimLeft front, ?_⟩
        rw [spaceColons_colon, shape, Text.trimLeft_append_cons (by decide)]
        rfl
      · refine ⟨d :: front, ?_⟩
        rw [spaceColons_of_not_blank colon hd, shape, List.cons_append]

/-- A space behind a last colon makes no difference. -/
theorem spaceColons_concat_colon_space (t : Text) :
    spaceColons (t ++ [':', ' ']) = spaceColons (t ++ [':']) := by
  induction t with
  | nil => rfl
  | cons d t ih =>
    rw [List.cons_append, List.cons_append]
    cases hd : Text.isBlank d with
    | true => rw [spaceColons_of_blank hd, spaceColons_of_blank hd, ih]
    | false =>
      by_cases colon : d = ':'
      · rw [colon, spaceColons_colon, spaceColons_colon, ih]
      · rw [spaceColons_of_not_blank colon hd, spaceColons_of_not_blank colon hd, ih]

/-! ### Parentheses around the whole -/

theorem unwrap?_eq_some {inside : Text} (h : unwrap? s = some inside) :
    s = '(' :: (inside ++ [')']) := by
  unfold unwrap? at h
  split at h
  · split at h
    · rename_i cut
      cases h
      rw [(Scan.cutParenFrom?_eq_some cut).1]
    · cases h
  · cases h

theorem peel_of_unwrap?_eq_none (h : unwrap? s = none) : peel s = s := by
  rw [peel]
  split
  · rename_i some_
    rw [h] at some_
    cases some_
  · rfl

/-- Nothing is taken off, or what is left has no blanks at its ends. -/
theorem peel_cases (s : Text) :
    (unwrap? s = none ∧ peel s = s) ∨ Text.trim (peel s) = peel s := by
  fun_induction peel s with
  | case1 s inside wrapped _ ih =>
    refine .inr ?_
    obtain ⟨-, same⟩ | trimmed := ih
    · rw [same, Text.trim_trim]
    · exact trimmed
  | case2 s bare => exact .inl ⟨bare, rfl⟩

theorem ink_peel (s : Text) : (Text.ink (peel s)).Sublist (Text.ink s) := by
  fun_induction peel s with
  | case1 s inside wrapped _ ih =>
    refine ih.trans ?_
    rw [Text.ink_trim, unwrap?_eq_some wrapped, Text.ink_cons_of_not_blank (by decide),
      Text.ink_append]
    exact (List.sublist_append_left _ _).trans (List.sublist_cons_self _ _)
  | case2 => exact List.Sublist.refl _

/-! ### The normal form -/

theorem ink_normalize (query : Text) :
    (Text.ink (normalize query)).Sublist (Text.ink query) := by
  have same : Text.ink (spaceColons (Text.trim (Text.collapse query))) = Text.ink query := by
    rw [ink_spaceColons, Text.ink_trim, Text.ink_collapse]
  rw [← same]
  exact ink_peel _

/-- A query in normal form begins with no blank. -/
theorem not_blank_of_normalize_cons {query : Text} (h : normalize query = c :: t) :
    Text.isBlank c = false := by
  rw [normalize, Text.trim_collapse] at h
  obtain ⟨-, same⟩ | trimmed := peel_cases (spaceColons (Text.tidy query))
  · rw [same] at h
    cases shape : Text.tidy query with
    | nil =>
      rw [shape] at h
      cases h
    | cons d rest =>
      have notBlank : Text.isBlank d = false := by
        refine Text.not_blank_of_trim_cons (t := rest) ?_
        rw [← shape, ← Text.trim_collapse, Text.trim_trim]
      have first := head?_spaceColons (t := rest) notBlank
      rw [← shape, h] at first
      cases first
      exact notBlank
  · rw [h] at trimmed
    exact Text.not_blank_of_trim_cons trimmed

/-- A normal form that ends with a blank has its colons spaced, and no parentheses around it; it ends
    with a colon and one space. -/
theorem normalize_concat_blank {query : Text} (h : normalize query = s ++ [c])
    (blank : Text.isBlank c = true) :
    normalize query = spaceColons (Text.tidy query) ∧ unwrap? (normalize query) = none ∧
      ∃ front, s = front ++ [':'] ∧ c = ' ' := by
  rw [normalize, Text.trim_collapse] at h ⊢
  obtain ⟨bare, same⟩ | trimmed := peel_cases (spaceColons (Text.tidy query))
  · rw [same] at h ⊢
    refine ⟨rfl, bare, ?_⟩
    have trimmed : Text.trim (Text.tidy query) = Text.tidy query := by
      rw [← Text.trim_collapse, Text.trim_trim]
    obtain empty | ⟨front, d, shape⟩ := List.eq_nil_or_concat' (Text.tidy query)
    · rw [empty] at h
      simp [spaceColons] at h
    · rw [shape] at h trimmed
      have notBlank : Text.isBlank d = false := Text.not_blank_of_trim_concat trimmed
      by_cases colon : d = ':'
      · rw [colon] at h
        obtain ⟨before, spaced⟩ := exists_spaceColons_concat_colon front
        have ends : s ++ [c] = (before ++ [':']) ++ [' '] := by
          rw [← h, spaced, List.append_assoc]
          rfl
        exact ⟨before, List.append_inj_left' ends rfl,
          List.singleton_injective (List.append_inj_right' ends rfl)⟩
      · rw [spaceColons_concat colon notBlank] at h
        have sameEnd : d = c := List.singleton_injective (List.append_inj_right' h rfl)
        rw [sameEnd, blank] at notBlank
        cases notBlank
  · rw [h] at trimmed
    have notBlank := Text.not_blank_of_trim_concat trimmed
    rw [blank] at notBlank
    cases notBlank

/-- The space behind a last colon is put back when the query is normalized without it. -/
theorem normalize_of_concat_blank {query : Text} (h : normalize query = s ++ [c])
    (blank : Text.isBlank c = true) : normalize s = normalize query := by
  obtain ⟨spaced, bare, front, rfl, rfl⟩ := normalize_concat_blank h blank
  have ends : spaceColons (Text.tidy query) = front ++ ':' :: [' '] := by
    rw [← spaced, h, List.append_assoc]
    rfl
  have collapsed : Text.collapse front = front := by
    have whole : Text.collapse (front ++ ':' :: [' ']) = front ++ ':' :: [' '] := by
      rw [← ends, collapse_spaceColons, Text.tidy, Text.collapse_collapse]
    rw [Text.collapse_append_cons (by decide)] at whole
    exact List.append_inj_left' whole rfl
  have trimmed : Text.trimLeft front = front := by
    have whole : Text.trimLeft (front ++ ':' :: [' ']) = front ++ ':' :: [' '] := by
      rw [← ends, trimLeft_spaceColons, Text.tidy, Text.trimLeft_collapse, Text.trimLeft_trim]
    rw [Text.trimLeft_append_cons (by decide)] at whole
    exact List.append_inj_left' whole rfl
  have again : spaceColons (front ++ [':']) = normalize query := by
    rw [← spaceColons_concat_colon_space, ← ends, spaceColons_spaceColons, spaced]
  rw [normalize, Text.collapse_append_cons (by decide), collapsed, Text.trim_append_cons (by decide),
    trimmed]
  change peel (spaceColons (front ++ [':'])) = normalize query
  rw [again, peel_of_unwrap?_eq_none bare]

/-- The blank that a normal form ends with is one space, and can be taken off: what is left has the
    same normal form. -/
theorem normalize_of_blank_end {query rest : Text} (h : normalize query = t ++ rest)
    (proper : rest ≠ []) (blank : ∀ c ∈ rest, Text.isBlank c = true) :
    rest = [' '] ∧ normalize t = normalize query := by
  obtain ⟨before, last, rfl⟩ := (List.eq_nil_or_concat' rest).resolve_left proper
  rw [← List.append_assoc] at h
  have lastBlank : Text.isBlank last = true := blank last (by simp)
  obtain ⟨-, -, front, ends, rfl⟩ := normalize_concat_blank h lastBlank
  -- The space stands right behind a colon, so that nothing else stands between.
  obtain rfl : before = [] := by
    obtain empty | ⟨before', c, rfl⟩ := List.eq_nil_or_concat' before
    · exact empty
    · rw [← List.append_assoc] at ends
      obtain rfl : c = ':' := List.singleton_injective (List.append_inj_right' ends rfl)
      exact absurd (blank ':' (by simp)) (by decide)
  rw [List.append_nil] at h
  exact ⟨rfl, normalize_of_concat_blank h lastBlank⟩

end Media
end CondCss
