import CondCss.Expand.Variant
import Mathlib.Data.List.Forall2

/-!
# The order of selections

Selections are written from the weakest to the strongest. The order is total and transitive, so the
stable sort really sorts, and it neither loses nor repeats a selection. The main statement is
`rank_le_of_getLast?`: among the selections that pass a test, the last one is the strongest.
-/

namespace CondCss
namespace Expand

/-! ### The lexicographic order -/

theorem comesFirst_total (s t : List Nat) : comesFirst s t = true ∨ comesFirst t s = true := by
  induction s generalizing t with
  | nil => exact Or.inl rfl
  | cons m s ih =>
    cases t with
    | nil => exact Or.inr rfl
    | cons n t =>
      simp only [comesFirst, Bool.or_eq_true, Bool.and_eq_true, decide_eq_true_eq, beq_iff_eq]
      rcases Nat.lt_trichotomy m n with less | equal | more
      · exact Or.inl (Or.inl less)
      · rcases ih t with first | second
        · exact Or.inl (Or.inr ⟨equal, first⟩)
        · exact Or.inr (Or.inr ⟨equal.symm, second⟩)
      · exact Or.inr (Or.inl more)

theorem comesFirst_trans {s t u : List Nat} (hst : comesFirst s t = true)
    (htu : comesFirst t u = true) : comesFirst s u = true := by
  induction s generalizing t u with
  | nil => rfl
  | cons m s ih =>
    cases t with
    | nil => simp [comesFirst] at hst
    | cons n t =>
      cases u with
      | nil => simp [comesFirst] at htu
      | cons k u =>
        simp only [comesFirst, Bool.or_eq_true, Bool.and_eq_true, decide_eq_true_eq,
          beq_iff_eq] at hst htu ⊢
        rcases hst with less | ⟨rfl, rest⟩
        · rcases htu with less' | ⟨rfl, _⟩
          · exact Or.inl (Nat.lt_trans less less')
          · exact Or.inl less
        · rcases htu with less' | ⟨rfl, rest'⟩
          · exact Or.inl less'
          · exact Or.inr ⟨rfl, ih rest rest'⟩

/-! ### The stable sort -/

section StableSort

variable {α : Type} {le : α → α → Bool}

theorem insertSorted_perm (a : α) (l : List α) : (insertSorted le a l).Perm (a :: l) := by
  induction l with
  | nil => exact List.Perm.refl _
  | cons b l ih =>
    unfold insertSorted
    split
    · exact List.Perm.refl _
    · exact (ih.cons b).trans (List.Perm.swap a b l)

theorem sortStable_perm (l : List α) : (sortStable le l).Perm l := by
  induction l with
  | nil => exact List.Perm.refl _
  | cons a l ih => exact (insertSorted_perm a _).trans (ih.cons a)

theorem insertSorted_pairwise (total : ∀ a b, le a b = true ∨ le b a = true)
    (trans : ∀ a b c, le a b = true → le b c = true → le a c = true) (a : α) {l : List α}
    (sorted : l.Pairwise (le · · = true)) : (insertSorted le a l).Pairwise (le · · = true) := by
  induction l with
  | nil => exact List.pairwise_singleton _ a
  | cons b l ih =>
    obtain ⟨below, sorted'⟩ := List.pairwise_cons.1 sorted
    unfold insertSorted
    split
    case isTrue small =>
      refine List.pairwise_cons.2 ⟨fun x hx => ?_, sorted⟩
      rcases List.mem_cons.1 hx with rfl | hx
      · exact small
      · exact trans a b x small (below x hx)
    case isFalse large =>
      refine List.pairwise_cons.2 ⟨fun x hx => ?_, ih sorted'⟩
      rcases List.mem_cons.1 ((insertSorted_perm a l).mem_iff.1 hx) with rfl | hx
      · exact (total x b).resolve_left large
      · exact below x hx

theorem sortStable_pairwise (total : ∀ a b, le a b = true ∨ le b a = true)
    (trans : ∀ a b c, le a b = true → le b c = true → le a c = true) (l : List α) :
    (sortStable le l).Pairwise (le · · = true) := by
  induction l with
  | nil => exact List.Pairwise.nil
  | cons a l ih => exact insertSorted_pairwise total trans a ih

end StableSort

/-- In a sorted list, the last element that passes a test is above every other one that does. -/
theorem le_of_getLast?_filter {α : Type} {le : α → α → Bool} (refl : ∀ a, le a a = true)
    {p : α → Bool} {l : List α} {last x : α} (sorted : l.Pairwise (le · · = true))
    (hlast : (l.filter p).getLast? = some last) (hx : x ∈ l) (px : p x = true) :
    le x last = true := by
  obtain ⟨front, hfront⟩ := List.getLast?_eq_some_iff.1 hlast
  have sortedFilter : (front ++ [last]).Pairwise (le · · = true) := hfront ▸ sorted.filter p
  have member : x ∈ front ++ [last] := hfront ▸ List.mem_filter.2 ⟨hx, px⟩
  rcases List.mem_append.1 member with inFront | isLast
  · exact (List.pairwise_append.1 sortedFilter).2.2 x inFront last (List.mem_singleton.2 rfl)
  · rw [List.mem_singleton.1 isLast]
    exact refl last

/-! ### Selections -/

theorem mem_selections {α : Type} {options : List (List α)} {selection : List α} :
    selection ∈ selections options ↔ List.Forall₂ (· ∈ ·) selection options := by
  induction options generalizing selection with
  | nil => simp [selections]
  | cons first options ih =>
    simp only [selections, List.mem_flatMap, List.mem_map]
    constructor
    · rintro ⟨a, ha, rest, hrest, rfl⟩
      exact List.Forall₂.cons ha (ih.1 hrest)
    · rintro (_ | ⟨ha, hrest⟩)
      exact ⟨_, ha, _, ih.2 hrest, rfl⟩

/-- What a selection takes is an option of one of the lists. -/
theorem mem_options_of_mem_selection {α : Type} {options : List (List α)} {selection : List α}
    (member : List.Forall₂ (· ∈ ·) selection options) {a : α} (h : a ∈ selection) :
    ∃ option ∈ options, a ∈ option := by
  induction member with
  | nil => exact absurd h List.not_mem_nil
  | cons first _ ih =>
    rcases List.mem_cons.1 h with rfl | later
    · exact ⟨_, List.mem_cons_self, first⟩
    · obtain ⟨option, inRest, has⟩ := ih later
      exact ⟨option, List.mem_cons_of_mem _ inRest, has⟩

theorem length_selections {α : Type} (options : List (List α)) :
    (selections options).length = (options.map List.length).foldr (· * ·) 1 := by
  induction options with
  | nil => rfl
  | cons first options ih =>
    simp only [selections, List.length_flatMap, List.length_map, List.map_cons, List.foldr_cons, ih]
    rw [List.map_const', List.sum_replicate_nat]

theorem mem_orderedSelections {conditionals : List Conditional} {selection : List Choice} :
    selection ∈ orderedSelections conditionals ↔
      List.Forall₂ (· ∈ ·) selection (conditionals.map choices) :=
  (sortStable_perm _).mem_iff.trans mem_selections

theorem weakerOrEqual_refl (conditionals : List Conditional) (a : List Choice) :
    weakerOrEqual conditionals a a = true :=
  (comesFirst_total _ _).elim id id

/-- Among the selections that pass a test, the last one written is the strongest. -/
theorem rank_le_of_getLast? {conditionals : List Conditional} {p : List Choice → Bool}
    {last selection : List Choice}
    (hlast : ((orderedSelections conditionals).filter p).getLast? = some last)
    (member : selection ∈ orderedSelections conditionals) (passes : p selection = true) :
    comesFirst (rank conditionals selection) (rank conditionals last) = true :=
  le_of_getLast?_filter (weakerOrEqual_refl conditionals)
    (sortStable_pairwise (fun a b => comesFirst_total (rank conditionals a) (rank conditionals b))
      (fun _ _ _ hab hbc => comesFirst_trans hab hbc) _) hlast member passes

end Expand
end CondCss
