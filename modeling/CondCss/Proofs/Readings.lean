import Mathlib.Logic.Basic

/-!
# Lists of readings

A list is read element by element, and the first element that cannot be read is the error. The whole
list is read if every element is, with the results in order (`mapM_eq_ok_iff`), and it fails where the
first element fails (`mapM_eq_error_iff`). A second reading of the results can be made in one go with the
first (`mapM_bind_of_ok`, `mapM_bind_of_error`).
-/

namespace CondCss

variable {α β γ ε : Type} {f : α → Except ε β} {g : β → Except ε γ} {a : α} {l : List α} {r : List β}
  {e : ε}

theorem mapM_cons_eq_ok_iff :
    (a :: l).mapM f = .ok r ↔ ∃ b bs, f a = .ok b ∧ l.mapM f = .ok bs ∧ r = b :: bs := by
  rw [List.mapM_cons]
  cases f a <;> cases l.mapM f <;> simp [bind, Except.bind, pure, Except.pure, eq_comm]

theorem mapM_cons_eq_error_iff :
    (a :: l).mapM f = .error e ↔ f a = .error e ∨ (∃ b, f a = .ok b) ∧ l.mapM f = .error e := by
  rw [List.mapM_cons]
  cases f a <;> cases l.mapM f <;> simp [bind, Except.bind, pure, Except.pure]

/-- A list of readings succeeds if each of them does, with their results in order. -/
theorem mapM_eq_ok_iff : l.mapM f = .ok r ↔ l.map f = r.map .ok := by
  induction l generalizing r with
  | nil => cases r <;> simp [pure, Except.pure]
  | cons a l ih =>
    rw [mapM_cons_eq_ok_iff]
    cases r with
    | nil => simp
    | cons b bs => simp [ih]

/-- Every result of a list of readings is the result of one of them. -/
theorem exists_of_mem_mapM (h : l.mapM f = .ok r) {b : β} (member : b ∈ r) : ∃ a ∈ l, f a = .ok b := by
  apply List.mem_map.1
  rw [mapM_eq_ok_iff.1 h]
  exact List.mem_map_of_mem member

/-- Every one of a list of readings has a result. -/
theorem exists_mem_of_mapM (h : l.mapM f = .ok r) (member : a ∈ l) : ∃ b ∈ r, f a = .ok b := by
  have inResults : f a ∈ r.map .ok := by
    rw [← mapM_eq_ok_iff.1 h]
    exact List.mem_map_of_mem member
  obtain ⟨b, inRead, same⟩ := List.mem_map.1 inResults
  exact ⟨b, inRead, same.symm⟩

theorem length_of_mapM_eq_ok (h : l.mapM f = .ok r) : r.length = l.length := by
  have same := congrArg List.length (mapM_eq_ok_iff.1 h)
  rw [List.length_map, List.length_map] at same
  exact same.symm

theorem mapM_map_eq_ok {g : β → α} (h : ∀ b ∈ r, f (g b) = .ok b) : (r.map g).mapM f = .ok r := by
  rw [mapM_eq_ok_iff, List.map_map]
  exact List.map_congr_left h

/-- A list of readings fails at the first one that fails. -/
theorem mapM_eq_error_iff :
    l.mapM f = .error e ↔
      ∃ front a back, l = front ++ a :: back ∧ (∀ a' ∈ front, ∃ b, f a' = .ok b) ∧ f a = .error e := by
  induction l with
  | nil =>
    refine iff_of_false (fun h => by cases h) ?_
    rintro ⟨front, a, back, shape, -⟩
    simp at shape
  | cons first l ih =>
    rw [mapM_cons_eq_error_iff, ih]
    constructor
    · rintro (fails | ⟨succeeds, front, a, back, rfl, before, fails⟩)
      · exact ⟨[], first, l, rfl, fun a' inFront => absurd inFront List.not_mem_nil, fails⟩
      · exact ⟨first :: front, a, back, rfl, List.forall_mem_cons.2 ⟨succeeds, before⟩, fails⟩
    · rintro ⟨front, a, back, shape, before, fails⟩
      cases front with
      | nil =>
        cases shape
        exact .inl fails
      | cons _ front =>
        cases shape
        obtain ⟨succeeds, before⟩ := List.forall_mem_cons.1 before
        exact .inr ⟨succeeds, front, a, back, rfl, before, fails⟩

/-! ### Two readings -/

/-- Where a first reading of all elements succeeds, the second one works on its results. -/
theorem mapM_bind_of_ok (h : l.mapM f = .ok r) : l.mapM (fun a => (f a).bind g) = r.mapM g := by
  induction l generalizing r with
  | nil =>
    cases h
    rfl
  | cons a l ih =>
    obtain ⟨b, bs, first, rest, rfl⟩ := mapM_cons_eq_ok_iff.1 h
    rw [List.mapM_cons, List.mapM_cons, first, ih rest]
    rfl

/-- Where a first reading fails, both together fail, there or before that with an error of the second
    one. -/
theorem mapM_bind_of_error (h : l.mapM f = .error e) :
    l.mapM (fun a => (f a).bind g) = .error e ∨
      ∃ b e', g b = .error e' ∧ l.mapM (fun a => (f a).bind g) = .error e' := by
  induction l with
  | nil => cases h
  | cons a l ih =>
    rcases mapM_cons_eq_error_iff.1 h with fails | ⟨⟨b, first⟩, rest⟩
    · have here : (f a).bind g = .error e := by
        rw [fails]
        rfl
      exact .inl (mapM_cons_eq_error_iff.2 (.inl here))
    · cases second : g b with
      | error e' =>
        have here : (f a).bind g = .error e' := by
          rw [first]
          exact second
        exact .inr ⟨b, e', second, mapM_cons_eq_error_iff.2 (.inl here)⟩
      | ok c =>
        have here : ∃ c, (f a).bind g = .ok c := by
          rw [first]
          exact ⟨c, second⟩
        rcases ih rest with same | ⟨b', e', isError, before⟩
        · exact .inl (mapM_cons_eq_error_iff.2 (.inr ⟨here, same⟩))
        · exact .inr ⟨b', e', isError, mapM_cons_eq_error_iff.2 (.inr ⟨here, before⟩)⟩

end CondCss
