import CondCss.Conditional
import CondCss.Occurrence

/-!
# Cascades

The meaning of a style sheet, as far as it matters here: a list of writes, each to a property of a
selector and under conditions. Of the writes that apply, the last one wins. Which conditions hold is
given by a truth assignment.

The two laws that the rest is built on are `winner_append` and `winner_congr_of_filter`: a later list
overrides an earlier one, and only the order among writes to the same place matters.
-/

namespace CondCss

/-- Which conditions hold, by their kind and expression. -/
abbrev Truth := ConditionKind → Text → Bool

/-- Whether the condition of a clause holds. -/
def Clause.isTrue (truth : Truth) (c : Clause) : Bool :=
  truth c.kind c.expression

/-- The value of a conditional: that of its first true clause, otherwise that of its `else`. Without
    either there is none. -/
def Conditional.valueUnder (truth : Truth) (c : Conditional) : Option Text :=
  ((c.clauses.find? (·.isTrue truth)).map (·.value)).or c.otherwise

/-- A text with every conditional part replaced by its value. There is none when a part cannot be
    read or has no value. -/
def Text.valueUnder (truth : Truth) (s : Text) : Option Text := do
  let conditionals ← (Occurrence.allIn s).mapM fun o =>
    (Conditional.parse .strict o.content).toOption
  let replacements ← conditionals.mapM (·.valueUnder truth)
  return Occurrence.replaceAll s (Occurrence.allIn s) replacements

namespace Cascade

/-- One value for a property of a selector, under conditions that must all hold. -/
structure Write where
  /-- The conditions, by kind and expression. -/
  conditions : List (ConditionKind × Text) := []
  /-- The selector. -/
  selector : Text
  /-- The property. -/
  property : Text
  /-- The value. -/
  value : Text
  deriving DecidableEq, Repr

/-- Whether a write applies. -/
def Write.applies (truth : Truth) (w : Write) : Bool :=
  w.conditions.all fun c => truth c.1 c.2

/-- Whether a write is to this property of this selector. -/
def Write.isTo (selector property : Text) (w : Write) : Bool :=
  w.selector == selector && w.property == property

/-- The value that wins for a property of a selector: that of the last write to it that applies. -/
def winner (truth : Truth) (writes : List Write) (selector property : Text) : Option Text :=
  ((writes.filter fun w => w.applies truth && w.isTo selector property).getLast?).map (·.value)

variable {truth : Truth} {selector property : Text}

/-- What comes later overrides what comes before. -/
theorem winner_append (first second : List Write) :
    winner truth (first ++ second) selector property =
      (winner truth second selector property).or (winner truth first selector property) := by
  simp only [winner, List.filter_append, List.getLast?_append]
  cases (second.filter fun w => w.applies truth && w.isTo selector property).getLast? <;> rfl

theorem winner_flatMap_congr {α : Type} {f g : α → List Write} {l : List α}
    (same : ∀ a ∈ l, winner truth (f a) selector property = winner truth (g a) selector property) :
    winner truth (l.flatMap f) selector property =
      winner truth (l.flatMap g) selector property := by
  induction l with
  | nil => rfl
  | cons a l ih =>
    rw [List.flatMap_cons, List.flatMap_cons, winner_append, winner_append,
      same a List.mem_cons_self, ih fun b hb => same b (List.mem_cons_of_mem a hb)]

/-- Of several writes to one place, the last one that applies wins there. -/
theorem winner_map {α : Type} {f : α → Write} {l : List α} {place : Text × Text}
    (same : ∀ a, ((f a).selector, (f a).property) = place) :
    winner truth (l.map f) selector property =
      if place = (selector, property) then
        ((l.filter fun a => (f a).applies truth).getLast?).map fun a => (f a).value
      else none := by
  have isTo (a : α) : (f a).isTo selector property = decide (place = (selector, property)) := by
    rw [← same a, Bool.eq_iff_iff]
    simp [Write.isTo]
  unfold winner
  rw [List.filter_map, List.getLast?_map, Option.map_map]
  split
  · rename_i here
    simp only [Function.comp_def, isTo, here, decide_true, Bool.and_true]
  · rename_i elsewhere
    simp [Function.comp_def, isTo, elsewhere]

theorem winner_singleton {w : Write} (applies : w.applies truth = true) :
    winner truth [w] selector property =
      if (w.selector, w.property) = (selector, property) then some w.value else none := by
  have one : [w] = [w].map fun _ => w := rfl
  rw [one, winner_map (fun _ => rfl)]
  simp [applies]

/-- Only the order among the writes to one place matters. -/
theorem winner_congr_of_filter {first second : List Write}
    (same : first.filter (·.isTo selector property) = second.filter (·.isTo selector property)) :
    winner truth first selector property = winner truth second selector property := by
  have swap (writes : List Write) :
      writes.filter (fun w => w.applies truth && w.isTo selector property) =
        (writes.filter (·.isTo selector property)).filter (·.applies truth) := by
    rw [List.filter_filter]
  rw [winner, winner, swap, swap, same]

/-! ### Texts and their writes -/

/-- Several texts, one after another, each of which is in a relation with its writes. -/
inductive Each (relation : Text → List Write → Prop) : List Text → List Write → Prop where
  | nil : Each relation [] []
  | cons {t : Text} {texts : List Text} {first rest : List Write} (here : relation t first)
      (later : Each relation texts rest) : Each relation (t :: texts) (first ++ rest)

namespace Each

variable {relation relation' : Text → List Write → Prop}

theorem singleton {t : Text} {writes : List Write} (h : relation t writes) :
    Each relation [t] writes := by
  have := Each.cons h .nil
  rwa [List.append_nil] at this

theorem append {texts texts' : List Text} {writes writes' : List Write}
    (h : Each relation texts writes) (h' : Each relation texts' writes') :
    Each relation (texts ++ texts') (writes ++ writes') := by
  induction h with
  | nil => exact h'
  | cons here _ ih =>
    rw [List.cons_append, List.append_assoc]
    exact .cons here ih

theorem flatMap {α : Type} {texts : α → List Text} {writes : α → List Write} {l : List α}
    (h : ∀ a ∈ l, Each relation (texts a) (writes a)) :
    Each relation (l.flatMap texts) (l.flatMap writes) := by
  induction l with
  | nil => exact .nil
  | cons a l ih =>
    rw [List.flatMap_cons, List.flatMap_cons]
    exact (h a List.mem_cons_self).append (ih fun b hb => h b (List.mem_cons_of_mem a hb))

theorem exists_of_mem {texts : List Text} {writes : List Write} (h : Each relation texts writes)
    {t : Text} (member : t ∈ texts) : ∃ own, relation t own := by
  induction h with
  | nil => exact absurd member List.not_mem_nil
  | cons here _ ih =>
    rcases List.mem_cons.1 member with rfl | later
    · exact ⟨_, here⟩
    · exact ih later

theorem map {f : Text → Text} (imp : ∀ t writes, relation t writes → relation' (f t) writes)
    {texts : List Text} {writes : List Write} (h : Each relation texts writes) :
    Each relation' (texts.map f) writes := by
  induction h with
  | nil => exact .nil
  | cons here _ ih => exact .cons (imp _ _ here) ih

end Each
end Cascade
end CondCss
