import CondCss.Text.Basic

/-!
# Suggestions

When a word is not known, the known words that resemble it are suggested. Two words resemble each
other when they have much in common: the longest block of characters that stands in both, and then
what the parts before and after that block have in common in the same way.
-/

namespace CondCss
namespace Cli
namespace Suggestion

/-- How many characters two texts have in common at their start. -/
def commonStart : Text → Text → Nat
  | a :: s, b :: t => if a == b then commonStart s t + 1 else 0
  | _, _ => 0

theorem commonStart_le (s t : Text) : commonStart s t ≤ s.length := by
  induction s generalizing t with
  | nil => simp [commonStart]
  | cons a s ih =>
    cases t with
    | nil => simp [commonStart]
    | cons b t =>
      have := ih t
      simp only [commonStart, List.length_cons]
      split <;> omega

/-- Characters that stand next to each other in each of two texts. -/
structure Block where
  /-- Where they start in the first text. -/
  left : Nat := 0
  /-- Where they start in the second text. -/
  right : Nat := 0
  /-- How many they are. -/
  size : Nat := 0
  deriving DecidableEq, Repr

/-- The block that starts at two positions. -/
def blockAt (s t : Text) (i j : Nat) : Block :=
  ⟨i, j, commonStart (s.drop i) (t.drop j)⟩

/-- The larger of two blocks; of two that are equally large, the first. -/
def larger (x y : Block) : Block :=
  if x.size < y.size then y else x

/-- The blocks of two texts, by their start in the first text and then in the second. -/
def blocks (s t : Text) : List Block :=
  (List.range s.length).flatMap fun i => (List.range t.length).map (blockAt s t i)

/-- The first of the largest blocks of two texts. -/
def largest (s t : Text) : Block :=
  (blocks s t).foldl larger {}

private theorem foldl_larger_fits (n : Nat) (xs : List Block) (x : Block)
    (hx : x.left + x.size ≤ n) (hxs : ∀ y ∈ xs, y.left + y.size ≤ n) :
    (xs.foldl larger x).left + (xs.foldl larger x).size ≤ n := by
  induction xs generalizing x with
  | nil => exact hx
  | cons y ys ih =>
    refine ih (larger x y) ?_ fun z hz => hxs z (List.mem_cons_of_mem y hz)
    unfold larger
    split
    · exact hxs y List.mem_cons_self
    · exact hx

/-- The largest block lies inside the first text. -/
theorem largest_fits (s t : Text) : (largest s t).left + (largest s t).size ≤ s.length := by
  refine foldl_larger_fits s.length (blocks s t) {} (by simp) fun y hy => ?_
  simp only [blocks, List.mem_flatMap, List.mem_map, List.mem_range] at hy
  obtain ⟨i, hi, j, _, rfl⟩ := hy
  have := commonStart_le (s.drop i) (t.drop j)
  simp only [blockAt, List.length_drop] at this ⊢
  omega

/-- How many characters two texts have in common. -/
def common (s t : Text) : Nat :=
  if 0 < (largest s t).size then
    let block := largest s t
    block.size + common (s.take block.left) (t.take block.right) +
      common (s.drop (block.left + block.size)) (t.drop (block.right + block.size))
  else 0
termination_by s.length
decreasing_by
  all_goals
    have := largest_fits s t
    simp only [List.length_take, List.length_drop]
    omega

/-- Whether two words resemble each other: at least three fifths of their characters are in common.
    That takes a first word that is not much shorter than the second. -/
def resembles (s t : Text) : Bool :=
  let needed := 3 * (s.length + t.length)
  needed ≤ 10 * s.length && needed ≤ 10 * common s t

/-- The known words that resemble a word. -/
def among (known : List Text) (word : Text) : List Text :=
  known.filter (resembles · word)

end Suggestion
end Cli
end CondCss
