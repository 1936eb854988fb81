import CondCss.Proofs.Scan.Closed

/-!
# Balanced stretches

A stretch of text is balanced when every string and every parenthesis that opens in it also ends in
it, and nothing else ends in it. It can be put in parentheses, or between separators, without changing
what a scan finds around it (`outside_paren`, `balanced_append_sep`). What is cut out of a balanced
text at separators or from a parenthesis is balanced again.
-/

namespace CondCss
namespace Scan

variable {before : Option Char} {quote : Option Quote} {depth : Int} {s t rest : Text} {sep : Char}

/-! ### Depths -/

theorem depthAfter_add (before : Option Char) (quote : Option Quote) (c : Char) (depth extra : Int) :
    depthAfter before quote c (depth + extra) = depthAfter before quote c depth + extra := by
  unfold depthAfter
  split
  · rfl
  · split
    · omega
    · split
      · omega
      · rfl

/-- Deeper in parentheses, a text has the same characters outside strings, each one deeper. -/
theorem outside_add (before : Option Char) (quote : Option Quote) (depth extra : Int) (t : Text) :
    outside before quote (depth + extra) t =
      (outside before quote depth t).map fun m => (m.1, m.2 + extra) := by
  induction t generalizing before quote depth with
  | nil => rfl
  | cons c t ih =>
    have here : mark before quote (depth + extra) c =
        (mark before quote depth c).map fun m => (m.1, m.2 + extra) := by
      unfold mark
      split <;> rfl
    rw [outside, outside, List.map_append, here, depthAfter_add, ih]

theorem endOf_add (before : Option Char) (quote : Option Quote) (depth extra : Int) (t : Text) :
    endOf before quote (depth + extra) t =
      ((endOf before quote depth t).1, (endOf before quote depth t).2 + extra) := by
  induction t generalizing before quote depth with
  | nil => rfl
  | cons c t ih => rw [endOf, endOf, depthAfter_add, ih]

/-- As long as no parenthesis from before is closed, the depth is not negative. -/
theorem Within.nonneg (within : Within before quote depth t) (h : 0 ≤ depth) :
    ∀ m ∈ outside before quote depth t, 0 ≤ m.2 := by
  induction t generalizing before quote depth with
  | nil => exact fun m member => absurd member List.not_mem_nil
  | cons c t ih =>
    have later : Within (some c) (Quote.next before c quote) (depthAfter before quote c depth) t :=
      fun d member => within d (List.mem_append_right _ member)
    have stays : 0 ≤ depthAfter before quote c depth := by
      unfold depthAfter
      split
      · exact h
      · rename_i outsideString
        split
        · omega
        · split
          · rename_i closing
            have positive : 0 < depth := by
              apply within depth
              obtain rfl := beq_iff_eq.1 closing
              rw [outside, mark_eq_singleton outsideString (by decide)]
              exact List.mem_cons_self
            omega
          · exact h
    intro m member
    rw [outside] at member
    rcases List.mem_append.1 member with here | there
    · unfold mark at here
      split at here
      · exact absurd here List.not_mem_nil
      · rw [List.mem_singleton.1 here]
        exact h
    · exact ih later stays m there

/-! ### Balanced stretches -/

/-- Every string and parenthesis that opens in a stretch also ends in it, and no other ends there. -/
structure Balanced (t : Text) : Prop where
  closed : endOf none none 0 t = (none, 0)
  within : Within none none 0 t

theorem balanced_iff :
    Balanced t ↔ endOf none none 0 t = (none, 0) ∧
      ∀ m ∈ outside none none 0 t, m.1 = ')' → 0 < m.2 := by
  constructor
  · rintro ⟨closed, within⟩
    refine ⟨closed, ?_⟩
    rintro ⟨_, d⟩ member rfl
    exact within d member
  · rintro ⟨closed, within⟩
    exact ⟨closed, fun d member => within _ member rfl⟩

instance (t : Text) : Decidable (Balanced t) :=
  decidable_of_iff _ balanced_iff.symm

/-- A word without strings and parentheses is balanced. -/
theorem balanced_of_word (closed : endOf none none 0 t = (none, 0))
    (plain : ∀ m ∈ outside none none 0 t, m.1 ≠ ')') : Balanced t :=
  ⟨closed, fun _ member => absurd rfl (plain _ member)⟩

theorem balanced_congr (same : SameScan none s none t) : Balanced s ↔ Balanced t := by
  obtain ⟨sameOutside, sameEnd⟩ := same none 0
  constructor
  · rintro ⟨closed, within⟩
    exact ⟨sameEnd ▸ closed, fun d member => within d (sameOutside ▸ member)⟩
  · rintro ⟨closed, within⟩
    exact ⟨sameEnd ▸ closed, fun d member => within d (sameOutside ▸ member)⟩

theorem balanced_trim : Balanced (Text.trim t) ↔ Balanced t :=
  balanced_congr (sameScan_trim t)

/-- Two stretches with a separator between them are balanced if both are. -/
theorem balanced_append_sep (hsep : IsSeparator sep) (closed : endOf none none 0 s = (none, 0)) :
    Balanced (s ++ sep :: t) ↔ Balanced s ∧ Balanced t := by
  have marks : outside none none 0 (s ++ sep :: t) =
      outside none none 0 s ++ (sep, 0) :: outside none none 0 t := outside_append_sep hsep closed
  have ends : endOf none none 0 (s ++ sep :: t) = endOf none none 0 t := endOf_append_sep hsep closed
  constructor
  · rintro ⟨whole, within⟩
    refine ⟨⟨closed, fun d member => within d ?_⟩, ⟨ends ▸ whole, fun d member => within d ?_⟩⟩
    · rw [marks]
      exact List.mem_append_left _ member
    · rw [marks]
      exact List.mem_append_right _ (List.mem_cons_of_mem _ member)
  · rintro ⟨first, second⟩
    refine ⟨ends.trans second.closed, fun d member => ?_⟩
    rw [marks] at member
    rcases List.mem_append.1 member with inFirst | behind
    · exact first.within d inFirst
    · rcases List.mem_cons.1 behind with isSep | inSecond
      · exact absurd (Prod.mk.inj isSep).1 hsep.closing.symm
      · exact second.within d inSecond

/-! ### Parentheses -/

/-- The content of a parenthesis is balanced. -/
theorem balanced_of_cutParen? {content tail : Text} (cut : cutParen? s = some (content, tail)) :
    Balanced content := by
  obtain ⟨-, closed, within⟩ := cutParenFrom?_eq_some cut
  have notEscaped : some '(' ≠ some '\\' := by decide
  refine ⟨endOf_before notEscaped none 0 content ▸ closed, fun d member => within d ?_⟩
  rw [outside_before notEscaped]
  exact member

/-- A balanced stretch is found again in parentheses. -/
theorem Balanced.cutParen? (h : Balanced t) (rest : Text) :
    cutParen? (t ++ ')' :: rest) = some (t, rest) := by
  have notEscaped : some '(' ≠ some '\\' := by decide
  refine cutParen?_append ?_ fun d member => h.within d ?_
  · rw [endOf_before notEscaped]
    exact h.closed
  · rw [outside_before notEscaped] at member
    exact member

/-- A parenthesis is closed if the text behind it comes back to the depth in front of it. -/
theorem exists_cutParen? (h : endOf none none 1 t = (none, 0)) : ∃ parts, cutParen? t = some parts := by
  cases cut : cutParen? t with
  | some parts => exact ⟨parts, rfl⟩
  | none =>
    have stays : 0 ≤ (endOf (some '(') none 0 t).2 := nonneg_endOf_of_uncut cut
    rw [endOf_before (by decide)] at stays
    have deeper : endOf none none 1 t = ((endOf none none 0 t).1, (endOf none none 0 t).2 + 1) :=
      endOf_add none none 0 1 t
    have ends : (endOf none none 0 t).2 + 1 = 0 := congrArg Prod.snd (deeper.symm.trans h)
    omega

theorem Balanced.endOf_one (h : Balanced t) (hbefore : before ≠ some '\\') :
    endOf before none 1 t = (none, 1) := by
  have deeper := endOf_add none none 0 1 t
  rw [h.closed] at deeper
  rw [endOf_before hbefore]
  exact deeper

/-- What is outside strings in a text with a balanced stretch in parentheses. -/
theorem outside_paren {word : Text} (hword : endOf none none 0 word = (none, 0)) (h : Balanced t)
    (rest : Text) :
    outside none none 0 (word ++ '(' :: (t ++ ')' :: rest)) =
      outside none none 0 word ++ ('(', 0) ::
        ((outside none none 0 t).map (fun m => (m.1, m.2 + 1)) ++
          (')', 1) :: outside none none 0 rest) := by
  have opened : outside none none 0 (word ++ '(' :: (t ++ ')' :: rest)) =
      outside none none 0 word ++ ('(', 0) :: outside (some '(') none 1 (t ++ ')' :: rest) :=
    outside_append_cons (by decide) hword
  have closed : outside (some '(') none 1 (t ++ ')' :: rest) =
      outside (some '(') none 1 t ++ (')', 1) :: outside (some ')') none 0 rest :=
    outside_append_cons (by decide) (h.endOf_one (by decide))
  have deeper : outside (some '(') none 1 t =
      (outside none none 0 t).map fun m => (m.1, m.2 + 1) :=
    (outside_before (by decide) none 1 t).trans (outside_add none none 0 1 t)
  have behind : outside (some ')') none 0 rest = outside none none 0 rest :=
    outside_before (by decide) none 0 rest
  rw [opened, closed, deeper, behind]

theorem endOf_paren {word : Text} (hword : endOf none none 0 word = (none, 0)) (h : Balanced t)
    (rest : Text) :
    endOf none none 0 (word ++ '(' :: (t ++ ')' :: rest)) = endOf none none 0 rest := by
  have opened : endOf none none 0 (word ++ '(' :: (t ++ ')' :: rest)) =
      endOf (some '(') none 1 (t ++ ')' :: rest) := endOf_append_cons (by decide) hword
  have closed : endOf (some '(') none 1 (t ++ ')' :: rest) = endOf (some ')') none 0 rest :=
    endOf_append_cons (by decide) (h.endOf_one (by decide))
  rw [opened, closed, endOf_before (by decide)]

/-- A word with a balanced stretch in parentheses is balanced. -/
theorem Balanced.call {word : Text} (hword : Balanced word) (h : Balanced t) :
    Balanced (word ++ '(' :: (t ++ [')'])) := by
  refine ⟨endOf_paren hword.closed h [], fun d member => ?_⟩
  rw [outside_paren hword.closed h] at member
  simp only [List.mem_append, List.mem_cons, List.mem_map, Prod.mk.injEq] at member
  rcases member with inWord | ⟨isOpening, -⟩ | ⟨m, inside, -, deeper⟩ | ⟨-, rfl⟩ | atEnd
  · exact hword.within d inWord
  · cases isOpening
  · have nonneg := h.within.nonneg (Int.le_refl 0) m inside
    omega
  · decide
  · cases atEnd

/-- A word with a balanced stretch in parentheses has only the separators of the word. -/
theorem free_call {word : Text} (hsep : IsSeparator sep) (hword : endOf none none 0 word = (none, 0))
    (free : (sep, 0) ∉ outside none none 0 word) (h : Balanced t) :
    (sep, 0) ∉ outside none none 0 (word ++ '(' :: (t ++ [')'])) := by
  intro member
  rw [outside_paren hword h] at member
  simp only [List.mem_append, List.mem_cons, List.mem_map, Prod.mk.injEq] at member
  rcases member with inWord | ⟨isOpening, -⟩ | ⟨m, inside, -, deeper⟩ | ⟨isClosing, -⟩ | atEnd
  · exact free inWord
  · exact hsep.opening isOpening
  · have nonneg := h.within.nonneg (Int.le_refl 0) m inside
    omega
  · exact hsep.closing isClosing
  · cases atEnd

/-! ### Pieces -/

/-- The pieces of a balanced text are balanced and have no separator. -/
theorem balanced_of_mem_splitTopLevelFrom (hsep : IsSeparator sep) (hbefore : before ≠ some '\\')
    (h : Balanced t) {piece : Text}
    (member : piece ∈ splitTopLevelFrom (· == sep) before none 0 t) :
    Balanced piece ∧ (sep, 0) ∉ outside none none 0 piece := by
  -- The induction goes from cut to cut, so it is on the length of what is left.
  induction length : t.length using Nat.strongRecOn generalizing t before with
  | ind n ih =>
    subst length
    cases cut : cutTopLevel? (· == sep) before none 0 t with
    | none =>
      have free := (cutTopLevel?_eq_none hsep).1 cut
      rw [splitTopLevelFrom_of_uncut cut, List.mem_singleton] at member
      subst member
      rw [outside_before hbefore] at free
      exact ⟨h, free⟩
    | some parts =>
      obtain ⟨head, tail⟩ := parts
      rw [(splitTopLevelFrom_of_cut cut).2] at member
      obtain ⟨rfl, closed, free⟩ := cutTopLevel?_inv hsep cut
      rw [endOf_before hbefore] at closed
      rw [outside_before hbefore] at free
      obtain ⟨balancedHead, balancedTail⟩ := (balanced_append_sep hsep closed).1 h
      rcases List.mem_cons.1 member with rfl | later
      · exact ⟨balancedHead, free⟩
      · refine ih tail.length ?_ hsep.backslash balancedTail later rfl
        simp only [List.length_append, List.length_cons]
        omega

end Scan
end CondCss
