import Mathlib.Data.List.TakeWhile
import CondCss.Proofs.Sheet.Parts

/-!
# Texts up to blanks

Two texts are the same up to blanks when they are equal after trimming and collapsing, which is what
`Text.tidy` does. Both work on a text from either end, and between characters that are no blanks they
can be done stretch by stretch (`collapse_append_cons`). Indenting a text changes nothing in this
sense (`collapse_indent`).
-/

namespace CondCss
namespace Text

variable {c : Char} {s t rest : Text}

/-- A text without blanks at its ends and with one space for every other run of blanks. -/
def tidy (t : Text) : Text :=
  collapse (trim t)

/-! ### Trimming -/

theorem trimLeft_of_blank (h : isBlank c = true) : trimLeft (c :: rest) = trimLeft rest := by
  simp [trimLeft, h]

theorem trimLeft_of_not_blank (h : isBlank c = false) : trimLeft (c :: rest) = c :: rest := by
  simp [trimLeft, h]

theorem trimLeft_trimLeft (t : Text) : trimLeft (trimLeft t) = trimLeft t := by
  induction t with
  | nil => rfl
  | cons c t ih =>
    cases hc : isBlank c with
    | true => rw [trimLeft_of_blank hc, ih]
    | false => rw [trimLeft_of_not_blank hc, trimLeft_of_not_blank hc]

theorem trimLeft_append_cons (h : isBlank c = false) :
    trimLeft (t ++ c :: rest) = trimLeft t ++ c :: rest := by
  induction t with
  | nil => exact trimLeft_of_not_blank h
  | cons x t ih =>
    cases hx : isBlank x with
    | true => rw [List.cons_append, trimLeft_of_blank hx, trimLeft_of_blank hx, ih]
    | false =>
      rw [List.cons_append, trimLeft_of_not_blank hx, trimLeft_of_not_blank hx, List.cons_append]

/-- A blank in front goes only with everything behind it. -/
theorem trimRight_cons (c : Char) (rest : Text) :
    trimRight (c :: rest) =
      if trimRight rest = [] ∧ isBlank c = true then [] else c :: trimRight rest := by
  have shape : trimRight (c :: rest) = (trimLeft (rest.reverse ++ [c])).reverse := by
    rw [trimRight, List.reverse_cons]
  rw [shape, trimLeft, List.dropWhile_append]
  split
  · rename_i gone
    have gone' : trimRight rest = [] := List.reverse_eq_nil_iff.2 (List.isEmpty_iff.1 gone)
    cases hc : isBlank c <;> simp [hc, gone']
  · rename_i left
    have left' : trimRight rest ≠ [] := fun h =>
      left (List.isEmpty_iff.2 (List.reverse_eq_nil_iff.1 h))
    rw [if_neg fun both => left' both.1, List.reverse_append]
    rfl

theorem trimRight_nil : trimRight [] = [] := rfl

theorem trimRight_of_not_blank (h : isBlank c = false) :
    trimRight (c :: rest) = c :: trimRight rest := by
  rw [trimRight_cons, if_neg fun both => Bool.false_ne_true (h.symm.trans both.2)]

/-- A stretch that ends with no blank stays as it is when what follows is trimmed. -/
theorem trimRight_append_cons (h : isBlank c = false) :
    trimRight (t ++ c :: rest) = t ++ c :: trimRight rest := by
  induction t with
  | nil => exact trimRight_of_not_blank h
  | cons x t ih =>
    have left : trimRight (t ++ c :: rest) ≠ [] := by
      rw [ih]
      simp
    rw [List.cons_append, trimRight_cons, if_neg fun both => left both.1, ih, List.cons_append]

theorem trimRight_trimLeft (t : Text) : trimRight (trimLeft t) = trimLeft (trimRight t) := by
  induction t with
  | nil => rfl
  | cons c t ih =>
    cases hc : isBlank c with
    | false =>
      rw [trimLeft_of_not_blank hc, trimRight_of_not_blank hc, trimLeft_of_not_blank hc]
    | true =>
      rw [trimLeft_of_blank hc, ih, trimRight_cons]
      split
      · rename_i both
        rw [both.1]
      · rw [trimLeft_of_blank hc]

theorem trimRight_eq_nil_of_trimLeft (h : trimLeft (trimRight t) = []) : trimRight t = [] := by
  induction t with
  | nil => rfl
  | cons c t ih =>
    rw [trimRight_cons] at h ⊢
    split at h
    · rw [if_pos ‹_›]
    · rename_i kept
      cases hc : isBlank c with
      | false =>
        rw [trimLeft_of_not_blank hc] at h
        cases h
      | true =>
        rw [trimLeft_of_blank hc] at h
        exact absurd ⟨ih h, hc⟩ kept

theorem trim_eq_trimLeft_trimRight (t : Text) : trim t = trimLeft (trimRight t) :=
  trimRight_trimLeft t

theorem trimRight_append_of_blank {back : Text} (h : ∀ c ∈ back, isBlank c = true) :
    trimRight (t ++ back) = trimRight t := by
  have blank : ∀ c ∈ back.reverse, isBlank c = true := fun c hc => h c (List.mem_reverse.1 hc)
  rw [trimRight, List.reverse_append, trimLeft, List.dropWhile_append_of_pos blank]
  rfl

/-- Blanks around a text do not count. -/
theorem trim_append_of_blank {front back : Text} (hfront : ∀ c ∈ front, isBlank c = true)
    (hback : ∀ c ∈ back, isBlank c = true) : trim (front ++ (t ++ back)) = trim t := by
  have dropped : trimLeft (front ++ (t ++ back)) = trimLeft (t ++ back) :=
    List.dropWhile_append_of_pos hfront
  rw [trim, dropped, trimRight_trimLeft, trimRight_append_of_blank hback, trim_eq_trimLeft_trimRight]

theorem trim_cons_of_blank (h : isBlank c = true) : trim (c :: t) = trim t := by
  have : trim ([c] ++ (t ++ [])) = trim t := trim_append_of_blank (by simpa using h) (by simp)
  simpa using this

theorem trim_concat_of_blank (h : isBlank c = true) : trim (t ++ [c]) = trim t := by
  have : trim ([] ++ (t ++ [c])) = trim t := trim_append_of_blank (by simp) (by simpa using h)
  simpa using this

theorem mem_trimLeft (h : isBlank c = false) : c ∈ trimLeft t ↔ c ∈ t := by
  induction t with
  | nil => exact Iff.rfl
  | cons x t ih =>
    cases hx : isBlank x with
    | false => rw [trimLeft_of_not_blank hx]
    | true =>
      have differs : c ≠ x := by
        rintro rfl
        exact absurd (h.symm.trans hx) Bool.false_ne_true
      rw [trimLeft_of_blank hx, ih, List.mem_cons, or_iff_right differs]

theorem mem_trimRight (h : isBlank c = false) : c ∈ trimRight t ↔ c ∈ t := by
  rw [trimRight, List.mem_reverse, mem_trimLeft h, List.mem_reverse]

theorem mem_trim (h : isBlank c = false) : c ∈ trim t ↔ c ∈ t := by
  rw [trim, mem_trimRight h, mem_trimLeft h]

/-- What trimming takes away are blanks. -/
theorem exists_eq_append_trim (t : Text) :
    ∃ front back, t = front ++ (trim t ++ back) ∧ (∀ c ∈ front, isBlank c = true) ∧
      ∀ c ∈ back, isBlank c = true := by
  have left (t : Text) : ∃ front, t = front ++ trimLeft t ∧ ∀ c ∈ front, isBlank c = true :=
    ⟨t.takeWhile isBlank, List.takeWhile_append_dropWhile.symm, fun _ => List.mem_takeWhile_imp⟩
  obtain ⟨front, hfront, frontBlank⟩ := left t
  obtain ⟨back, hback, backBlank⟩ := left (trimLeft t).reverse
  refine ⟨front, back.reverse, ?_, frontBlank, fun c hc => backBlank c (List.mem_reverse.1 hc)⟩
  have right : trimLeft t = trim t ++ back.reverse := by
    rw [trim, trimRight, ← List.reverse_append, ← hback, List.reverse_reverse]
  rw [← right]
  exact hfront

theorem trim_eq_nil {t : Text} : trim t = [] ↔ ∀ c ∈ t, isBlank c = true := by
  constructor
  · intro empty
    obtain ⟨front, back, split, hfront, hback⟩ := exists_eq_append_trim t
    rw [empty, List.nil_append] at split
    rw [split]
    exact List.forall_mem_append.2 ⟨hfront, hback⟩
  · intro blank
    rw [← List.append_nil t]
    exact trim_append_of_blank (t := []) blank (by simp)

/-- What trimming takes away at the end are blanks. -/
theorem exists_eq_trimRight_append (t : Text) :
    ∃ back, t = trimRight t ++ back ∧ ∀ c ∈ back, isBlank c = true := by
  refine ⟨(t.reverse.takeWhile isBlank).reverse, ?_, fun c member => ?_⟩
  · rw [trimRight, trimLeft, ← List.reverse_append, List.takeWhile_append_dropWhile,
      List.reverse_reverse]
  · exact List.mem_takeWhile_imp (List.mem_reverse.1 member)

theorem trimRight_trimRight (t : Text) : trimRight (trimRight t) = trimRight t := by
  rw [trimRight, trimRight, List.reverse_reverse, trimLeft_trimLeft]

theorem trimRight_trim (t : Text) : trimRight (trim t) = trim t :=
  trimRight_trimRight (trimLeft t)

theorem trim_trimRight (t : Text) : trim (trimRight t) = trim t := by
  rw [trim_eq_trimLeft_trimRight, trimRight_trimRight, trim_eq_trimLeft_trimRight]

theorem trimLeft_eq_nil {t : Text} : trimLeft t = [] ↔ ∀ c ∈ t, isBlank c = true :=
  List.dropWhile_eq_nil_iff

theorem trimLeft_trim (t : Text) : trimLeft (trim t) = trim t := by
  rw [trim_eq_trimLeft_trimRight, trimLeft_trimLeft]

theorem trim_append_cons {c : Char} (h : isBlank c = false) (s t : Text) :
    trim (s ++ c :: t) = trimLeft s ++ c :: trimRight t := by
  rw [trim, trimLeft_append_cons h, trimRight_append_cons h]

/-! ### Collapsing -/

theorem collapse_of_not_blank (h : isBlank c = false) : collapse (c :: rest) = c :: collapse rest := by
  simp [collapse, h]

theorem ne_space_of_not_blank (h : isBlank c = false) : c ≠ ' ' := by
  rintro rfl
  exact absurd h (by decide)

/-- A run of blanks becomes one space. -/
theorem collapse_of_blank (h : isBlank c = true) :
    collapse (c :: rest) = ' ' :: collapse (trimLeft rest) := by
  induction rest generalizing c with
  | nil => simp [collapse, h, trimLeft]
  | cons d rest ih =>
    rw [collapse, if_pos h]
    cases hd : isBlank d with
    | true =>
      rw [ih hd, trimLeft_of_blank hd]
      rfl
    | false =>
      rw [trimLeft_of_not_blank hd, collapse_of_not_blank hd]
      split
      · rename_i eq
        cases eq
        exact absurd rfl (ne_space_of_not_blank hd)
      · rfl

theorem trimLeft_collapse (t : Text) : trimLeft (collapse t) = collapse (trimLeft t) := by
  induction t with
  | nil => rfl
  | cons c t ih =>
    cases hc : isBlank c with
    | false => rw [trimLeft_of_not_blank hc, collapse_of_not_blank hc, trimLeft_of_not_blank hc]
    | true =>
      rw [trimLeft_of_blank hc, collapse_of_blank hc, trimLeft_of_blank (by decide), ← ih,
        trimLeft_trimLeft]

theorem collapse_eq_nil {t : Text} : collapse t = [] ↔ t = [] := by
  cases t with
  | nil => exact Iff.rfl
  | cons c t =>
    cases hc : isBlank c with
    | false => simp [collapse_of_not_blank hc]
    | true => simp [collapse_of_blank hc]

theorem trimRight_collapse (t : Text) : trimRight (collapse t) = collapse (trimRight t) := by
  induction t with
  | nil => rfl
  | cons c t ih =>
    cases hc : isBlank c with
    | false =>
      rw [trimRight_of_not_blank hc, collapse_of_not_blank hc, trimRight_of_not_blank hc, ih,
        collapse_of_not_blank hc]
    | true =>
      have inner : trimRight (collapse (trimLeft t)) = collapse (trimLeft (trimRight t)) := by
        rw [← trimLeft_collapse, trimRight_trimLeft, ih, trimLeft_collapse]
      rw [collapse_of_blank hc, trimRight_cons, trimRight_cons, inner]
      simp only [collapse_eq_nil, hc, and_true]
      by_cases gone : trimRight t = []
      · rw [if_pos gone, if_pos ⟨by rw [gone]; rfl, by decide⟩]
        rfl
      · rw [if_neg gone, if_neg fun both => gone (trimRight_eq_nil_of_trimLeft both.1),
          collapse_of_blank hc]

theorem trim_collapse (t : Text) : trim (collapse t) = tidy t := by
  rw [trim, trimLeft_collapse, trimRight_collapse]
  rfl

theorem trim_trim (t : Text) : trim (trim t) = trim t := by
  obtain ⟨front, back, eq, hfront, hback⟩ := exists_eq_append_trim t
  have := trim_append_of_blank (t := trim t) hfront hback
  rw [← this, ← eq]

/-- A trimmed text starts with no blank. -/
theorem not_blank_of_trim_cons (h : trim (c :: t) = c :: t) : isBlank c = false := by
  cases hc : isBlank c with
  | false => rfl
  | true =>
    have := length_trim_le t
    rw [← trim_cons_of_blank hc, h, List.length_cons] at this
    omega

/-- And it ends with none. -/
theorem not_blank_of_trim_concat (h : trim (t ++ [c]) = t ++ [c]) : isBlank c = false := by
  cases hc : isBlank c with
  | false => rfl
  | true =>
    have := length_trim_le t
    rw [← trim_concat_of_blank hc, h, List.length_append, List.length_singleton] at this
    omega

theorem exists_concat_of_trim (trimmed : trim t = t) (nonempty : t ≠ []) :
    ∃ front c, t = front ++ [c] ∧ isBlank c = false := by
  obtain ⟨front, c, rfl⟩ : ∃ front c, t = front ++ [c] :=
    ⟨_, _, (List.dropLast_concat_getLast nonempty).symm⟩
  exact ⟨front, c, rfl, not_blank_of_trim_concat trimmed⟩

theorem tidy_trim (t : Text) : tidy (trim t) = tidy t := by
  rw [tidy, trim_trim]
  rfl

theorem collapse_collapse (t : Text) : collapse (collapse t) = collapse t := by
  induction t with
  | nil => rfl
  | cons c t ih =>
    cases hc : isBlank c with
    | false => rw [collapse_of_not_blank hc, collapse_of_not_blank hc, ih]
    | true =>
      rw [collapse_of_blank hc, collapse_of_blank (by decide), trimLeft_collapse,
        trimLeft_trimLeft, ← trimLeft_collapse, ← trimLeft_collapse, ih]

/-- The characters of a text that are no blanks. -/
def ink (t : Text) : Text :=
  t.filter (!isBlank ·)

theorem length_ink (t : Text) : (ink t).length = t.countP (!isBlank ·) :=
  List.countP_eq_length_filter.symm

theorem count_ink (h : isBlank c = false) (t : Text) : (ink t).count c = t.count c :=
  List.count_filter (by simp [h])

theorem ink_cons_of_blank (h : isBlank c = true) : ink (c :: t) = ink t :=
  List.filter_cons_of_neg (by simp [h])

theorem ink_cons_of_not_blank (h : isBlank c = false) : ink (c :: t) = c :: ink t :=
  List.filter_cons_of_pos (by simp [h])

theorem ink_append (s t : Text) : ink (s ++ t) = ink s ++ ink t :=
  List.filter_append s t

theorem ink_eq_nil : ink t = [] ↔ ∀ c ∈ t, isBlank c = true := by
  simp [ink]

theorem ink_trimLeft (t : Text) : ink (trimLeft t) = ink t := by
  induction t with
  | nil => rfl
  | cons c t ih =>
    cases hc : isBlank c with
    | true => rw [trimLeft_of_blank hc, ih, ink_cons_of_blank hc]
    | false => rw [trimLeft_of_not_blank hc]

theorem ink_trim (t : Text) : ink (trim t) = ink t := by
  obtain ⟨front, back, eq, hfront, hback⟩ := exists_eq_append_trim t
  have whole := congrArg ink eq
  rw [ink_append, ink_append, ink_eq_nil.2 hfront, ink_eq_nil.2 hback, List.append_nil,
    List.nil_append] at whole
  exact whole.symm

theorem ink_collapse (t : Text) : ink (collapse t) = ink t := by
  induction t with
  | nil => rfl
  | cons c t ih =>
    cases hc : isBlank c with
    | true =>
      rw [collapse_of_blank hc, ← trimLeft_collapse, ink_cons_of_blank (by decide), ink_trimLeft, ih,
        ink_cons_of_blank hc]
    | false =>
      rw [collapse_of_not_blank hc, ink_cons_of_not_blank hc, ink_cons_of_not_blank hc, ih]

/-- Stretches on both sides of a character that is no blank are collapsed one by one. -/
theorem collapse_append_cons (h : isBlank c = false) :
    collapse (t ++ c :: rest) = collapse t ++ c :: collapse rest := by
  induction t with
  | nil => exact collapse_of_not_blank h
  | cons x t ih =>
    cases hx : isBlank x with
    | false =>
      rw [List.cons_append, collapse_of_not_blank hx, ih, collapse_of_not_blank hx]
      rfl
    | true =>
      rw [List.cons_append, collapse_of_blank hx, ← trimLeft_collapse, ih, trimLeft_append_cons h,
        collapse_of_blank hx, trimLeft_collapse]
      rfl

theorem collapse_append_of_trim (trimmed : trim t = t) (nonempty : t ≠ []) (s : Text) :
    collapse (t ++ s) = collapse t ++ collapse s := by
  obtain ⟨front, c, rfl, notBlank⟩ := exists_concat_of_trim trimmed nonempty
  rw [List.append_assoc, List.singleton_append, collapse_append_cons notBlank,
    collapse_append_cons notBlank, List.append_assoc]
  rfl

theorem mem_collapse (h : isBlank c = false) : c ∈ collapse t ↔ c ∈ t := by
  induction t with
  | nil => exact Iff.rfl
  | cons x t ih =>
    cases hx : isBlank x with
    | false => rw [collapse_of_not_blank hx, List.mem_cons, List.mem_cons, ih]
    | true =>
      have differs : c ≠ x := by
        rintro rfl
        exact absurd (h.symm.trans hx) Bool.false_ne_true
      rw [collapse_of_blank hx, ← trimLeft_collapse, List.mem_cons,
        or_iff_right (ne_space_of_not_blank h), mem_trimLeft h, ih, List.mem_cons,
        or_iff_right differs]

theorem mem_tidy (h : isBlank c = false) : c ∈ tidy t ↔ c ∈ t := by
  rw [tidy, mem_collapse h, mem_trim h]

theorem hasInfix_trimRight {a b : Char} (hb : isBlank b = false) (t : Text) :
    hasInfix [a, b] (trimRight t) = hasInfix [a, b] t := by
  induction t with
  | nil => rfl
  | cons c t ih =>
    have notFollowed (gone : trimRight t = []) : [b].isPrefixOf t = false := by
      cases t with
      | nil => rfl
      | cons d t =>
        have blank : isBlank d = true := by
          by_contra notBlank
          rw [trimRight_of_not_blank (Bool.eq_false_iff.2 notBlank)] at gone
          cases gone
        have differs : b ≠ d := by
          rintro rfl
          exact absurd (hb.symm.trans blank) Bool.false_ne_true
        simp [List.isPrefixOf, differs]
    rw [trimRight_cons]
    split
    · rename_i both
      have absent : hasInfix [a, b] t = false := by
        rw [← ih, both.1]
        rfl
      simp [hasInfix, List.isPrefixOf, absent, notFollowed both.1]
    · have sameStart : [b].isPrefixOf (trimRight t) = [b].isPrefixOf t := by
        by_cases gone : trimRight t = []
        · rw [gone, notFollowed gone]
          rfl
        · cases t with
          | nil => exact absurd rfl gone
          | cons d t =>
            rw [trimRight_cons] at gone ⊢
            split
            · rw [if_pos ‹_›] at gone
              exact absurd rfl gone
            · simp [List.isPrefixOf]
      simp only [hasInfix, List.isPrefixOf, sameStart, ih]

theorem hasInfix_trimLeft {a b : Char} (ha : isBlank a = false) (t : Text) :
    hasInfix [a, b] (trimLeft t) = hasInfix [a, b] t := by
  induction t with
  | nil => rfl
  | cons c t ih =>
    cases hc : isBlank c with
    | false => rw [trimLeft_of_not_blank hc]
    | true =>
      have differs : a ≠ c := by
        rintro rfl
        exact absurd (ha.symm.trans hc) Bool.false_ne_true
      rw [trimLeft_of_blank hc, ih]
      simp [hasInfix, List.isPrefixOf, differs]

/-- Trimming puts no two characters together. -/
theorem hasInfix_trim {a b : Char} (ha : isBlank a = false) (hb : isBlank b = false) (t : Text) :
    hasInfix [a, b] (trim t) = hasInfix [a, b] t := by
  rw [trim, hasInfix_trimRight hb, hasInfix_trimLeft ha]

/-- Nor does collapsing. -/
theorem hasInfix_collapse {a b : Char} (ha : isBlank a = false) (hb : isBlank b = false) (t : Text) :
    hasInfix [a, b] (collapse t) = hasInfix [a, b] t := by
  have differs {x c : Char} (hx : isBlank x = false) (hc : isBlank c = true) : x ≠ c := by
    rintro rfl
    exact absurd (hx.symm.trans hc) Bool.false_ne_true
  induction t with
  | nil => rfl
  | cons c t ih =>
    cases hc : isBlank c with
    | false =>
      have sameStart : [b].isPrefixOf (collapse t) = [b].isPrefixOf t := by
        cases t with
        | nil => rfl
        | cons d t =>
          cases hd : isBlank d with
          | false => simp [collapse_of_not_blank hd, List.isPrefixOf]
          | true =>
            simp [collapse_of_blank hd, List.isPrefixOf, differs hb hd, ne_space_of_not_blank hb]
      rw [collapse_of_not_blank hc]
      simp only [hasInfix, List.isPrefixOf, sameStart, ih]
    | true =>
      rw [collapse_of_blank hc, ← trimLeft_collapse]
      have notSpace : (a == ' ') = false := beq_eq_false_iff_ne.2 (ne_space_of_not_blank ha)
      have notHere : (a == c) = false := beq_eq_false_iff_ne.2 (differs ha hc)
      simp only [hasInfix, hasInfix_trimLeft ha, ih, List.isPrefixOf, notSpace, notHere,
        Bool.false_and]

theorem hasInfix_tidy {a b : Char} (ha : isBlank a = false) (hb : isBlank b = false) (t : Text) :
    hasInfix [a, b] (tidy t) = hasInfix [a, b] t := by
  rw [tidy, hasInfix_collapse ha hb, hasInfix_trim ha hb]

/-- Two characters next to each other stand on one side of any third one. -/
theorem hasInfix_append_cons {a b : Char} (ha : a ≠ c) (hb : b ≠ c) (t rest : Text) :
    hasInfix [a, b] (t ++ c :: rest) = (hasInfix [a, b] t || hasInfix [a, b] rest) := by
  induction t with
  | nil => simp [hasInfix, List.isPrefixOf, ha]
  | cons x t ih =>
    rw [List.cons_append, hasInfix, ih, hasInfix, ← Bool.or_assoc]
    congr 2
    cases t with
    | nil => simp [List.isPrefixOf, hb]
    | cons y t => simp [List.isPrefixOf]

/-! ### Indenting -/

theorem isBlank_of_isLineBreak (h : isLineBreak c = true) : isBlank c = true := by
  simp only [isLineBreak, Bool.or_eq_true, Bool.and_eq_true, decide_eq_true_eq, beq_iff_eq] at h
  simp only [isBlank]
  split
  · simp only [Bool.or_eq_true, Bool.and_eq_true, decide_eq_true_eq]
    omega
  · simp only [Bool.or_eq_true, Bool.and_eq_true, decide_eq_true_eq, beq_iff_eq]
    omega

/-- Lines put together again, each but the first on a new line and indented. -/
def indentedAfter (lines : List Text) : Text :=
  lines.flatMap fun line => ['\n', ' ', ' '] ++ line

theorem joinWith_indented (first : Text) (lines : List Text) :
    joinWith ['\n'] ((first :: lines).map ([' ', ' '] ++ ·)) =
      ' ' :: ' ' :: (first ++ indentedAfter lines) := by
  induction lines generalizing first with
  | nil => simp [joinWith, indentedAfter]
  | cons line lines ih =>
    have step : joinWith ['\n'] ((first :: line :: lines).map ([' ', ' '] ++ ·)) =
        [' ', ' '] ++ first ++ ['\n'] ++ joinWith ['\n'] ((line :: lines).map ([' ', ' '] ++ ·)) := by
      simp only [List.map_cons, joinWith, List.intercalate_cons_cons]
    rw [step, ih]
    simp [indentedAfter]

theorem linePieces_ne_nil (t : Text) : linePieces t ≠ [] := by
  fun_induction linePieces t with
  | case1 => simp
  | case2 => simp
  | case3 => simp
  | case4 c rest _ _ _ =>
    cases linePieces rest <;> simp [consHead]

theorem collapse_trimLeft_congr (h : collapse s = collapse t) :
    collapse (trimLeft s) = collapse (trimLeft t) := by
  rw [← trimLeft_collapse, h, trimLeft_collapse]

theorem collapse_cons_congr (c : Char) (h : collapse s = collapse t) :
    collapse (c :: s) = collapse (c :: t) := by
  cases hc : isBlank c with
  | false => rw [collapse_of_not_blank hc, collapse_of_not_blank hc, h]
  | true => rw [collapse_of_blank hc, collapse_of_blank hc, collapse_trimLeft_congr h]

theorem collapse_append_congr (h : collapse s = collapse t) (rest : Text) :
    collapse (s ++ rest) = collapse (t ++ rest) := by
  -- Both sides are what the collapsed text gives.
  suffices collapsed : ∀ s : Text, collapse (collapse s ++ rest) = collapse (s ++ rest) by
    rw [← collapsed s, h, collapsed t]
  intro s
  induction s with
  | nil => rfl
  | cons c s ih =>
    cases hc : isBlank c with
    | false =>
      rw [collapse_of_not_blank hc, List.cons_append, List.cons_append, collapse_cons_congr c ih]
    | true =>
      have front (u : Text) : trimLeft (trimLeft u ++ rest) = trimLeft (u ++ rest) := by
        have gone : trimLeft (u.takeWhile isBlank ++ (trimLeft u ++ rest)) =
            trimLeft (trimLeft u ++ rest) :=
          List.dropWhile_append_of_pos fun _ => List.mem_takeWhile_imp
        rw [← gone, ← List.append_assoc, trimLeft, trimLeft, List.takeWhile_append_dropWhile]
        rfl
      rw [collapse_of_blank hc, List.cons_append, List.cons_append, collapse_of_blank hc,
        collapse_of_blank (by decide), ← trimLeft_collapse s, front, collapse_trimLeft_congr ih]

/-- Breaking a text into indented lines adds blanks only where there are some. -/
theorem collapse_linePieces {t first : Text} {lines : List Text}
    (h : linePieces t = first :: lines) : collapse (first ++ indentedAfter lines) = collapse t := by
  have newLine {rest : Text} {lines : List Text} (split : linePieces rest = lines)
      (ih : ∀ {first : Text} {lines : List Text}, linePieces rest = first :: lines →
        collapse (first ++ indentedAfter lines) = collapse rest) :
      collapse (indentedAfter lines) = ' ' :: collapse (trimLeft rest) := by
    obtain ⟨line, later, rfl⟩ := List.exists_cons_of_ne_nil (split ▸ linePieces_ne_nil rest)
    change collapse ('\n' :: ' ' :: ' ' :: (line ++ indentedAfter later)) = _
    rw [collapse_of_blank (by decide), trimLeft_of_blank (by decide),
      trimLeft_of_blank (by decide), collapse_trimLeft_congr (ih split)]
  fun_induction linePieces t generalizing first lines with
  | case1 =>
    cases h
    rfl
  | case2 rest ih =>
    obtain ⟨rfl, split⟩ := List.cons.inj h
    rw [List.nil_append, newLine split ih, collapse_of_blank (by decide),
      trimLeft_of_blank (by decide)]
  | case3 c rest _ isBreak ih =>
    obtain ⟨rfl, split⟩ := List.cons.inj h
    rw [List.nil_append, newLine split ih, collapse_of_blank (isBlank_of_isLineBreak isBreak)]
  | case4 c rest _ noBreak ih =>
    obtain ⟨line, later, split⟩ := List.exists_cons_of_ne_nil (linePieces_ne_nil rest)
    rw [split] at h
    cases h
    exact collapse_cons_congr c (ih split)

/-- The last line of a text that ends with no blank is not empty. -/
theorem getLast?_linePieces (hc : isBlank c = false) (h : t.getLast? = some c) :
    (linePieces t).getLast? ≠ some [] := by
  have onward {d : Char} {rest : Text} (hd : isBlank d = true) (h : (d :: rest).getLast? = some c) :
      rest.getLast? = some c := by
    cases rest with
    | nil =>
      cases h
      exact absurd (hc.symm.trans hd) Bool.false_ne_true
    | cons e rest => rwa [List.getLast?_cons_cons] at h
  fun_induction linePieces t with
  | case1 => cases h
  | case2 rest ih =>
    rw [List.getLast?_cons_of_ne_nil (linePieces_ne_nil rest)]
    exact ih (onward (by decide) (onward (by decide) h))
  | case3 d rest _ isBreak ih =>
    rw [List.getLast?_cons_of_ne_nil (linePieces_ne_nil rest)]
    exact ih (onward (isBlank_of_isLineBreak isBreak) h)
  | case4 d rest _ noBreak ih =>
    obtain ⟨line, later, split⟩ := List.exists_cons_of_ne_nil (linePieces_ne_nil rest)
    rw [split] at ih ⊢
    cases later with
    | nil => simp [consHead]
    | cons line' later =>
      cases rest with
      | nil => cases split
      | cons e rest =>
        rw [List.getLast?_cons_cons] at h
        simpa [consHead] using ih h

/-- An indented text between line breaks, up to blanks. -/
theorem collapse_indent (hc : isBlank c = false) (h : t.getLast? = some c) :
    collapse ('\n' :: (indent t ++ ['\n'])) = ' ' :: (tidy t ++ [' ']) := by
  obtain ⟨front, rfl⟩ : ∃ front, t = front ++ [c] := List.getLast?_eq_some_iff.1 h
  obtain ⟨line, later, split⟩ := List.exists_cons_of_ne_nil (linePieces_ne_nil (front ++ [c]))
  have allLines : lines (front ++ [c]) = linePieces (front ++ [c]) := by
    have kept := getLast?_linePieces hc h
    simp only [lines, beq_iff_eq, if_neg kept]
  have indented : indent (front ++ [c]) = ' ' :: ' ' :: (line ++ indentedAfter later) := by
    rw [indent, allLines, split, joinWith_indented]
  have same : collapse ((line ++ indentedAfter later) ++ ['\n']) =
      collapse front ++ c :: [' '] := by
    rw [collapse_append_congr (collapse_linePieces split), List.append_assoc,
      List.singleton_append, collapse_append_cons hc, collapse_of_blank (by decide)]
    rfl
  have tidied : tidy (front ++ [c]) = trimLeft (collapse front) ++ [c] := by
    rw [tidy, trim_eq_trimLeft_trimRight, trimRight_append_cons hc, trimRight_nil,
      ← trimLeft_collapse, collapse_append_cons hc, trimLeft_append_cons hc]
    rfl
  rw [indented, tidied, collapse_of_blank (by decide), List.cons_append, List.cons_append,
    trimLeft_of_blank (by decide), trimLeft_of_blank (by decide), ← trimLeft_collapse, same,
    trimLeft_append_cons hc, List.append_assoc]
  rfl

end Text
end CondCss
