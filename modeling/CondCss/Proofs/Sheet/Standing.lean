import CondCss.Proofs.Cascade.Reading
import CondCss.Proofs.Sheet.Partition

/-!
# Texts that stand by themselves

A text stands by itself when it is its only item and nothing is left open at its end. What follows it
on the next line then begins outside everything, so texts that stand by themselves are the items of
the style sheet that has each of them on a line of its own (`items_joinWith`).

Printed rules and blocks stand by themselves, whatever blanks are in them (`IsBlock`): indenting the
inside of a block changes nothing but blanks.
-/

namespace CondCss

/-! ### Splitting at a character that is no blank -/

namespace Text

theorem trim_eq_self {t : Text} (head : ∀ c ∈ t.head?, isBlank c = false)
    (last : ∀ c ∈ t.getLast?, isBlank c = false) : trim t = t := by
  cases t with
  | nil => rfl
  | cons c t =>
    obtain ⟨front, d, shape⟩ : ∃ front d, c :: t = front ++ [d] :=
      ⟨_, _, (List.dropLast_concat_getLast (List.cons_ne_nil c t)).symm⟩
    rw [trim, trimLeft_of_not_blank (head c rfl), shape,
      trimRight_append_cons (last d (by rw [shape, List.getLast?_concat]; rfl)), trimRight_nil]

/-- Where a text has a character up to blanks, it has it. -/
theorem exists_append_of_collapse {c : Char} (hc : isBlank c = false) {t front back : Text}
    (h : collapse t = front ++ c :: back) :
    ∃ s u, t = s ++ c :: u ∧ collapse s = front ∧ collapse u = back := by
  -- A run of blanks goes at once, so the induction is on the length.
  induction length : t.length using Nat.strongRecOn generalizing t front with
  | ind n ih =>
    subst length
    cases t with
    | nil => simp [collapse] at h
    | cons d t =>
      cases hd : isBlank d with
      | false =>
        rw [collapse_of_not_blank hd] at h
        cases front with
        | nil =>
          obtain ⟨rfl, rfl⟩ := List.cons.inj h
          exact ⟨[], t, rfl, rfl, rfl⟩
        | cons e front =>
          obtain ⟨rfl, rest⟩ := List.cons.inj h
          obtain ⟨s, u, rfl, rfl, rfl⟩ := ih t.length (by simp) rest rfl
          exact ⟨d :: s, u, rfl, collapse_of_not_blank hd, rfl⟩
      | true =>
        rw [collapse_of_blank hd] at h
        cases front with
        | nil => exact absurd (List.cons.inj h).1.symm (ne_space_of_not_blank hc)
        | cons e front =>
          obtain ⟨rfl, rest⟩ := List.cons.inj h
          have shorter : (trimLeft t).length < (d :: t).length :=
            Nat.lt_succ_of_le (List.dropWhile_suffix isBlank).length_le
          obtain ⟨s, u, split, rfl, rfl⟩ := ih _ shorter rest rfl
          have left : trimLeft s = s := by
            have trimmed := trimLeft_trimLeft t
            rw [split, trimLeft_append_cons hc] at trimmed
            exact List.append_cancel_right trimmed
          refine ⟨d :: (t.takeWhile isBlank ++ s), u, ?_, ?_, rfl⟩
          · have whole : t = t.takeWhile isBlank ++ trimLeft t := List.takeWhile_append_dropWhile.symm
            rw [split] at whole
            simpa using whole
          · have blanks : trimLeft (t.takeWhile isBlank ++ s) = trimLeft s :=
              List.dropWhile_append_of_pos fun c hc => List.mem_takeWhile_imp hc
            rw [collapse_of_blank hd, blanks, left]

end Text

namespace Sheet

/-! ### What follows a text -/

section Following

variable {c d : Char}

theorem startsComment_append_cons (hd : d ≠ '*') (t u : Text) :
    startsComment (c :: (t ++ d :: u)) = startsComment (c :: t) := by
  cases t with
  | nil => simp [startsComment, List.isPrefixOf, hd.symm]
  | cons e t => simp [startsComment, List.isPrefixOf]

/-- Whether a comment starts or ends is decided by the next character. -/
theorem Place.step_append_cons (hd : d ≠ '*' ∧ d ≠ '/') (p : Place) (t u : Text) :
    p.step c (t ++ d :: u) = p.step c t := by
  have ends : ['*', '/'].isPrefixOf (c :: (t ++ d :: u)) = ['*', '/'].isPrefixOf (c :: t) := by
    cases t with
    | nil => simp [List.isPrefixOf, hd.2.symm]
    | cons e t => simp [List.isPrefixOf]
  simp only [step, startsComment_append_cons hd.1, ends]

/-- A character in front of pieces leaves the last one open. -/
theorem exists_consHead_concat (c : Char) (init : List Text) (last : Text) :
    ∃ init' last', Text.consHead c (init ++ [last]) = init' ++ [last'] ∧
      ∀ pieces, Text.consHead c (init ++ Text.prepend last pieces) =
        init' ++ Text.prepend last' pieces := by
  cases init with
  | nil => exact ⟨[], c :: last, rfl, fun _ => rfl⟩
  | cons t init => exact ⟨(c :: t) :: init, last, rfl, fun _ => rfl⟩

/-- The last piece of a text goes on with what follows; the others are finished. -/
theorem exists_piecesAt_append (p : Place) (t : Text) :
    ∃ init last, piecesAt p t = init ++ [last] ∧
      ∀ (d : Char) (u : Text), d ≠ '*' ∧ d ≠ '/' →
        piecesAt p (t ++ d :: u) = init ++ Text.prepend last (piecesAt (p.run t []) (d :: u)) := by
  induction t generalizing p with
  | nil => exact ⟨[], [], rfl, fun _ _ _ => rfl⟩
  | cons c t ih =>
    obtain ⟨init, last, pieces, onward⟩ := ih (p.step c t)
    obtain ⟨init', last', headed, headedOnward⟩ := exists_consHead_concat c init last
    have run : p.run (c :: t) [] = (p.step c t).run t [] := by rw [Place.run, List.append_nil]
    by_cases comment : p.IsTop ∧ startsComment (c :: t) = true
    · refine ⟨[] :: init', last', ?_, fun d u hd => ?_⟩
      · rw [piecesAt, if_pos comment, pieces, headed]
        rfl
      · rw [List.cons_append, piecesAt, startsComment_append_cons hd.1, if_pos comment,
          Place.step_append_cons hd, onward d u hd, headedOnward, run]
        rfl
    · by_cases ends : p.Ends c ∨ p.EndsComment
      · refine ⟨[c] :: init, last, ?_, fun d u hd => ?_⟩
        · rw [piecesAt, if_neg comment, if_pos ends, pieces]
          rfl
        · rw [List.cons_append, piecesAt, startsComment_append_cons hd.1, if_neg comment,
            if_pos ends, Place.step_append_cons hd, onward d u hd, run]
          rfl
      · refine ⟨init', last', ?_, fun d u hd => ?_⟩
        · rw [piecesAt, if_neg comment, if_neg ends, pieces, headed]
        · rw [List.cons_append, piecesAt, startsComment_append_cons hd.1, if_neg comment,
            if_neg ends, Place.step_append_cons hd, onward d u hd, headedOnward, run]

theorem getLast?_of_consHead {pieces : List Text}
    (h : (Text.consHead c pieces).getLast? = some []) : pieces.getLast? = some [] ∧ pieces ≠ [[]] := by
  cases pieces with
  | nil => simp [Text.consHead] at h
  | cons t pieces =>
    cases pieces with
    | nil => simp [Text.consHead] at h
    | cons t' pieces => exact ⟨by simpa [Text.consHead] using h, by simp⟩

/-- Behind a text whose last piece is empty everything is closed. -/
theorem isTop_of_getLast? {p : Place} {t : Text} (nonempty : t ≠ [])
    (ended : (piecesAt p t).getLast? = some []) : (p.run t []).IsTop := by
  induction t generalizing p with
  | nil => exact absurd rfl nonempty
  | cons c t ih =>
    rw [Place.run, List.append_nil]
    have onward (ended : (piecesAt (p.step c t) t).getLast? = some [])
        (more : piecesAt (p.step c t) t ≠ [[]]) : ((p.step c t).run t []).IsTop := by
      refine ih ?_ ended
      rintro rfl
      exact more rfl
    have last {pieces : List Text} {first : Text} (some : pieces ≠ [])
        (ended : (first :: pieces).getLast? = Option.some []) : pieces.getLast? = Option.some [] := by
      rwa [List.getLast?_cons_of_ne_nil some] at ended
    have headed : Text.consHead c (piecesAt (p.step c t) t) ≠ [] := by
      cases piecesAt (p.step c t) t <;> simp [Text.consHead]
    rw [piecesAt] at ended
    split at ended
    · obtain ⟨ended, more⟩ := getLast?_of_consHead (last headed ended)
      exact onward ended more
    · split at ended
      · rename_i ends
        cases t with
        | nil => exact ends.elim Place.isTop_step_of_ends fun h => Place.isTop_step_of_endsComment h c []
        | cons d t => exact ih (List.cons_ne_nil d t) (last (piecesAt_ne_nil _ _) ended)
      · obtain ⟨ended, more⟩ := getLast?_of_consHead ended
        exact onward ended more

end Following

/-! ### Texts on lines of their own -/

/-- A text that is its only item, with nothing left open at its end. -/
@[mk_iff]
structure Stands (t : Text) : Prop where
  alone : items t = [t]
  ended : (pieces t).getLast? = some []

instance (t : Text) : Decidable (Stands t) :=
  decidable_of_iff _ (stands_iff t).symm

theorem pieces_eq_piecesAt (s : Text) : pieces s = piecesAt .start s :=
  piecesFrom_eq_piecesAt none none 0 .code s

/-- A blank outside everything is like one at the start. -/
theorem piecesAt_of_isTop {p : Place} (top : p.IsTop) {c : Char} (hc : Text.isBlank c = true)
    (u : Text) : piecesAt p (c :: u) = pieces (c :: u) := by
  obtain ⟨before, quote, depth, zone⟩ := p
  obtain ⟨rfl, rfl, rfl⟩ : quote = none ∧ depth = 0 ∧ zone = .code :=
    ⟨top.quote, top.depth, top.zone⟩
  have same := (piecesFrom_eq_piecesAt before none 0 .code (c :: u)).symm
  rw [piecesFrom_blank hc, ← piecesFrom_blank hc none] at same
  exact same

namespace Stands

variable {t : Text}

theorem mem_items (h : Stands t) : t ∈ items t := by
  rw [h.alone]
  exact List.mem_singleton.2 rfl

theorem trimmed (h : Stands t) : Text.trim t = t :=
  (whole_of_mem_items h.mem_items).1

theorem nonempty (h : Stands t) : t ≠ [] :=
  (whole_of_mem_items h.mem_items).2

theorem items_append (h : Stands t) {c : Char} (hc : Text.isBlank c = true) (u : Text) :
    items (t ++ c :: u) = t :: items u := by
  obtain ⟨init, last, parts, onward⟩ := exists_piecesAt_append .start t
  have ended := h.ended
  rw [pieces_eq_piecesAt] at ended
  have top := isTop_of_getLast? h.nonempty ended
  obtain rfl : last = [] := by simpa [parts] using ended
  have alone : trimAll init = [t] := by
    have alone := h.alone
    rw [items, pieces_eq_piecesAt, parts] at alone
    simpa [trimAll, Text.trim, Text.trimLeft, Text.trimRight] using alone
  have whole : items (t ++ c :: u) = trimAll init ++ items (c :: u) := by
    rw [items, pieces_eq_piecesAt, onward c u ⟨Scan.ne_of_blank hc (by decide),
      Scan.ne_of_blank hc (by decide)⟩, piecesAt_of_isTop top hc]
    simp [trimAll, items, Text.prepend]
  rw [whole, alone, items_cons_of_blank hc]
  rfl

end Stands

/-- Texts that stand by themselves are found again, each on a line of its own. -/
theorem items_joinWith {lines : List Text} (h : ∀ t ∈ lines, Stands t) :
    items (Text.joinWith ['\n'] lines) = lines := by
  induction lines with
  | nil => rfl
  | cons t lines ih =>
    obtain ⟨here, later⟩ := List.forall_mem_cons.1 h
    cases lines with
    | nil =>
      rw [Text.joinWith, List.intercalate_singleton]
      exact here.alone
    | cons t' lines =>
      rw [Text.joinWith, List.intercalate_cons_cons, List.append_assoc, List.singleton_append,
        here.items_append (by decide)]
      exact congrArg (t :: ·) (ih later)

theorem stands_of_isUnit {t : Text} (unit : IsUnit t) (trimmed : Text.trim t = t) (some : t ≠ []) :
    Stands t := by
  have parts : pieces t = [t, []] := by
    have := unit none 0 [] (by decide)
    rwa [List.append_nil, if_pos rfl] at this
  refine ⟨?_, by rw [parts]; rfl⟩
  have whole := items_of_isUnit unit trimmed some []
  rwa [List.append_nil] at whole

/-! ### Units up to blanks -/

/-- A text that is one piece of a style sheet, whatever blanks it has. -/
def IsUnitLike (t : Text) : Prop :=
  ∀ s, Text.trim s = s → Text.tidy s = Text.tidy t → IsUnit s

theorem braceless_collapse {t : Text} :
    Braceless none none 0 (Text.collapse t) ↔ Braceless none none 0 t := by
  obtain ⟨sameOutside, sameEnd⟩ := Scan.sameScan_collapse none t none 0
  rw [braceless_iff, braceless_iff, sameOutside, sameEnd, Text.mem_collapse (by decide),
    Text.hasInfix_collapse (by decide) (by decide)]

/-- What a block is up to blanks is what it is made of. -/
theorem exists_block_of_tidy {s header inner : Text} (trimmed : Text.trim s = s)
    (h : Text.tidy s = header ++ '{' :: (inner ++ ['}'])) :
    ∃ header' inner', s = header' ++ '{' :: (inner' ++ ['}']) ∧ Text.collapse header' = header ∧
      Text.collapse inner' = inner := by
  rw [Text.tidy, trimmed] at h
  obtain ⟨header', behind, rfl, sameHeader, rest⟩ := Text.exists_append_of_collapse (by decide) h
  obtain ⟨inner', last, rfl, sameInner, nothing⟩ := Text.exists_append_of_collapse (by decide) rest
  obtain rfl := Text.collapse_eq_nil.1 nothing
  exact ⟨header', inner', rfl, sameHeader, sameInner⟩

/-- Blanks are passed over. -/
theorem piecesFrom_blanks {before : Option Char} (hbefore : before ≠ some '\\') (depth : Nat)
    {blanks : Text} (h : ∀ c ∈ blanks, Text.isBlank c = true) (rest : Text) :
    ∃ before', before' ≠ some '\\' ∧ piecesFrom before none depth .code (blanks ++ rest) =
      Text.prepend blanks (piecesFrom before' none depth .code rest) := by
  induction blanks generalizing before with
  | nil => exact ⟨before, hbefore, rfl⟩
  | cons c blanks ih =>
    obtain ⟨hc, later⟩ := List.forall_mem_cons.1 h
    have plain : (none : Option Char) ≠ some '\\' := by decide
    obtain ⟨before', notEscaped, onward⟩ := ih plain later
    refine ⟨before', notEscaped, ?_⟩
    rw [List.cons_append, piecesFrom_blank hc, onward]
    rfl

/-- A piece can stand inside a block, with blanks on both sides. -/
theorem IsUnit.fitsInside_blanks {t front back : Text} (h : IsUnit t)
    (hfront : ∀ c ∈ front, Text.isBlank c = true) (hback : ∀ c ∈ back, Text.isBlank c = true) :
    FitsInside (front ++ (t ++ back)) := by
  intro before depth rest hbefore
  obtain ⟨before', notEscaped, passFront⟩ := piecesFrom_blanks hbefore (depth + 1) hfront
    (t ++ (back ++ '}' :: rest))
  obtain ⟨before'', -, passBack⟩ := piecesFrom_blanks (show some '}' ≠ some '\\' by decide)
    (depth + 1) hback ('}' :: rest)
  refine ⟨before'', ?_⟩
  rw [List.append_assoc, List.append_assoc, passFront, h before' (depth + 1) _ notEscaped,
    if_neg (Nat.succ_ne_zero depth), passBack, Text.prepend_append, Text.prepend_append]

/-- A printed rule or block, as it can stand in a style sheet and inside another block. -/
structure IsBlock (t : Text) : Prop where
  unit : IsUnitLike t
  brace : '{' ∈ t
  last : t.getLast? = some '}'
  comment : Text.hasInfix ['/', '*'] t = false

theorem isBlock_ruleText {selector : Text} {fragments : List Text} (h : FitsHeader selector)
    (hfragments : ∀ t ∈ fragments, FitsBody t) : IsBlock (ruleText selector fragments) := by
  have body := braceless_intercalate hfragments
  refine ⟨fun s trimmed same => ?_, by simp [ruleText], ?_, ?_⟩
  · rw [tidy_ruleText, ruleText] at same
    obtain ⟨header, inner, rfl, sameHeader, sameInner⟩ := exists_block_of_tidy trimmed same
    refine isUnit_block ?_ (fitsInside_of_braceless ?_)
    · rw [← fitsHeader_collapse, sameHeader, fitsHeader_trimLeft, fitsHeader_collapse]
      exact h
    · rw [← braceless_collapse, sameInner, ← collapse_intercalate, braceless_collapse]
      exact body
  · rw [ruleText, ← List.cons_append, ← List.append_assoc, List.getLast?_concat]
  · rw [ruleText, Text.hasInfix_append_cons (by decide) (by decide), h.comment,
      Text.hasInfix_append_cons (by decide) (by decide), body.comment]
    rfl

theorem IsBlock.wrap {header inner : Text} (h : FitsHeader header) (hinner : IsBlock inner) :
    IsBlock (Expand.wrap header inner) := by
  have tidied := Cascade.tidy_wrap header hinner.last
  have front : FitsHeader (Text.trimLeft (Text.collapse (header ++ [' ']))) :=
    fitsHeader_trimLeft.2 (fitsHeader_collapse.2 (Cascade.fitsHeader_concat_space h))
  refine ⟨fun s trimmed same => ?_, by simp [Expand.wrap], ?_, ?_⟩
  · rw [tidied] at same
    obtain ⟨header', inner', rfl, sameHeader, sameInner⟩ := exists_block_of_tidy trimmed same
    obtain ⟨before, behind, shape, hbefore, hbehind⟩ := Text.exists_eq_append_trim inner'
    refine isUnit_block ?_ ?_
    · rw [← fitsHeader_collapse, sameHeader]
      exact front
    · rw [shape]
      refine IsUnit.fitsInside_blanks (hinner.unit _ (Text.trim_trim inner') ?_) hbefore hbehind
      have tidy : Text.tidy inner' = Text.trim (' ' :: (Text.tidy inner ++ [' '])) := by
        rw [← Text.trim_collapse, sameInner]
      rw [Text.tidy_trim, tidy, Text.trim_cons_of_blank (by decide),
        Text.trim_concat_of_blank (by decide), Text.tidy, Text.trim_collapse, Text.tidy_trim]
      rfl
  · rw [Cascade.wrap_eq, ← List.cons_append, ← List.append_assoc, List.getLast?_concat]
  · have inside : Text.hasInfix ['/', '*'] (' ' :: (Text.tidy inner ++ [' '])) = false := by
      have space := Text.hasInfix_append_cons (a := '/') (b := '*') (c := ' ') (by decide) (by decide)
        [] (Text.tidy inner ++ [' '])
      rw [List.nil_append] at space
      rw [space, Text.hasInfix_append_cons (by decide) (by decide),
        Text.hasInfix_tidy (by decide) (by decide), hinner.comment]
      rfl
    rw [← Text.hasInfix_tidy (by decide) (by decide), tidied,
      Text.hasInfix_append_cons (by decide) (by decide), front.comment,
      Text.hasInfix_append_cons (by decide) (by decide), inside]
    rfl

theorem IsBlock.stands {t : Text} (h : IsBlock t) (head : ∀ c ∈ t.head?, Text.isBlank c = false) :
    Stands t := by
  have trimmed : Text.trim t = t := by
    refine Text.trim_eq_self head fun c hc => ?_
    rw [h.last] at hc
    cases hc
    decide
  exact stands_of_isUnit (h.unit t trimmed rfl) trimmed (List.ne_nil_of_mem h.brace)

/-- A block with another one in it is no rule. -/
theorem readRule?_wrap {header inner : Text} (h : FitsHeader header) (hinner : IsBlock inner) :
    readRule? (Expand.wrap header inner) = none := by
  have comment := (hinner.wrap h).comment
  rw [Cascade.wrap_eq] at comment ⊢
  generalize body : '\n' :: (Text.indent inner ++ ['\n']) = inside at comment ⊢
  have noComment : Text.hasInfix ['/', '*'] inside = false := by
    rw [Text.hasInfix_append_cons (by decide) (by decide), Bool.or_eq_false_iff] at comment
    have behind := comment.2
    rw [Text.hasInfix_append_cons (by decide) (by decide), Bool.or_eq_false_iff] at behind
    exact behind.1
  have nested : inside.contains '{' = true := by
    have brace : '{' ∈ Text.collapse inside := by
      rw [← body, Text.collapse_indent (by decide) hinner.last]
      simp [(Text.mem_tidy (by decide)).2 hinner.brace]
    simpa using (Text.mem_collapse (by decide)).1 brace
  simp only [readRule?, cutBraces?_block (Cascade.fitsHeader_concat_space h).opening,
    withoutComments_of_hasInfix_eq_false noComment, nested, if_true]

end Sheet
end CondCss
