import CondCss.Proofs.Conditional.Modes
import CondCss.Proofs.Scan.Positions

/-!
# What keeps a content from being read

The parenthesis of a condition is looked for in a scan of its own, behind the keyword. The colon behind the
condition has been found by another scan, from the beginning of the part, and there no string and no
parenthesis is open. So the parenthesis is closed in front of the colon (`exists_closingParen`), whatever
strings, backslashes and further parentheses stand around it, and it is never reported as unclosed.

What is left to be wrong with a part is told by `PartFault`, and with a content by `Fault`: its first part
that is at fault, or no condition at all. These are its errors and there are no others
(`parse_never_unclosed`).
-/

namespace CondCss

/-! ### A word and a mark -/

namespace Text

variable {word s rest : Text} {mark : Char} {pos : Nat}

/-- A text starts with a word and, perhaps behind blanks, a mark; `pos` is the position behind the mark. -/
def StartsWith (word : Text) (mark : Char) (s : Text) (pos : Nat) : Prop :=
  ∃ gap rest, (∀ c ∈ gap, isBlank c = true) ∧ s = word ++ gap ++ mark :: rest ∧
    pos = (word ++ gap).length + 1

theorem drop_behind (front : Text) (c : Char) (rest : Text) :
    (front ++ c :: rest).drop (front.length + 1) = rest := by
  simp

theorem StartsWith.charBefore? (h : StartsWith word mark s pos) : charBefore? s pos = some mark := by
  obtain ⟨gap, rest, -, rfl, rfl⟩ := h
  rw [Text.charBefore?, List.getElem?_append_right (Nat.le_refl _), Nat.sub_self]
  rfl

theorem StartsWith.trimLeft_after? (h : StartsWith word mark s pos) (notBlank : isBlank mark = false) :
    (after? word s).map trimLeft = some (mark :: s.drop pos) := by
  obtain ⟨gap, rest, blank, rfl, rfl⟩ := h
  rw [drop_behind, List.append_assoc, after?_append, Option.map_some, trimLeft_append_cons notBlank,
    trimLeft_eq_nil.2 blank]
  rfl

theorem exists_startsWith (h : (after? word s).map trimLeft = some (mark :: rest)) :
    ∃ pos, StartsWith word mark s pos := by
  obtain ⟨back, after, trimmed⟩ := Option.map_eq_some_iff.1 h
  have shape : back = back.takeWhile isBlank ++ mark :: rest := by
    rw [← trimmed]
    exact List.takeWhile_append_dropWhile.symm
  have whole : s = word ++ back.takeWhile isBlank ++ mark :: rest := by
    rw [eq_append_of_after? after, List.append_assoc, ← shape]
  exact ⟨_, back.takeWhile isBlank, rest, fun _ => List.mem_takeWhile_imp, whole, rfl⟩

end Text

namespace Conditional

open Scan (endOf IsCut IsTopLevel closingParen isSeparator_colon)

variable {mode : Mode} {content part condition : Text} {kind kind' : ConditionKind} {start pos : Nat}
  {e : Error}

theorem readElse?_of_startsWith (h : Text.StartsWith elseWord ':' part pos) :
    readElse? part = some (Text.trim (part.drop pos)) := by
  rw [readElse?, h.trimLeft_after? (by decide)]
  rfl

theorem readElse?_eq_none : readElse? part = none ↔ ∀ pos, ¬Text.StartsWith elseWord ':' part pos := by
  constructor
  · intro none pos starts
    cases none.symm.trans (readElse?_of_startsWith starts)
  · intro free
    unfold readElse?
    split
    · rename_i colon
      obtain ⟨pos, starts⟩ := Text.exists_startsWith colon
      exact absurd starts (free pos)
    · rfl

/-! ### Conditions -/

/-- A condition is written as a function, and its parenthesis opens just before `start`. -/
def OpensAt (condition : Text) (start : Nat) : Prop :=
  ∃ kind : ConditionKind, kind ≠ .literal ∧ Text.StartsWith kind.name '(' condition start

/-- No keyword is the beginning of another one. -/
theorem after?_name_of_ne (differs : kind' ≠ kind) (rest : Text) :
    Text.after? kind'.name (kind.name ++ rest) = none := by
  cases kind' <;> cases kind <;> first | rfl | exact absurd rfl differs

theorem readFunction?_of_startsWith (function : kind ≠ .literal)
    (h : Text.StartsWith kind.name '(' condition start) :
    readFunction? condition = some (kind, condition.drop start) := by
  have read := h.trimLeft_after? (by decide)
  have other (kind' : ConditionKind) (differs : kind' ≠ kind) :
      (Text.after? kind'.name condition).map Text.trimLeft = none := by
    obtain ⟨gap, rest, -, rfl, -⟩ := h
    rw [List.append_assoc, after?_name_of_ne differs]
    rfl
  unfold readFunction? ConditionKind.functions
  cases kind with
  | literal => exact absurd rfl function
  | style => simp only [List.findSome?_cons, read]
  | media =>
    have style := other .style (by decide)
    simp only [List.findSome?_cons, read, style]
  | supports =>
    have style := other .style (by decide)
    have media := other .media (by decide)
    simp only [List.findSome?_cons, read, style, media]

theorem readFunction?_eq_none : readFunction? condition = none ↔ ∀ start, ¬OpensAt condition start := by
  constructor
  · rintro none start ⟨kind, function, starts⟩
    cases none.symm.trans (readFunction?_of_startsWith function starts)
  · intro unknown
    cases read : readFunction? condition with
    | none => rfl
    | some found =>
      obtain ⟨kind, -, isFound⟩ := List.exists_of_findSome?_eq_some read
      split at isFound
      · rename_i opening
        cases isFound
        obtain ⟨start, starts⟩ := Text.exists_startsWith opening
        exact absurd ⟨kind, ne_literal_of_readFunction? read, starts⟩ (unknown start)
      · cases isFound

/-- The parenthesis of a condition is closed, if none is open any more at its end. -/
theorem exists_closingParen (closed : endOf none none 0 condition = (none, 0))
    (opens : OpensAt condition start) : ∃ pos, closingParen condition start = .ok pos := by
  obtain ⟨kind, -, starts⟩ := opens
  have opening := starts.charBefore?
  obtain ⟨gap, rest, blank, rfl, rfl⟩ := starts
  have word : endOf none none 0 (kind.name ++ gap) = (none, 0) := by
    obtain ⟨-, same⟩ := Scan.sameScan_trimRight none (kind.name ++ gap) none 0
    rw [← same, Text.trimRight_append_of_blank blank]
    cases kind <;> decide
  have inside : endOf none none 1 rest = (none, 0) := by
    rw [Scan.endOf_append_cons (by decide) word, Scan.endOf_before (by decide)] at closed
    exact closed
  obtain ⟨⟨content, tail⟩, cut⟩ := Scan.exists_cutParen? inside
  refine ⟨(kind.name ++ gap).length + 1 + content.length, ?_⟩
  rw [Scan.closingParen_of_charBefore? opening, Text.drop_behind, cut]

/-- Where something is left open at the end, the parenthesis may be. -/
example : readCondition .strict "media(a".toList = .error (.unclosedCondition "media(a".toList) := by
  decide

/-- A condition that does not end with its parenthesis is refused. -/
theorem readCondition_of_opensAt (opens : OpensAt condition start)
    (closes : closingParen condition start = .ok pos) :
    readCondition mode condition = .error e ↔
      pos + 1 < condition.length ∧ e = .trailingText condition := by
  obtain ⟨kind, function, starts⟩ := opens
  rw [Scan.closingParen_of_charBefore? starts.charBefore?] at closes
  unfold readCondition
  rw [readFunction?_of_startsWith function starts]
  cases cut : Scan.cutParen? (condition.drop start) with
  | none =>
    rw [cut] at closes
    cases closes
  | some parts =>
    obtain ⟨inside, tail⟩ := parts
    rw [cut] at closes
    cases closes
    have trailing : start + inside.length + 1 < condition.length ↔ tail ≠ [] := by
      have lengths := congrArg List.length (Scan.cutParenFrom?_eq_some cut).1
      simp only [List.length_drop, List.length_append, List.length_cons] at lengths
      rw [← List.length_pos_iff]
      omega
    simp only [cut, trailing]
    cases tail with
    | nil => simp
    | cons c tail => simp [eq_comm]

/-- A condition without a keyword is refused in the strict reading. -/
theorem readCondition_of_unknown (unknown : ∀ start, ¬OpensAt condition start) :
    readCondition mode condition = .error e ↔ mode = .strict ∧ e = .unknownCondition condition := by
  unfold readCondition
  rw [readFunction?_eq_none.2 unknown]
  cases mode with
  | strict => simp [eq_comm]
  | literal => simp

/-! ### Parts -/

/-- The condition of a part that is no `else`: what stands in front of its first colon outside strings and
    parentheses, without blanks at its ends. -/
structure IsConditionOf (part condition : Text) : Prop where
  notElse : ∀ pos, ¬Text.StartsWith elseWord ':' part pos
  front : ∃ colon, IsLeast {i | IsCut ':' part 0 i} colon ∧ condition = Text.trim (part.take colon)

/-- What is wrong with a part that cannot be read. -/
inductive PartFault (mode : Mode) (part : Text) : Error → Prop where
  /-- No colon stands outside strings and parentheses. -/
  | missingColon (free : ∀ i, ¬IsCut ':' part 0 i) : PartFault mode part (.missingColon part)
  /-- The condition is not written as a function, and literals are not allowed. -/
  | unknownCondition {condition : Text} (isCondition : IsConditionOf part condition)
      (strict : mode = .strict) (unknown : ∀ start, ¬OpensAt condition start) :
      PartFault mode part (.unknownCondition condition)
  /-- The parenthesis of the condition is closed in front of its last character. -/
  | trailingText {condition : Text} {start pos : Nat} (isCondition : IsConditionOf part condition)
      (opens : OpensAt condition start) (closes : IsLeast {i | IsTopLevel condition start ')' i} pos)
      (trailing : pos + 1 < condition.length) : PartFault mode part (.trailingText condition)

/-- No string and no parenthesis is open at the end of a condition. -/
theorem IsConditionOf.closed (h : IsConditionOf part condition) :
    endOf none none 0 condition = (none, 0) := by
  obtain ⟨colon, least, rfl⟩ := h.front
  obtain ⟨-, closed, -⟩ := Scan.cutTopLevel?_inv isSeparator_colon (Scan.cut?_of_isLeast least)
  obtain ⟨-, same⟩ := Scan.sameScan_trim (part.take colon) none 0
  rw [same, closed]

/-- A part is an `else`, or it has no colon, or it has a condition. -/
theorem part_cases (part : Text) :
    (∃ pos, Text.StartsWith elseWord ':' part pos) ∨ (∀ i, ¬IsCut ':' part 0 i) ∨
      ∃ condition, IsConditionOf part condition := by
  by_cases isElse : ∃ pos, Text.StartsWith elseWord ':' part pos
  · exact .inl isElse
  · cases cut : Scan.cut? (· == ':') part with
    | none => exact .inr (.inl (Scan.cut?_eq_none.1 cut))
    | some parts =>
      exact .inr (.inr ⟨_, not_exists.1 isElse, _, Scan.isLeast_of_cut? cut, rfl⟩)

theorem readPart_of_startsWith (h : Text.StartsWith elseWord ':' part pos) (mode : Mode) :
    readPart mode part = .ok (.otherwise (Text.trim (part.drop pos))) := by
  rw [readPart, readElse?_of_startsWith h]

/-- What has no colon is no `else` either. -/
theorem readPart_of_free (free : ∀ i, ¬IsCut ':' part 0 i) (mode : Mode) :
    readPart mode part = .error (.missingColon part) := by
  have uncut : Scan.cut? (· == ':') part = none := Scan.cut?_eq_none.2 free
  have notElse : ∀ pos, ¬Text.StartsWith elseWord ':' part pos := by
    intro pos isElse
    obtain ⟨rest, word, colon⟩ := Option.map_eq_some_iff.1 (isElse.trimLeft_after? (by decide))
    exact (Scan.cutTopLevel?_eq_none isSeparator_colon).1 uncut (colon_mem_of_else word colon)
  rw [readPart, readElse?_eq_none.2 notElse, uncut]

/-- A part that has a condition is read as this condition is. -/
theorem IsConditionOf.readPart (h : IsConditionOf part condition) :
    ∃ value, ∀ mode, readPart mode part =
      (readCondition mode condition).map fun r => .clause ⟨r.1, r.2, value⟩ := by
  obtain ⟨colon, least, rfl⟩ := h.front
  refine ⟨Text.trim (part.drop (colon + 1)), fun mode => ?_⟩
  rw [Conditional.readPart, readElse?_eq_none.2 h.notElse, Scan.cut?_of_isLeast least]

theorem IsConditionOf.readPart_eq_error_iff (h : IsConditionOf part condition) :
    Conditional.readPart mode part = .error e ↔ readCondition mode condition = .error e := by
  obtain ⟨value, read⟩ := h.readPart
  rw [read]
  cases readCondition mode condition <;> simp [Except.map]

/-- A part cannot be read just because of a fault. -/
theorem readPart_eq_error_iff : readPart mode part = .error e ↔ PartFault mode part e := by
  constructor
  · intro fails
    rcases part_cases part with ⟨pos, isElse⟩ | free | ⟨condition, isCondition⟩
    · rw [readPart_of_startsWith isElse] at fails
      cases fails
    · rw [readPart_of_free free] at fails
      cases fails
      exact .missingColon free
    · rw [isCondition.readPart_eq_error_iff] at fails
      by_cases unknown : ∀ start, ¬OpensAt condition start
      · obtain ⟨strict, rfl⟩ := (readCondition_of_unknown unknown).1 fails
        exact .unknownCondition isCondition strict unknown
      · obtain ⟨start, opens⟩ := not_forall_not.1 unknown
        obtain ⟨pos, closes⟩ := exists_closingParen isCondition.closed opens
        obtain ⟨trailing, rfl⟩ := (readCondition_of_opensAt opens closes).1 fails
        exact .trailingText isCondition opens (Scan.closingParen_eq_ok.1 closes) trailing
  · rintro (free | ⟨isCondition, strict, unknown⟩ | ⟨isCondition, opens, closes, trailing⟩)
    · exact readPart_of_free free mode
    · rw [isCondition.readPart_eq_error_iff]
      exact (readCondition_of_unknown unknown).2 ⟨strict, rfl⟩
    · rw [isCondition.readPart_eq_error_iff]
      exact (readCondition_of_opensAt opens (Scan.closingParen_eq_ok.2 closes)).2 ⟨trailing, rfl⟩

theorem exists_readPart_iff : (∃ p, readPart mode part = .ok p) ↔ ∀ e, ¬PartFault mode part e := by
  simp only [← readPart_eq_error_iff]
  cases readPart mode part <;> simp

/-- What is read as no clause is an `else`. -/
theorem exists_startsWith_of_readPart {p : Part} (read : readPart mode part = .ok p)
    (notClause : p.clause? = none) : ∃ pos, Text.StartsWith elseWord ':' part pos := by
  rcases part_cases part with isElse | free | ⟨condition, isCondition⟩
  · exact isElse
  · rw [readPart_of_free free] at read
    cases read
  · obtain ⟨value, asCondition⟩ := isCondition.readPart
    rw [asCondition] at read
    cases result : readCondition mode condition with
    | error e =>
      rw [result] at read
      cases read
    | ok r =>
      rw [result] at read
      cases read
      cases notClause

/-! ### Contents -/

/-- What is wrong with a content that cannot be read. -/
inductive Fault (mode : Mode) (content : Text) : Error → Prop where
  /-- A part is at fault, and no part in front of it is. -/
  | ofPart {front : List Text} {part : Text} {back : List Text} {e : Error}
      (shape : parts content = front ++ part :: back)
      (before : ∀ part' ∈ front, ∀ e', ¬PartFault mode part' e') (fault : PartFault mode part e) :
      Fault mode content e
  /-- Every part is an `else`. -/
  | noClause (onlyElse : ∀ part ∈ parts content, ∃ pos, Text.StartsWith elseWord ':' part pos) :
      Fault mode content (.noClause content)

theorem parse_of_read {ps : List Part} (read : (parts content).mapM (readPart mode) = .ok ps) :
    parse mode content = ofParts content ps := by
  rw [parse_eq, read]
  rfl

theorem parse_of_unread (fails : (parts content).mapM (readPart mode) = .error e) :
    parse mode content = .error e := by
  rw [parse_eq, fails]
  rfl

/-- Parts that are read make no conditional just if each of them is an `else`. -/
theorem ofParts_eq_error_iff {ps : List Part}
    (read : (parts content).mapM (readPart mode) = .ok ps) :
    ofParts content ps = .error e ↔
      (∀ part ∈ parts content, ∃ pos, Text.StartsWith elseWord ':' part pos) ∧ e = .noClause content := by
  have onlyElse : (ps.filterMap Part.clause?).isEmpty = true ↔
      ∀ part ∈ parts content, ∃ pos, Text.StartsWith elseWord ':' part pos := by
    rw [List.isEmpty_iff, List.filterMap_eq_nil_iff]
    constructor
    · intro noClauses part inParts
      obtain ⟨p, inRead, isRead⟩ := exists_mem_of_mapM read inParts
      exact exists_startsWith_of_readPart isRead (noClauses p inRead)
    · intro isElse p inRead
      obtain ⟨part, inParts, isRead⟩ := exists_of_mem_mapM read inRead
      obtain ⟨pos, starts⟩ := isElse part inParts
      cases isRead.symm.trans (readPart_of_startsWith starts mode)
      rfl
  rw [← onlyElse, ofParts]
  split
  · rename_i empty
    simp [empty, eq_comm]
  · rename_i some
    simp [some]

/-- A content cannot be read just because of a fault. -/
theorem parse_eq_error_iff : parse mode content = .error e ↔ Fault mode content e := by
  constructor
  · intro fails
    cases read : (parts content).mapM (readPart mode) with
    | error e' =>
      cases (parse_of_unread read).symm.trans fails
      obtain ⟨front, part, back, shape, before, fault⟩ := mapM_eq_error_iff.1 read
      exact .ofPart shape (fun part' inFront => exists_readPart_iff.1 (before part' inFront))
        (readPart_eq_error_iff.1 fault)
    | ok ps =>
      rw [parse_of_read read] at fails
      obtain ⟨onlyElse, rfl⟩ := (ofParts_eq_error_iff read).1 fails
      exact .noClause onlyElse
  · rintro (⟨shape, before, fault⟩ | onlyElse)
    · apply parse_of_unread
      exact mapM_eq_error_iff.2 ⟨_, _, _, shape,
        fun part' inFront => exists_readPart_iff.2 (before part' inFront), readPart_eq_error_iff.2 fault⟩
    · cases read : (parts content).mapM (readPart mode) with
      | error e' =>
        obtain ⟨front, part, back, shape, -, fails⟩ := mapM_eq_error_iff.1 read
        obtain ⟨pos, starts⟩ := onlyElse part (by simp [shape])
        cases (readPart_of_startsWith starts mode).symm.trans fails
      | ok ps =>
        rw [parse_of_read read]
        exact (ofParts_eq_error_iff read).2 ⟨onlyElse, rfl⟩

/-- Every part with a condition is read as this condition is, and where the condition is written as a
    function, its parenthesis is closed. So a content cannot be read just because of one of four faults: a
    part has no colon, or an unknown condition, or text behind the parenthesis of its condition, or there is
    no condition. An unclosed condition is none of them. -/
theorem parse_never_unclosed (mode : Mode) (content : Text) :
    (∀ part ∈ parts content, ∀ condition, IsConditionOf part condition →
      (∃ value, readPart mode part =
        (readCondition mode condition).map fun r => .clause ⟨r.1, r.2, value⟩) ∧
      ∀ start, OpensAt condition start → ∃ pos, closingParen condition start = .ok pos) ∧
    (∀ e, parse mode content = .error e ↔ Fault mode content e) ∧
    ∀ condition, parse mode content ≠ .error (.unclosedCondition condition) := by
  refine ⟨fun part _ condition isCondition => ⟨?_, fun start opens => ?_⟩,
    fun e => parse_eq_error_iff, fun condition fails => ?_⟩
  · obtain ⟨value, read⟩ := isCondition.readPart
    exact ⟨value, read mode⟩
  · exact exists_closingParen isCondition.closed opens
  · cases parse_eq_error_iff.1 fails with
    | ofPart _ _ fault => cases fault

/-- In the second part more parentheses are closed than opened before its colon, and one stands in a
    string; in the first part a quote is escaped. -/
def strayParens : Text :=
  "supports((a:b) or \"\\\")\"): x; media (\")\" :) ) (: y".toList

theorem parse_never_unclosed_strayParens :
    let part := "media (\")\" :) ) (: y".toList
    let condition := "media (\")\" :) ) (".toList
    (part ∈ parts strayParens ∧ IsConditionOf part condition ∧ OpensAt condition 7) ∧
      (∃ pos, closingParen condition 7 = .ok pos) ∧
      ∀ mode, Fault mode strayParens (.trailingText condition) := by
  intro part condition
  have member : part ∈ parts strayParens := by decide +kernel
  have isCondition : IsConditionOf part condition :=
    ⟨readElse?_eq_none.1 (by decide), 17, Scan.findTopLevel?_eq_some.1 (by decide), by decide⟩
  have opens : OpensAt condition 7 :=
    ⟨.media, by decide, [' '], "\")\" :) ) (".toList, List.forall_mem_singleton.2 (by decide),
      by decide +kernel, by decide⟩
  refine ⟨⟨member, isCondition, opens⟩, ?_, fun mode => ?_⟩
  · exact ((parse_never_unclosed .strict strayParens).1 part member condition isCondition).2 7 opens
  · apply ((parse_never_unclosed mode strayParens).2.1 _).1
    cases mode <;> decide +kernel

end Conditional
end CondCss
