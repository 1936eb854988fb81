import CondCss.Conditional
import CondCss.Proofs.Readings
import CondCss.Proofs.Scan.Balanced

/-!
# Reading the parts of a conditional value

A part has a colon at the top level. In front of it stands the word `else` or a condition, behind it
the value (`readPart_append_colon`). The parts of a balanced content are balanced, and so are the
expressions of its conditions.
-/

namespace CondCss

namespace Conditional

open Scan (outside endOf Balanced isSeparator_colon isSeparator_semicolon)

/-- What stands behind the colon of a part. -/
def Part.value : Part → Text
  | .otherwise value => value
  | .clause c => c.value

variable {mode : Mode} {content part head value : Text} {p : Part}

/-! ### Conditions -/

theorem readCondition_eq_ok {condition : Text} {r : ConditionKind × Text}
    (h : readCondition mode condition = .ok r) :
    (mode = .literal ∧ readFunction? condition = none ∧ r = (.literal, condition)) ∨
      ∃ rest inside, readFunction? condition = some (r.1, rest) ∧
        Scan.cutParen? rest = some (inside, []) ∧ r.2 = Text.trim inside := by
  unfold readCondition at h
  split at h
  · rename_i kind rest function
    split at h
    · rename_i inside cut
      cases h
      exact .inr ⟨rest, inside, function, cut, rfl⟩
    · cases h
    · cases h
  · rename_i none
    split at h
    · cases h
      exact .inl ⟨rfl, none, rfl⟩
    · cases h

theorem ne_literal_of_readFunction? {condition rest : Text} {kind : ConditionKind}
    (h : readFunction? condition = some (kind, rest)) : kind ≠ .literal := by
  obtain ⟨kind', member, found⟩ := List.exists_of_findSome?_eq_some h
  have same : kind' = kind := by
    split at found
    · cases found
      rfl
    · cases found
  rintro rfl
  rw [same] at member
  exact absurd member (by decide)

theorem readFunction?_name {kind : ConditionKind} (function : kind ≠ .literal) (rest : Text) :
    readFunction? (kind.name ++ '(' :: rest) = some (kind, rest) := by
  have opening : Text.trimLeft ('(' :: rest) = '(' :: rest := Text.trimLeft_of_not_blank (by decide)
  cases kind with
  | literal => exact absurd rfl function
  | style | media | supports =>
    simp [readFunction?, ConditionKind.functions, ConditionKind.name, Text.after?, opening]

/-! ### The colon -/

/-- The colon of an `else` stands at the top level. -/
theorem colon_mem_of_else {rest : Text} (word : Text.after? elseWord part = some rest)
    (colon : Text.trimLeft rest = ':' :: value) : (':', 0) ∈ outside none none 0 part := by
  have shape : outside none none 0 part =
      [('e', 0), ('l', 0), ('s', 0), ('e', 0)] ++ outside (some 'e') none 0 rest := by
    rw [Text.eq_append_of_after? word]
    rfl
  have notEscaped : some 'e' ≠ some '\\' := by decide
  obtain ⟨same, -⟩ := Scan.sameScan_trimLeft notEscaped rest none 0
  rw [shape, ← same, colon]
  exact List.mem_append_right _ List.mem_cons_self

/-- An `else` is told from a condition by what stands in front of the colon. -/
theorem readElse?_append_colon (free : (':', 0) ∉ outside none none 0 head) :
    readElse? (head ++ ':' :: value) =
      if Text.trimRight head = elseWord then some (Text.trim value) else none := by
  have word : Text.after? elseWord (head ++ ':' :: value) =
      (Text.after? elseWord head).map (· ++ ':' :: value) := Text.after?_append_cons (by decide) _ _
  obtain ⟨back, whole, blank⟩ := Text.exists_eq_trimRight_append head
  unfold readElse?
  rw [word]
  cases after : Text.after? elseWord head with
  | none =>
    rw [if_neg]
    · rfl
    · intro isElse
      rw [whole, isElse, Text.after?_append] at after
      cases after
  | some rest =>
    have trimmed : Text.trimLeft (rest ++ ':' :: value) = Text.trimLeft rest ++ ':' :: value :=
      Text.trimLeft_append_cons (by decide)
    simp only [Option.map_some, trimmed]
    cases left : Text.trimLeft rest with
    | nil =>
      have isElse : Text.trimRight head = elseWord := by
        rw [Text.eq_append_of_after? after, Text.trimRight_append_of_blank (Text.trimLeft_eq_nil.1 left)]
        rfl
      rw [if_pos isElse]
      rfl
    | cons c left' =>
      have notColon : c ≠ ':' := by
        rintro rfl
        exact free (colon_mem_of_else after left)
      rw [if_neg]
      · split
        · rename_i same
          exact absurd (List.cons.inj (Option.some.inj same)).1 notColon
        · rfl
      · intro isElse
        rw [whole, isElse, Text.after?_append] at after
        cases after
        rw [Text.trimLeft_eq_nil.2 blank] at left
        cases left

/-- How a part is read: by what stands in front of its first colon at the top level. -/
theorem readPart_append_colon (closed : endOf none none 0 head = (none, 0))
    (free : (':', 0) ∉ outside none none 0 head) (mode : Mode) (value : Text) :
    readPart mode (head ++ ':' :: value) =
      if Text.trimRight head = elseWord then .ok (.otherwise (Text.trim value))
      else (readCondition mode (Text.trim head)).map fun r =>
        .clause ⟨r.1, r.2, Text.trim value⟩ := by
  have cut : Scan.cut? (· == ':') (head ++ ':' :: value) = some (head, value) :=
    Scan.cutTopLevel?_append_sep isSeparator_colon closed free
  unfold readPart
  rw [readElse?_append_colon free, cut]
  by_cases isElse : Text.trimRight head = elseWord
  · simp only [if_pos isElse]
  · simp only [if_neg isElse]

/-- What can be read as a part has a colon. -/
theorem exists_colon_of_readPart (read : readPart mode part = .ok p) :
    ∃ head value, part = head ++ ':' :: value ∧ endOf none none 0 head = (none, 0) ∧
      (':', 0) ∉ outside none none 0 head := by
  cases cut : Scan.cut? (· == ':') part with
  | some parts =>
    obtain ⟨shape, closed, free⟩ := Scan.cutTopLevel?_inv isSeparator_colon cut
    exact ⟨parts.1, parts.2, shape, closed, free⟩
  | none =>
    have free : (':', 0) ∉ outside none none 0 part :=
      (Scan.cutTopLevel?_eq_none isSeparator_colon).1 cut
    unfold readPart at read
    split at read
    · rename_i value isElse
      unfold readElse? at isElse
      split at isElse
      · rename_i value' found
        obtain ⟨rest, word, colon⟩ := Option.map_eq_some_iff.1 found
        exact absurd (colon_mem_of_else word colon) free
      · cases isElse
    · rw [cut] at read
      cases read

/-! ### Contents -/

/-- What a content is read as comes from its parts. -/
theorem parse_eq_ok {c : Conditional} (h : parse mode content = .ok c) :
    ∃ read, (parts content).mapM (readPart mode) = .ok read ∧
      c.clauses = read.filterMap Part.clause? ∧
      c.otherwise = (read.filterMap Part.otherwise?).getLast? ∧ c.clauses ≠ [] := by
  unfold parse at h
  cases read : (parts content).mapM (readPart mode) with
  | error e =>
    rw [read] at h
    cases h
  | ok ps =>
    rw [read] at h
    change (if (ps.filterMap Part.clause?).isEmpty = true then _ else _) = _ at h
    split at h
    · cases h
    · rename_i some
      cases h
      exact ⟨ps, rfl, rfl, rfl, fun none => some (List.isEmpty_iff.2 none)⟩

theorem exists_part_of_mem_clauses {c : Conditional} (h : parse mode content = .ok c)
    {clause : Clause} (member : clause ∈ c.clauses) :
    ∃ part ∈ parts content, readPart mode part = .ok (.clause clause) := by
  obtain ⟨ps, read, isClauses, -, -⟩ := parse_eq_ok h
  rw [isClauses] at member
  obtain ⟨p, inParts, isClause⟩ := List.mem_filterMap.1 member
  cases p with
  | otherwise value => cases isClause
  | clause clause' =>
    cases isClause
    exact exists_of_mem_mapM read inParts

theorem exists_part_of_otherwise {c : Conditional} (h : parse mode content = .ok c)
    (isValue : c.otherwise = some value) :
    ∃ part ∈ parts content, readPart mode part = .ok (.otherwise value) := by
  obtain ⟨ps, read, -, isLast, -⟩ := parse_eq_ok h
  rw [isLast] at isValue
  obtain ⟨p, inParts, isElse⟩ := List.mem_filterMap.1 (List.mem_of_getLast? isValue)
  cases p with
  | clause clause' => cases isElse
  | otherwise value' =>
    cases isElse
    exact exists_of_mem_mapM read inParts

/-- What opens in the expression of a condition also ends in it. -/
theorem closed_expression {c : Conditional} (h : parse mode content = .ok c) {clause : Clause}
    (member : clause ∈ c.clauses) (function : clause.kind ≠ .literal) :
    endOf none none 0 clause.expression = (none, 0) ∧
      Scan.Within none none 0 clause.expression := by
  obtain ⟨part, -, read⟩ := exists_part_of_mem_clauses h member
  obtain ⟨head, value, rfl, closed, free⟩ := exists_colon_of_readPart read
  rw [readPart_append_colon closed free] at read
  split at read
  · cases read
  · cases condition : readCondition mode (Text.trim head) with
    | error e => rw [condition] at read; cases read
    | ok r =>
      rw [condition] at read
      cases read
      rcases readCondition_eq_ok condition with ⟨-, -, rfl⟩ | ⟨rest, inside, -, cut, trimmed⟩
      · exact absurd rfl function
      · have balanced := Scan.balanced_trim.2 (Scan.balanced_of_cutParen? cut)
        rw [← trimmed] at balanced
        exact ⟨balanced.closed, balanced.within⟩

end Conditional
end CondCss
