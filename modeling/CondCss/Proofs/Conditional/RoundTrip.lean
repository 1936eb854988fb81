import CondCss.Proofs.Conditional.Parts
import CondCss.Proofs.Occurrence.Extraction

/-!
# Printed conditional values are read back

What a call is read as can be printed and read again (`parse_render_of_found`). The parts that are
read from a call are legible: what stands in front of the colon and what stands behind it are balanced
and have no separator of their own, so putting them together again moves no separator.
-/

namespace CondCss
namespace Conditional

open Scan (outside endOf Balanced isSeparator_colon isSeparator_semicolon)

/-- What is printed in front of the colon of a part. -/
def Part.head : Part → Text
  | .otherwise _ => elseWord
  | .clause c =>
    match c.kind with
    | .literal => c.expression
    | kind => kind.name ++ '(' :: (c.expression ++ [')'])

/-- Prints a part. -/
def Part.render (p : Part) : Text :=
  p.head ++ ':' :: ' ' :: p.value

/-- The parts that a conditional value is printed as. -/
def toParts (c : Conditional) : List Part :=
  c.clauses.map .clause ++ c.otherwise.toList.map .otherwise

variable {mode : Mode} {content part head value s t : Text} {p : Part} {c : Conditional}

theorem render_eq_joinWith (c : Conditional) :
    render c = Text.joinWith [';', ' '] (c.toParts.map Part.render) := by
  have clause (clause : Clause) : renderClause clause = (Part.clause clause).render := by
    obtain ⟨kind, expression, value⟩ := clause
    cases kind <;> simp [renderClause, Part.render, Part.head, Part.value]
  have otherwise (value : Text) :
      elseWord ++ [':', ' '] ++ value = (Part.otherwise value).render := by
    simp [Part.render, Part.head, Part.value]
  rw [render, toParts, List.map_append, List.map_map, List.map_map]
  congr 2
  exact List.map_congr_left fun c _ => clause c

/-! ### Texts between semicolons -/

/-- A text that can stand between the semicolons of a content. -/
structure FitsPart (t : Text) : Prop extends Balanced t where
  single : (';', 0) ∉ outside none none 0 t

theorem fitsPart_of_word (closed : endOf none none 0 t = (none, 0))
    (plain : ∀ m ∈ outside none none 0 t, m.1 ≠ ')' ∧ m.1 ≠ ';') : FitsPart t :=
  ⟨Scan.balanced_of_word closed fun m member => (plain m member).1,
    fun member => (plain _ member).2 rfl⟩

theorem fitsPart_trim : FitsPart (Text.trim t) ↔ FitsPart t := by
  obtain ⟨same, -⟩ := Scan.sameScan_trim t none 0
  constructor
  · rintro ⟨balanced, single⟩
    exact ⟨Scan.balanced_trim.1 balanced, same ▸ single⟩
  · rintro ⟨balanced, single⟩
    exact ⟨Scan.balanced_trim.2 balanced, same ▸ single⟩

theorem fitsPart_cons_space : FitsPart (' ' :: t) ↔ FitsPart t := by
  rw [← fitsPart_trim, Text.trim_cons_of_blank (by decide), fitsPart_trim]

theorem fitsPart_append_colon (closed : endOf none none 0 head = (none, 0)) :
    FitsPart (head ++ ':' :: value) ↔ FitsPart head ∧ FitsPart value := by
  have balanced : Balanced (head ++ ':' :: value) ↔ Balanced head ∧ Balanced value :=
    Scan.balanced_append_sep isSeparator_colon closed
  have marks : outside none none 0 (head ++ ':' :: value) =
      outside none none 0 head ++ (':', 0) :: outside none none 0 value :=
    Scan.outside_append_sep isSeparator_colon closed
  have single : (';', 0) ∉ outside none none 0 (head ++ ':' :: value) ↔
      (';', 0) ∉ outside none none 0 head ∧ (';', 0) ∉ outside none none 0 value := by
    simp [marks]
  constructor
  · rintro ⟨whole, none⟩
    obtain ⟨inHead, inValue⟩ := balanced.1 whole
    exact ⟨⟨inHead, (single.1 none).1⟩, ⟨inValue, (single.1 none).2⟩⟩
  · rintro ⟨inHead, inValue⟩
    exact ⟨balanced.2 ⟨inHead.toBalanced, inValue.toBalanced⟩,
      single.2 ⟨inHead.single, inValue.single⟩⟩

/-- The parts of a balanced content fit. -/
theorem fitsPart_of_mem_parts (h : Balanced content) (member : part ∈ parts content) :
    FitsPart part ∧ Text.trim part = part := by
  obtain ⟨piece, inPieces, rfl⟩ := List.mem_map.1 (List.mem_filter.1 member).1
  obtain ⟨balanced, single⟩ :=
    Scan.balanced_of_mem_splitTopLevelFrom isSeparator_semicolon (by decide) h inPieces
  exact ⟨fitsPart_trim.2 ⟨balanced, single⟩, Text.trim_trim piece⟩

/-! ### Legible parts -/

/-- A part that can be read again when it is printed. -/
structure Part.Legible (mode : Mode) (p : Part) : Prop where
  head : FitsPart p.head
  colon : (':', 0) ∉ outside none none 0 p.head
  head_trim : Text.trim p.head = p.head
  value : FitsPart p.value
  value_trim : Text.trim p.value = p.value
  read : (if p.head = elseWord then .ok (.otherwise p.value)
    else (readCondition mode p.head).map fun r => .clause ⟨r.1, r.2, p.value⟩) = .ok p

theorem Part.Legible.fitsPart (h : p.Legible mode) : FitsPart p.render :=
  (fitsPart_append_colon h.head.closed).2 ⟨h.head, fitsPart_cons_space.2 h.value⟩

theorem Part.Legible.trim_render (h : p.Legible mode) :
    Text.trim p.render = p.head ++ ':' :: Text.trimRight (' ' :: p.value) := by
  have kept : Text.trimLeft p.head = p.head := by
    rw [← h.head_trim, Text.trimLeft_trim]
  rw [Part.render, Text.trim_append_cons (by decide), kept]

/-- A legible part is read back. -/
theorem Part.Legible.readPart (h : p.Legible mode) : readPart mode (Text.trim p.render) = .ok p := by
  have head : Text.trimRight p.head = p.head := by
    rw [← h.head_trim, Text.trimRight_trim]
  have value : Text.trim (Text.trimRight (' ' :: p.value)) = p.value := by
    rw [Text.trim_trimRight, Text.trim_cons_of_blank (by decide), h.value_trim]
  rw [h.trim_render, readPart_append_colon h.head.closed h.colon, head, value, h.head_trim]
  exact h.read

theorem legible_otherwise (fits : FitsPart value) (value_trim : Text.trim value = value)
    (mode : Mode) : (Part.otherwise value).Legible mode where
  head := by
    change FitsPart elseWord
    exact fitsPart_of_word (by decide) (by decide)
  colon := by
    change (':', 0) ∉ outside none none 0 elseWord
    decide
  head_trim := rfl
  value := fits
  value_trim := value_trim
  read := rfl

/-- A condition that is written as a function and printed again. -/
theorem legible_function {kind : ConditionKind} (function : kind ≠ .literal) {expression : Text}
    (balanced : Balanced expression) (trimmed : Text.trim expression = expression)
    (fits : FitsPart value) (value_trim : Text.trim value = value) (mode : Mode) :
    (Part.clause ⟨kind, expression, value⟩).Legible mode := by
  have word : FitsPart kind.name ∧ (':', 0) ∉ outside none none 0 kind.name := by
    cases kind <;> exact ⟨fitsPart_of_word (by decide) (by decide), by decide⟩
  have shape : (Part.clause ⟨kind, expression, value⟩).head =
      kind.name ++ '(' :: (expression ++ [')']) := by
    cases kind with
    | literal => exact absurd rfl function
    | style | media | supports => rfl
  obtain ⟨⟨balancedWord, noSemicolon⟩, noColon⟩ := word
  have notElse : kind.name ++ '(' :: (expression ++ [')']) ≠ elseWord := by
    cases kind <;> simp [ConditionKind.name, elseWord]
  have condition : readCondition mode (kind.name ++ '(' :: (expression ++ [')'])) =
      .ok (kind, expression) := by
    simp only [readCondition, readFunction?_name function, balanced.cutParen? [], trimmed]
  refine ⟨?_, ?_, ?_, fits, value_trim, ?_⟩
  · rw [shape]
    exact ⟨balancedWord.call balanced,
      Scan.free_call isSeparator_semicolon balancedWord.closed noSemicolon balanced⟩
  · rw [shape]
    exact Scan.free_call isSeparator_colon balancedWord.closed noColon balanced
  · rw [shape, Text.trim_append_cons (by decide)]
    have last : Text.trimRight (expression ++ [')']) = expression ++ [')'] :=
      Text.trimRight_append_cons (by decide)
    rw [last]
    cases kind <;> rfl
  · rw [shape, if_neg notElse, condition]
    rfl

/-- What is read from a part that fits is legible. -/
theorem legible_of_readPart (fits : FitsPart part) (trimmed : Text.trim part = part)
    (read : readPart mode part = .ok p) : p.Legible mode := by
  obtain ⟨head, value, rfl, closed, free⟩ := exists_colon_of_readPart read
  obtain ⟨fitsHead, fitsValue⟩ := (fitsPart_append_colon closed).1 fits
  have fitsTrimmed : FitsPart (Text.trim value) := fitsPart_trim.2 fitsValue
  have value_trim : Text.trim (Text.trim value) = Text.trim value := Text.trim_trim value
  have head_trim : Text.trim head = Text.trimRight head := by
    have kept : Text.trimLeft (head ++ ':' :: value) = head ++ ':' :: value := by
      rw [← trimmed, Text.trimLeft_trim]
    rw [Text.trimLeft_append_cons (by decide)] at kept
    rw [Text.trim, List.append_cancel_right kept]
  rw [readPart_append_colon closed free] at read
  split at read
  · cases read
    exact legible_otherwise fitsTrimmed value_trim mode
  · rename_i notElse
    cases condition : readCondition mode (Text.trim head) with
    | error e =>
      rw [condition] at read
      cases read
    | ok r =>
      rw [condition] at read
      cases read
      rcases readCondition_eq_ok condition with ⟨-, -, rfl⟩ | ⟨rest, inside, function, cut, isInside⟩
      · obtain ⟨same, -⟩ := Scan.sameScan_trim head none 0
        refine ⟨fitsPart_trim.2 fitsHead, ?_, Text.trim_trim head, fitsTrimmed, value_trim, ?_⟩
        · change (':', 0) ∉ outside none none 0 (Text.trim head)
          rw [same]
          exact free
        · change (if Text.trim head = elseWord then _ else
            (readCondition mode (Text.trim head)).map _) = _
          rw [if_neg (head_trim ▸ notElse), condition]
          rfl
      · obtain ⟨kind, expression⟩ := r
        have isInside : expression = Text.trim inside := isInside
        subst isInside
        exact legible_function (ne_literal_of_readFunction? function)
          (Scan.balanced_trim.2 (Scan.balanced_of_cutParen? cut)) (Text.trim_trim inside)
          fitsTrimmed value_trim mode

/-- The parts of what is read from a balanced content are legible. -/
theorem legible_of_mem_toParts (h : Balanced content) (read : parse mode content = .ok c)
    (member : p ∈ c.toParts) : p.Legible mode := by
  have fromPart : ∃ part ∈ parts content, readPart mode part = .ok p := by
    rcases List.mem_append.1 member with inClauses | isElse
    · obtain ⟨clause, isClause, rfl⟩ := List.mem_map.1 inClauses
      exact exists_part_of_mem_clauses read isClause
    · obtain ⟨value, isValue, rfl⟩ := List.mem_map.1 isElse
      exact exists_part_of_otherwise read (Option.mem_toList.1 isValue)
  obtain ⟨part, inParts, readPart⟩ := fromPart
  obtain ⟨fits, trimmed⟩ := fitsPart_of_mem_parts h inParts
  exact legible_of_readPart fits trimmed readPart

/-! ### Contents -/

/-- The stretches between the semicolons of texts that are joined with a semicolon and a space. -/
def stretches : List Text → List Text
  | [] => []
  | first :: rest => first :: rest.map (' ' :: ·)

theorem joinWith_eq_stretches (texts : List Text) :
    Text.joinWith [';', ' '] texts = [';'].intercalate (stretches texts) := by
  unfold Text.joinWith
  cases texts with
  | nil => rfl
  | cons first rest =>
    have spaced (t : Text) (l : List Text) :
        [';'].intercalate ((' ' :: t) :: l) = ' ' :: [';'].intercalate (t :: l) := by
      cases l <;> simp
    induction rest generalizing first with
    | nil => rfl
    | cons second rest ih =>
      rw [List.intercalate_cons_cons, ih second, stretches, stretches, List.map_cons,
        List.intercalate_cons_cons, spaced]
      simp

theorem fitsPart_of_mem_stretches {texts : List Text} (h : ∀ t ∈ texts, FitsPart t) :
    ∀ t ∈ stretches texts, FitsPart t := by
  intro t member
  cases texts with
  | nil => exact absurd member List.not_mem_nil
  | cons first rest =>
    rcases List.mem_cons.1 member with rfl | later
    · exact h t List.mem_cons_self
    · obtain ⟨t', inRest, rfl⟩ := List.mem_map.1 later
      exact fitsPart_cons_space.2 (h t' (List.mem_cons_of_mem _ inRest))

theorem map_trim_stretches (texts : List Text) :
    (stretches texts).map Text.trim = texts.map Text.trim := by
  cases texts with
  | nil => rfl
  | cons first rest =>
    have spaced : Text.trim ∘ (' ' :: ·) = Text.trim :=
      funext fun _ => Text.trim_cons_of_blank (by decide)
    rw [stretches, List.map_cons, List.map_map, List.map_cons, spaced]

theorem balanced_intercalate {texts : List Text} (h : ∀ t ∈ texts, FitsPart t) :
    Balanced ([';'].intercalate texts) := by
  induction texts with
  | nil => exact ⟨rfl, fun d member => absurd member List.not_mem_nil⟩
  | cons first rest ih =>
    obtain ⟨fitsFirst, fitsRest⟩ := List.forall_mem_cons.1 h
    cases rest with
    | nil =>
      rw [List.intercalate_singleton]
      exact fitsFirst.toBalanced
    | cons second rest =>
      rw [List.intercalate_cons_cons, List.append_assoc, List.singleton_append,
        Scan.balanced_append_sep isSeparator_semicolon fitsFirst.closed]
      exact ⟨fitsFirst.toBalanced, ih fitsRest⟩

/-- Legible parts that are joined are the parts of what they are joined to. -/
theorem parts_joinWith {ps : List Part} (nonempty : ps ≠ []) (legible : ∀ p ∈ ps, p.Legible mode) :
    parts (Text.joinWith [';', ' '] (ps.map Part.render)) = ps.map fun p => Text.trim p.render := by
  have fits : ∀ t ∈ stretches (ps.map Part.render), FitsPart t := by
    apply fitsPart_of_mem_stretches
    intro t member
    obtain ⟨p, inParts, rfl⟩ := List.mem_map.1 member
    exact (legible p inParts).fitsPart
  have split : Scan.splitTopLevel (· == ';') (Text.joinWith [';', ' '] (ps.map Part.render)) =
      stretches (ps.map Part.render) := by
    rw [joinWith_eq_stretches]
    refine Scan.splitTopLevelFrom_intercalate isSeparator_semicolon ?_ (by decide)
      (fun t member => (fits t member).closed) fun t member => (fits t member).single
    cases ps with
    | nil => exact absurd rfl nonempty
    | cons p ps => exact List.cons_ne_nil _ _
  rw [parts, split, map_trim_stretches, List.map_map]
  refine List.filter_eq_self.2 fun t member => ?_
  obtain ⟨p, inParts, rfl⟩ := List.mem_map.1 member
  have shape : Text.trim p.render = _ := (legible p inParts).trim_render
  simp [shape]

theorem filterMap_clause?_toParts (c : Conditional) :
    c.toParts.filterMap Part.clause? = c.clauses := by
  have clauses : (Part.clause? ∘ Part.clause) = some := rfl
  have otherwise : (Part.clause? ∘ Part.otherwise) = fun _ => none := rfl
  rw [toParts, List.filterMap_append, List.filterMap_map, List.filterMap_map, clauses, otherwise]
  simp

theorem filterMap_otherwise?_toParts (c : Conditional) :
    c.toParts.filterMap Part.otherwise? = c.otherwise.toList := by
  have clauses : (Part.otherwise? ∘ Part.clause) = fun _ => none := rfl
  have otherwise : (Part.otherwise? ∘ Part.otherwise) = some := rfl
  rw [toParts, List.filterMap_append, List.filterMap_map, List.filterMap_map, clauses, otherwise]
  simp

/-- A conditional value with legible parts is read back. -/
theorem parse_render (nonempty : c.clauses ≠ []) (legible : ∀ p ∈ c.toParts, p.Legible mode) :
    parse mode (render c) = .ok c := by
  have some : c.toParts ≠ [] := by
    intro none
    rw [← filterMap_clause?_toParts, none] at nonempty
    exact nonempty rfl
  have read : (parts (render c)).mapM (readPart mode) = .ok c.toParts := by
    rw [render_eq_joinWith, parts_joinWith some legible]
    exact mapM_map_eq_ok fun p member => (legible p member).readPart
  unfold parse
  rw [read]
  change (if (c.toParts.filterMap Part.clause?).isEmpty = true then _ else _) = _
  rw [filterMap_clause?_toParts, if_neg (fun none => nonempty (List.isEmpty_iff.1 none))]
  change Except.ok _ = _
  rw [filterMap_otherwise?_toParts]
  obtain ⟨clauses, otherwise⟩ := c
  cases otherwise <;> rfl

theorem balanced_render (legible : ∀ p ∈ c.toParts, p.Legible mode) : Balanced (render c) := by
  rw [render_eq_joinWith, joinWith_eq_stretches]
  apply balanced_intercalate
  apply fitsPart_of_mem_stretches
  intro t member
  obtain ⟨p, inParts, rfl⟩ := List.mem_map.1 member
  exact (legible p inParts).fitsPart

end Conditional

/-! ### Calls -/

namespace Occurrence

theorem allFrom_of_length_le {before : Option Char} {pos skip : Nat} {t : Text}
    (h : t.length ≤ skip) : allFrom before pos skip t = [] := by
  induction t generalizing before pos skip with
  | nil => rfl
  | cons c t ih =>
    cases skip with
    | zero => cases h
    | succ skip => exact ih (Nat.le_of_succ_le_succ h)

/-- A balanced text in the parenthesis of a call is its content. -/
theorem allIn_call {content : Text} (h : Scan.Balanced content) :
    allIn (token ++ content ++ [')']) = [⟨0, content⟩] := by
  have candidate : isCandidate none ('i' :: 'f' :: '(' :: (content ++ [')'])) = true := by
    simp [isCandidate, token]
  have closed : Scan.cutParen? (content ++ [')']) = some (content, []) := h.cutParen? []
  have shape : token ++ content ++ [')'] = 'i' :: 'f' :: '(' :: (content ++ [')']) := by
    simp [token]
  rw [shape, allIn, allFrom]
  simp only [candidate, if_true, List.drop_succ_cons, List.drop_zero, closed]
  rw [allFrom_of_length_le]
  simp [token]

end Occurrence

namespace Conditional

/-- What a call of a text is read as is read again from what is printed for it, and that in a call of
    its own is the one call there. -/
theorem parse_render_of_found {s : Text} {o : Occurrence} (found : o ∈ Occurrence.allIn s)
    {mode : Mode} {c : Conditional} (read : parse mode o.content = .ok c) :
    parse mode (render c) = .ok c ∧
      Occurrence.allIn (Occurrence.token ++ render c ++ [')']) = [⟨0, render c⟩] ∧
      Occurrence.stop ⟨0, render c⟩ = (Occurrence.token ++ render c ++ [')']).length := by
  obtain ⟨-, isCall⟩ := (Occurrence.lists_allIn s).isCall o found
  have balanced : Scan.Balanced o.content := Scan.balanced_of_cutParen? isCall.cut
  have legible : ∀ p ∈ c.toParts, p.Legible mode := fun p => legible_of_mem_toParts balanced read
  obtain ⟨-, -, -, -, nonempty⟩ := parse_eq_ok read
  refine ⟨parse_render nonempty legible, Occurrence.allIn_call (balanced_render legible), ?_⟩
  simp only [Occurrence.stop, Occurrence.token, List.length_append, List.length_cons, List.length_nil]

/-- A content with separators in strings and parentheses, an empty value and an `else` in front. -/
def quotedParts : Text :=
  "else : ; style( --x: \"a;)\\\"b\" ): f(x;y:z) ;; 'q;\\'' : ".toList

theorem parse_render_of_found_quotedParts :
    let c : Conditional :=
      ⟨[⟨.style, "--x: \"a;)\\\"b\"".toList, "f(x;y:z)".toList⟩,
        ⟨.literal, "'q;\\''".toList, []⟩], some []⟩
    (⟨2, quotedParts⟩ ∈
        Occurrence.allIn (['0', ' '] ++ Occurrence.token ++ quotedParts ++ [')', ';']) ∧
      parse .literal quotedParts = .ok c ∧ render c ≠ quotedParts) ∧
    parse .literal (render c) = .ok c ∧
      Occurrence.allIn (Occurrence.token ++ render c ++ [')']) = [⟨0, render c⟩] ∧
      Occurrence.stop ⟨0, render c⟩ = (Occurrence.token ++ render c ++ [')']).length := by
  intro c
  have found : ⟨2, quotedParts⟩ ∈
      Occurrence.allIn (['0', ' '] ++ Occurrence.token ++ quotedParts ++ [')', ';']) := by
    decide +kernel
  have read : parse .literal quotedParts = .ok c := by decide +kernel
  exact ⟨⟨found, read, by decide +kernel⟩, parse_render_of_found found read⟩

end Conditional
end CondCss
