import CondCss.Proofs.Conditional.RoundTrip
import CondCss.Proofs.Expand.Blocks
import CondCss.Proofs.Media.Canonical
import CondCss.Proofs.Media.Evaluation

/-!
# Conjunctions of media queries

The header of a block asks for several expressions at once: each in parentheses, with the word `and`
between them (`Expand.conjunction`). A host reads the query by looking for commas anywhere, and for the
words `or` and `and` where no parenthesis is open. It finds the expressions again
(`shape_conjunction`), and so answers with their conjunction (`isMatch_conjunction`), as long as they have
no commas, their parentheses are paired even if those in strings are counted, and no expression but the
last has a capital that becomes two characters in lower case. `conjunctions_misread` has a conjunction
for each of the three conditions that is answered otherwise.
-/

namespace CondCss

/-! ### Lower case, place by place -/

namespace Text

/-- Behind a stretch in which every character has a lower-case form of one character, the lower-case
    text goes on at the same place. -/
theorem drop_lowerAfter {t : Text} (single : 'İ' ∉ t) (before rest : Text) :
    (lowerAfter before (t ++ rest)).drop t.length = lowerAfter (t.reverse ++ before) rest := by
  induction t generalizing before with
  | nil => rfl
  | cons c t ih =>
    rw [List.mem_cons, not_or] at single
    obtain ⟨form, shape⟩ : ∃ form, lowerAfter before (c :: (t ++ rest)) =
        form :: lowerAfter (c :: before) (t ++ rest) := by
      rw [lowerAfter]
      simp only [beq_iff_eq, Ne.symm single.1, if_false]
      split
      · exact ⟨_, rfl⟩
      · exact ⟨_, rfl⟩
    rw [List.cons_append, shape, List.length_cons, List.drop_succ_cons, ih single.2]
    simp

theorem splitOnChar_of_not_mem {sep : Char} {t : Text} (h : sep ∉ t) : splitOnChar sep t = [t] := by
  induction t with
  | nil => rfl
  | cons c t ih =>
    rw [List.mem_cons, not_or] at h
    rw [splitOnChar, if_neg (by simpa using Ne.symm h.1), ih h.2]
    rfl

end Text

/-! ### Expressions in parentheses -/

namespace Expand

open Media (normalize settle)

theorem tidy_conjunction (e : Text) (es : List Text) :
    Text.tidy (conjunction (e :: es)) = conjunction ((e :: es).map Text.collapse) := by
  obtain ⟨tail, opens⟩ := conjunction_cons e es
  obtain ⟨front, ends⟩ := conjunction_concat e es
  have left : Text.trimLeft (conjunction (e :: es)) = conjunction (e :: es) := by
    rw [opens, Text.trimLeft_of_not_blank (by decide)]
  have right : Text.trimRight (conjunction (e :: es)) = conjunction (e :: es) := by
    rw [ends, Text.trimRight_append_cons (by decide)]
    rfl
  rw [Text.tidy, Text.trim, left, right, collapse_conjunction]

theorem spaceColons_conjunction (es : List Text) :
    Media.spaceColons (conjunction es) = conjunction (es.map Media.spaceColons) := by
  refine conjunction_map rfl (by decide) ?_ es
  intro c member t rest
  rcases List.mem_pair.1 member with rfl | rfl
  · exact Media.spaceColons_append_cons (by decide) (by decide) t rest
  · exact Media.spaceColons_append_cons (by decide) (by decide) t rest

/-- A conjunction of several expressions keeps its parentheses. -/
theorem normalize_conjunction {e : Text} (balanced : Scan.Balanced e) (e' : Text) (es : List Text) :
    normalize (conjunction (e :: e' :: es)) = conjunction ((e :: e' :: es).map settle) := by
  have spaced : Media.spaced (conjunction (e :: e' :: es)) =
      conjunction ((e :: e' :: es).map settle) := by
    change Media.spaceColons (Text.tidy _) = _
    rw [tidy_conjunction, spaceColons_conjunction, List.map_map]
    rfl
  have bare : Media.unwrap? (conjunction ((e :: e' :: es).map settle)) = none := by
    rw [List.map_cons, List.map_cons, conjunction_cons_cons, Media.unwrap?,
      (Media.balanced_settle.2 balanced).cutParen?]
    rfl
  rw [Media.normalize_eq_peel, spaced, Media.peel_of_unwrap?_eq_none bare]

/-- In parentheses, an expression has the normal form of what stands for it in a conjunction. -/
theorem normalize_paren_settle (e : Text) :
    normalize ('(' :: (settle e ++ [')'])) = normalize ('(' :: (e ++ [')'])) := by
  rw [Media.normalize_eq_peel, Media.normalize_eq_peel, Media.spaced_paren, Media.spaced_paren,
    Media.settle_settle]

end Expand

/-! ### Splitting at words -/

namespace Media

variable {token e t rest low : Text} {n m : Nat}

/-- How many parentheses are open behind a text, in strings or not. One that closes nothing has no
    answer. -/
def nesting? (n : Nat) : Text → Option Nat
  | [] => some n
  | c :: rest =>
    if c = '(' then nesting? (n + 1) rest
    else if c = ')' then if n = 0 then none else nesting? (n - 1) rest
    else nesting? n rest

/-- A text whose parentheses are paired when those in strings are counted like the others. -/
def Paired (t : Text) : Prop :=
  nesting? 0 t = some 0

instance (t : Text) : Decidable (Paired t) :=
  inferInstanceAs (Decidable (_ = _))

theorem nesting?_ink (n : Nat) (t : Text) : nesting? n (Text.ink t) = nesting? n t := by
  induction t generalizing n with
  | nil => rfl
  | cons c t ih =>
    cases hc : Text.isBlank c with
    | true =>
      have opening : c ≠ '(' := Scan.ne_of_blank hc (by decide)
      have closing : c ≠ ')' := Scan.ne_of_blank hc (by decide)
      rw [Text.ink_cons_of_blank hc, ih, nesting?, if_neg opening, if_neg closing]
    | false =>
      rw [Text.ink_cons_of_not_blank hc, nesting?, nesting?]
      split
      · exact ih _
      · split
        · split
          · rfl
          · exact ih (n - 1)
        · exact ih n

theorem paired_settle : Paired (settle t) ↔ Paired t := by
  rw [Paired, Paired, ← nesting?_ink, ink_settle, nesting?_ink]

theorem mem_settle {c : Char} (h : Text.isBlank c = false) : c ∈ settle t ↔ c ∈ t := by
  have mem_ink (t : Text) : c ∈ Text.ink t ↔ c ∈ t := by simp [Text.ink, h]
  rw [← mem_ink, ink_settle, mem_ink]

/-- No word is found as long as parentheses are open. -/
theorem splitWordFrom_inside {first : Text} {later : List Text} (inside : nesting? n t = some m)
    (behind : splitWordFrom token (m + 1) 0 rest (low.drop t.length) = first :: later) :
    splitWordFrom token (n + 1) 0 (t ++ rest) low = (t ++ first) :: later := by
  induction t generalizing n low with
  | nil =>
    cases inside
    exact behind
  | cons c t ih =>
    rw [List.length_cons, Nat.add_comm, ← List.drop_drop] at behind
    rw [nesting?] at inside
    rw [List.cons_append, splitWordFrom]
    by_cases opening : c = '('
    · rw [if_pos opening] at inside
      rw [if_pos (beq_iff_eq.2 opening)]
      have depth : (n : Int) + 1 + 1 = ((n + 1 : Nat) : Int) + 1 := by omega
      rw [depth, ih inside behind]
      rfl
    · rw [if_neg opening] at inside
      rw [if_neg (by simpa using opening)]
      by_cases closing : c = ')'
      · rw [if_pos closing] at inside
        rw [if_pos (beq_iff_eq.2 closing)]
        cases n with
        | zero => cases inside
        | succ n =>
          have depth : ((n + 1 : Nat) : Int) + 1 - 1 = n + 1 := by omega
          rw [if_neg (Nat.succ_ne_zero n)] at inside
          rw [depth, ih (n := n) inside behind]
          rfl
      · rw [if_neg closing] at inside
        have deep : ((n : Int) + 1 == 0) = false := by
          rw [beq_eq_false_iff_ne]
          omega
        rw [if_neg (by simpa using closing), deep, Bool.false_and, if_neg Bool.false_ne_true,
          ih inside behind]
        rfl

/-- A text in parentheses is passed over. -/
theorem splitWordFrom_paren {first : Text} {later : List Text} (paired : Paired e)
    (behind : splitWordFrom token 0 0 rest (low.drop (e.length + 2)) = first :: later) :
    splitWordFrom token 0 0 ('(' :: (e ++ ')' :: rest)) low = ('(' :: (e ++ ')' :: first)) :: later := by
  have closing : splitWordFrom token 1 0 (')' :: rest) ((low.drop 1).drop e.length) =
      (')' :: first) :: later := by
    rw [List.drop_drop, splitWordFrom]
    change Text.consHead ')' (splitWordFrom token 0 0 rest ((low.drop (1 + e.length)).drop 1)) = _
    rw [List.drop_drop, show 1 + e.length + 1 = e.length + 2 by omega, behind]
    rfl
  have inside := splitWordFrom_inside (n := 0) paired closing
  rw [splitWordFrom]
  change Text.consHead '(' (splitWordFrom token 1 0 (e ++ ')' :: rest) (low.drop 1)) = _
  rw [show (1 : Int) = ((0 : Nat) : Int) + 1 from rfl, inside]
  rfl

/-- A text in parentheses with nothing behind it is one piece. -/
theorem splitWordFrom_paren_nil (paired : Paired e) (low : Text) :
    splitWordFrom token 0 0 ('(' :: (e ++ [')'])) low = ['(' :: (e ++ [')'])] := by
  have behind : splitWordFrom token 0 0 [] (low.drop (e.length + 2)) = [[]] := rfl
  exact splitWordFrom_paren paired behind

open Expand (conjunction conjunction_singleton conjunction_cons conjunction_cons_cons)

/-- The lower-case text behind an expression in parentheses. -/
theorem drop_lowerAfter_paren (single : 'İ' ∉ e) (before rest : Text) :
    ∃ before', (Text.lowerAfter before ('(' :: (e ++ ')' :: rest))).drop (e.length + 2) =
      Text.lowerAfter before' rest := by
  have single' : 'İ' ∉ '(' :: (e ++ [')']) := by simp [single]
  have shape : '(' :: (e ++ ')' :: rest) = '(' :: (e ++ [')']) ++ rest := by simp
  have length : ('(' :: (e ++ [')'])).length = e.length + 2 := by simp
  rw [shape, ← length]
  exact ⟨_, Text.drop_lowerAfter single' before rest⟩

/-- The lower-case text of the word between two expressions. -/
theorem lowerAfter_and (before e : Text) (es : List Text) :
    ∃ before' rest,
      Text.lowerAfter before ([' ', 'a', 'n', 'd', ' '] ++ conjunction (e :: es)) =
        [' ', 'a', 'n', 'd', ' '] ++ Text.lowerAfter before' (conjunction (e :: es)) ∧
      Text.lowerAfter before' (conjunction (e :: es)) = '(' :: rest := by
  obtain ⟨tail, opens⟩ := conjunction_cons e es
  rw [opens]
  exact ⟨' ' :: 'd' :: 'n' :: 'a' :: ' ' :: before, _, rfl, rfl⟩

/-- The expressions are found between the words `and`. -/
theorem splitWordFrom_and_conjunction (before : Text) {es : List Text} (some : es ≠ [])
    (paired : ∀ e ∈ es, Paired e) (single : ∀ e ∈ es.dropLast, 'İ' ∉ e) :
    splitWordFrom [' ', 'a', 'n', 'd', ' '] 0 0 (conjunction es)
      (Text.lowerAfter before (conjunction es)) = es.map fun e => '(' :: (e ++ [')']) := by
  induction es generalizing before with
  | nil => exact absurd rfl some
  | cons e es ih =>
    obtain ⟨pairedHere, pairedLater⟩ := List.forall_mem_cons.1 paired
    cases es with
    | nil =>
      rw [conjunction_singleton, splitWordFrom_paren_nil pairedHere]
      rfl
    | cons e' es =>
      obtain ⟨singleHere, singleLater⟩ := List.forall_mem_cons.1 single
      rw [conjunction_cons_cons]
      obtain ⟨before', behind⟩ := drop_lowerAfter_paren singleHere before
        ([' ', 'a', 'n', 'd', ' '] ++ conjunction (e' :: es))
      obtain ⟨before'', rest, word, -⟩ := lowerAfter_and before' e' es
      have later := ih before'' (List.cons_ne_nil _ _) pairedLater singleLater
      have here : splitWordFrom [' ', 'a', 'n', 'd', ' '] 0 0
          ([' ', 'a', 'n', 'd', ' '] ++ conjunction (e' :: es))
          ([' ', 'a', 'n', 'd', ' '] ++ Text.lowerAfter before'' (conjunction (e' :: es))) =
            [] :: (e' :: es).map fun e => '(' :: (e ++ [')']) := by
        rw [← later]
        rfl
      rw [← word, ← behind] at here
      exact splitWordFrom_paren pairedHere here

/-- And no alternatives are found. -/
theorem splitWordFrom_or_conjunction (before : Text) {es : List Text} (some : es ≠ [])
    (paired : ∀ e ∈ es, Paired e) (single : ∀ e ∈ es.dropLast, 'İ' ∉ e) :
    splitWordFrom [' ', 'o', 'r', ' '] 0 0 (conjunction es)
      (Text.lowerAfter before (conjunction es)) = [conjunction es] := by
  induction es generalizing before with
  | nil => exact absurd rfl some
  | cons e es ih =>
    obtain ⟨pairedHere, pairedLater⟩ := List.forall_mem_cons.1 paired
    cases es with
    | nil =>
      rw [conjunction_singleton]
      exact splitWordFrom_paren_nil pairedHere _
    | cons e' es =>
      obtain ⟨singleHere, singleLater⟩ := List.forall_mem_cons.1 single
      rw [conjunction_cons_cons]
      obtain ⟨before', behind⟩ := drop_lowerAfter_paren singleHere before
        ([' ', 'a', 'n', 'd', ' '] ++ conjunction (e' :: es))
      obtain ⟨before'', rest, word, opening⟩ := lowerAfter_and before' e' es
      have later := ih before'' (List.cons_ne_nil _ _) pairedLater singleLater
      refine splitWordFrom_paren pairedHere ?_
      rw [behind, word]
      rw [opening] at later ⊢
      simp [splitWordFrom, later, Text.consHead]

theorem not_mem_conjunction {es : List Text} (h : ∀ e ∈ es, ',' ∉ e) : ',' ∉ conjunction es := by
  induction es with
  | nil => exact List.not_mem_nil
  | cons e es ih =>
    obtain ⟨here, later⟩ := List.forall_mem_cons.1 h
    cases es with
    | nil => simp [conjunction_singleton, here]
    | cons e' es => simp [conjunction_cons_cons, here, ih later]

/-- What the expressions of a conjunction must be like for it to be read as one. -/
structure Joinable (es : List Text) : Prop where
  comma : ∀ e ∈ es, ',' ∉ e
  paired : ∀ e ∈ es, Paired e
  single : ∀ e ∈ es.dropLast, 'İ' ∉ e

theorem Joinable.settle {es : List Text} (h : Joinable es) : Joinable (es.map settle) where
  comma := by simpa [mem_settle (c := ',') (by decide)] using h.comma
  paired := by simpa [paired_settle] using h.paired
  single := by
    intro e member
    rw [← List.map_dropLast] at member
    obtain ⟨e', inFront, rfl⟩ := List.mem_map.1 member
    rw [mem_settle (by decide)]
    exact h.single e' inFront

/-- How a conjunction is put together. -/
theorem shape_conjunction {es : List Text} (several : 2 ≤ es.length) (h : Joinable es) :
    shape (conjunction es) = .allOf (es.map fun e => '(' :: (e ++ [')'])) := by
  have some : es ≠ [] := by
    rintro rfl
    exact absurd several (by decide)
  have whole : alternatives (conjunction es) = [conjunction es] := by
    rw [alternatives, Text.splitOnChar_of_not_mem (not_mem_conjunction h.comma),
      List.flatMap_singleton]
    exact splitWordFrom_or_conjunction [] some h.paired h.single
  have parts : conjuncts (conjunction es) = es.map fun e => '(' :: (e ++ [')']) :=
    splitWordFrom_and_conjunction [] some h.paired h.single
  rw [shape, whole, parts, if_neg (by simp), if_pos]
  rw [List.length_map]
  omega

end Media

/-! ### The answer to a conjunction -/

/-- What a condition on media can ask for: the expression of such a clause, read from a call that is
    found in some text. -/
def Conditional.IsMediaExpression (e : Text) : Prop :=
  ∃ (s : Text) (o : Occurrence) (mode : Mode) (c : Conditional) (clause : Clause),
    o ∈ Occurrence.allIn s ∧ parse mode o.content = .ok c ∧ clause ∈ c.clauses ∧
      clause.kind = .media ∧ clause.expression = e

theorem Conditional.IsMediaExpression.balanced {e : Text} (h : IsMediaExpression e) :
    Scan.Balanced e := by
  obtain ⟨_, _, mode, c, clause, -, read, member, media, rfl⟩ := h
  have function : clause.kind ≠ .literal := by
    rw [media]
    decide
  obtain ⟨closed, within⟩ := closed_expression read member function
  exact ⟨closed, within⟩

/-- Every balanced text without blanks at its ends is one. -/
theorem Conditional.isMediaExpression_of_balanced {e : Text} (balanced : Scan.Balanced e)
    (trimmed : Text.trim e = e) : IsMediaExpression e := by
  let c : Conditional := ⟨[⟨.media, e, []⟩], none⟩
  have legible : ∀ p ∈ c.toParts, p.Legible .strict := by
    intro p member
    rw [List.mem_singleton.1 member]
    exact legible_function (by decide) balanced trimmed (fitsPart_of_word rfl (by decide)) rfl .strict
  refine ⟨Occurrence.token ++ render c ++ [')'], ⟨0, render c⟩, .strict, c, ⟨.media, e, []⟩, ?_,
    parse_render (List.cons_ne_nil _ _) legible, List.mem_singleton.2 rfl, rfl, rfl⟩
  rw [Occurrence.allIn_call (balanced_render legible)]
  exact List.mem_singleton.2 rfl

namespace Host

open Media (normalize)
open Expand (conjunction expressionsOf)

variable {h : Host} {es : List Text}

theorem evaluate?_normalize {query query' : Text} (same : normalize query = normalize query')
    (h : Host) : h.evaluate? query = h.evaluate? query' := by
  rw [evaluate?_eq, evaluate?_eq h query', same]

theorem firstIs_map {stop : Bool} (ask : Text → Option Bool) (f : Text → Text) (parts : List Text) :
    firstIs stop ask (parts.map f) = firstIs stop (fun part => ask (f part)) parts := by
  induction parts with
  | nil => rfl
  | cons part parts ih => rw [List.map_cons, firstIs, firstIs, ih]

/-- When a missing answer counts as a no, all parts must say yes. -/
theorem getD_firstIs_false (ask : Text → Option Bool) (parts : List Text) :
    (firstIs false ask parts).getD false = parts.all fun part => (ask part).getD false := by
  induction parts with
  | nil => rfl
  | cons part parts ih =>
    rw [firstIs, List.all_cons, ← ih]
    cases ask part with
    | none => rfl
    | some answer => cases answer <;> rfl

/-- A conjunction asks its expressions in turn, up to the first that is answered with no. -/
theorem evaluate?_conjunction (several : 2 ≤ es.length) (balanced : ∀ e ∈ es, Scan.Balanced e)
    (joinable : Media.Joinable es) (unfixed : h.overrides.lookup (normalize (conjunction es)) = none) :
    h.evaluate? (conjunction es) =
      firstIs false (fun e => h.evaluate? ('(' :: (e ++ [')']))) es := by
  have normal : normalize (conjunction es) = conjunction (es.map Media.settle) := by
    match es, several with
    | e :: e' :: es, _ => exact Expand.normalize_conjunction (balanced e List.mem_cons_self) e' es
  have shape := Media.shape_conjunction (by rwa [List.length_map]) joinable.settle
  rw [evaluate?_eq, answerBy, unfixed, normal, shape, List.map_map]
  change firstIs false h.evaluate? (es.map _) = _
  rw [firstIs_map]
  refine firstIs_congr fun e _ => ?_
  exact evaluate?_normalize (Expand.normalize_paren_settle e) h

theorem isMatch_conjunction_eq_all (several : 2 ≤ es.length)
    (balanced : ∀ e ∈ es, Scan.Balanced e) (joinable : Media.Joinable es)
    (unfixed : h.overrides.lookup (normalize (conjunction es)) = none) :
    h.isMatch (conjunction es) = es.all fun e => h.isMatch ('(' :: (e ++ [')'])) := by
  rw [isMatch, evaluate?_conjunction several balanced joinable unfixed, getD_firstIs_false]
  rfl

theorem holds_media {clause : Clause} (answers : Oracle.matchMedia ∉ h.failing)
    (media : clause.kind = .media) (element : Option Text) :
    Condition.holds h element clause = h.isMatch ('(' :: (clause.expression ++ [')'])) := by
  rw [Condition.holds, media, ask_media answers]
  rfl

/-- The header of a block for several conditions on media means their conjunction, if its expressions
    can be joined: they are asked in turn, the query matches just if all of them do, and the block
    applies just if all the conditions hold. -/
theorem isMatch_conjunction (several : 2 ≤ es.length)
    (read : ∀ e ∈ es, Conditional.IsMediaExpression e) (joinable : Media.Joinable es)
    (unfixed : h.overrides.lookup (normalize (conjunction es)) = none) :
    h.evaluate? (conjunction es) =
        firstIs false (fun e => h.evaluate? ('(' :: (e ++ [')']))) es ∧
      h.isMatch (conjunction es) = (es.all fun e => h.isMatch ('(' :: (e ++ [')']))) ∧
      ∀ (keyword : Text) (clauses : List Clause) (element : Option Text),
        (expressionsOf .media clauses).eraseDups = es → .matchMedia ∉ h.failing →
        Expand.header keyword (expressionsOf .media clauses) = keyword ++ conjunction es ∧
        (h.isMatch (conjunction es) = true ↔
          ∀ clause ∈ clauses, clause.kind = .media → Condition.holds h element clause = true) := by
  have balanced : ∀ e ∈ es, Scan.Balanced e := fun e member => (read e member).balanced
  have all := isMatch_conjunction_eq_all several balanced joinable unfixed
  refine ⟨evaluate?_conjunction several balanced joinable unfixed, all, ?_⟩
  intro keyword clauses element expressions answers
  refine ⟨by rw [Expand.header_eq, expressions], ?_⟩
  rw [all, List.all_eq_true, ← expressions]
  simp only [List.mem_eraseDups, expressionsOf, List.mem_map, List.mem_filter, beq_iff_eq]
  constructor
  · intro allMatch clause member media
    rw [holds_media answers media]
    exact allMatch _ ⟨clause, ⟨member, media⟩, rfl⟩
  · rintro hold _ ⟨clause, ⟨member, media⟩, rfl⟩
    rw [← holds_media answers media element]
    exact hold clause member media

/-- Expressions with groups, words, a string, and a capital in the last one. -/
def mixedExpressions : List Text :=
  ["NOT (a:'b c') or (hover)".toList, "not İ".toList]

theorem isMatch_conjunction_mixed :
    (∀ e ∈ mixedExpressions, Conditional.IsMediaExpression e) ∧ Media.Joinable mixedExpressions ∧
      ({} : Host).overrides.lookup (normalize (conjunction mixedExpressions)) = none ∧
      ({} : Host).isMatch (conjunction mixedExpressions) =
        mixedExpressions.all fun e => ({} : Host).isMatch ('(' :: (e ++ [')'])) := by
  have balanced : ∀ e ∈ mixedExpressions, Scan.Balanced e ∧ Text.trim e = e := by decide
  have read : ∀ e ∈ mixedExpressions, Conditional.IsMediaExpression e := fun e member =>
    Conditional.isMediaExpression_of_balanced (balanced e member).1 (balanced e member).2
  have joinable : Media.Joinable mixedExpressions := ⟨by decide, by decide, by decide⟩
  exact ⟨read, joinable, rfl, (isMatch_conjunction (by decide) read joinable rfl).2.1⟩

/-- Expressions that all match, while their conjunction does not. -/
structure Misread (h : Host) (es : List Text) : Prop where
  read : ∀ e ∈ es, Conditional.IsMediaExpression e
  unfixed : h.overrides.lookup (normalize (conjunction es)) = none
  each : ∀ e ∈ es, h.isMatch ('(' :: (e ++ [')'])) = true
  joined : h.isMatch (conjunction es) = false

/-- Conjunctions are misread with a comma inside, with a parenthesis in a string, and with a capital that
    becomes two characters in lower case. -/
theorem conjunctions_misread :
    Misread {} ["screen, all".toList, "screen".toList] ∧
      Misread {} ["not a: ')'".toList, "screen".toList] ∧
      Misread {} ["not İ".toList, "screen".toList] := by
  have read {es : List Text} (balanced : ∀ e ∈ es, Scan.Balanced e ∧ Text.trim e = e) :
      ∀ e ∈ es, Conditional.IsMediaExpression e := fun e member =>
    Conditional.isMediaExpression_of_balanced (balanced e member).1 (balanced e member).2
  refine ⟨⟨read (by decide), rfl, ?_, ?_⟩, ⟨read (by decide), rfl, ?_, ?_⟩,
    ⟨read (by decide), rfl, ?_, ?_⟩⟩
  all_goals decide +kernel

end Host
end CondCss
