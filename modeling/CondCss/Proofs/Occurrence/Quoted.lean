import Mathlib.Data.List.Basic
import CondCss.Proofs.Occurrence.Extraction
import CondCss.Proofs.Scan.Strings

/-!
# Calls and strings

Calls are looked for without regard to strings, and the scan for the end of a call begins as if no
string were open. A call that starts outside strings ends outside strings, so when all calls that are
found start there, every string stands as a whole in one of them or in one of the gaps between them
(`spaced_of_outside`), and replacing the calls leaves those in the gaps as they are
(`inOrder_weave`). When no string of a text holds a call, and no backslash stands outside strings, all
calls start outside strings (`PlainAfter.quoteAt`).
-/

namespace CondCss
namespace Occurrence

open Scan

variable {s t : Text} {c : Char} {pos : Nat} {o : Occurrence}

/-! ### Texts that stand in another one -/

/-- Texts stand in another text, one behind the other. -/
inductive InOrder : List Text → Text → Prop where
  | nil {t : Text} : InOrder [] t
  | cons {text rest : Text} {texts : List Text} (front : Text) :
    InOrder texts rest → InOrder (text :: texts) (front ++ (text ++ rest))

theorem InOrder.append_left {texts : List Text} (h : InOrder texts t) (front : Text) :
    InOrder texts (front ++ t) := by
  cases h with
  | nil => exact .nil
  | cons front' later =>
    rw [← List.append_assoc]
    exact .cons _ later

theorem InOrder.append {texts texts' : List Text} (h : InOrder texts s) (h' : InOrder texts' t) :
    InOrder (texts ++ texts') (s ++ t) := by
  induction h with
  | nil => exact h'.append_left _
  | cons front _ ih =>
    rw [List.append_assoc, List.append_assoc]
    exact .cons front ih

theorem inOrder_stringsFrom (before : Option Char) (quote : Option Quote) (t : Text) :
    (quote = none → InOrder (stringsFrom before quote t) t) ∧
      (quote.isSome = true → ∃ text texts rest, stringsFrom before quote t = text :: texts ∧
        t = text ++ rest ∧ InOrder texts rest) := by
  induction t generalizing before quote with
  | nil =>
    constructor
    · rintro rfl
      exact .nil
    · intro opened
      exact ⟨[], [], [], by simp [stringsFrom, opened], rfl, .nil⟩
  | cons c t ih =>
    obtain ⟨closed, opened⟩ := ih (some c) (Quote.next before c quote)
    rw [stringsFrom]
    cases next : Quote.next before c quote with
    | some q =>
      rw [next] at opened
      obtain ⟨text, texts, rest, shape, rfl, later⟩ := opened rfl
      simp only [Option.isSome_some, if_true, shape, Text.consHead]
      exact ⟨fun _ => .cons [] later, fun _ => ⟨c :: text, texts, rest, rfl, rfl, later⟩⟩
    | none =>
      rw [next] at closed
      have later := closed rfl
      constructor
      · rintro rfl
        exact later.append_left [c]
      · intro wasOpen
        simp only [wasOpen, Option.isSome_none, Bool.false_eq_true, if_false, if_true]
        exact ⟨[c], _, t, rfl, rfl, later⟩

theorem inOrder_strings (t : Text) : InOrder (strings t) t :=
  (inOrder_stringsFrom none none t).1 rfl

/-- Whatever stands between them, gaps keep what stands in them. -/
theorem inOrder_weave {texts : Text → List Text} (inside : ∀ gap, InOrder (texts gap) gap)
    {gaps fills : List Text} (fewer : fills.length < gaps.length) :
    InOrder (gaps.flatMap texts) (weave gaps fills) := by
  induction gaps generalizing fills with
  | nil => exact absurd fewer (Nat.not_lt_zero _)
  | cons gap gaps ih =>
    cases fills with
    | nil =>
      have flat : weave (gap :: gaps) [] = gap ++ gaps.flatten := by simp [weave]
      rw [List.flatMap_cons, flat]
      refine (inside gap).append ?_
      clear fewer ih flat
      induction gaps with
      | nil => exact .nil
      | cons gap gaps ih => exact (inside gap).append ih
    | cons fill fills =>
      rw [List.flatMap_cons, weave, List.append_assoc]
      exact (inside gap).append ((ih (Nat.lt_of_succ_lt_succ fewer)).append_left fill)

/-! ### Gaps and calls -/

/-- Gaps with calls between them, where no gap in front of a call leaves a string open and every call
    ends where its parenthesis is closed. -/
inductive Spaced : (gaps : List Text) → (calls : List Occurrence) → Prop where
  | last (gap : Text) : Spaced [gap] []
  | call {gap : Text} {gaps : List Text} {o : Occurrence} {calls : List Occurrence}
    (closed : (endOf none none 0 gap).1 = none) (balanced : Balanced o.content)
    (later : Spaced gaps calls) : Spaced (gap :: gaps) (o :: calls)

theorem IsCall.balanced (h : IsCall s o) : Balanced o.content :=
  balanced_of_cutParen? h.cut

theorem fullText_eq_cons (o : Occurrence) :
    o.fullText = 'i' :: 'f' :: '(' :: (o.content ++ [')']) := by
  simp [fullText, token]

/-- A call leaves no string open. -/
theorem endOf_fullText (balanced : Balanced o.content) (before : Option Char) (depth : Int) :
    (endOf before none depth o.fullText).1 = none := by
  have word (before : Option Char) (c : Char) (depth : Int) (rest : Text)
      (hc : Quote.ofChar? c = none) :
      (endOf before none depth (c :: rest)).1 = (endOf (some c) none 0 rest).1 := by
    rw [endOf, Quote.next_of_ofChar?_eq_none hc]
    exact endOf_depth _ _ _ _ _
  have content : endOf (some '(') none 0 o.content = (none, 0) := by
    rw [endOf_before (by decide)]
    exact balanced.closed
  rw [fullText_eq_cons, word _ _ _ _ (by decide), word _ _ _ _ (by decide),
    word _ _ _ _ (by decide), endOf_append_cons (by decide) content]
  rfl

theorem take_stop (h : IsCall s o) : s.take o.stop = s.take o.start ++ o.fullText := by
  have length : o.start + o.fullText.length = o.stop := by
    have := start_lt_stop o
    rw [length_fullText]
    omega
  rw [← length, List.take_add, h.drop_start, List.take_left]

/-- A call that starts outside strings stops outside strings. -/
theorem quoteAt_stop (h : IsCall s o) (outside : quoteAt s o.start = none) :
    quoteAt s o.stop = none := by
  rw [quoteAt_eq_endOf] at outside ⊢
  rw [take_stop h, endOf_append, outside]
  exact endOf_fullText h.balanced _ _

theorem spaced_gapsFrom {calls : List Occurrence} (isCall : ∀ o ∈ calls, pos ≤ o.start ∧ IsCall s o)
    (ordered : calls.Pairwise fun a b => a.stop ≤ b.start)
    (outside : ∀ o ∈ calls, quoteAt s o.start = none) (here : quoteAt s pos = none)
    (unescaped : charAfter none (s.take pos) ≠ some '\\') :
    Spaced (gapsFrom s pos calls) calls := by
  induction calls generalizing pos with
  | nil => exact .last _
  | cons o calls ih =>
    obtain ⟨⟨behind, first⟩, others⟩ := List.forall_mem_cons.1 isCall
    obtain ⟨firstOutside, othersOutside⟩ := List.forall_mem_cons.1 outside
    obtain ⟨later, ordered⟩ := List.pairwise_cons.1 ordered
    have closed : (endOf none none 0 ((s.drop pos).take (o.start - pos))).1 = none := by
      have whole : s.take o.start = s.take pos ++ (s.drop pos).take (o.start - pos) := by
        rw [← List.take_add, Nat.add_sub_cancel' behind]
      rw [quoteAt_eq_endOf] at here
      rw [quoteAt_eq_endOf, whole, endOf_append, here, endOf_before unescaped] at firstOutside
      rw [endOf_depth _ _ _ (endOf none none 0 (s.take pos)).2]
      exact firstOutside
    refine .call closed first.balanced (ih (fun o' member => ⟨later o' member, (others o' member).2⟩)
      ordered othersOutside (quoteAt_stop first firstOutside) ?_)
    have ends : o.fullText = (token ++ o.content) ++ [')'] := rfl
    rw [take_stop first, ends, ← List.append_assoc, charAfter_concat]
    decide

/-- When all calls found start outside strings, the gaps between them leave none open. -/
theorem spaced_of_outside (outside : ∀ o ∈ allIn s, quoteAt s o.start = none) :
    Spaced (gapsFrom s 0 (allIn s)) (allIn s) :=
  spaced_gapsFrom (lists_allIn s).isCall (lists_allIn s).pairwise outside rfl (by simp [charAfter])

/-- Gaps, and what stands between them, in turn. -/
def stretches : (gaps fills : List Text) → List Text
  | gap :: gaps, fill :: fills => gap :: fill :: stretches gaps fills
  | gaps, _ => gaps

theorem stringsFrom_call (balanced : Balanced o.content) (before : Option Char) (t : Text) :
    stringsFrom before none (o.fullText ++ t) = strings o.content ++ strings t := by
  have content : (endOf none none 0 o.content).1 = none := by rw [balanced.closed]
  rw [fullText_eq_cons]
  change stringsFrom before none ('i' :: 'f' :: '(' :: ((o.content ++ [')']) ++ t)) = _
  rw [stringsFrom_cons (by decide) (by decide), strings, stringsFrom_cons (by decide) (by decide),
    strings, stringsFrom_cons (by decide) (by decide), List.append_assoc, List.singleton_append,
    strings_append_cons (by decide) (by decide) content]

theorem strings_fullText (balanced : Balanced o.content) :
    strings o.fullText = strings o.content := by
  have alone := stringsFrom_call balanced none []
  rw [List.append_nil] at alone
  exact alone.trans (List.append_nil _)

/-- Each string stands as a whole in a gap or in a call. -/
theorem Spaced.strings_weave {gaps : List Text} {calls : List Occurrence} (h : Spaced gaps calls) :
    strings (weave gaps (calls.map fullText)) =
      (stretches gaps (calls.map fullText)).flatMap strings := by
  induction h with
  | last gap => simp [weave, stretches]
  | call closed balanced _ ih =>
    rw [List.map_cons, weave, stretches, List.flatMap_cons, List.flatMap_cons, ← ih, strings,
      List.append_assoc, stringsFrom_append closed, stringsFrom_call balanced,
      strings_fullText balanced]
    rfl

/-! ### Plain texts -/

/-- No string of a text behind some character holds a call, and no backslash stands outside strings. -/
structure PlainAfter (before : Option Char) (t : Text) : Prop where
  quiet : ∀ text ∈ stringsFrom before none t, anyIn text = false
  unescaped : '\\' ∉ (outside before none 0 t).map Prod.fst

/-- No string of a text holds a call, and no backslash stands outside strings. -/
abbrev Plain (t : Text) : Prop :=
  PlainAfter none t

theorem plainAfter_before {before : Option Char} (h : before ≠ some '\\') :
    PlainAfter before t ↔ Plain t := by
  constructor
  · rintro ⟨quiet, unescaped⟩
    rw [stringsFrom_before h] at quiet
    rw [outside_before h] at unescaped
    exact ⟨quiet, unescaped⟩
  · rintro ⟨quiet, unescaped⟩
    rw [← stringsFrom_before h] at quiet
    rw [← outside_before h] at unescaped
    exact ⟨quiet, unescaped⟩

theorem plainAfter_append {before : Option Char} (closed : (endOf before none 0 s).1 = none) :
    PlainAfter before (s ++ t) ↔ PlainAfter before s ∧ PlainAfter (charAfter before s) t := by
  have sameStrings := stringsFrom_append closed t
  have sameOutside : (outside before none 0 (s ++ t)).map Prod.fst =
      (outside before none 0 s).map Prod.fst ++
        (outside (charAfter before s) none 0 t).map Prod.fst := by
    rw [outside_append, closed, List.map_append,
      outside_depth (charAfter before s) none (endOf before none 0 s).2 0]
  constructor
  · rintro ⟨quiet, unescaped⟩
    rw [sameStrings] at quiet
    rw [sameOutside, List.mem_append, not_or] at unescaped
    exact ⟨⟨fun text member => quiet text (List.mem_append_left _ member), unescaped.1⟩,
      ⟨fun text member => quiet text (List.mem_append_right _ member), unescaped.2⟩⟩
  · rintro ⟨first, second⟩
    refine ⟨fun text member => ?_, ?_⟩
    · rw [sameStrings] at member
      exact (List.mem_append.1 member).elim (first.quiet text) (second.quiet text)
    · rw [sameOutside, List.mem_append, not_or]
      exact ⟨first.unescaped, second.unescaped⟩

theorem plainAfter_cons (hc : Quote.ofChar? c = none) (plain : some c ≠ some '\\')
    (before : Option Char) : PlainAfter before (c :: t) ↔ Plain t := by
  have alone : PlainAfter before [c] := by
    refine ⟨?_, ?_⟩
    · simp [stringsFrom, Quote.next_of_ofChar?_eq_none hc]
    · have differs : '\\' ≠ c := fun same => plain (by rw [same])
      simp only [outside, List.append_nil, mark]
      split
      · exact List.not_mem_nil
      · simpa using differs
  have closed : (endOf before none 0 [c]).1 = none := Quote.next_of_ofChar?_eq_none hc before none
  rw [← List.singleton_append, plainAfter_append closed]
  exact (and_iff_right alone).trans (plainAfter_before plain)

theorem plain_append_cons (hc : Quote.ofChar? c = none) (plain : some c ≠ some '\\')
    (closed : (endOf none none 0 s).1 = none) : Plain (s ++ c :: t) ↔ Plain s ∧ Plain t :=
  (plainAfter_append closed).trans (and_congr_right fun _ => plainAfter_cons hc plain _)

theorem plain_nil : Plain [] :=
  ⟨by simp [stringsFrom], by simp [outside]⟩

/-- A plain text in which every string ends does not end with a backslash. -/
theorem PlainAfter.charAfter_ne {before : Option Char} (h : PlainAfter before s)
    (closed : (endOf before none 0 s).1 = none) (unescaped : before ≠ some '\\') :
    charAfter before s ≠ some '\\' := by
  obtain rfl | ⟨front, c, rfl⟩ := List.eq_nil_or_concat' s
  · exact unescaped
  · rw [charAfter_concat]
    rintro ⟨rfl⟩
    apply h.unescaped
    have noQuote : Quote.ofChar? '\\' = none := by decide
    rw [endOf_append, endOf, Quote.next_of_ofChar?_eq_none noQuote] at closed
    have front : (endOf before none 0 front).1 = none := closed
    rw [outside_append, front, List.map_append, outside, mark_eq_singleton ?_ (by decide)]
    · simp
    · simp [Quote.next_of_ofChar?_eq_none noQuote]

theorem plain_append (closed : (endOf none none 0 s).1 = none) :
    Plain (s ++ t) ↔ Plain s ∧ Plain t :=
  (plainAfter_append closed).trans
    (and_congr_right fun plain => plainAfter_before (plain.charAfter_ne closed (by decide)))

theorem plainAfter_call (balanced : Balanced o.content) (before : Option Char) (t : Text) :
    PlainAfter before (o.fullText ++ t) ↔ Plain o.content ∧ Plain t := by
  have content : (endOf none none 0 o.content).1 = none := by rw [balanced.closed]
  rw [fullText_eq_cons]
  change PlainAfter before ('i' :: 'f' :: '(' :: ((o.content ++ [')']) ++ t)) ↔ _
  calc PlainAfter before ('i' :: 'f' :: '(' :: ((o.content ++ [')']) ++ t))
    _ ↔ Plain ('f' :: '(' :: ((o.content ++ [')']) ++ t)) :=
      plainAfter_cons (by decide) (by decide) before
    _ ↔ Plain ('(' :: ((o.content ++ [')']) ++ t)) := plainAfter_cons (by decide) (by decide) none
    _ ↔ Plain ((o.content ++ [')']) ++ t) := plainAfter_cons (by decide) (by decide) none
    _ ↔ Plain o.content ∧ Plain t := by
      rw [List.append_assoc, List.singleton_append,
        plain_append_cons (by decide) (by decide) content]

theorem plain_fullText (balanced : Balanced o.content) : Plain o.fullText ↔ Plain o.content := by
  have alone := plainAfter_call balanced none []
  rw [List.append_nil] at alone
  exact alone.trans (and_iff_left plain_nil)

/-- A text is plain when all its gaps and calls are. -/
theorem Spaced.plain_weave {gaps : List Text} {calls : List Occurrence} (h : Spaced gaps calls)
    (plain : Plain (weave gaps (calls.map fullText))) :
    (∀ gap ∈ gaps, Plain gap) ∧ ∀ o ∈ calls, Plain o.content := by
  induction h with
  | last gap => simpa [weave] using plain
  | call closed balanced _ ih =>
    rw [List.map_cons, weave, List.append_assoc] at plain
    obtain ⟨gap, behind⟩ := (plainAfter_append closed).1 plain
    obtain ⟨content, later⟩ := (plainAfter_call balanced _ _).1 behind
    obtain ⟨gaps, calls⟩ := ih later
    exact ⟨List.forall_mem_cons.2 ⟨gap, gaps⟩, List.forall_mem_cons.2 ⟨content, calls⟩⟩

/-- Plain texts that leave no string open can stand between plain gaps. -/
theorem Spaced.plain_fill {gaps : List Text} {calls : List Occurrence} (h : Spaced gaps calls)
    (plain : ∀ gap ∈ gaps, Plain gap) {fill : Occurrence → Text}
    (filled : ∀ o ∈ calls, (endOf none none 0 (fill o)).1 = none ∧ Plain (fill o)) :
    Plain (weave gaps (calls.map fill)) := by
  induction h with
  | last gap => simpa [weave] using plain
  | call closed _ _ ih =>
    obtain ⟨gap, gaps⟩ := List.forall_mem_cons.1 plain
    obtain ⟨⟨ends, here⟩, others⟩ := List.forall_mem_cons.1 filled
    rw [List.map_cons, weave, List.append_assoc]
    exact (plain_append closed).2 ⟨gap, (plain_append ends).2 ⟨here, ih gaps others⟩⟩

/-! ### Calls in strings -/

theorem stringsFrom_token {quote : Option Quote} (opened : quote.isSome = true) (before : Option Char)
    (t : Text) :
    ∃ text texts, stringsFrom before quote (token ++ t) = (token ++ text) :: texts := by
  obtain ⟨text, texts, shape⟩ :=
    List.exists_cons_of_ne_nil (stringsFrom_ne_nil opened (some '(') t)
  refine ⟨text, texts, ?_⟩
  have letter (c : Char) (hc : Quote.ofChar? c = none) (before : Option Char) (t : Text) :
      stringsFrom before quote (c :: t) = Text.consHead c (stringsFrom (some c) quote t) := by
    rw [stringsFrom, Quote.next_of_ofChar?_eq_none hc]
    exact if_pos opened
  change stringsFrom before quote ('i' :: 'f' :: '(' :: t) = _
  rw [letter _ (by decide), letter _ (by decide), letter _ (by decide), shape]
  rfl

/-- A call that starts where a string is open is one of that string. -/
theorem exists_of_isCandidate {before : Option Char} {quote : Option Quote} {depth : Int}
    (opened : (endOf before quote depth s).1.isSome = true)
    (call : isCandidate (charAfter before s) t = true) :
    (quote = none → ∃ text ∈ stringsFrom before quote (s ++ t), anyIn text = true) ∧
      (quote.isSome = true → ∃ text texts, stringsFrom before quote (s ++ t) = text :: texts ∧
        (startsAfter before text = true ∨ ∃ text' ∈ texts, anyIn text' = true)) := by
  induction s generalizing before quote depth with
  | nil =>
    have isOpen : quote.isSome = true := opened
    refine ⟨fun closed => ?_, fun _ => ?_⟩
    · rw [closed] at isOpen
      cases isOpen
    · obtain ⟨letters, noName⟩ := Bool.and_eq_true_iff.1 call
      obtain ⟨rest, rfl⟩ := List.isPrefixOf_iff_prefix.1 letters
      obtain ⟨text, texts, shape⟩ := stringsFrom_token isOpen before rest
      have starts : isCandidate before (token ++ text) = true :=
        Bool.and_eq_true_iff.2 ⟨List.isPrefixOf_iff_prefix.2 (List.prefix_append _ _), noName⟩
      refine ⟨token ++ text, texts, shape, .inl ?_⟩
      change (isCandidate before (token ++ text) || _) = true
      rw [starts, Bool.true_or]
  | cons c s ih =>
    obtain ⟨closed, inString⟩ := ih opened call
    rw [List.cons_append, stringsFrom]
    cases next : Quote.next before c quote with
    | none =>
      rw [next] at closed
      obtain ⟨text, member, found⟩ := closed rfl
      constructor
      · rintro rfl
        exact ⟨text, member, found⟩
      · intro wasOpen
        simp only [wasOpen, Option.isSome_none, Bool.false_eq_true, if_false, if_true]
        exact ⟨[c], _, rfl, .inr ⟨text, member, found⟩⟩
    | some q =>
      rw [next] at inString
      obtain ⟨text, texts, shape, found⟩ := inString rfl
      simp only [Option.isSome_some, if_true, shape, Text.consHead]
      have onward (before : Option Char) (here : startsAfter (some c) text = true) :
          startsAfter before (c :: text) = true := by
        rw [startsAfter, here, Bool.or_true]
      constructor
      · intro _
        rcases found with here | ⟨text', member, found⟩
        · exact ⟨c :: text, List.mem_cons_self, onward none here⟩
        · exact ⟨text', List.mem_cons_of_mem _ member, found⟩
      · intro _
        exact ⟨c :: text, texts, rfl, found.imp_left (onward before)⟩

/-- In a plain text calls start outside strings. -/
theorem PlainAfter.quoteAt (h : Plain s) (starts : StartsAt s pos) : quoteAt s pos = none := by
  by_contra inString
  rw [quoteAt_eq_endOf, ← ne_eq, ← Option.isSome_iff_ne_none] at inString
  have inside : pos ≤ s.length := by
    by_contra beyond
    have letters := starts.1
    rw [List.drop_eq_nil_of_le (by omega)] at letters
    cases letters
  have call := isCandidate_iff.2 starts
  rw [← charAfter_take inside] at call
  obtain ⟨text, member, found⟩ := (exists_of_isCandidate inString call).1 rfl
  rw [List.take_append_drop] at member
  rw [h.quiet text member] at found
  cases found

end Occurrence
end CondCss
