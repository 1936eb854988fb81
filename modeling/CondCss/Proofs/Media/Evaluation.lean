import Mathlib.Logic.Relation
import Mathlib.Tactic.TFAE
import CondCss.Host
import CondCss.Proofs.Media.NormalForm

/-!
# When the evaluation of a media query ends

A query is evaluated by asking its parts, and these are asked in the same way. Almost every part has
fewer characters that are no blanks than the query has in normal form. The exception is a first part
that lacks only the space at the end, which has the same normal form as the whole; the separator must
have been found behind that place, in a lower-case text that is longer than the query
(`smaller_or_same`). A query with such a part stalls: it asks itself. Nothing else can keep an
evaluation from ending (`evaluation_ends_iff`).
-/

namespace CondCss
namespace Text

/-- Only the capital I with a dot has a lower-case form of two characters. -/
theorem length_lower (s : Text) : (lower s).length = s.length + s.count 'İ' := by
  have after (before s : Text) : (lowerAfter before s).length = s.length + s.count 'İ' := by
    induction s generalizing before with
    | nil => rfl
    | cons c s ih =>
      rw [lowerAfter, List.length_append, ih, List.length_cons, List.count_cons]
      by_cases dotted : c = 'İ'
      · simp only [dotted, beq_self_eq_true, if_true, List.length_cons, List.length_nil]
        omega
      · have single : (c == 'İ') = false := beq_eq_false_iff_ne.2 dotted
        simp only [single, Bool.false_eq_true, if_false]
        split
        · simp only [List.length_singleton]
          omega
        · simp only [List.length_singleton]
          omega
  exact after [] s

end Text

namespace Media

variable {s part query : Text}

/-! ### Parts of a query -/

/-- How a text has been cut into parts: the first is what it begins with, and the others stand behind
    the character that follows. When there are others, a character that is no blank has been cut off
    with them, or a word was found that ends with the lower-case text at the latest. -/
inductive Cut (s : Text) : List Text → Prop where
  | mk {first rest : Text} {later : List Text} (shape : s = first ++ rest)
      (behind : ∀ part ∈ later, part <:+: rest.drop 1) (proper : later ≠ [] → rest ≠ [])
      (found : later ≠ [] → Text.ink rest ≠ [] ∨ first.length + 4 ≤ s.length + s.count 'İ') :
      Cut s (first :: later)

theorem drop_one_infix_append (front s : Text) : s.drop 1 <:+: (front ++ s).drop 1 := by
  cases front with
  | nil => exact List.infix_refl _
  | cons c front => exact ((List.drop_suffix 1 s).trans (List.suffix_append front s)).isInfix

theorem Cut.whole (s : Text) : Cut s [s] :=
  .mk (List.append_nil s).symm (by simp) (by simp) (by simp)

theorem Cut.isInfix {parts : List Text} (h : Cut s parts) (member : part ∈ parts) : part <:+: s := by
  obtain ⟨rfl, behind, -, -⟩ := h
  rcases List.mem_cons.1 member with rfl | later
  · exact (List.prefix_append _ _).isInfix
  · exact (behind part later).trans
      ((List.drop_suffix 1 _).trans (List.suffix_append _ _)).isInfix

/-- Parts can be cut once more. -/
theorem Cut.flatMap {parts : List Text} {cut : Text → List Text} (h : Cut s parts)
    (all : ∀ part, Cut part (cut part)) : Cut s (parts.flatMap cut) := by
  obtain @⟨first, rest, later, rfl, behind, proper, found⟩ := h
  rw [List.flatMap_cons]
  generalize cutFirst : cut first = pieces
  have inner := cutFirst ▸ all first
  obtain @⟨first, rest', later', rfl, behind', proper', found'⟩ := inner
  have inside : rest'.drop 1 <:+: (rest' ++ rest).drop 1 := by
    cases rest' with
    | nil => exact List.nil_infix
    | cons c rest' => exact (List.prefix_append _ _).isInfix
  have outside : rest.drop 1 <:+: (rest' ++ rest).drop 1 := drop_one_infix_append rest' rest
  have someLater (h : later' ++ later.flatMap cut ≠ []) : later' ≠ [] ∨ later ≠ [] := by
    by_contra neither
    obtain ⟨rfl, rfl⟩ := not_or.1 neither |>.imp not_not.1 not_not.1
    exact h rfl
  refine .mk (List.append_assoc _ _ _) (fun part member => ?_) (fun more => ?_) (fun more => ?_)
  · rcases List.mem_append.1 member with here | there
    · exact (behind' part here).trans inside
    · obtain ⟨whole, there, member⟩ := List.mem_flatMap.1 there
      exact ((all whole).isInfix member).trans ((behind whole there).trans outside)
  · rcases someLater more with more | more
    · exact fun empty => proper' more (List.append_eq_nil_iff.1 empty).1
    · exact fun empty => proper more (List.append_eq_nil_iff.1 empty).2
  · rw [Text.ink_append]
    rcases someLater more with more | more
    · rcases found' more with ink | bound
      · exact .inl fun empty => ink (List.append_eq_nil_iff.1 empty).1
      · refine .inr ?_
        have length : (first ++ rest' ++ rest).length = _ := List.length_append
        have count : (first ++ rest' ++ rest).count 'İ' = _ := List.count_append
        omega
    · rcases found more with ink | bound
      · exact .inl fun empty => ink (List.append_eq_nil_iff.1 empty).2
      · refine .inr ?_
        have length : (first ++ rest').length = _ := List.length_append
        omega

theorem Cut.splitOnChar {sep : Char} (hsep : Text.isBlank sep = false) (s : Text) :
    Cut s (Text.splitOnChar sep s) := by
  induction s with
  | nil => exact Cut.whole []
  | cons c s ih =>
    rw [Text.splitOnChar]
    by_cases here : c = sep
    · rw [if_pos (beq_iff_eq.2 here), here]
      refine .mk rfl (fun part member => ih.isInfix member) (by simp) (fun _ => .inl ?_)
      rw [Text.ink_cons_of_not_blank hsep]
      simp
    · rw [if_neg fun same => here (beq_iff_eq.1 same)]
      generalize Text.splitOnChar sep s = pieces at ih
      obtain ⟨rfl, behind, proper, found⟩ := ih
      refine .mk rfl behind proper fun more => (found more).imp_right fun bound => ?_
      rw [List.length_cons, List.length_cons, List.count_cons]
      omega

/-- The pieces between the words found, where a piece that a word follows ends within the text, and the
    word within its lower-case form. -/
theorem splitWordFrom_eq_cons {token : Text} (nonempty : 0 < token.length) (depth : Int) (skip : Nat)
    (s low : Text) :
    ∃ first rest later, splitWordFrom token depth skip s low = first :: later ∧
      s.drop skip = first ++ rest ∧ (∀ piece ∈ later, piece <:+: rest.drop 1) ∧
      (later ≠ [] → rest ≠ [] ∧ first.length + token.length + skip ≤ low.length) := by
  induction s generalizing depth skip low with
  | nil => exact ⟨[], [], [], by simp [splitWordFrom]⟩
  | cons c s ih =>
    have onward (depth : Int) :
        ∃ first rest later,
          Text.consHead c (splitWordFrom token depth 0 s (low.drop 1)) = first :: later ∧
          c :: s = first ++ rest ∧ (∀ piece ∈ later, piece <:+: rest.drop 1) ∧
          (later ≠ [] → rest ≠ [] ∧ first.length + token.length + 0 ≤ low.length) := by
      obtain ⟨first, rest, later, pieces, shape, behind, found⟩ := ih depth 0 (low.drop 1)
      rw [List.drop_zero] at shape
      refine ⟨c :: first, rest, later, by rw [pieces]; rfl, by rw [shape]; rfl, behind, ?_⟩
      intro more
      obtain ⟨proper, bound⟩ := found more
      rw [List.length_drop] at bound
      refine ⟨proper, ?_⟩
      rw [List.length_cons]
      omega
    cases skip with
    | succ skip =>
      obtain ⟨first, rest, later, pieces, shape, behind, found⟩ := ih depth skip (low.drop 1)
      refine ⟨first, rest, later, by rw [splitWordFrom, pieces], shape, behind, ?_⟩
      intro more
      obtain ⟨proper, bound⟩ := found more
      rw [List.length_drop] at bound
      exact ⟨proper, by omega⟩
    | zero =>
      rw [splitWordFrom, List.drop_zero]
      split
      · exact onward (depth + 1)
      · split
        · exact onward (depth - 1)
        · split
          · rename_i isWord
            obtain ⟨first, rest, later, pieces, shape, behind, -⟩ :=
              ih depth (token.length - 1) (low.drop 1)
            have tail : s.drop (token.length - 1) <:+: s := (List.drop_suffix _ _).isInfix
            have start : token.length ≤ low.length :=
              (List.isPrefixOf_iff_prefix.1 (Bool.and_eq_true_iff.1 isWord).2).length_le
            refine ⟨[], c :: s, _, rfl, rfl, fun piece member => ?_, fun _ => ⟨by simp, ?_⟩⟩
            · rw [pieces] at member
              rw [shape] at tail
              rcases List.mem_cons.1 member with rfl | there
              · exact ((List.prefix_append _ _).isInfix).trans tail
              · exact ((behind piece there).trans
                  ((List.drop_suffix 1 _).trans (List.suffix_append _ _)).isInfix).trans tail
            · rw [List.length_nil]
              omega
          · exact onward depth

theorem Cut.splitWord {word : Text} (h : 2 ≤ word.length) (s : Text) : Cut s (splitWord word s) := by
  have long : 4 ≤ ([' '] ++ word ++ [' ']).length := by
    simp only [List.length_append, List.length_singleton]
    omega
  obtain ⟨first, rest, later, pieces, shape, behind, found⟩ :=
    splitWordFrom_eq_cons (Nat.lt_of_lt_of_le (by decide) long) 0 0 s (Text.lower s)
  rw [Media.splitWord, pieces]
  refine .mk shape behind (fun more => (found more).1) fun more => .inr ?_
  have bound := (found more).2
  rw [Text.length_lower] at bound
  omega

theorem Cut.alternatives (s : Text) : Cut s (alternatives s) :=
  (Cut.splitOnChar (by decide) s).flatMap fun part => Cut.splitWord (by decide) part

theorem Cut.conjuncts (s : Text) : Cut s (conjuncts s) :=
  Cut.splitWord (by decide) s

/-- The queries that a query asks to be evaluated. -/
def Shape.parts : Shape → List Text
  | .anyOf parts => parts
  | .allOf parts => parts
  | .negation part => [part]
  | .feature _ => []

/-- A part stands behind the first character, or it is what the query begins with. -/
theorem parts_shape (member : part ∈ (shape s).parts) :
    part <:+: s.drop 1 ∨
      (shape s).parts.head? = some part ∧ ∃ rest, s = part ++ rest ∧ rest ≠ [] ∧
        (Text.ink rest ≠ [] ∨ part.length + 4 ≤ s.length + s.count 'İ') := by
  have ofCut {parts : List Text} (cut : Cut s parts) (more : 1 < parts.length)
      (inParts : part ∈ parts) :
      part <:+: s.drop 1 ∨ parts.head? = some part ∧ ∃ rest, s = part ++ rest ∧ rest ≠ [] ∧
        (Text.ink rest ≠ [] ∨ part.length + 4 ≤ s.length + s.count 'İ') := by
    obtain @⟨first, rest, later, rfl, behind, proper, found⟩ := cut
    have others : later ≠ [] := by
      rintro rfl
      exact absurd more (by simp)
    rcases List.mem_cons.1 inParts with rfl | there
    · exact .inr ⟨rfl, rest, rfl, proper others, found others⟩
    · exact .inl ((behind part there).trans (drop_one_infix_append first rest))
  unfold shape at member ⊢
  split
  · rename_i more
    rw [if_pos more] at member
    exact ofCut (Cut.alternatives s) more member
  · rename_i single
    rw [if_neg single] at member
    split
    · rename_i more
      rw [if_pos more] at member
      exact ofCut (Cut.conjuncts s) more member
    · rename_i single'
      rw [if_neg single'] at member
      unfold negated? at member
      split at member
      · rename_i negation
        split at negation
        · cases negation
          obtain rfl := List.mem_singleton.1 member
          refine .inl (List.IsSuffix.isInfix ?_)
          rw [show s.drop 4 = (s.drop 1).drop 3 by rw [List.drop_drop]]
          exact List.drop_suffix 3 _
        · cases negation
      · cases member

/-- A part of a query in normal form has fewer characters that are no blanks, or it comes first and has
    the same normal form; then the lower-case text is longer than the query by three at least. -/
theorem smaller_or_same (member : part ∈ (shape (normalize query)).parts) :
    (Text.ink (normalize part)).length < (Text.ink (normalize query)).length ∨
      (shape (normalize query)).parts.head? = some part ∧ normalize part = normalize query ∧
        3 ≤ (normalize query).count 'İ' := by
  have shorter : (Text.ink (normalize part)).length ≤ (Text.ink part).length :=
    (ink_normalize part).length_le
  rcases parts_shape member with inner | ⟨first, rest, shape, proper, found⟩
  · -- The first character is no blank and is not in the part.
    refine .inl (Nat.lt_of_le_of_lt (shorter.trans (inner.sublist.filter _).length_le) ?_)
    cases nonempty : normalize query with
    | nil =>
      have noParts : (shape []).parts = [] := by decide
      rw [nonempty, noParts] at member
      cases member
    | cons c t =>
      rw [Text.ink_cons_of_not_blank (not_blank_of_normalize_cons nonempty)]
      exact Nat.lt_succ_self _
  · by_cases blank : Text.ink rest = []
    · obtain ⟨rfl, same⟩ := normalize_of_blank_end shape proper (Text.ink_eq_nil.1 blank)
      refine .inr ⟨first, same, ?_⟩
      have bound := found.resolve_left (not_not_intro blank)
      have length := congrArg List.length shape
      rw [List.length_append, List.length_singleton] at length
      omega
    · refine .inl (Nat.lt_of_le_of_lt shorter ?_)
      rw [shape, Text.ink_append, List.length_append]
      have : 0 < (Text.ink rest).length := List.length_pos_iff.2 blank
      omega

/-- One query asks for another. -/
def Asks (part query : Text) : Prop :=
  part ∈ (shape (normalize query)).parts

theorem all_smaller_or_same (query : Text) :
    (∀ part, Asks part query →
      (Text.ink (normalize part)).length < (Text.ink (normalize query)).length) ∨
      ∃ part, (shape (normalize query)).parts.head? = some part ∧ normalize part = normalize query := by
  by_cases all : ∀ part, Asks part query →
      (Text.ink (normalize part)).length < (Text.ink (normalize query)).length
  · exact .inl all
  · push Not at all
    obtain ⟨part, asks, notSmaller⟩ := all
    obtain ⟨first, same, -⟩ := (smaller_or_same asks).resolve_left (Nat.not_lt.2 notSmaller)
    exact .inr ⟨part, first, same⟩

/-- Characters that are no blanks come from the query. -/
theorem Asks.ink (h : Asks part query) : (Text.ink part).Sublist (Text.ink query) := by
  have inside : part <:+: normalize query := by
    rcases parts_shape h with inner | ⟨-, rest, shape, -⟩
    · exact inner.trans (List.drop_suffix 1 _).isInfix
    · rw [shape]
      exact (List.prefix_append _ _).isInfix
  exact (inside.sublist.filter _).trans (ink_normalize query)

/-- With fewer than three capitals that become two characters in lower case, the parts of the parts come
    to an end. -/
theorem acc_asks (few : query.count 'İ' < 3) : Acc Asks query := by
  induction size : (Text.ink (normalize query)).length using Nat.strong_induction_on
    generalizing query with
  | _ size ih =>
    subst size
    refine ⟨_, fun part asks => ?_⟩
    have fewer : part.count 'İ' < 3 := by
      rw [← Text.count_ink (by decide)] at few ⊢
      exact Nat.lt_of_le_of_lt (asks.ink.count_le _) few
    rcases smaller_or_same asks with smaller | ⟨-, -, many⟩
    · exact ih _ smaller fewer rfl
    · have bound := (ink_normalize query).count_le 'İ'
      rw [Text.count_ink (by decide), Text.count_ink (by decide)] at bound
      omega

end Media

namespace Host

open Media (Shape normalize)

variable {h : Host} {query part : Text}

/-! ### One level of an evaluation -/

/-- Whether some answer in a row is the one that decides; a missing answer before it is one for all. -/
def firstIs (stop : Bool) (ask : Text → Option Bool) : List Text → Option Bool
  | [] => some (!stop)
  | part :: parts =>
    match ask part with
    | some answer => if answer = stop then some stop else firstIs stop ask parts
    | none => none

theorem anyM_eq_firstIs (ask : Text → Option Bool) (parts : List Text) :
    parts.anyM ask = firstIs true ask parts := by
  induction parts with
  | nil => rfl
  | cons part parts ih =>
    rw [List.anyM_cons, firstIs]
    cases ask part with
    | none => rfl
    | some answer => cases answer <;> simp [ih]

theorem allM_eq_firstIs (ask : Text → Option Bool) (parts : List Text) :
    parts.allM ask = firstIs false ask parts := by
  induction parts with
  | nil => rfl
  | cons part parts ih =>
    rw [List.allM_cons, firstIs]
    cases ask part with
    | none => rfl
    | some answer => cases answer <;> simp [ih]

/-- The parts in a row that are asked: the first, and each one behind an answer that does not decide. -/
inductive InTurn (stop : Bool) (ask : Text → Option Bool) (part : Text) : List Text → Prop where
  | here {parts : List Text} : InTurn stop ask part (part :: parts)
  | there {earlier : Text} {parts : List Text} (goesOn : ask earlier = some (!stop))
      (later : InTurn stop ask part parts) : InTurn stop ask part (earlier :: parts)

theorem InTurn.mem {stop : Bool} {ask : Text → Option Bool} {parts : List Text}
    (turn : InTurn stop ask part parts) : part ∈ parts := by
  induction turn with
  | here => exact List.mem_cons_self
  | there _ _ ih => exact List.mem_cons_of_mem _ ih

/-- A row is answered when all that are asked answer. -/
theorem isSome_firstIs {stop : Bool} {ask : Text → Option Bool} {parts : List Text} :
    (firstIs stop ask parts).isSome ↔ ∀ part, InTurn stop ask part parts → (ask part).isSome := by
  induction parts with
  | nil => exact ⟨fun _ _ turn => (nomatch turn), fun _ => rfl⟩
  | cons first parts ih =>
    rw [firstIs]
    cases answered : ask first with
    | none =>
      refine ⟨fun absent => (nomatch absent), fun all => ?_⟩
      have asked := all first .here
      rw [answered] at asked
      cases asked
    | some answer =>
      by_cases decides : answer = stop
      · simp only [decides, if_true, Option.isSome_some, true_iff]
        rintro part (_ | ⟨goesOn, -⟩)
        · rw [answered]
          rfl
        · rw [answered, decides] at goesOn
          exact absurd (Option.some.inj goesOn) (by cases stop <;> decide)
      · have goesOn : ask first = some (!stop) := by
          rw [answered, Bool.eq_not.2 decides]
        simp only [decides, if_false, ih]
        constructor
        · rintro all part (_ | ⟨-, later⟩)
          · rw [answered]
            rfl
          · exact all part later
        · exact fun all part later => all part (.there goesOn later)

theorem firstIs_congr {stop : Bool} {ask ask' : Text → Option Bool} {parts : List Text}
    (same : ∀ part ∈ parts, ask part = ask' part) :
    firstIs stop ask parts = firstIs stop ask' parts := by
  induction parts with
  | nil => rfl
  | cons first parts ih =>
    rw [firstIs, firstIs, same first List.mem_cons_self,
      ih fun part member => same part (List.mem_cons_of_mem _ member)]

theorem firstIs_mono {stop answer : Bool} {ask ask' : Text → Option Bool} {parts : List Text}
    (more : ∀ part answer, ask part = some answer → ask' part = some answer)
    (answered : firstIs stop ask parts = some answer) : firstIs stop ask' parts = some answer := by
  induction parts with
  | nil => exact answered
  | cons first parts ih =>
    rw [firstIs] at answered ⊢
    split at answered
    · rename_i reply asked
      rw [more first reply asked]
      simp only
      split
      · rename_i decides
        rwa [if_pos decides] at answered
      · rename_i goesOn
        rw [if_neg goesOn] at answered
        exact ih answered
    · cases answered

/-- The answer to a query of some shape, given those to its parts. -/
def combine (h : Host) (ask : Text → Option Bool) : Shape → Option Bool
  | .anyOf parts => firstIs true ask parts
  | .allOf parts => firstIs false ask parts
  | .negation part => (ask part).map (!·)
  | .feature s => some (h.evaluateFeature s)

/-- The parts that are asked for an answer. -/
def Reached (ask : Text → Option Bool) (part : Text) : Shape → Prop
  | .anyOf parts => InTurn true ask part parts
  | .allOf parts => InTurn false ask part parts
  | .negation negated => part = negated
  | .feature _ => False

theorem Reached.mem {ask : Text → Option Bool} {shape : Shape} (reached : Reached ask part shape) :
    part ∈ shape.parts := by
  cases shape with
  | anyOf parts => exact InTurn.mem reached
  | allOf parts => exact InTurn.mem reached
  | negation negated => exact List.mem_singleton.2 reached
  | feature s => exact absurd reached id

/-- The first part is asked whatever the others answer. -/
theorem reached_of_head? {shape : Shape} (first : shape.parts.head? = some part)
    (ask : Text → Option Bool) : Reached ask part shape := by
  have inTurn {stop : Bool} {parts : List Text} (first : parts.head? = some part) :
      InTurn stop ask part parts := by
    obtain ⟨later, rfl⟩ := List.head?_eq_some_iff.1 first
    exact .here
  cases shape with
  | anyOf parts => exact inTurn first
  | allOf parts => exact inTurn first
  | negation negated => exact (Option.some.inj first).symm
  | feature s => cases first

theorem isSome_combine {ask : Text → Option Bool} {shape : Shape} :
    (h.combine ask shape).isSome ↔ ∀ part, Reached ask part shape → (ask part).isSome := by
  cases shape with
  | anyOf parts => exact isSome_firstIs
  | allOf parts => exact isSome_firstIs
  | negation negated => simp [combine, Reached]
  | feature s => simp [combine, Reached]

theorem combine_congr {ask ask' : Text → Option Bool} {shape : Shape}
    (same : ∀ part ∈ shape.parts, ask part = ask' part) :
    h.combine ask shape = h.combine ask' shape := by
  cases shape with
  | anyOf parts => exact firstIs_congr same
  | allOf parts => exact firstIs_congr same
  | negation negated => rw [combine, combine, same negated (List.mem_singleton.2 rfl)]
  | feature s => rfl

theorem combine_mono {answer : Bool} {ask ask' : Text → Option Bool} {shape : Shape}
    (more : ∀ part answer, ask part = some answer → ask' part = some answer)
    (answered : h.combine ask shape = some answer) : h.combine ask' shape = some answer := by
  cases shape with
  | anyOf parts => exact firstIs_mono more answered
  | allOf parts => exact firstIs_mono more answered
  | negation negated =>
    obtain ⟨reply, asked, rfl⟩ := Option.map_eq_some_iff.1 answered
    rw [combine, more negated reply asked]
    rfl
  | feature s => exact answered

/-- The answer to a query in normal form, given those to other queries. -/
def answerBy (h : Host) (ask : Text → Option Bool) (s : Text) : Option Bool :=
  match h.overrides.lookup s with
  | some answer => some answer
  | none => h.combine ask (Media.shape s)

theorem evaluateWithin_succ (fuel : Nat) (query : Text) :
    h.evaluateWithin (fuel + 1) query = h.answerBy (h.evaluateWithin fuel) (normalize query) := by
  simp only [evaluateWithin, answerBy]
  cases h.overrides.lookup (normalize query) with
  | some answer => rfl
  | none =>
    cases Media.shape (normalize query) with
    | anyOf parts => exact anyM_eq_firstIs _ parts
    | allOf parts => exact allM_eq_firstIs _ parts
    | negation part => rfl
    | feature s => rfl

theorem answerBy_congr {ask ask' : Text → Option Bool}
    (same : ∀ part, Media.Asks part query → ask part = ask' part) :
    h.answerBy ask (normalize query) = h.answerBy ask' (normalize query) := by
  rw [answerBy, answerBy, combine_congr same]

theorem answerBy_mono {s : Text} {answer : Bool} {ask ask' : Text → Option Bool}
    (more : ∀ part answer, ask part = some answer → ask' part = some answer)
    (answered : h.answerBy ask s = some answer) : h.answerBy ask' s = some answer := by
  unfold answerBy at answered ⊢
  split at answered
  · exact answered
  · exact combine_mono more answered

theorem answerBy_eq_none {s : Text} {ask : Text → Option Bool} (unfixed : h.overrides.lookup s = none)
    (first : (Media.shape s).parts.head? = some part) (unanswered : ask part = none) :
    h.answerBy ask s = none := by
  rw [answerBy, unfixed, ← Option.not_isSome_iff_eq_none, isSome_combine]
  intro all
  have answered := all part (reached_of_head? first ask)
  rw [unanswered] at answered
  cases answered

/-! ### How deep an evaluation goes -/

theorem evaluateWithin_normalize {query' : Text} (same : normalize query = normalize query')
    (fuel : Nat) : h.evaluateWithin fuel query = h.evaluateWithin fuel query' := by
  cases fuel with
  | zero => rfl
  | succ fuel => rw [evaluateWithin_succ, evaluateWithin_succ, same]

/-- No depth is enough for a query whose first part has the same normal form. -/
theorem evaluateWithin_eq_none (unfixed : h.overrides.lookup (normalize query) = none)
    (first : (Media.shape (normalize query)).parts.head? = some part)
    (same : normalize part = normalize query) (fuel : Nat) : h.evaluateWithin fuel query = none := by
  induction fuel with
  | zero => rfl
  | succ fuel ih =>
    rw [evaluateWithin_succ]
    refine answerBy_eq_none unfixed first ?_
    rw [evaluateWithin_normalize same, ih]

/-- The characters that are no blanks count the levels: what is not answered within so many is not
    answered deeper down. -/
theorem evaluateWithin_eq {fuel fuel' : Nat} (deep : (Text.ink (normalize query)).length < fuel)
    (deep' : (Text.ink (normalize query)).length < fuel') :
    h.evaluateWithin fuel query = h.evaluateWithin fuel' query := by
  induction fuel generalizing fuel' query with
  | zero => exact absurd deep (Nat.not_lt_zero _)
  | succ fuel ih =>
    obtain ⟨fuel', rfl⟩ := Nat.exists_eq_add_one_of_ne_zero (Nat.ne_zero_of_lt deep')
    cases unfixed : h.overrides.lookup (normalize query) with
    | some answer => rw [evaluateWithin_succ, evaluateWithin_succ, answerBy, answerBy, unfixed]
    | none =>
      rcases Media.all_smaller_or_same query with smaller | ⟨part, first, same⟩
      · rw [evaluateWithin_succ, evaluateWithin_succ]
        refine answerBy_congr fun part asks => ih ?_ ?_
        · have := smaller part asks
          omega
        · have := smaller part asks
          omega
      · rw [evaluateWithin_eq_none unfixed first same, evaluateWithin_eq_none unfixed first same]

theorem evaluate?_eq_evaluateWithin {fuel : Nat}
    (deep : (Text.ink (normalize query)).length < fuel) :
    h.evaluate? query = h.evaluateWithin fuel query := by
  refine evaluateWithin_eq ?_ deep
  have bound := (Media.ink_normalize query).length_le
  rw [Text.length_ink query] at bound
  omega

/-- The answer to a query is put together from the answers to its parts. -/
theorem evaluate?_eq (h : Host) (query : Text) :
    h.evaluate? query = h.answerBy h.evaluate? (normalize query) := by
  cases unfixed : h.overrides.lookup (normalize query) with
  | some answer =>
    rw [evaluate?_eq_evaluateWithin (Nat.lt_succ_self _), evaluateWithin_succ, answerBy, answerBy,
      unfixed]
  | none =>
    rcases Media.all_smaller_or_same query with smaller | ⟨part, first, same⟩
    · rw [evaluate?_eq_evaluateWithin (Nat.lt_succ_self _), evaluateWithin_succ]
      exact answerBy_congr fun part asks => (evaluate?_eq_evaluateWithin (smaller part asks)).symm
    · rw [answerBy_eq_none unfixed first ?_]
      · exact evaluateWithin_eq_none unfixed first same _
      · exact evaluateWithin_eq_none (same ▸ unfixed) (same ▸ first) rfl _

/-- If any depth is enough, that of the evaluation is. -/
theorem evaluate?_of_evaluateWithin {fuel : Nat} {answer : Bool}
    (answered : h.evaluateWithin fuel query = some answer) : h.evaluate? query = some answer := by
  induction fuel generalizing query answer with
  | zero => cases answered
  | succ fuel ih =>
    rw [evaluateWithin_succ] at answered
    rw [evaluate?_eq]
    exact answerBy_mono (fun part reply => ih) answered

/-! ### Which evaluations end -/

/-- Evaluating one query evaluates another: there is no fixed answer, and none of the answers before
    decides. -/
def Calls (h : Host) (part query : Text) : Prop :=
  h.overrides.lookup (normalize query) = none ∧
    Reached h.evaluate? part (Media.shape (normalize query))

/-- A query whose evaluation begins with the same query again. -/
def Stalls (h : Host) (query : Text) : Prop :=
  ∃ part, h.Calls part query ∧ normalize part = normalize query

theorem Calls.asks (calls : h.Calls part query) : Media.Asks part query :=
  calls.2.mem

theorem Calls.smaller (calls : h.Calls part query) (moves : ¬h.Stalls query) :
    (Text.ink (normalize part)).length < (Text.ink (normalize query)).length :=
  (Media.smaller_or_same calls.asks).resolve_right fun same => moves ⟨part, calls, same.2.1⟩

theorem Stalls.not_acc (stalls : h.Stalls query) : ¬Acc h.Calls query := by
  obtain ⟨part, calls, same⟩ := stalls
  have again : h.Calls part part := by
    rw [Calls, same]
    exact calls
  intro acc
  have loop : ∀ other, Acc h.Calls other → other ≠ part := by
    intro other acc
    induction acc with
    | intro other _ ih =>
      rintro rfl
      exact ih other again rfl
  exact loop part (acc.inv calls) rfl

theorem Stalls.evaluate?_eq_none (stalls : h.Stalls query) : h.evaluate? query = none := by
  obtain ⟨part, calls, same⟩ := stalls
  rcases Media.smaller_or_same calls.asks with smaller | ⟨first, -⟩
  · rw [same] at smaller
    exact absurd smaller (Nat.lt_irrefl _)
  · exact evaluateWithin_eq_none calls.1 first same _

/-- A query is answered just if all that it calls are. -/
theorem isSome_evaluate?_iff :
    (h.evaluate? query).isSome ↔ ∀ part, h.Calls part query → (h.evaluate? part).isSome := by
  rw [evaluate?_eq h query, answerBy]
  cases unfixed : h.overrides.lookup (normalize query) with
  | some answer => simp [Calls, unfixed]
  | none =>
    rw [isSome_combine]
    simp [Calls, unfixed]

theorem acc_iff_isSome (h : Host) (query : Text) :
    Acc h.Calls query ↔ (h.evaluate? query).isSome := by
  constructor
  · intro acc
    induction acc with
    | intro query _ ih => exact isSome_evaluate?_iff.2 ih
  · induction size : (Text.ink (normalize query)).length using Nat.strong_induction_on
      generalizing query with
    | _ size ih =>
      subst size
      intro answered
      have moves : ¬h.Stalls query := fun stalls => by
        rw [stalls.evaluate?_eq_none] at answered
        cases answered
      exact ⟨_, fun part calls =>
        ih _ (calls.smaller moves) part rfl (isSome_evaluate?_iff.1 answered part calls)⟩

theorem acc_iff_moves (h : Host) (query : Text) :
    Acc h.Calls query ↔ ∀ part, Relation.ReflTransGen h.Calls part query → ¬h.Stalls part := by
  constructor
  · intro acc part path
    have partAcc : Acc h.Calls part := by
      induction path using Relation.ReflTransGen.head_induction_on with
      | refl => exact acc
      | head calls _ laterAcc => exact laterAcc.inv calls
    exact fun stalls => stalls.not_acc partAcc
  · induction size : (Text.ink (normalize query)).length using Nat.strong_induction_on
      generalizing query with
    | _ size ih =>
      subst size
      intro moves
      refine ⟨_, fun part calls => ih _ (calls.smaller (moves query .refl)) part rfl fun other path => ?_⟩
      exact moves other (path.tail calls)

/-- The evaluation of a media query ends, and with an answer, unless it comes to a query that stalls.
    With fewer than three capitals that become two characters in lower case it ends on every host, and
    would even if all parts were asked. -/
theorem evaluation_ends_iff (h : Host) (query : Text) :
    [Acc h.Calls query,
      ∃ answer, h.evaluate? query = some answer,
      ∃ fuel answer, h.evaluateWithin fuel query = some answer,
      ∀ part, Relation.ReflTransGen h.Calls part query → ¬h.Stalls part].TFAE ∧
      (query.count 'İ' < 3 → Acc Media.Asks query ∧ Acc h.Calls query) := by
  constructor
  · tfae_have 1 ↔ 2 := by
      rw [acc_iff_isSome, Option.isSome_iff_exists]
    tfae_have 2 → 3 := fun ⟨answer, answered⟩ => ⟨_, answer, answered⟩
    tfae_have 3 → 2 := fun ⟨_, answer, answered⟩ => ⟨answer, evaluate?_of_evaluateWithin answered⟩
    tfae_have 1 ↔ 4 := acc_iff_moves h query
    tfae_finish
  · intro few
    have asks := Media.acc_asks few
    exact ⟨asks, Subrelation.accessible (fun calls => Calls.asks calls) asks⟩

theorem evaluation_ends_of_plain_query :
    "not all and (hover)".toList.count 'İ' < 3 ∧ Acc Media.Asks "not all and (hover)".toList :=
  ⟨by decide, ((evaluation_ends_iff {} "not all and (hover)".toList).2 (by decide)).1⟩

/-- A query that stalls. Its lower-case text is six characters longer, which puts the word `or` where
    the space at the end of the query is. -/
theorem evaluation_of_itself :
    ({} : Host).Calls "not İİİİİİ or b:".toList "not İİİİİİ or b:".toList ∧
      ¬WellFounded ({} : Host).Calls ∧
      (∀ fuel, ({} : Host).evaluateWithin fuel "not İİİİİİ or b:".toList = none) ∧
      ({} : Host).evaluate? "not İİİİİİ".toList = some true := by
  have normal : normalize "not İİİİİİ or b:".toList = "not İİİİİİ or b: ".toList :=
    Media.peel_of_unwrap?_eq_none (by decide)
  have parts : Media.shape "not İİİİİİ or b: ".toList = .anyOf ["not İİİİİİ or b:".toList, []] := by
    decide +kernel
  have calls : ({} : Host).Calls "not İİİİİİ or b:".toList "not İİİİİİ or b:".toList := by
    refine ⟨rfl, ?_⟩
    rw [normal, parts]
    exact .here
  refine ⟨calls, fun wellFounded => ?_, fun fuel => ?_, ?_⟩
  · exact Stalls.not_acc ⟨_, calls, rfl⟩ (wellFounded.apply _)
  · refine evaluateWithin_eq_none rfl ?_ rfl fuel
    rw [normal, parts]
    rfl
  · have alternative : normalize "not İİİİİİ".toList = "not İİİİİİ".toList :=
      Media.peel_of_unwrap?_eq_none (by decide)
    have negation : Media.shape "not İİİİİİ".toList = .negation "İİİİİİ".toList := by decide +kernel
    have negated : normalize "İİİİİİ".toList = "İİİİİİ".toList :=
      Media.peel_of_unwrap?_eq_none (by decide)
    have feature : Media.shape "İİİİİİ".toList = .feature "İİİİİİ".toList := by decide +kernel
    rw [evaluate?_eq, alternative, answerBy, negation]
    change (evaluate? {} "İİİİİİ".toList).map (!·) = some true
    rw [evaluate?_eq, negated, answerBy, feature]
    decide +kernel

end Host
end CondCss
