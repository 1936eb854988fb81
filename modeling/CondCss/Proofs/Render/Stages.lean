import Mathlib.Logic.Function.Iterate
import CondCss.Proofs.Conditional.Modes
import CondCss.Proofs.Expand.FirstMatch
import CondCss.Proofs.Occurrence.Replacement
import CondCss.Render

/-!
# Rendering in stages

One stage replaces every call of a text that can be read by its value on a host; what cannot be read
stays as it is. Resolving a text is to repeat this a fixed number of times (`resolve_text`): a stage
that changes nothing ends the passes, and repeating it would change nothing either.

The value of a call is the one that it has under the truth that the host gives to conditions
(`select_eq_valueUnder`). A call that is expanded in a style sheet is read without literals, and a page
would read it in the same way (`strict_reading_resolved`).
-/

namespace CondCss

/-- The truth of conditions on a host. A question without an answer counts as false. -/
def Host.truth (h : Host) : Truth :=
  fun kind expression => Condition.isYes (Condition.ask h none kind expression)

/-! ### The value of a call -/

theorem Condition.choose_value (h : Host) (clauses : List Clause) :
    (choose h none clauses).value = (clauses.find? (·.isTrue h.truth)).map (·.value) := by
  induction clauses with
  | nil => rfl
  | cons c clauses ih =>
    have test : c.isTrue h.truth = isYes (ask h none c.kind c.expression) := rfl
    rw [List.find?_cons, test]
    unfold choose
    cases ask h none c.kind c.expression with
    | error failure => exact ih
    | ok answer =>
      cases answer with
      | true => rfl
      | false => exact ih

theorem Conditional.select_eq_valueUnder (h : Host) (c : Conditional) :
    c.select h none = (c.valueUnder h.truth).getD [] := by
  rw [select, valueUnder, Condition.choose_value]
  cases c.clauses.find? (·.isTrue h.truth) <;> rfl

namespace Render

/-- What a call with this content is replaced by. -/
def callValue (h : Host) (content : Text) : Text :=
  match Conditional.parse .literal content with
  | .ok c => c.select h none
  | .error _ => Occurrence.token ++ content ++ [')']

/-- A text with every call that can be read replaced by its value. -/
def stage (h : Host) (s : Text) : Text :=
  Occurrence.mapCalls (callValue h) s

variable {h : Host} {options : Options}

/-! ### Passes -/

theorem replacements_pass (failed : List Text) (calls : List Occurrence) :
    (pass h options failed calls).replacements = calls.map fun o => callValue h o.content := by
  induction calls generalizing failed with
  | nil => rfl
  | cons o calls ih =>
    unfold pass
    cases read : Conditional.parse .literal o.content with
    | error e =>
      simp only [ih, List.map_cons, callValue, read]
      rfl
    | ok c => simp only [ih, List.map_cons, callValue, read]

/-- In a pass without change no call could be read. -/
theorem exists_error_of_not_changed {failed : List Text} {calls : List Occurrence}
    (same : (pass h options failed calls).changed = false) {o : Occurrence} (member : o ∈ calls) :
    ∃ e, Conditional.parse .literal o.content = .error e := by
  induction calls generalizing failed with
  | nil => exact absurd member List.not_mem_nil
  | cons first calls ih =>
    unfold pass at same
    cases read : Conditional.parse .literal first.content with
    | ok c =>
      simp only [read] at same
      cases same
    | error e =>
      simp only [read] at same
      rcases List.mem_cons.1 member with rfl | later
      · exact ⟨e, read⟩
      · exact ih same later

theorem stage_of_not_changed {failed : List Text} {s : Text}
    (same : (pass h options failed (Occurrence.allIn s)).changed = false) : stage h s = s := by
  refine Occurrence.mapCalls_eq_self fun o member => ?_
  obtain ⟨e, read⟩ := exists_error_of_not_changed same member
  simp only [callValue, read]
  rfl

theorem replaceAll_pass (failed : List Text) (s : Text) :
    Occurrence.replaceAll s (Occurrence.allIn s)
      (pass h options failed (Occurrence.allIn s)).replacements = stage h s := by
  rw [replacements_pass, Occurrence.replaceAll_allIn]
  rfl

theorem resolveWithin_text (passes : Nat) (failed : List Text) (s : Text) :
    (resolveWithin h options passes failed s).text = (stage h)^[passes] s := by
  induction passes generalizing failed s with
  | zero => rfl
  | succ passes ih =>
    unfold resolveWithin
    cases changed : (pass h options failed (Occurrence.allIn s)).changed with
    | true =>
      simp only [changed, if_true, ih, replaceAll_pass]
      rfl
    | false =>
      simp only [changed, Bool.false_eq_true, if_false]
      exact (Function.iterate_fixed (stage_of_not_changed changed) _).symm

/-- Resolving a text is to replace its calls so many times. -/
theorem resolve_text (h : Host) (options : Options) (s : Text) :
    (resolve h options s).text = (stage h)^[maxPasses] s :=
  resolveWithin_text maxPasses [] s

theorem stage_of_anyIn {s : Text} (none : Occurrence.anyIn s = false) : stage h s = s :=
  Occurrence.mapCalls_of_anyIn none

/-- Texts with a boundary between them are resolved one by one. -/
theorem stage_intercalate (h : Host) {c : Char} (hc : Occurrence.IsBoundary c) {texts : List Text}
    (closed : ∀ t ∈ texts, Occurrence.callsClosed t = true) :
    stage h ([c].intercalate texts) = [c].intercalate (texts.map (stage h)) ∧
      Occurrence.callsClosed ([c].intercalate texts) = true := by
  induction texts with
  | nil => exact ⟨rfl, rfl⟩
  | cons t texts ih =>
    obtain ⟨here, later⟩ := List.forall_mem_cons.1 closed
    obtain ⟨staged, closedRest⟩ := ih later
    cases texts with
    | nil =>
      rw [List.map_cons, List.map_nil, List.intercalate_singleton, List.intercalate_singleton]
      exact ⟨rfl, here⟩
    | cons t' texts =>
      rw [List.map_cons, List.map_cons, List.intercalate_cons_cons, List.intercalate_cons_cons,
        List.append_assoc, List.append_assoc, List.singleton_append, List.singleton_append, stage,
        Occurrence.mapCalls_append_cons hc here, Occurrence.callsClosed_append_cons hc here]
      refine ⟨?_, closedRest⟩
      rw [List.map_cons] at staged
      rw [← staged]
      rfl

end Render

/-! ### Calls that are expanded -/

namespace Render

variable {h : Host} {options : Options}

/-- Calls that can be read strictly are resolved as what they are read as. -/
theorem pass_of_mapM_parse {calls : List Occurrence} {conditionals : List Conditional}
    (read : calls.mapM (fun o => Conditional.parse .strict o.content) = .ok conditionals)
    (failed : List Text) :
    pass h options failed calls =
      { replacements := conditionals.map (·.select h none)
        failed := failed
        changed := !calls.isEmpty
        effects := (calls.zip conditionals).flatMap fun p =>
          selectEffects h options p.1.fullText p.2 } := by
  induction calls generalizing conditionals with
  | nil =>
    cases read
    rfl
  | cons o calls ih =>
    obtain ⟨c, cs, first, rest, rfl⟩ := mapM_cons_eq_ok_iff.1 read
    simp only [pass, Conditional.parse_literal first, ih rest]
    rfl

/-- The strict reading of a content is the one with literals, unless that one has a literal. It then fails
    at the first one; and where the one with literals fails, the strict one fails too. So what is expanded
    is resolved as the same conditional: a pass over calls that can be expanded replaces each by the value
    of what it is read as for expansion, and reports no failure. -/
theorem strict_reading_resolved :
    (∀ content : Text,
      (∀ c, Conditional.parse .strict content = .ok c ↔
        Conditional.parse .literal content = .ok c ∧
          ∀ clause ∈ c.clauses, clause.kind ≠ .literal) ∧
      (∀ c l, Conditional.parse .literal content = .ok c →
        Conditional.firstLiteral? c.clauses = some l →
          Conditional.parse .strict content = .error (.unknownCondition l.expression)) ∧
      ∀ e, Conditional.parse .literal content = .error e →
        Conditional.parse .strict content = .error e ∨
          ∃ condition, Conditional.parse .strict content = .error (.unknownCondition condition)) ∧
    ∀ (calls : List Occurrence) (conditionals : List Conditional),
      calls.mapM Expand.readNative = .ok conditionals →
        ∀ (h : Host) (options : Options) (failed : List Text),
          pass h options failed calls =
            { replacements := conditionals.map (·.select h none)
              failed := failed
              changed := !calls.isEmpty
              effects := (calls.zip conditionals).flatMap fun p =>
                selectEffects h options p.1.fullText p.2 } := by
  refine ⟨fun content => ⟨fun c => ⟨fun strict => ?_, fun ⟨literal, noLiteral⟩ => ?_⟩, ?_, ?_⟩, ?_⟩
  · have literal := Conditional.parse_literal strict
    refine ⟨literal, Conditional.firstLiteral?_eq_none.1 ?_⟩
    have same := Conditional.parse_strict_of_ok literal
    cases first : Conditional.firstLiteral? c.clauses with
    | none => rfl
    | some l =>
      rw [strict, first] at same
      cases same
  · rw [Conditional.parse_strict_of_ok literal, Conditional.firstLiteral?_eq_none.2 noLiteral]
  · intro c l literal first
    rw [Conditional.parse_strict_of_ok literal, first]
  · intro e fails
    exact Conditional.parse_strict_of_error fails
  · intro calls conditionals read h options failed
    exact pass_of_mapM_parse (Expand.mapM_readNative_eq_ok read).1 failed

/-- Contents with a word in front of a parenthesis that only starts like a known one, in a clause behind
    one that can be read and in a clause in front of one that cannot, and a value with two calls. -/
theorem strict_reading_resolved_lookAlikes :
    let readable := "media (\")\"): a; styles(b): c; else:".toList
    let broken := "mediaquery(a): b; media(c) d: e".toList
    let calls := Occurrence.allIn "if(media(\")\"): a; else:) b if(supports((c)): \"d;\")".toList
    let conditionals : List Conditional :=
      [⟨[⟨.media, "\")\"".toList, ['a']⟩], some []⟩,
        ⟨[⟨.supports, "(c)".toList, "\"d;\"".toList⟩], none⟩]
    let h : Host := { features := [['c']] }
    (Conditional.parse .strict "style(a): b".toList = .ok ⟨[⟨.style, ['a'], ['b']⟩], none⟩ ∧
      Conditional.parse .literal "style(a): b".toList = .ok ⟨[⟨.style, ['a'], ['b']⟩], none⟩) ∧
    Conditional.parse .strict readable = .error (.unknownCondition "styles(b)".toList) ∧
    (Conditional.parse .strict broken = .error (.trailingText "media(c) d".toList) ∨
      ∃ condition, Conditional.parse .strict broken = .error (.unknownCondition condition)) ∧
    pass h {} [] calls =
      { replacements := conditionals.map (·.select h none)
        failed := []
        changed := !calls.isEmpty
        effects := (calls.zip conditionals).flatMap fun p =>
          selectEffects h {} p.1.fullText p.2 } := by
  intro readable broken calls conditionals h
  have strict : Conditional.parse .strict "style(a): b".toList =
      .ok ⟨[⟨.style, ['a'], ['b']⟩], none⟩ := by decide +kernel
  have literal : Conditional.parse .literal readable =
      .ok ⟨[⟨.media, "\")\"".toList, ['a']⟩, ⟨.literal, "styles(b)".toList, ['c']⟩], some []⟩ := by
    decide +kernel
  have fails : Conditional.parse .literal broken = .error (.trailingText "media(c) d".toList) := by
    decide +kernel
  have read : calls.mapM Expand.readNative = .ok conditionals := by decide +kernel
  exact ⟨⟨strict, (((strict_reading_resolved.1 _).1 _).1 strict).1⟩,
    (strict_reading_resolved.1 readable).2.1 _ _ literal rfl,
    (strict_reading_resolved.1 broken).2.2 _ fails,
    strict_reading_resolved.2 calls conditionals read h {} []⟩

end Render
end CondCss
