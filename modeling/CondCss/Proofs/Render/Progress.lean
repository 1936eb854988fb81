import CondCss.Proofs.Conditional.Parts
import CondCss.Proofs.Render.Settled

/-!
# Progress of the passes

A call that can be read is replaced by a stretch of its own content, so it takes its opening
parenthesis with it; a call that cannot be read is put back. Hence every pass that resolves a call
leaves a text with fewer opening parentheses (`count_stage`), however the values join with what stands
around them. With fewer of them than there are passes, the passes come to an end by themselves
(`limitReached_notMem_of_count`), and then nothing is left that a further pass could resolve
(`resolve_settles`).
-/

namespace CondCss

/-! ### Values are stretches of the content -/

namespace Conditional

variable {mode : Mode} {content part : Text} {c : Conditional}

theorem infix_of_mem_parts (member : part ∈ parts content) : part <:+: content := by
  obtain ⟨trimmed, -⟩ := List.mem_filter.1 member
  obtain ⟨piece, isPiece, rfl⟩ := List.mem_map.1 trimmed
  exact (Text.isInfix_trim piece).trans (Scan.infix_of_mem_splitTopLevelFrom isPiece)

/-- The value of a part is what stands behind its first colon. -/
theorem exists_value_of_readPart {p : Part} (read : readPart mode part = .ok p) :
    ∃ head value, part = head ++ ':' :: value ∧ Scan.endOf none none 0 head = (none, 0) ∧
      p.value = Text.trim value := by
  obtain ⟨head, value, rfl, closed, free⟩ := exists_colon_of_readPart read
  refine ⟨head, value, rfl, closed, ?_⟩
  rw [readPart_append_colon closed free] at read
  split at read
  · cases read
    rfl
  · cases condition : readCondition mode (Text.trim head) with
    | error e => rw [condition] at read; cases read
    | ok r =>
      rw [condition] at read
      cases read
      rfl

theorem value_infix_of_readPart {p : Part} (read : readPart mode part = .ok p) :
    p.value <:+: part := by
  obtain ⟨head, value, rfl, -, isValue⟩ := exists_value_of_readPart read
  rw [isValue]
  exact (Text.isInfix_trim value).trans ⟨head ++ [':'], [], by simp⟩

/-- Whatever the host answers, the value of a conditional is that of a part, or empty. -/
theorem select_cases (h : Host) (read : parse mode content = .ok c) :
    c.select h none = [] ∨
      ∃ part ∈ parts content, ∃ p, readPart mode part = .ok p ∧ c.select h none = p.value := by
  have ofPart {p : Part} (inContent : ∃ part ∈ parts content, readPart mode part = .ok p) :
      ∃ part ∈ parts content, ∃ p', readPart mode part = .ok p' ∧ p.value = p'.value := by
    obtain ⟨part, member, readP⟩ := inContent
    exact ⟨part, member, p, readP, rfl⟩
  rw [select, Condition.choose_value]
  cases found : c.clauses.find? (·.isTrue h.truth) with
  | some clause =>
    exact .inr (ofPart (exists_part_of_mem_clauses read (List.mem_of_find?_eq_some found)))
  | none =>
    cases isValue : c.otherwise with
    | some value => exact .inr (ofPart (exists_part_of_otherwise read isValue))
    | none => exact .inl rfl

/-- So it is a stretch of the content that it was read from. -/
theorem select_infix (h : Host) (read : parse mode content = .ok c) :
    c.select h none <:+: content := by
  rcases select_cases h read with empty | ⟨part, member, p, readP, isValue⟩
  · rw [empty]
    exact List.nil_infix
  · rw [isValue]
    exact (value_infix_of_readPart readP).trans (infix_of_mem_parts member)

end Conditional

/-! ### Counting parentheses -/

namespace Occurrence

variable {f : Text → Text}

/-- If no call is replaced by a text with more opening parentheses, each call whose replacement has no
    more of them than its content takes one away. -/
theorem count_mapCallsFrom (atMost : ∀ content, (f content).count '(' ≤ content.count '(' + 1)
    (before : Option Char) (pos skip : Nat) (t : Text) :
    (mapCallsFrom f before skip t).count '(' + (allFrom before pos skip t).countP
      (fun o => (f o.content).count '(' ≤ o.content.count '(') ≤ (t.drop skip).count '(' := by
  fun_induction allFrom before pos skip t with
  | case1 before pos skip => simp [mapCallsFrom]
  | case2 before pos c rest skip ih => exact ih
  | case3 before pos c rest call content tail cut ih =>
    have here := atMost content
    have whole : (c :: rest).count '(' = content.count '(' + 1 + tail.count '(' ∧
        rest.drop (content.length + token.length) = tail := by
      obtain ⟨rfl, rfl⟩ := eq_call_of_isCandidate call cut
      refine ⟨?_, by simp [token]⟩
      simp only [List.count_cons, List.count_append, Char.reduceBEq, Bool.false_eq_true, if_true,
        if_false]
      omega
    rw [whole.2] at ih
    rw [List.drop_zero, whole.1]
    simp only [mapCallsFrom, call, cut, if_true, List.count_append, List.countP_cons,
      decide_eq_true_eq]
    split <;> omega
  | case4 before pos c rest call cut ih =>
    rw [List.drop_zero] at ih ⊢
    simp only [mapCallsFrom, call, cut, if_true, List.count_cons]
    omega
  | case5 before pos c rest call ih =>
    rw [List.drop_zero] at ih ⊢
    simp only [mapCallsFrom, call, Bool.false_eq_true, if_false, List.count_cons]
    omega

end Occurrence

namespace Render

open Occurrence (allIn contents)

variable {h : Host} {options : Options} {failed : List Text} {s : Text}

theorem count_callValue_le (h : Host) (content : Text) :
    (callValue h content).count '(' ≤ content.count '(' + 1 := by
  unfold callValue
  split
  · rename_i c read
    have := (Conditional.select_infix h read).sublist.count_le '('
    omega
  · simp [Occurrence.token]

/-- The value of a call that can be read has no parenthesis that its content does not have. -/
theorem count_callValue_of_readable {content : Text} (readable : isUnreadable content = false) :
    (callValue h content).count '(' ≤ content.count '(' := by
  unfold callValue
  cases read : Conditional.parse .literal content with
  | ok c => exact (Conditional.select_infix h read).sublist.count_le '('
  | error e =>
    rw [isUnreadable_iff.2 ⟨e, read⟩] at readable
    cases readable

/-- Each call that is resolved takes an opening parenthesis away. -/
theorem count_stage (h : Host) (s : Text) :
    (stage h s).count '(' + (allIn s).countP (!isUnreadable ·.content) ≤ s.count '(' := by
  have all := Occurrence.count_mapCallsFrom (count_callValue_le h) none 0 0 s
  have fewer : (allIn s).countP (!isUnreadable ·.content) ≤ (allIn s).countP
      (fun o => (callValue h o.content).count '(' ≤ o.content.count '(') := by
    apply List.countP_mono_left
    intro o _ readable
    simpa using count_callValue_of_readable (by simpa using readable)
  exact Nat.le_trans (Nat.add_le_add_left fewer _) all

/-! ### Passes that resolve something -/

theorem changed_pass (calls : List Occurrence) :
    (pass h options failed calls).changed = calls.any (!isUnreadable ·.content) := by
  induction calls generalizing failed with
  | nil => rfl
  | cons o calls ih =>
    unfold pass
    cases read : Conditional.parse .literal o.content with
    | ok c => simp [isUnreadable, read, Except.isOk, Except.toBool]
    | error e => simp [isUnreadable, read, Except.isOk, Except.toBool, ih]

theorem count_stage_lt (changed : (pass h options failed (allIn s)).changed = true) :
    (stage h s).count '(' < s.count '(' := by
  rw [changed_pass, List.any_eq_true] at changed
  have resolved : 0 < (allIn s).countP (!isUnreadable ·.content) := List.countP_pos_iff.2 changed
  have := count_stage h s
  omega

/-! ### How the passes end -/

/-- No pass by itself writes that the limit is reached. -/
theorem limitReached_notMem_pass (calls : List Occurrence) :
    limitReached ∉ (pass h options failed calls).effects := by
  have debug (message : String) : limitReached ∉ debugEntry options message := by
    unfold debugEntry
    split <;> simp [limitReached]
  induction calls generalizing failed with
  | nil => simp [pass]
  | cons o calls ih =>
    unfold pass
    cases read : Conditional.parse .literal o.content with
    | error e =>
      have told : limitReached ∉ failureEffects options failed o.fullText e := by
        unfold failureEffects
        split
        · simp
        · simp only [List.mem_append, debug, false_or, List.mem_singleton]
          simp [limitReached]
      simp only [List.mem_append, told, ih, or_self, not_false_eq_true]
    | ok c =>
      have told : limitReached ∉ selectEffects h options o.fullText c := by
        simp only [selectEffects, List.mem_append, debug, or_false, List.mem_map, not_or]
        exact ⟨by simp [limitReached], by simp [limitReached]⟩
      simp only [List.mem_append, told, ih, or_self, not_false_eq_true]

/-- The limit is reached just when every pass resolves something. -/
theorem limitReached_mem_iff (passes : Nat) :
    limitReached ∈ (resolveWithin h options passes failed s).effects ↔
      ∀ k < passes, (contents ((stage h)^[k] s)).all isUnreadable = false := by
  induction passes generalizing failed s with
  | zero => simp [resolveWithin, limitReached]
  | succ passes ih =>
    have first : (pass h options failed (allIn s)).changed = !(contents s).all isUnreadable := by
      rw [changed_pass, contents, List.all_map, List.not_all_eq_any_not]
      rfl
    unfold resolveWithin
    cases changed : (pass h options failed (allIn s)).changed with
    | false =>
      rw [changed, eq_comm, Bool.not_eq_false'] at first
      simp only [changed, Bool.false_eq_true, if_false, limitReached_notMem_pass, false_iff,
        not_forall]
      exact ⟨0, Nat.succ_pos passes, by simp [first]⟩
    | true =>
      rw [changed, eq_comm, Bool.not_eq_true'] at first
      simp only [changed, if_true, List.mem_append, limitReached_notMem_pass, false_or,
        replaceAll_pass]
      rw [ih, Nat.forall_lt_succ_left]
      simp [first]

/-- A text with fewer opening parentheses than there are passes is resolved before the last pass. -/
theorem limitReached_notMem_of_count {passes : Nat} (few : s.count '(' < passes) :
    limitReached ∉ (resolveWithin h options passes failed s).effects := by
  induction passes generalizing failed s with
  | zero => exact absurd few (Nat.not_lt_zero _)
  | succ passes ih =>
    unfold resolveWithin
    cases changed : (pass h options failed (allIn s)).changed with
    | false =>
      simp only [changed, Bool.false_eq_true, if_false]
      exact limitReached_notMem_pass _
    | true =>
      have fewer := count_stage_lt changed
      simp only [changed, if_true, List.mem_append, not_or, replaceAll_pass]
      exact ⟨limitReached_notMem_pass _, ih (by omega)⟩

/-- A text none of whose calls can be read is left as it is. -/
theorem resolve_of_unreadable (unreadable : (contents s).all isUnreadable = true) (h : Host)
    (options : Options) : (resolve h options s).text = s := by
  rw [resolve_text]
  exact Function.iterate_fixed (stage_of_unreadable unreadable) _

/-- Every pass that resolves a call leaves fewer opening parentheses. So a text with fewer of them than
    there are passes is resolved by passes of which one has nothing to do, without the limit being
    reached; and unless it is, no call that can be read is left, and resolving again, on whatever host,
    changes nothing. -/
theorem resolve_settles (h : Host) (options : Options) (s : Text) :
    (∀ failed, (pass h options failed (allIn s)).changed = true →
      (Occurrence.replaceAll s (allIn s) (pass h options failed (allIn s)).replacements).count '(' <
        s.count '(') ∧
    (limitReached ∈ (resolve h options s).effects ↔
      ∀ k < maxPasses, (pass h options [] (allIn ((stage h)^[k] s))).changed = true) ∧
    (s.count '(' < maxPasses → limitReached ∉ (resolve h options s).effects) ∧
    (limitReached ∉ (resolve h options s).effects →
      (∀ o ∈ allIn (resolve h options s).text, ∃ e, Conditional.parse .literal o.content = .error e) ∧
      ∀ (h' : Host) (options' : Options),
        (resolve h' options' (resolve h options s).text).text = (resolve h options s).text) := by
  refine ⟨fun failed changed => ?_, ?_, limitReached_notMem_of_count, fun exits => ?_⟩
  · rw [replaceAll_pass]
    exact count_stage_lt changed
  · refine (limitReached_mem_iff maxPasses).trans ?_
    simp only [changed_pass, contents, List.all_map, ← List.not_all_eq_any_not, Function.comp_def,
      Bool.not_eq_true']
  · have unreadable := unreadable_of_limit exits
    rw [← resolve_text] at unreadable
    refine ⟨fun o member => ?_, resolve_of_unreadable unreadable⟩
    exact isUnreadable_iff.1 (List.all_eq_true.1 unreadable _ (List.mem_map_of_mem member))

end Render
end CondCss
