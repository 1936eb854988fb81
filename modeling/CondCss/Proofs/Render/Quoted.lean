import CondCss.Proofs.Expand.Faults
import CondCss.Proofs.Occurrence.Quoted
import CondCss.Proofs.Render.Progress

/-!
# Strings outside calls

A call that is found may start inside a string, and then the string is rewritten. Where none does, a
variant of a value and every pass over a text keep the strings that stand outside calls. A plain text,
in which no string holds a call and no backslash stands outside strings, stays plain in every pass
(`plain_stage`), so that none of the passes rewrites a part of a string.
-/

namespace CondCss

open Scan Occurrence

variable {s t : Text} {h : Host}

namespace Occurrence

theorem plain_trim (closed : (endOf none none 0 t).1 = none) (plain : Plain t) :
    Plain (Text.trim t) := by
  refine ⟨?_, ?_⟩
  · have same : stringsFrom none none (Text.trim t) = stringsFrom none none t := strings_trim closed
    rw [same]
    exact plain.quiet
  · rw [(sameScan_trim t none 0).1]
    exact plain.unescaped

/-- The pieces of a plain text are plain. -/
theorem plain_of_mem_splitTopLevelFrom {sep : Char} (hsep : IsSeparator sep) {before : Option Char}
    (hbefore : before ≠ some '\\') (plain : Plain t) {piece : Text}
    (member : piece ∈ splitTopLevelFrom (· == sep) before none 0 t) : Plain piece := by
  -- As for balanced pieces, the induction goes from cut to cut.
  induction length : t.length using Nat.strongRecOn generalizing t before with
  | ind n ih =>
    subst length
    cases cut : cutTopLevel? (· == sep) before none 0 t with
    | none =>
      rw [splitTopLevelFrom_of_uncut cut, List.mem_singleton] at member
      rw [member]
      exact plain
    | some parts =>
      obtain ⟨head, tail⟩ := parts
      rw [(splitTopLevelFrom_of_cut cut).2] at member
      obtain ⟨rfl, closed, -⟩ := cutTopLevel?_inv hsep cut
      rw [endOf_before hbefore] at closed
      obtain ⟨plainHead, plainTail⟩ :=
        (plain_append_cons hsep.quote hsep.backslash (congrArg Prod.fst closed)).1 plain
      rcases List.mem_cons.1 member with rfl | later
      · exact plainHead
      · refine ih tail.length ?_ hsep.backslash plainTail later rfl
        simp only [List.length_append, List.length_cons]
        omega

/-- Calls that are taken do not overlap. -/
theorem Lists.apart {pos : Nat} {calls : List Occurrence} (lists : Lists s pos calls)
    {a b : Occurrence} (ha : a ∈ calls) (hb : b ∈ calls) :
    a = b ∨ a.stop ≤ b.start ∨ b.stop ≤ a.start := by
  induction lists with
  | ended _ => cases ha
  | next _ _ ih => exact ih ha hb
  | call _ later ih =>
    rcases List.mem_cons.1 ha with rfl | inLater
    · rcases List.mem_cons.1 hb with rfl | inLater'
      · exact .inl rfl
      · exact .inr (.inl (later.isCall b inLater').1)
    · rcases List.mem_cons.1 hb with rfl | inLater'
      · exact .inr (.inr (later.isCall a inLater).1)
      · exact ih inLater inLater'

end Occurrence

namespace Render

/-- The value of a part is balanced and plain if the content is. -/
theorem plain_value {mode : Conditional.Mode} {content part : Text} {p : Conditional.Part}
    (balanced : Balanced content) (plain : Plain content) (member : part ∈ Conditional.parts content)
    (read : Conditional.readPart mode part = .ok p) : Balanced p.value ∧ Plain p.value := by
  obtain ⟨inParts, -⟩ := List.mem_filter.1 member
  obtain ⟨piece, isPiece, rfl⟩ := List.mem_map.1 inParts
  have balancedPiece : Balanced piece :=
    (balanced_of_mem_splitTopLevelFrom isSeparator_semicolon (by decide) balanced isPiece).1
  have plainPiece : Plain piece :=
    plain_of_mem_splitTopLevelFrom isSeparator_semicolon (by decide) plain isPiece
  have plainPart : Plain (Text.trim piece) :=
    plain_trim (congrArg Prod.fst balancedPiece.closed) plainPiece
  have balancedPart : Balanced (Text.trim piece) := balanced_trim.2 balancedPiece
  obtain ⟨head, value, shape, closed, isValue⟩ := Conditional.exists_value_of_readPart read
  rw [shape] at plainPart balancedPart
  have balancedValue := ((balanced_append_sep isSeparator_colon closed).1 balancedPart).2
  have plainValue :=
    ((plain_append_cons (by decide) (by decide) (congrArg Prod.fst closed)).1 plainPart).2
  rw [isValue]
  exact ⟨balanced_trim.2 balancedValue,
    plain_trim (congrArg Prod.fst balancedValue.closed) plainValue⟩

theorem plain_callValue (h : Host) {o : Occurrence} (balanced : Balanced o.content)
    (plain : Plain o.content) :
    (endOf none none 0 (callValue h o.content)).1 = none ∧ Plain (callValue h o.content) := by
  unfold callValue
  split
  · rename_i c read
    rcases Conditional.select_cases h read with empty | ⟨part, member, p, readP, isValue⟩
    · rw [empty]
      exact ⟨rfl, plain_nil⟩
    · obtain ⟨balancedValue, plainValue⟩ := plain_value balanced plain member readP
      rw [isValue, balancedValue.closed]
      exact ⟨rfl, plainValue⟩
  · exact ⟨endOf_fullText balanced none 0, (plain_fullText balanced).2 plain⟩

/-- A pass puts the values of calls between the gaps. -/
theorem stage_eq_weave (h : Host) (s : Text) :
    stage h s =
      weave (gapsFrom s 0 (allIn s)) ((allIn s).map fun o => callValue h o.content) := by
  rw [stage, ← replaceAll_allIn]
  exact substituteFrom_eq_weave (List.length_map _)

theorem weave_fullText (s : Text) :
    weave (gapsFrom s 0 (allIn s)) ((allIn s).map fullText) = s :=
  (substituteFrom_eq_weave (List.length_map _)).symm.trans (replaceAll_fullText s)

/-- A plain text stays plain in a pass. -/
theorem plain_stage (h : Host) (plain : Plain s) : Plain (stage h s) := by
  have isCall := (lists_allIn s).isCall
  have spaced : Spaced (gapsFrom s 0 (allIn s)) (allIn s) :=
    spaced_of_outside fun o member => plain.quoteAt (isCall o member).2.starts
  have parts := plain
  rw [← weave_fullText s] at parts
  obtain ⟨gaps, contents⟩ := spaced.plain_weave parts
  rw [stage_eq_weave]
  exact spaced.plain_fill gaps fun o member =>
    plain_callValue h (isCall o member).2.balanced (contents o member)

theorem plain_iterate (h : Host) (plain : Plain s) (n : Nat) : Plain ((stage h)^[n] s) := by
  induction n with
  | zero => exact plain
  | succ n ih =>
    rw [Function.iterate_succ_apply']
    exact plain_stage h ih

/-! ### What is kept -/

theorem length_gapsFrom (s : Text) (pos : Nat) (calls : List Occurrence) :
    (gapsFrom s pos calls).length = calls.length + 1 := by
  induction calls generalizing pos with
  | nil => rfl
  | cons o calls ih => rw [gapsFrom, List.length_cons, ih, List.length_cons]

/-- The strings of a text that stand outside its calls. -/
def stringsBetween (s : Text) : List Text :=
  (gapsFrom s 0 (allIn s)).flatMap strings

theorem inOrder_replaceAll {fills : List Text} (same : fills.length = (allIn s).length) :
    InOrder (stringsBetween s) (replaceAll s (allIn s) fills) := by
  have woven : replaceAll s (allIn s) fills = weave (gapsFrom s 0 (allIn s)) fills :=
    substituteFrom_eq_weave same
  rw [woven]
  refine inOrder_weave inOrder_strings ?_
  rw [length_gapsFrom, same]
  exact Nat.lt_succ_self _

theorem inOrder_stage (h : Host) (s : Text) : InOrder (stringsBetween s) (stage h s) := by
  rw [stage, ← replaceAll_allIn]
  exact inOrder_replaceAll (List.length_map _)

theorem inOrder_variants {all : List Expand.Variant} (expanded : Expand.variants s = .ok all)
    {v : Expand.Variant} (member : v ∈ all) : InOrder (stringsBetween s) v.value := by
  by_cases calls : allIn s = []
  · rw [Expand.variants_of_allIn_eq_nil calls] at expanded
    split at expanded
    · cases expanded
    · cases expanded
      rw [List.mem_singleton.1 member, stringsBetween, calls]
      simpa [gapsFrom] using inOrder_strings s
  · obtain ⟨conditionals, read, -, rfl, -⟩ := Expand.variants_eq_ok calls expanded
    obtain ⟨selection, chosen, rfl⟩ := List.mem_map.1 member
    refine inOrder_replaceAll ?_
    have same := (Expand.mem_orderedSelections.1 chosen).length_eq
    rw [List.length_map] at same
    rw [List.length_zipWith, same, Nat.min_self, length_of_mapM_eq_ok read]

/-- No call that is found starts inside a string, unless a closed call starts there that is not part of
    an earlier one. If none does, none ends inside a string either, so that every string stands as a whole
    in a call or between calls, and those between calls stand in every variant of the text, and in what a
    pass makes of it, as they are and in order. In a plain text this is so in every pass. -/
theorem strings_between_kept (s : Text) :
    ((∀ o ∈ allIn s, quoteAt s o.start = none) ↔
      ∀ o, IsCall s o → quoteAt s o.start ≠ none →
        ∃ earlier ∈ allIn s, earlier.start < o.start ∧ o.start < earlier.stop) ∧
    ((∀ o ∈ allIn s, quoteAt s o.start = none) →
      (∀ o ∈ allIn s, quoteAt s o.stop = none) ∧
      strings s = (stretches (gapsFrom s 0 (allIn s)) ((allIn s).map fullText)).flatMap strings ∧
      (∀ all, Expand.variants s = .ok all → ∀ v ∈ all, InOrder (stringsBetween s) v.value) ∧
      ∀ h, InOrder (stringsBetween s) (stage h s)) ∧
    (Plain s → ∀ h n, Plain ((stage h)^[n] s) ∧
      ∀ o ∈ allIn ((stage h)^[n] s), quoteAt ((stage h)^[n] s) o.start = none) := by
  have lists := lists_allIn s
  refine ⟨⟨fun outside o isCall inString => ?_, fun covered o member => ?_⟩, fun outside => ?_,
    fun plain h n => ?_⟩
  · obtain ⟨earlier, member, before, inside⟩ := lists.exists_of_isCall isCall (Nat.zero_le _)
    refine ⟨earlier, member, Nat.lt_of_le_of_ne before fun same => inString ?_, inside⟩
    rw [← same]
    exact outside earlier member
  · by_contra inString
    obtain ⟨earlier, isEarlier, before, inside⟩ := covered o (lists.isCall o member).2 inString
    rcases lists.apart isEarlier member with rfl | behind | ahead
    · exact absurd before (Nat.lt_irrefl _)
    · omega
    · have := start_lt_stop o
      omega
  · have spaced := spaced_of_outside outside
    have whole := spaced.strings_weave
    rw [weave_fullText] at whole
    exact ⟨fun o member => quoteAt_stop (lists.isCall o member).2 (outside o member), whole,
      fun all expanded v => inOrder_variants expanded, fun h => inOrder_stage h s⟩
  · have still := plain_iterate h plain n
    exact ⟨still, fun o member => still.quoteAt ((lists_allIn _).isCall o member).2.starts⟩

/-- A value with strings in front of a call, in it and behind it. -/
def stringsAround : Text :=
  "\"a\" if(media(x): \"b)\"; else: c) \"if d\"".toList

theorem strings_between_kept_around :
    (∀ o ∈ allIn stringsAround, quoteAt stringsAround o.start = none) ∧
      stringsBetween stringsAround = ["\"a\"".toList, "\"if d\"".toList] ∧
      (∀ h, InOrder (stringsBetween stringsAround) (stage h stringsAround)) ∧
      ∀ h n, Plain ((stage h)^[n] stringsAround) := by
  have outside : ∀ o ∈ allIn stringsAround, quoteAt stringsAround o.start = none := by decide +kernel
  have plain : Plain stringsAround := ⟨by decide +kernel, by decide +kernel⟩
  exact ⟨outside, by decide +kernel, ((strings_between_kept stringsAround).2.1 outside).2.2.2,
    fun h n => ((strings_between_kept stringsAround).2.2 plain h n).1⟩

/-- A value that is one string. -/
def quotedCall : Text :=
  "\"if(media(x): a; else: b)\"".toList

/-- A call that stands in a string is found, and the string is rewritten. -/
theorem call_in_string_found :
    strings quotedCall = [quotedCall] ∧
      allIn quotedCall = [⟨1, "media(x): a; else: b".toList⟩] ∧
      quoteAt quotedCall 1 = some .double ∧
      Expand.variants quotedCall = .ok [⟨[], "\"b\"".toList⟩,
        ⟨[⟨.media, "x".toList, "a".toList⟩], "\"a\"".toList⟩] := by
  decide +kernel

end Render
end CondCss
