import CondCss.Proofs.Occurrence.Replacement

/-!
# Which calls are found

A call starts where the letters of one stand behind no part of a name, and it is closed if the scan
for its parenthesis finds one. `allIn` goes over a text from left to right: it takes the call that is
closed here and goes on behind it, or goes on with the next character (`Lists`). So it takes every
closed call that does not stand in one that it took before, and takes nothing else (`allIn_exact`).
-/

namespace CondCss
namespace Occurrence

/-- A call starts at a position of a text, closed or not. -/
def StartsAt (s : Text) (pos : Nat) : Prop :=
  (s.drop pos).take token.length = token ∧
    ∀ c, Text.charBefore? s pos = some c → Text.isIdentChar c = false

/-- An occurrence stands in a text: a call starts at its position, and what is cut out of the
    parenthesis is its content. -/
structure IsCall (s : Text) (o : Occurrence) : Prop where
  starts : StartsAt s o.start
  cut : Scan.cutParen? (s.drop (o.start + token.length)) = some (o.content, s.drop o.stop)

/-- What a scan from a position on takes: the call that stands there, after which it goes on behind
    the call, or nothing, after which it goes on with the next character. -/
inductive Lists (s : Text) : Nat → List Occurrence → Prop where
  | ended {pos : Nat} : s.length ≤ pos → Lists s pos []
  | call {o : Occurrence} {calls : List Occurrence} :
    IsCall s o → Lists s o.stop calls → Lists s o.start (o :: calls)
  | next {pos : Nat} {calls : List Occurrence} :
    (∀ content, ¬IsCall s ⟨pos, content⟩) → Lists s (pos + 1) calls → Lists s pos calls

variable {s : Text} {pos : Nat} {o : Occurrence} {calls : List Occurrence}

/-! ### Calls -/

theorem isCandidate_iff :
    isCandidate (Text.charBefore? s pos) (s.drop pos) = true ↔ StartsAt s pos := by
  unfold isCandidate StartsAt
  rw [Bool.and_eq_true, List.isPrefixOf_iff_prefix, List.prefix_iff_eq_take, eq_comm]
  cases Text.charBefore? s pos <;> simp

theorem drop_of_startsAt (starts : StartsAt s pos) :
    s.drop pos = token ++ s.drop (pos + token.length) := by
  have parts := List.take_append_drop token.length (s.drop pos)
  rw [starts.1, List.drop_drop] at parts
  exact parts.symm

/-- In front of the content of a call stands its parenthesis. -/
theorem charBefore?_of_startsAt (starts : StartsAt s pos) :
    Text.charBefore? s (pos + token.length) = some '(' := by
  have inside : (s.drop pos)[2]? = some '(' := by
    rw [drop_of_startsAt starts]
    rfl
  rw [List.getElem?_drop] at inside
  exact inside

/-- The parenthesis of a call is closed just where it is cut. -/
theorem closingParen_of_startsAt (starts : StartsAt s pos) :
    Scan.closingParen s (pos + token.length) =
      match Scan.cutParen? (s.drop (pos + token.length)) with
      | some (content, _) => .ok (pos + token.length + content.length)
      | none => .error ⟨pos + token.length⟩ :=
  Scan.closingParen_of_charBefore? (charBefore?_of_startsAt starts)

theorem isCall_of_cut (starts : StartsAt s pos) {content tail : Text}
    (cut : Scan.cutParen? (s.drop (pos + token.length)) = some (content, tail)) :
    IsCall s ⟨pos, content⟩ := by
  refine ⟨starts, cut.trans ?_⟩
  have shape : s.drop (pos + token.length) = content ++ ')' :: tail :=
    (Scan.cutParenFrom?_eq_some cut).1
  have behind : s.drop (stop ⟨pos, content⟩) =
      (s.drop (pos + token.length)).drop (content.length + 1) := by
    rw [List.drop_drop]
    rfl
  rw [behind, shape, List.drop_append]
  simp

/-- A call that starts and is closed is an occurrence. -/
theorem exists_isCall {close : Nat} (starts : StartsAt s pos)
    (closed : Scan.closingParen s (pos + token.length) = .ok close) :
    ∃ content, IsCall s ⟨pos, content⟩ := by
  rw [closingParen_of_startsAt starts] at closed
  cases cut : Scan.cutParen? (s.drop (pos + token.length)) with
  | none =>
    rw [cut] at closed
    cases closed
  | some parts => exact ⟨parts.1, isCall_of_cut starts cut⟩

theorem IsCall.closingParen (h : IsCall s o) :
    Scan.closingParen s (o.start + token.length) =
      .ok (o.start + token.length + o.content.length) := by
  rw [closingParen_of_startsAt h.starts, h.cut]

/-- An occurrence stands in the text as a whole. -/
theorem IsCall.drop_start (h : IsCall s o) : s.drop o.start = o.fullText ++ s.drop o.stop := by
  have inside : s.drop (o.start + token.length) = o.content ++ ')' :: s.drop o.stop :=
    (Scan.cutParenFrom?_eq_some h.cut).1
  rw [drop_of_startsAt h.starts, inside]
  simp [fullText]

theorem length_fullText (o : Occurrence) : o.fullText.length = o.stop - o.start := by
  simp only [fullText, stop, List.length_append, List.length_singleton]
  omega

theorem start_lt_stop (o : Occurrence) : o.start < o.stop := by
  unfold stop
  omega

theorem IsCall.fullText_eq (h : IsCall s o) :
    (s.drop o.start).take (o.stop - o.start) = o.fullText := by
  rw [h.drop_start, ← length_fullText, List.take_left]

/-! ### The scan -/

theorem lists_allFrom {t : Text} (skip : Nat) (here : s.drop pos = t) :
    Lists s (pos + skip) (allFrom (Text.charBefore? s pos) pos skip t) := by
  generalize start : Text.charBefore? s pos = before
  have starts {pos : Nat} {t : Text} {before : Option Char} (here : s.drop pos = t)
      (start : Text.charBefore? s pos = before) : isCandidate before t = true ↔ StartsAt s pos := by
    rw [← here, ← start, isCandidate_iff]
  have inside {pos : Nat} {c : Char} {rest : Text} (here : s.drop pos = c :: rest) :
      s.drop (pos + token.length) = rest.drop 2 := by
    rw [← (drop_succ_of_cons here).1, List.drop_drop]
    rfl
  fun_induction allFrom before pos skip t with
  | case1 before pos skip =>
    have atEnd : s.length ≤ pos := List.drop_eq_nil_iff.1 here
    exact .ended (by omega)
  | case2 before pos c rest skip ih =>
    obtain ⟨next, front⟩ := drop_succ_of_cons here
    have later := ih next front
    rwa [Nat.add_assoc, Nat.add_comm 1 skip] at later
  | case3 before pos c rest call content tail cut ih =>
    obtain ⟨next, front⟩ := drop_succ_of_cons here
    have isCall : IsCall s ⟨pos, content⟩ :=
      isCall_of_cut ((starts here start).1 call) ((inside here).symm ▸ cut)
    have stop : pos + 1 + (content.length + token.length) = stop ⟨pos, content⟩ := by
      unfold Occurrence.stop
      simp only
      omega
    have later := ih next front
    rw [stop] at later
    exact .call isCall later
  | case4 before pos c rest call cut ih =>
    obtain ⟨next, front⟩ := drop_succ_of_cons here
    refine .next (fun content isCall => ?_) (ih next front)
    cases ((inside here) ▸ isCall.cut).symm.trans cut
  | case5 before pos c rest call ih =>
    obtain ⟨next, front⟩ := drop_succ_of_cons here
    exact .next (fun content isCall => call ((starts here start).2 isCall.starts)) (ih next front)

theorem lists_allIn (s : Text) : Lists s 0 (allIn s) :=
  lists_allFrom 0 rfl

theorem Lists.isCall (h : Lists s pos calls) : ∀ o ∈ calls, pos ≤ o.start ∧ IsCall s o := by
  induction h with
  | ended atEnd => exact fun o member => absurd member List.not_mem_nil
  | call isCall later ih =>
    intro o member
    rcases List.mem_cons.1 member with rfl | member
    · exact ⟨Nat.le_refl _, isCall⟩
    · obtain ⟨behind, isCall⟩ := ih o member
      exact ⟨Nat.le_trans (Nat.le_of_lt (start_lt_stop _)) behind, isCall⟩
  | next noCall later ih =>
    intro o member
    obtain ⟨behind, isCall⟩ := ih o member
    exact ⟨Nat.le_of_succ_le behind, isCall⟩

/-- Calls are taken from left to right, each one behind the one before. -/
theorem Lists.pairwise (h : Lists s pos calls) : calls.Pairwise fun a b => a.stop ≤ b.start := by
  induction h with
  | ended atEnd => exact .nil
  | call isCall later ih => exact .cons (fun o member => (later.isCall o member).1) ih
  | next noCall later ih => exact ih

/-- No call is passed over, unless it starts in one that was taken. -/
theorem Lists.exists_of_isCall (h : Lists s pos calls) (isCall : IsCall s o)
    (behind : pos ≤ o.start) :
    ∃ o' ∈ calls, o'.start ≤ o.start ∧ o.start < o'.stop := by
  induction h with
  | ended atEnd =>
    have whole := isCall.drop_start
    rw [List.drop_eq_nil_iff.2 (Nat.le_trans atEnd behind)] at whole
    simp [fullText] at whole
  | call first later ih =>
    rename_i o' calls
    by_cases inside : o.start < o'.stop
    · exact ⟨o', List.mem_cons_self, behind, inside⟩
    · obtain ⟨found, member, within⟩ := ih (Nat.le_of_not_lt inside)
      exact ⟨found, List.mem_cons_of_mem _ member, within⟩
  | next noCall later ih =>
    apply ih
    rcases Nat.eq_or_lt_of_le behind with here | further
    · subst here
      exact absurd isCall (noCall o.content)
    · exact further

theorem startsAfter_iff {t : Text} (here : s.drop pos = t) :
    startsAfter (Text.charBefore? s pos) t = true ↔ ∃ start, pos ≤ start ∧ StartsAt s start := by
  induction t generalizing pos with
  | nil =>
    refine iff_of_false Bool.false_ne_true ?_
    rintro ⟨start, behind, starts⟩
    have letters := starts.1
    rw [List.drop_eq_nil_iff.2 (Nat.le_trans (List.drop_eq_nil_iff.1 here) behind)] at letters
    cases letters
  | cons c rest ih =>
    obtain ⟨next, before⟩ := drop_succ_of_cons here
    have later := ih next
    rw [before] at later
    rw [startsAfter, Bool.or_eq_true, later, ← here, isCandidate_iff]
    constructor
    · rintro (starts | ⟨start, behind, starts⟩)
      · exact ⟨pos, Nat.le_refl pos, starts⟩
      · exact ⟨start, Nat.le_of_succ_le behind, starts⟩
    · rintro ⟨start, behind, starts⟩
      rcases Nat.eq_or_lt_of_le behind with rfl | further
      · exact .inl starts
      · exact .inr ⟨start, further, starts⟩

theorem anyIn_iff : anyIn s = true ↔ ∃ pos, StartsAt s pos := by
  have starts : startsAfter (Text.charBefore? s 0) s = true ↔
      ∃ pos, 0 ≤ pos ∧ StartsAt s pos := startsAfter_iff rfl
  refine Iff.trans starts ?_
  simp only [Nat.zero_le, true_and]

/-! ### Replacing -/

/-- The stretches of a text in front of, between and behind occurrences, from a position on. -/
def gapsFrom (s : Text) (pos : Nat) : List Occurrence → List Text
  | [] => [s.drop pos]
  | o :: rest => (s.drop pos).take (o.start - pos) :: gapsFrom s o.stop rest

/-- Texts with others between them, which are one less. -/
def weave : (gaps fills : List Text) → Text
  | gap :: gaps, fill :: fills => gap ++ fill ++ weave gaps fills
  | gaps, [] => gaps.flatten
  | [], _ :: _ => []

theorem substituteFrom_eq_weave {replacements : List Text}
    (same : replacements.length = calls.length) :
    Text.substituteFrom s pos ((calls.map span).zip replacements) =
      weave (gapsFrom s pos calls) replacements := by
  induction calls generalizing pos replacements with
  | nil =>
    obtain rfl := List.length_eq_zero_iff.1 same
    simp [Text.substituteFrom, gapsFrom, weave]
  | cons o calls ih =>
    cases replacements with
    | nil => cases same
    | cons r replacements =>
      rw [List.map_cons, List.zip_cons_cons, Text.substituteFrom, gapsFrom, weave]
      rw [← ih (Nat.succ.inj same)]
      rfl

theorem replaceAll_fullText (s : Text) :
    replaceAll s (allIn s) ((allIn s).map fullText) = s := by
  calc replaceAll s (allIn s) ((allIn s).map fullText)
    _ = mapCalls (fun content => token ++ content ++ [')']) s :=
      replaceAll_allIn (fun content => token ++ content ++ [')']) s
    _ = s := mapCalls_eq_self fun o _ => rfl

/-- The calls that are found are closed calls of the text, in order and one behind the other. Every
    closed call is one of them or starts inside one. Replacing them leaves what stands between
    them. -/
theorem allIn_exact (s : Text) :
    ((allIn s).Pairwise fun a b => a.start < b.start ∧ a.stop ≤ b.start) ∧
    (∀ o ∈ allIn s, StartsAt s o.start ∧
      (∃ close, Scan.closingParen s (o.start + token.length) = .ok close ∧ o.stop = close + 1) ∧
      o.fullText = (s.drop o.start).take (o.stop - o.start) ∧
      o.fullText = token ++ o.content ++ [')']) ∧
    (∀ pos close, StartsAt s pos → Scan.closingParen s (pos + token.length) = .ok close →
      ∃ o ∈ allIn s, o.start = pos ∨ o.start < pos ∧ pos < o.stop) ∧
    (anyIn s = true ↔ ∃ pos, StartsAt s pos) ∧
    replaceAll s (allIn s) ((allIn s).map fullText) = s ∧
    s = weave (gapsFrom s 0 (allIn s)) ((allIn s).map fullText) ∧
    ∀ replacements : List Text, replacements.length = (allIn s).length →
      replaceAll s (allIn s) replacements = weave (gapsFrom s 0 (allIn s)) replacements := by
  have lists := lists_allIn s
  have woven (replacements : List Text) (same : replacements.length = (allIn s).length) :
      replaceAll s (allIn s) replacements = weave (gapsFrom s 0 (allIn s)) replacements :=
    substituteFrom_eq_weave same
  refine ⟨?_, ?_, ?_, ?_, replaceAll_fullText s, ?_, woven⟩
  · refine lists.pairwise.imp fun {a b} behind => ⟨?_, behind⟩
    exact Nat.lt_of_lt_of_le (start_lt_stop a) behind
  · intro o member
    obtain ⟨-, isCall⟩ := lists.isCall o member
    exact ⟨isCall.starts, ⟨_, isCall.closingParen, rfl⟩, isCall.fullText_eq.symm, rfl⟩
  · intro pos close starts closed
    obtain ⟨content, isCall⟩ := exists_isCall starts closed
    obtain ⟨o, member, before, inside⟩ := lists.exists_of_isCall isCall (Nat.zero_le _)
    rcases Nat.eq_or_lt_of_le before with here | strictly
    · exact ⟨o, member, .inl here⟩
    · exact ⟨o, member, .inr ⟨strictly, inside⟩⟩
  · have starts : startsAfter (Text.charBefore? s 0) s = true ↔
        ∃ start, 0 ≤ start ∧ StartsAt s start := startsAfter_iff rfl
    refine Iff.trans starts ?_
    simp only [Nat.zero_le, true_and]
  · rw [← woven _ (List.length_map fullText)]
    exact (replaceAll_fullText s).symm

end Occurrence
end CondCss
