import CondCss.Proofs.Expand.StrayCalls
import CondCss.Proofs.Render.Stages
import CondCss.Proofs.Sheet.Standing

/-!
# Rendering texts that are settled

A text is settled when rendering it by itself gives it back: it is kept as it is, or it is deferred as
a whole and none of its calls can be read. Rendering texts that are settled, each on a line of its own,
moves those that are deferred behind the others and changes nothing else (`render_lines`).

Resolving a text in all passes leaves only calls that cannot be read, unless the limit of passes is
reached (`unreadable_of_limit`).
-/

namespace CondCss

/-! ### Lines -/

namespace Text

theorem joinWith_cons_of_ne_nil (t : Text) {lines : List Text} (some : lines ≠ []) :
    joinWith ['\n'] (t :: lines) = t ++ '\n' :: joinWith ['\n'] lines := by
  obtain ⟨t', lines, rfl⟩ := List.exists_cons_of_ne_nil some
  simp [joinWith, List.intercalate_cons_cons]

theorem joinWith_append {first second : List Text} (hfirst : first ≠ []) (hsecond : second ≠ []) :
    joinWith ['\n'] (first ++ second) = joinWith ['\n'] first ++ '\n' :: joinWith ['\n'] second := by
  induction first with
  | nil => exact absurd rfl hfirst
  | cons t first ih =>
    by_cases last : first = []
    · subst last
      rw [List.singleton_append, joinWith_cons_of_ne_nil t hsecond, joinWith, joinWith,
        List.intercalate_singleton]
    · rw [List.cons_append, joinWith_cons_of_ne_nil t (by simp [last]), ih last,
        joinWith_cons_of_ne_nil t last]
      simp

/-- Groups of lines are joined group by group; empty groups have no part in it. -/
theorem joinWith_groups (groups : List (List Text))
    (nonempty : ∀ group ∈ groups, ∀ t ∈ group, t ≠ []) :
    joinWith ['\n'] ((groups.map (joinWith ['\n'])).filter (!·.isEmpty)) =
      joinWith ['\n'] groups.flatten := by
  induction groups with
  | nil => rfl
  | cons group groups ih =>
    obtain ⟨here, later⟩ := List.forall_mem_cons.1 nonempty
    have onward := ih later
    rw [List.map_cons, List.flatten_cons]
    by_cases none : group = []
    · subst none
      exact onward
    · rw [List.filter_cons_of_pos (by simpa using Expand.joinWith_ne_nil none here)]
      by_cases last : groups.flatten = []
      · have nothing : (groups.map (joinWith ['\n'])).filter (!·.isEmpty) = [] := by
          rw [List.filter_eq_nil_iff]
          intro t member
          obtain ⟨group', inGroups, rfl⟩ := List.mem_map.1 member
          rw [List.flatten_eq_nil_iff.1 last group' inGroups]
          simp [joinWith]
        rw [nothing, last, List.append_nil, joinWith, List.intercalate_singleton]
      · have more : (groups.map (joinWith ['\n'])).filter (!·.isEmpty) ≠ [] := by
          intro nothing
          rw [nothing] at onward
          refine Expand.joinWith_ne_nil last ?_ onward.symm
          intro t member
          obtain ⟨group', inGroups, inGroup⟩ := List.mem_flatten.1 member
          exact later group' inGroups t inGroup
        rw [joinWith_cons_of_ne_nil _ more, onward, joinWith_append none last]

theorem trim_joinWith {lines : List Text} (solid : ∀ t ∈ lines, trim t = t ∧ t ≠ []) :
    trim (joinWith ['\n'] lines) = joinWith ['\n'] lines := by
  refine trim_eq_self ?_ ?_
  · cases lines with
    | nil => exact fun c hc => by cases hc
    | cons t lines =>
      obtain ⟨trimmed, nonempty⟩ := solid t List.mem_cons_self
      obtain ⟨c, t, rfl⟩ := List.exists_cons_of_ne_nil nonempty
      have head : (joinWith ['\n'] ((c :: t) :: lines)).head? = some c := by
        by_cases last : lines = []
        · rw [last, joinWith, List.intercalate_singleton]
          rfl
        · rw [joinWith_cons_of_ne_nil _ last]
          rfl
      rw [head]
      rintro d ⟨⟩
      exact not_blank_of_trim_cons trimmed
  · induction lines with
    | nil => exact fun c hc => by cases hc
    | cons t lines ih =>
      obtain ⟨⟨trimmed, nonempty⟩, later⟩ := List.forall_mem_cons.1 solid
      by_cases last : lines = []
      · obtain ⟨front, c, rfl, notBlank⟩ := exists_concat_of_trim trimmed nonempty
        rw [last, joinWith, List.intercalate_singleton, List.getLast?_concat]
        rintro d ⟨⟩
        exact notBlank
      · have some : joinWith ['\n'] lines ≠ [] :=
          Expand.joinWith_ne_nil last fun t ht => (later t ht).2
        rw [joinWith_cons_of_ne_nil _ last, List.getLast?_append_of_ne_nil _ (by simp),
          List.getLast?_cons_of_ne_nil some]
        exact ih later

end Text

/-! ### What calls are about -/

namespace Occurrence

variable {before : Option Char} {c : Char} {t rest : Text}

/-- What stands in the parentheses of each closed call. -/
def contents (s : Text) : List Text :=
  (allIn s).map content

theorem contents_allFrom (before : Option Char) (pos pos' skip : Nat) (t : Text) :
    (allFrom before pos skip t).map content = (allFrom before pos' skip t).map content := by
  fun_induction allFrom before pos skip t generalizing pos' with
  | case1 before pos skip => rfl
  | case2 before pos c t skip ih => exact ih (pos' + 1)
  | case3 before pos c t call inside tail cut ih =>
    simp only [allFrom, call, cut, if_true, List.map_cons]
    rw [ih (pos' + 1)]
  | case4 before pos c t call cut ih =>
    simp only [allFrom, call, cut, if_true]
    exact ih (pos' + 1)
  | case5 before pos c t call ih =>
    simp only [allFrom, call, Bool.false_eq_true, if_false]
    exact ih (pos' + 1)

/-- At a boundary the calls of a text are those of its two sides, if every call in front of it is
    closed. -/
theorem contents_append_from (h : IsBoundary c) {pos skip : Nat} (inside : skip ≤ t.length)
    (closed : callsClosedFrom before skip t = true) :
    (allFrom before pos skip (t ++ c :: rest)).map content =
      (allFrom before pos skip t).map content ++ contents rest := by
  fun_induction callsClosedFrom before skip t generalizing pos with
  | case1 before skip =>
    obtain rfl : skip = 0 := Nat.le_zero.1 inside
    have behind : (allFrom (some c) (pos + 1) 0 rest).map content = contents rest := by
      rw [contents_allFrom _ _ 0]
      cases rest with
      | nil => rfl
      | cons d rest => simp only [contents, allIn, allFrom, isCandidate_before h.ident]
    simpa [allFrom, not_isCandidate_boundary h] using behind
  | case2 before x t skip ih => exact ih (Nat.le_of_succ_le_succ inside) closed
  | case3 before x t call inner tail cut ih =>
    have here := isCandidate_append_cons h before (x :: t) rest
    rw [List.cons_append] at here ⊢
    simp only [allFrom, here, call, cut, if_true, cutParen?_drop_append call cut, List.map_cons,
      List.cons_append]
    rw [ih (length_of_call call cut) closed]
  | case4 before x t call cut => cases closed
  | case5 before x t call ih =>
    have here := isCandidate_append_cons h before (x :: t) rest
    rw [List.cons_append] at here ⊢
    simp only [allFrom, here, call, Bool.false_eq_true, if_false]
    exact ih (Nat.zero_le _) closed

theorem contents_append_cons (h : IsBoundary c) (closed : callsClosed t = true) (rest : Text) :
    contents (t ++ c :: rest) = contents t ++ contents rest :=
  contents_append_from h (Nat.zero_le _) closed

theorem contents_joinWith {lines : List Text} (closed : ∀ t ∈ lines, callsClosed t = true) :
    contents (Text.joinWith ['\n'] lines) = lines.flatMap contents := by
  induction lines with
  | nil => rfl
  | cons t lines ih =>
    obtain ⟨here, later⟩ := List.forall_mem_cons.1 closed
    by_cases last : lines = []
    · rw [last, Text.joinWith, List.intercalate_singleton, List.flatMap_singleton]
    · rw [Text.joinWith_cons_of_ne_nil _ last,
        contents_append_cons (isBoundary_of_blank (by decide)) here, ih later]
      rfl

/-- Where all calls are closed, a call is a closed one. -/
theorem startsAfter_eq_false_of_allFrom {pos : Nat} (closed : callsClosedFrom before 0 t = true)
    (none : allFrom before pos 0 t = []) : startsAfter before t = false := by
  induction t generalizing before pos with
  | nil => rfl
  | cons x t ih =>
    by_cases call : isCandidate before (x :: t) = true
    · cases cut : Scan.cutParen? (t.drop 2) with
      | none =>
        simp only [callsClosedFrom, call, cut, if_true] at closed
        cases closed
      | some parts =>
        simp only [allFrom, call, cut, if_true] at none
        cases none
    · simp only [callsClosedFrom, call, Bool.false_eq_true, if_false] at closed
      simp only [allFrom, call, Bool.false_eq_true, if_false] at none
      rw [startsAfter, ih closed none, Bool.or_false, Bool.eq_false_iff]
      exact call

theorem allIn_ne_nil_of_closed (closed : callsClosed t = true) (call : anyIn t = true) :
    allIn t ≠ [] := by
  intro none
  rw [anyIn, startsAfter_eq_false_of_allFrom closed none] at call
  cases call

end Occurrence

namespace Render

open Occurrence (anyIn callsClosed contents)

variable {h : Host} {options : Options}

/-! ### Texts with nothing left to resolve -/

/-- Whether a call with this content cannot be read. -/
def isUnreadable (content : Text) : Bool :=
  !(Conditional.parse .literal content).isOk

/-- Whether every call of a text is closed and none can be read. -/
def isInert (t : Text) : Bool :=
  callsClosed t && (contents t).all isUnreadable

theorem isUnreadable_iff {content : Text} :
    isUnreadable content = true ↔ ∃ e, Conditional.parse .literal content = .error e := by
  unfold isUnreadable
  cases Conditional.parse .literal content <;> simp [Except.isOk, Except.toBool]

theorem stage_of_unreadable {t : Text} (unreadable : (contents t).all isUnreadable = true) :
    stage h t = t := by
  refine Occurrence.mapCalls_eq_self fun o member => ?_
  obtain ⟨e, read⟩ := isUnreadable_iff.1
    (List.all_eq_true.1 unreadable o.content (List.mem_map_of_mem member))
  simp only [callValue, read]
  rfl

theorem stage_of_isInert {t : Text} (inert : isInert t = true) : stage h t = t :=
  stage_of_unreadable (Bool.and_eq_true_iff.1 inert).2

theorem iterate_joinWith {lines : List Text} {n : Nat}
    (closed : ∀ t ∈ lines, ∀ k < n, callsClosed ((stage h)^[k] t) = true) :
    (stage h)^[n] (Text.joinWith ['\n'] lines) = Text.joinWith ['\n'] (lines.map (stage h)^[n]) := by
  induction n with
  | zero => simp
  | succ n ih =>
    have ready : ∀ t ∈ lines.map (stage h)^[n], callsClosed t = true := by
      intro staged member
      obtain ⟨t, ht, rfl⟩ := List.mem_map.1 member
      exact closed t ht n (Nat.lt_succ_self n)
    have staged := (stage_intercalate h (Occurrence.isBoundary_of_blank (c := '\n') (by decide)) ready).1
    rw [Function.iterate_succ_apply', ih fun t ht k below => closed t ht k (Nat.lt_succ_of_lt below),
      Text.joinWith, staged, List.map_map, ← Function.iterate_succ']
    rfl

theorem isInert_joinWith {lines : List Text} (inert : ∀ t ∈ lines, isInert t = true) :
    isInert (Text.joinWith ['\n'] lines) = true := by
  have closed : ∀ t ∈ lines, callsClosed t = true := fun t member =>
    (Bool.and_eq_true_iff.1 (inert t member)).1
  refine Bool.and_eq_true_iff.2 ⟨?_, ?_⟩
  · exact (stage_intercalate {} (Occurrence.isBoundary_of_blank (by decide)) closed).2
  · rw [Occurrence.contents_joinWith closed, List.all_flatMap, List.all_eq_true]
    exact fun t member => (Bool.and_eq_true_iff.1 (inert t member)).2

/-! ### The limit of passes -/

/-- What is logged when the limit of passes is reached. -/
def limitReached : Effect :=
  .logged
    { level := .warning, source := .session,
      message := s!"Stopped resolving if() after {maxPasses} passes; " ++ "output may contain if()" }

theorem unreadable_of_resolveWithin {passes : Nat} {failed : List Text} {s : Text}
    (limit : limitReached ∉ (resolveWithin h options passes failed s).effects) :
    (contents ((stage h)^[passes] s)).all isUnreadable = true := by
  induction passes generalizing failed s with
  | zero => exact absurd List.mem_cons_self limit
  | succ passes ih =>
    unfold resolveWithin at limit
    cases changed : (pass h options failed (Occurrence.allIn s)).changed with
    | true =>
      simp only [changed, if_true, replaceAll_pass] at limit
      exact ih fun member => limit (List.mem_append_right _ member)
    | false =>
      rw [Function.iterate_fixed (stage_of_not_changed changed), List.all_eq_true]
      intro content member
      obtain ⟨o, isCall, rfl⟩ := List.mem_map.1 member
      exact isUnreadable_iff.2 (exists_error_of_not_changed changed isCall)

/-- Below the limit of passes no call that can be read is left. -/
theorem unreadable_of_limit {s : Text} (limit : limitReached ∉ (resolve h options s).effects) :
    (contents ((stage h)^[maxPasses] s)).all isUnreadable = true :=
  unreadable_of_resolveWithin limit

/-! ### Settled texts -/

/-- Whether nothing of a text is deferred. -/
def stays (t : Text) : Bool :=
  (Expand.item t).deferred.isEmpty

/-- A text that expanding and resolving it by itself gives back. -/
inductive Settled (t : Text) : Prop where
  /-- It is kept. -/
  | kept (native : (Expand.item t).native = [t]) (deferred : (Expand.item t).deferred = [])
  /-- It is deferred as a whole, for a call that cannot be read. -/
  | waiting (native : (Expand.item t).native = []) (deferred : (Expand.item t).deferred = [t])
      (call : anyIn t = true) (inert : isInert t = true)

namespace Settled

variable {t : Text}

theorem native (h : Settled t) : (Expand.item t).native = if stays t then [t] else [] := by
  cases h with
  | kept native deferred => simp [stays, native, deferred]
  | waiting native deferred => simp [stays, native, deferred]

theorem deferred (h : Settled t) : (Expand.item t).deferred = if !stays t then [t] else [] := by
  cases h with
  | kept native deferred => simp [stays, deferred]
  | waiting native deferred => simp [stays, deferred]

theorem of_not_stays (h : Settled t) (waits : stays t = false) :
    anyIn t = true ∧ isInert t = true := by
  cases h with
  | kept _ deferred => simp [stays, deferred] at waits
  | waiting _ _ call inert => exact ⟨call, inert⟩

end Settled

/-- The texts with those behind the others that are deferred. -/
def settleOrder (lines : List Text) : List Text :=
  lines.filter stays ++ lines.filter (!stays ·)

theorem mem_settleOrder {lines : List Text} {t : Text} : t ∈ settleOrder lines ↔ t ∈ lines := by
  simp only [settleOrder, List.mem_append, List.mem_filter]
  cases stays t <;> simp

theorem settleOrder_settleOrder (lines : List Text) :
    settleOrder (settleOrder lines) = settleOrder lines := by
  simp [settleOrder, List.filter_append, List.filter_filter]

/-- Nothing is moved if no text that stays is behind one that is deferred. -/
theorem settleOrder_eq_self_iff {lines : List Text} :
    settleOrder lines = lines ↔ lines.Pairwise fun a b => stays b = true → stays a = true := by
  induction lines with
  | nil => simp [settleOrder]
  | cons t lines ih =>
    rw [List.pairwise_cons, ← ih]
    cases here : stays t with
    | true => simp [settleOrder, here]
    | false =>
      have first : settleOrder (t :: lines) = lines.filter stays ++ t :: lines.filter (!stays ·) := by
        simp [settleOrder, here]
      rw [first]
      constructor
      · intro same
        -- A kept text would come first.
        have none : lines.filter stays = [] := by
          cases kept : lines.filter stays with
          | nil => rfl
          | cons u kept' =>
            rw [kept] at same
            obtain ⟨rfl, -⟩ := List.cons.inj same
            have := (List.mem_filter.1 (kept ▸ List.mem_cons_self : u ∈ lines.filter stays)).2
            rw [here] at this
            cases this
        rw [none] at same
        refine ⟨fun u member kept => ?_, ?_⟩
        · exact absurd kept (List.filter_eq_nil_iff.1 none u member)
        · rw [settleOrder, none]
          exact (List.cons.inj same).2
      · rintro ⟨behind, same⟩
        have none : lines.filter stays = [] :=
          List.filter_eq_nil_iff.2 fun u member kept => by cases behind u member kept
        rw [settleOrder, none] at same
        rw [none]
        exact congrArg (t :: ·) same

/-- What settled texts give to one of the two streams. -/
theorem flatMap_of_settled {lines : List Text} {stream : Text → List Text} {p : Text → Bool}
    (each : ∀ t ∈ lines, stream t = if p t then [t] else []) :
    lines.flatMap stream = lines.filter p := by
  induction lines with
  | nil => rfl
  | cons t lines ih =>
    obtain ⟨here, later⟩ := List.forall_mem_cons.1 each
    rw [List.flatMap_cons, ih later, here, List.filter_cons]
    split <;> rfl

/-- A rendering is the native stream and the resolved deferred stream, as far as they are not
    empty. -/
theorem text_of_hasToken (h : Host) (debug : Bool) {s : Text} (token : Expand.hasToken s = true) :
    (render h { debug } s).text =
      Text.joinWith ['\n']
        ([Text.trim (Text.joinWith ['\n'] ((Sheet.items s).flatMap fun i => (Expand.item i).native)),
          (stage h)^[maxPasses] (Text.trim (Text.joinWith ['\n']
            ((Sheet.items s).flatMap fun i => (Expand.item i).deferred)))].filter (!·.isEmpty)) := by
  simp only [render, token, Bool.not_true, Bool.false_eq_true, if_false, Expand.sheet,
    List.flatMap_map, resolve_text]
  split
  · rfl
  · rename_i none
    have nothing : (Sheet.items s).flatMap (fun i => (Expand.item i).deferred) = [] := by
      simpa using none
    have empty : (stage h)^[maxPasses] [] = [] := Function.iterate_fixed rfl _
    rw [nothing]
    change _ = Text.joinWith ['\n'] (List.filter _ [_, (stage h)^[maxPasses] []])
    rw [empty]
    generalize Text.trim _ = native
    cases native <;> simp [Text.joinWith]

/-- Rendering settled texts, each on a line of its own, puts those behind the others that are
    deferred. -/
theorem render_lines (h : Host) (debug : Bool) {lines : List Text}
    (standing : ∀ t ∈ lines, Sheet.Stands t) (settled : ∀ t ∈ lines, Settled t) :
    (render h { debug } (Text.joinWith ['\n'] lines)).text =
      Text.joinWith ['\n'] (settleOrder lines) := by
  cases token : Expand.hasToken (Text.joinWith ['\n'] lines) with
  | false =>
    have all : ∀ t ∈ lines, stays t = true := by
      intro t member
      cases waits : stays t with
      | true => rfl
      | false =>
        have call := ((settled t member).of_not_stays waits).1
        have some : anyIn (Text.joinWith ['\n'] lines) = true := by
          rw [Occurrence.anyIn_lines]
          exact List.any_eq_true.2 ⟨t, member, call⟩
        have present := Text.hasInfix_iff.2 (Occurrence.token_infix_of_startsAfter some)
        rw [Expand.hasToken, present] at token
        cases token
    have none : lines.filter (!stays ·) = [] :=
      List.filter_eq_nil_iff.2 fun t member => by simp [all t member]
    have same : settleOrder lines = lines := by
      rw [settleOrder, List.filter_eq_self.2 all, none, List.append_nil]
    simp [render, token, same]
  | true =>
    have solid : ∀ t ∈ lines, Text.trim t = t ∧ t ≠ [] := fun t member =>
      ⟨(standing t member).trimmed, (standing t member).nonempty⟩
    have trimmed (p : Text → Bool) : Text.trim (Text.joinWith ['\n'] (lines.filter p)) =
        Text.joinWith ['\n'] (lines.filter p) :=
      Text.trim_joinWith fun t member => solid t (List.mem_filter.1 member).1
    have inert : ∀ t ∈ lines.filter (!stays ·), isInert t = true := by
      intro t member
      obtain ⟨inLines, waits⟩ := List.mem_filter.1 member
      exact ((settled t inLines).of_not_stays (by simpa using waits)).2
    have resolved : (stage h)^[maxPasses] (Text.joinWith ['\n'] (lines.filter (!stays ·))) =
        Text.joinWith ['\n'] (lines.filter (!stays ·)) :=
      Function.iterate_fixed (stage_of_isInert (isInert_joinWith inert)) _
    rw [text_of_hasToken h debug token, Sheet.items_joinWith standing,
      flatMap_of_settled fun t member => (settled t member).native,
      flatMap_of_settled fun t member => (settled t member).deferred, trimmed, trimmed, resolved]
    have groups := Text.joinWith_groups [lines.filter stays, lines.filter (!stays ·)]
      (by
        simp only [List.forall_mem_cons]
        exact ⟨fun t member => (solid t (List.mem_filter.1 member).1).2,
          fun t member => (solid t (List.mem_filter.1 member).1).2, by simp⟩)
    simpa [settleOrder] using groups

end Render
end CondCss
