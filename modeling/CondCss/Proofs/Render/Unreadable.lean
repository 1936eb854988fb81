import CondCss.Proofs.Render.Quoted
import CondCss.Proofs.Render.Settled

/-!
# Calls that cannot be read

A call that cannot be read is replaced by itself, so a pass is a pass over the calls that can be read
(`stage_eq_substituteFrom`). Where none of these reaches into a stretch of the text, the stretch stays as
it is, behind what the pass makes of the text in front of it (`stage_around`).

Calls do not overlap, so a pass leaves a call alone that it cannot read. The passes after it do so too,
unless what earlier ones put in place makes a call of the text around it. As long as this does not
happen, the call stands where the passes moved it to (`stands_of_unreadable`). When a style sheet is
expanded first, a declaration with such a call is not expanded but kept whole for the passes
(`declaration_of_malformed`).
-/

namespace CondCss

namespace Text

variable {s : Text} {cursor pos start stop : Nat}

/-- Nothing is replaced in front of the first span. -/
theorem substituteFrom_of_le {edits : List (Span × Text)} (le : cursor ≤ pos)
    (behind : ∀ e ∈ edits, pos ≤ e.1.start) :
    substituteFrom s cursor edits =
      (s.drop cursor).take (pos - cursor) ++ substituteFrom s pos edits := by
  cases edits with
  | nil =>
    have rest : s.drop pos = (s.drop cursor).drop (pos - cursor) := by
      rw [List.drop_drop, Nat.add_sub_cancel' le]
    rw [substituteFrom, substituteFrom, rest, List.take_append_drop]
  | cons e edits =>
    have gap := take_drop_append (s := s) le (behind e List.mem_cons_self)
    rw [substituteFrom, substituteFrom, ← gap, List.append_assoc, List.append_assoc,
      List.append_assoc]

/-- A stretch in front of the first span is kept. -/
theorem substituteFrom_behind {edits : List (Span × Text)} (le : cursor ≤ start)
    (ordered : start ≤ stop) (behind : ∀ e ∈ edits, stop ≤ e.1.start) :
    substituteFrom s cursor edits = (s.take start).drop cursor ++
      (s.drop start).take (stop - start) ++ substituteFrom s stop edits := by
  have toStart := substituteFrom_of_le (s := s) le fun e member =>
    Nat.le_trans ordered (behind e member)
  have toStop := substituteFrom_of_le (s := s) ordered behind
  rw [toStart, toStop, List.drop_take, List.append_assoc]

/-- A stretch that no span reaches into is kept, behind what the text in front of it becomes. -/
theorem substituteFrom_around {edits : List (Span × Text)}
    (sorted : edits.Pairwise fun a b => a.1.stop ≤ b.1.start)
    (valid : ∀ e ∈ edits, cursor ≤ e.1.start ∧ e.1.start < e.1.stop)
    (apart : ∀ e ∈ edits, e.1.stop ≤ start ∨ stop ≤ e.1.start) (le : cursor ≤ start)
    (ordered : start ≤ stop) :
    ∃ back, substituteFrom s cursor edits =
      substituteFrom (s.take start) cursor (edits.filter (·.1.stop ≤ start)) ++
        (s.drop start).take (stop - start) ++ back := by
  induction edits generalizing cursor with
  | nil => exact ⟨_, substituteFrom_behind le ordered (by simp)⟩
  | cons e edits ih =>
    obtain ⟨later, sorted⟩ := List.pairwise_cons.1 sorted
    obtain ⟨⟨here, proper⟩, valid⟩ := List.forall_mem_cons.1 valid
    obtain ⟨inFront | behind, apart⟩ := List.forall_mem_cons.1 apart
    · obtain ⟨back, rest⟩ := ih sorted (fun e' member => ⟨later e' member, (valid e' member).2⟩)
        apart inFront
      have gap : ((s.take start).drop cursor).take (e.1.start - cursor) =
          (s.drop cursor).take (e.1.start - cursor) := by
        rw [List.drop_take, List.take_take, Nat.min_eq_left (by omega)]
      refine ⟨back, ?_⟩
      rw [substituteFrom, rest, List.filter_cons_of_pos (by simpa using inFront), substituteFrom, gap]
      simp only [List.append_assoc]
    · -- The spans are in order, so none is in front.
      have allBehind : ∀ e' ∈ e :: edits, stop ≤ e'.1.start := by
        refine List.forall_mem_cons.2 ⟨behind, fun e' member => ?_⟩
        have := later e' member
        omega
      have none : (e :: edits).filter (fun e' => e'.1.stop ≤ start) = [] := by
        refine List.filter_eq_nil_iff.2 fun e' member => ?_
        have := allBehind e' member
        have : e'.1.start < e'.1.stop := by
          rcases List.mem_cons.1 member with rfl | member
          · exact proper
          · exact (valid e' member).2
        simp only [decide_eq_true_eq]
        omega
      rw [none]
      exact ⟨_, substituteFrom_behind le ordered allBehind⟩

end Text

namespace Render

open Occurrence

variable {s : Text} {h : Host} {cursor pos len : Nat}

/-! ### Passes over the calls that can be read -/

/-- The calls of a text that can be read. -/
def readable (s : Text) : List Occurrence :=
  (allIn s).filter fun o => !isUnreadable o.content

theorem callValue_of_unreadable {o : Occurrence} (unreadable : isUnreadable o.content = true) :
    callValue h o.content = o.fullText := by
  obtain ⟨e, read⟩ := isUnreadable_iff.1 unreadable
  simp only [callValue, read]
  rfl

/-- To replace a call by itself is to leave it out. -/
theorem substituteFrom_filter {calls : List Occurrence} (isCall : ∀ o ∈ calls, IsCall s o)
    (sorted : calls.Pairwise fun a b => a.stop ≤ b.start) (behind : ∀ o ∈ calls, cursor ≤ o.start) :
    Text.substituteFrom s cursor (edits (callValue h) calls) =
      Text.substituteFrom s cursor
        (edits (callValue h) (calls.filter fun o => !isUnreadable o.content)) := by
  induction calls generalizing cursor with
  | nil => rfl
  | cons o calls ih =>
    obtain ⟨isCall, others⟩ := List.forall_mem_cons.1 isCall
    obtain ⟨later, sorted⟩ := List.pairwise_cons.1 sorted
    have start := (List.forall_mem_cons.1 behind).1
    have rest := ih others sorted later
    cases unreadable : isUnreadable o.content with
    | false =>
      rw [List.filter_cons_of_pos (by simp [unreadable])]
      exact congrArg (_ ++ _ ++ ·) rest
    | true =>
      have laterEdits : ∀ e ∈ edits (callValue h) (calls.filter fun o => !isUnreadable o.content),
          o.stop ≤ e.1.start := by
        intro e member
        obtain ⟨o', inCalls, rfl⟩ := List.mem_map.1 member
        exact later o' (List.mem_filter.1 inCalls).1
      have stop := Nat.le_of_lt (start_lt_stop o)
      rw [List.filter_cons_of_neg (by simp [unreadable]),
        Text.substituteFrom_of_le (Nat.le_trans start stop) laterEdits, ← rest,
        ← Text.take_drop_append start stop, isCall.fullText_eq, ← callValue_of_unreadable unreadable]
      rfl

/-- A pass replaces the calls that can be read, and no others. -/
theorem stage_eq_substituteFrom (h : Host) (s : Text) :
    stage h s = Text.substituteFrom s 0 (edits (callValue h) (readable s)) := by
  have lists := lists_allIn s
  have all : stage h s = Text.substituteFrom s 0 (edits (callValue h) (allIn s)) :=
    (substituteFrom_edits_allIn (callValue h) s).symm
  rw [all]
  exact substituteFrom_filter (fun o member => (lists.isCall o member).2) lists.pairwise
    fun _ _ => Nat.zero_le _

/-! ### Stretches that are left alone -/

/-- A call that can be read reaches into a stretch of a text. -/
def Reaches (s : Text) (pos len : Nat) : Prop :=
  ∃ o ∈ readable s, pos < o.stop ∧ o.start < pos + len

instance (s : Text) (pos len : Nat) : Decidable (Reaches s pos len) :=
  inferInstanceAs (Decidable (∃ o ∈ readable s, pos < o.stop ∧ o.start < pos + len))

/-- What a pass makes of the text in front of a position that no call reaches over. -/
def stageBefore (h : Host) (s : Text) (pos : Nat) : Text :=
  Text.substituteFrom (s.take pos) 0
    (edits (callValue h) ((readable s).filter fun o => o.stop ≤ pos))

/-- A stretch that no call reaches into is left alone. -/
theorem stage_around (free : ¬Reaches s pos len) :
    ∃ back, stage h s = stageBefore h s pos ++ (s.drop pos).take len ++ back := by
  have sorted : (edits (callValue h) (readable s)).Pairwise fun a b => a.1.stop ≤ b.1.start :=
    List.pairwise_map.2 ((lists_allIn s).pairwise.filter _)
  have valid : ∀ e ∈ edits (callValue h) (readable s), 0 ≤ e.1.start ∧ e.1.start < e.1.stop := by
    intro e member
    obtain ⟨o, -, rfl⟩ := List.mem_map.1 member
    exact ⟨Nat.zero_le _, start_lt_stop o⟩
  have apart : ∀ e ∈ edits (callValue h) (readable s),
      e.1.stop ≤ pos ∨ pos + len ≤ e.1.start := by
    intro e member
    obtain ⟨o, inCalls, rfl⟩ := List.mem_map.1 member
    by_contra overlap
    rw [not_or, Nat.not_le, Nat.not_le] at overlap
    exact free ⟨o, inCalls, overlap⟩
  obtain ⟨back, split⟩ := Text.substituteFrom_around (s := s) sorted valid apart (Nat.zero_le pos)
    (Nat.le_add_right pos len)
  refine ⟨back, ?_⟩
  rw [stage_eq_substituteFrom, split, Nat.add_sub_cancel_left, stageBefore, edits, List.filter_map]
  rfl

/-- Where passes move a position to that no call reaches over. -/
def place (h : Host) (s : Text) (pos : Nat) : (passes : Nat) → Nat
  | 0 => pos
  | passes + 1 => (stageBefore h ((stage h)^[passes] s) (place h s pos passes)).length

/-- A text stands at a position. -/
def StandsAt (kept s : Text) (pos : Nat) : Prop :=
  (s.drop pos).take kept.length = kept

instance (kept s : Text) (pos : Nat) : Decidable (StandsAt kept s pos) :=
  inferInstanceAs (Decidable (_ = _))

theorem StandsAt.isInfix {kept : Text} (h : StandsAt kept s pos) : kept <:+: s := by
  rw [← h]
  exact (List.take_prefix _ _).isInfix.trans (List.drop_suffix _ _).isInfix

theorem standsAt_stage {kept : Text} (stands : StandsAt kept s pos)
    (free : ¬Reaches s pos kept.length) :
    StandsAt kept (stage h s) (stageBefore h s pos).length := by
  obtain ⟨back, split⟩ := stage_around (h := h) free
  rw [StandsAt] at stands ⊢
  rw [split, stands, List.append_assoc, List.drop_left, List.take_left]

/-- A text stays, as long as no call that can be read reaches into its place. -/
theorem standsAt_iterate {kept : Text} {n : Nat} (stands : StandsAt kept s pos)
    (free : ∀ m < n, ¬Reaches ((stage h)^[m] s) (place h s pos m) kept.length) :
    StandsAt kept ((stage h)^[n] s) (place h s pos n) := by
  induction n with
  | zero => exact stands
  | succ n ih =>
    have before := ih fun m below => free m (Nat.lt_succ_of_lt below)
    rw [Function.iterate_succ_apply']
    exact standsAt_stage before (free n (Nat.lt_succ_self n))

/-! ### Calls that cannot be read -/

theorem standsAt_of_mem {o : Occurrence} (member : o ∈ allIn s) : StandsAt o.fullText s o.start := by
  rw [StandsAt, ((lists_allIn s).isCall o member).2.drop_start, List.take_left]

theorem not_reaches_of_unreadable {o : Occurrence} (member : o ∈ allIn s)
    (unreadable : isUnreadable o.content = true) : ¬Reaches s o.start o.fullText.length := by
  rintro ⟨o', inReadable, behind, inFront⟩
  obtain ⟨member', isReadable⟩ := List.mem_filter.1 inReadable
  have stop := start_lt_stop o
  rw [length_fullText] at inFront
  rcases (lists_allIn s).apart member member' with rfl | before | after
  · simp [unreadable] at isReadable
  · omega
  · omega

/-- A call that cannot be read stands in the text after every pass, as long as no pass behind the first
    finds a call in its place that can be read. -/
theorem stands_of_unreadable {o : Occurrence} {n : Nat} (member : o ∈ allIn s)
    (unreadable : isUnreadable o.content = true)
    (free : ∀ m < n, 0 < m → ¬Reaches ((stage h)^[m] s) (place h s o.start m) o.fullText.length) :
    StandsAt o.fullText ((stage h)^[n] s) (place h s o.start n) := by
  refine standsAt_iterate (standsAt_of_mem member) fun m below => ?_
  rcases Nat.eq_zero_or_pos m with rfl | later
  · exact not_reaches_of_unreadable member unreadable
  · exact free m below later

/-- A call that cannot be read, in the `else` of what is a call once its name is put together. -/
def fusedName : Text :=
  "if(true: i)f(true: a; else: if(b) )".toList

/-- The first pass leaves the inner call alone, the second one takes it for a part of the outer. -/
example :
    (allIn fusedName).map content = ["true: i".toList, "b".toList] ∧
      stage {} fusedName = "if(true: a; else: if(b) )".toList ∧
      Reaches (stage {} fusedName) (place {} fusedName 28 1) 5 ∧
      stage {} (stage {} fusedName) = "a".toList := by
  decide +kernel

end Render

/-! ### Declarations that are not expanded -/

/-- A declaration with a call that cannot be read is kept whole for evaluation. -/
theorem Expand.declaration_of_malformed {selector property value : Text} {o : Occurrence}
    (member : o ∈ Occurrence.allIn value) (malformed : IsMalformed o) :
    (declaration selector property value).native = [] ∧
      (declaration selector property value).deferred =
        some (declarationRule selector property value) := by
  unfold declaration
  cases expanded : variants value with
  | error why => exact ⟨rfl, rfl⟩
  | ok all =>
    obtain ⟨calls, read, -⟩ := variants_eq_ok (List.ne_nil_of_mem member) expanded
    obtain ⟨c, -, isNative⟩ := exists_mem_of_mapM read member
    obtain ⟨e, failed⟩ := malformed
    cases failed.symm.trans (readNative_eq_ok isNative).1

end CondCss
