import CondCss.Proofs.Scan.Strings
import Mathlib.Data.Nat.Count
import Mathlib.Order.Bounds.Basic

/-!
# Positions at the top level

Finding a separator, splitting at separators and closing a parenthesis are three scans of their own, and
splitting searches anew behind every separator. Here they are compared with one scan that only keeps count:
which string is open in front of a position (`quoteSince`), and how many more parentheses have been opened
than closed there (`depthSince`), both since a given start. Any character may be the separator, also a
blank, a quote, a backslash or a parenthesis.

Each search finds the first position of its kind (`FindsFirst`). Where no string is open and the depth is
zero, the scan may begin anew without another outcome (`isCut_restart`), and so it is behind every
separator (`IsCut.depth_succ`). Together they give what each scan finds (`scanners_agree`).
-/

namespace CondCss
namespace Scan

variable {s : Text} {start begin pos : Nat} {c sep : Char}

/-! ### One scan -/

/-- The string that is open in front of a position, in a scan since `start`. -/
def quoteSince (s : Text) (start : Nat) : (pos : Nat) → Option Quote
  | 0 => none
  | pos + 1 => if pos < start then none else Quote.nextAt s pos (quoteSince s start pos)

/-- A character outside strings, in a scan since `start`. -/
structure IsUnquoted (s : Text) (start : Nat) (c : Char) (pos : Nat) : Prop where
  since : start ≤ pos
  char : s[pos]? = some c
  quote : quoteSince s start (pos + 1) = none

theorem isUnquoted_iff :
    IsUnquoted s start c pos ↔ start ≤ pos ∧ s[pos]? = some c ∧ quoteSince s start (pos + 1) = none := by
  constructor
  · rintro ⟨since, char, quote⟩
    exact ⟨since, char, quote⟩
  · rintro ⟨since, char, quote⟩
    exact ⟨since, char, quote⟩

instance : DecidablePred (IsUnquoted s start c) :=
  fun _ => decidable_of_iff _ isUnquoted_iff.symm

/-- How many more parentheses are opened than closed in front of a position, in a scan since `start`. -/
def depthSince (s : Text) (start pos : Nat) : Int :=
  Nat.count (IsUnquoted s start '(') pos - Nat.count (IsUnquoted s start ')') pos

/-- A character outside strings and parentheses, in a scan since `start`. -/
structure IsTopLevel (s : Text) (start : Nat) (c : Char) (pos : Nat) : Prop
    extends IsUnquoted s start c pos where
  depth : depthSince s start pos = 0

/-- A separator outside strings and parentheses that is no parenthesis, in a scan since `start`. -/
structure IsCut (sep : Char) (s : Text) (start pos : Nat) : Prop extends IsTopLevel s start sep pos where
  opening : sep ≠ '('
  closing : sep ≠ ')'

theorem isCut_iff : IsCut sep s start pos ↔
    IsUnquoted s start sep pos ∧ depthSince s start pos = 0 ∧ sep ≠ '(' ∧ sep ≠ ')' := by
  constructor
  · rintro ⟨⟨unquoted, depth⟩, opening, closing⟩
    exact ⟨unquoted, depth, opening, closing⟩
  · rintro ⟨unquoted, depth, opening, closing⟩
    exact ⟨⟨unquoted, depth⟩, opening, closing⟩

instance : DecidablePred (IsCut sep s start) :=
  fun _ => decidable_of_iff _ isCut_iff.symm

theorem IsUnquoted.inside (h : IsUnquoted s start c pos) : pos < s.length :=
  (List.getElem?_eq_some_iff.1 h.char).1

/-! ### One step of the scan -/

theorem quoteSince_self (s : Text) (start : Nat) : quoteSince s start start = none := by
  cases start with
  | zero => rfl
  | succ start => exact if_pos (Nat.lt_succ_self start)

theorem quoteSince_succ (since : start ≤ pos) :
    quoteSince s start (pos + 1) = Quote.nextAt s pos (quoteSince s start pos) :=
  if_neg (Nat.not_lt.2 since)

/-- From the beginning of a text, it is the string that is open at a position. -/
theorem quoteSince_zero (s : Text) (pos : Nat) : quoteSince s 0 pos = quoteAt s pos := by
  induction pos with
  | zero => rfl
  | succ pos ih => rw [quoteSince_succ (Nat.zero_le pos), ih, quoteAt]

theorem next_quoteSince (since : start ≤ pos) (char : s[pos]? = some c) :
    Quote.next (Text.charBefore? s pos) c (quoteSince s start pos) = quoteSince s start (pos + 1) := by
  rw [quoteSince_succ since, Quote.nextAt, char]

theorem depthSince_of_le (h : pos ≤ start) : depthSince s start pos = 0 := by
  have none (c : Char) : Nat.count (IsUnquoted s start c) pos = 0 := by
    rw [Nat.count_iff_forall_not]
    intro i before unquoted
    have since := unquoted.since
    omega
  rw [depthSince, none, none]
  rfl

theorem depthSince_succ (s : Text) (start pos : Nat) :
    depthSince s start (pos + 1) = depthSince s start pos +
      (if IsUnquoted s start '(' pos then 1 else 0) - (if IsUnquoted s start ')' pos then 1 else 0) := by
  rw [depthSince, depthSince, Nat.count_succ, Nat.count_succ]
  split <;> split <;> omega

theorem depthAfter_depthSince (since : start ≤ pos) (char : s[pos]? = some c) :
    depthAfter (Text.charBefore? s pos) (quoteSince s start pos) c (depthSince s start pos) =
      depthSince s start (pos + 1) := by
  have unquoted (d : Char) :
      IsUnquoted s start d pos ↔ c = d ∧ quoteSince s start (pos + 1) = none := by
    rw [isUnquoted_iff, char, Option.some.injEq]
    exact and_iff_right since
  rw [depthAfter, next_quoteSince since char, depthSince_succ]
  simp only [unquoted]
  cases quoteSince s start (pos + 1) with
  | some opened => simp
  | none =>
    by_cases opening : c = '('
    · simp [opening]
    · by_cases closing : c = ')'
      · simp [closing]
      · simp [opening, closing]

/-! ### Beginning anew -/

/-- Where no string is open, a scan may begin anew. -/
theorem quoteSince_restart (h : start ≤ begin) (closed : quoteSince s start begin = none)
    (since : begin ≤ pos) : quoteSince s begin pos = quoteSince s start pos := by
  induction pos, since using Nat.le_induction with
  | base => rw [quoteSince_self, closed]
  | succ pos since ih => rw [quoteSince_succ since, quoteSince_succ (h.trans since), ih]

theorem isUnquoted_restart (h : start ≤ begin) (closed : quoteSince s start begin = none)
    (since : begin ≤ pos) : IsUnquoted s begin c pos ↔ IsUnquoted s start c pos := by
  rw [isUnquoted_iff, isUnquoted_iff, quoteSince_restart h closed (Nat.le_succ_of_le since),
    iff_true_intro since, iff_true_intro (h.trans since)]

/-- The depth since the start is the depth at the new beginning and the depth since then. -/
theorem depthSince_restart (h : start ≤ begin) (closed : quoteSince s start begin = none)
    (since : begin ≤ pos) :
    depthSince s start pos = depthSince s start begin + depthSince s begin pos := by
  induction pos, since using Nat.le_induction with
  | base => rw [depthSince_of_le (Nat.le_refl begin), Int.add_zero]
  | succ pos since ih =>
    rw [depthSince_succ, depthSince_succ s begin, ih]
    simp only [isUnquoted_restart h closed since]
    omega

/-- Where no string and no parenthesis is open, the separators are the same in a scan that begins anew. -/
theorem isCut_restart (h : start ≤ begin) (closed : quoteSince s start begin = none)
    (level : depthSince s start begin = 0) (since : begin ≤ pos) :
    IsCut sep s begin pos ↔ IsCut sep s start pos := by
  rw [isCut_iff, isCut_iff, isUnquoted_restart h closed since, depthSince_restart h closed since, level,
    Int.zero_add]

/-- Behind a separator no parenthesis is open. -/
theorem IsCut.depth_succ (h : IsCut sep s start pos) : depthSince s start (pos + 1) = 0 := by
  rw [← depthAfter_depthSince h.since h.char, depthAfter, next_quoteSince h.since h.char, h.quote, h.depth]
  simp [h.opening, h.closing]

/-! ### The first position of a kind -/

/-- A search from position to position finds the first position of a kind, between `start` and `stop`. -/
structure FindsFirst (P : Nat → Prop) (start stop : Nat) (search : Nat → Option Nat) : Prop where
  since {pos : Nat} (found : P pos) : start ≤ pos
  inside {pos : Nat} (found : P pos) : pos < stop
  here {pos : Nat} (found : P pos) : search pos = some pos
  onward {pos : Nat} (since : start ≤ pos) (inside : pos < stop) (free : ∀ i ≤ pos, ¬P i) :
    search pos = search (pos + 1)
  atEnd {pos : Nat} (outside : stop ≤ pos) : search pos = none

namespace FindsFirst

variable {P : Nat → Prop} {stop : Nat} {search : Nat → Option Nat}

/-- The search passes over positions that are not of the kind. -/
theorem eq_of_free (h : FindsFirst P start stop search) (since : start ≤ pos)
    (free : ∀ i < pos, ¬P i) : search start = search pos := by
  induction pos, since using Nat.le_induction with
  | base => rfl
  | succ pos since ih =>
    rw [ih fun i before => free i (Nat.lt_succ_of_lt before)]
    by_cases inside : pos < stop
    · exact h.onward since inside fun i upTo => free i (Nat.lt_succ_of_le upTo)
    · have outside : stop ≤ pos := Nat.le_of_not_lt inside
      rw [h.atEnd outside, h.atEnd (Nat.le_succ_of_le outside)]

theorem eq_some_of_isLeast (h : FindsFirst P start stop search) (least : IsLeast {i | P i} pos) :
    search start = some pos := by
  obtain ⟨found, first⟩ := least
  have free : ∀ i < pos, ¬P i := fun i before earlier => Nat.not_lt.2 (first earlier) before
  rw [h.eq_of_free (h.since found) free, h.here found]

theorem eq_none_of_free (h : FindsFirst P start stop search) (free : ∀ i, ¬P i) :
    search start = none := by
  rw [h.eq_of_free (Nat.le_max_left start stop) fun i _ => free i]
  exact h.atEnd (Nat.le_max_right start stop)

theorem exists_isLeast (h : ¬∀ i, ¬P i) : ∃ i, IsLeast {i | P i} i := by
  classical
  have found : ∃ i, P i := not_forall_not.1 h
  exact ⟨Nat.find found, Nat.find_spec found, fun i earlier => Nat.find_min' found earlier⟩

theorem eq_some_iff (h : FindsFirst P start stop search) :
    search start = some pos ↔ IsLeast {i | P i} pos := by
  constructor
  · intro result
    by_cases free : ∀ i, ¬P i
    · cases result.symm.trans (h.eq_none_of_free free)
    · obtain ⟨i, least⟩ := exists_isLeast free
      cases result.symm.trans (h.eq_some_of_isLeast least)
      exact least
  · exact h.eq_some_of_isLeast

theorem eq_none_iff (h : FindsFirst P start stop search) : search start = none ↔ ∀ i, ¬P i := by
  constructor
  · intro result
    by_contra free
    obtain ⟨i, least⟩ := exists_isLeast free
    cases result.symm.trans (h.eq_some_of_isLeast least)
  · exact h.eq_none_of_free

end FindsFirst

/-! ### Finding a separator -/

theorem drop_eq_cons (char : s[pos]? = some c) : s.drop pos = c :: s.drop (pos + 1) := by
  obtain ⟨inside, rfl⟩ := List.getElem?_eq_some_iff.1 char
  exact List.drop_eq_getElem_cons inside

/-- A cut is at the same position of the text, whether it is counted from a character or from behind it. -/
theorem map_position_cons (c : Char) (pos : Nat) (cut : Option (Text × Text)) :
    (cut.map fun parts => (c :: parts.1, parts.2)).map (fun parts => pos + parts.1.length) =
      cut.map fun parts => pos + 1 + parts.1.length := by
  cases cut with
  | none => rfl
  | some parts =>
    show some (pos + (parts.1.length + 1)) = some (pos + 1 + parts.1.length)
    rw [Nat.add_right_comm, Nat.add_assoc]

theorem cutsAt_iff_isCut (since : start ≤ pos) (char : s[pos]? = some c) :
    CutsAt (· == sep) (Text.charBefore? s pos) (quoteSince s start pos) (depthSince s start pos) c ↔
      IsCut sep s start pos := by
  rw [cutsAt_iff, next_quoteSince since char, isCut_iff, isUnquoted_iff, char, Option.some.injEq,
    beq_iff_eq]
  constructor
  · rintro ⟨quote, rfl, opening, closing, depth⟩
    exact ⟨⟨since, rfl, quote⟩, depth, opening, closing⟩
  · rintro ⟨⟨-, rfl, quote⟩, depth, opening, closing⟩
    exact ⟨quote, rfl, opening, closing, depth⟩

/-- The search for a separator, from any of the positions that it comes by. -/
def cutPosition? (sep : Char) (s : Text) (start pos : Nat) : Option Nat :=
  (cutTopLevel? (· == sep) (Text.charBefore? s pos) (quoteSince s start pos) (depthSince s start pos)
    (s.drop pos)).map fun parts => pos + parts.1.length

theorem findTopLevel?_eq (sep : Char) (s : Text) (start : Nat) :
    findTopLevel? (· == sep) s start = cutPosition? sep s start start := by
  rw [findTopLevel?, cutPosition?, quoteSince_self, depthSince_of_le (Nat.le_refl start)]

theorem findsFirst_cutPosition? (sep : Char) (s : Text) (start : Nat) :
    FindsFirst (IsCut sep s start) start s.length (cutPosition? sep s start) where
  since found := found.since
  inside found := found.inside
  here {pos} found := by
    have cuts := (cutsAt_iff_isCut found.since found.char).2 found
    rw [cutPosition?, drop_eq_cons found.char, cutTopLevel?_step, if_pos cuts]
    rfl
  onward {pos} since inside free := by
    have char : s[pos]? = some s[pos] := List.getElem?_eq_getElem inside
    have pass := mt (cutsAt_iff_isCut since char).1 (free pos (Nat.le_refl pos))
    have before : Text.charBefore? s (pos + 1) = some s[pos] := char
    rw [cutPosition?, cutPosition?, drop_eq_cons char, cutTopLevel?_step, if_neg pass,
      next_quoteSince since char, depthAfter_depthSince since char, before, map_position_cons]
  atEnd outside := by
    rw [cutPosition?, List.drop_eq_nil_of_le outside]
    rfl

theorem findTopLevel?_eq_some :
    findTopLevel? (· == sep) s start = some pos ↔ IsLeast {i | IsCut sep s start i} pos := by
  rw [findTopLevel?_eq]
  exact (findsFirst_cutPosition? sep s start).eq_some_iff

theorem findTopLevel?_eq_none :
    findTopLevel? (· == sep) s start = none ↔ ∀ i, ¬IsCut sep s start i := by
  rw [findTopLevel?_eq]
  exact (findsFirst_cutPosition? sep s start).eq_none_iff

theorem findTopLevel?_zero (isSep : Char → Bool) (s : Text) :
    findTopLevel? isSep s 0 = (cut? isSep s).map fun parts => parts.1.length := by
  simp only [findTopLevel?, cut?, Nat.zero_add]
  rfl

theorem cut?_eq_none : cut? (· == sep) s = none ↔ ∀ i, ¬IsCut sep s 0 i := by
  rw [← findTopLevel?_eq_none, findTopLevel?_zero, Option.map_eq_none_iff]

/-- A whole text is cut at its first separator. -/
theorem cut?_of_isLeast (least : IsLeast {i | IsCut sep s 0 i} pos) :
    cut? (· == sep) s = some (s.take pos, s.drop (pos + 1)) := by
  have found := findTopLevel?_eq_some.2 least
  rw [findTopLevel?_zero] at found
  obtain ⟨⟨head, tail⟩, cut, rfl⟩ := Option.map_eq_some_iff.1 found
  obtain ⟨shape, -⟩ := splitTopLevelFrom_of_cut cut
  rw [cut, shape]
  simp

theorem isLeast_of_cut? {head tail : Text} (cut : cut? (· == sep) s = some (head, tail)) :
    IsLeast {i | IsCut sep s 0 i} head.length := by
  apply findTopLevel?_eq_some.1
  rw [findTopLevel?_zero, cut]
  rfl

/-! ### Closing a parenthesis -/

theorem depthSince_succ_of_length_le (outside : s.length ≤ pos) :
    depthSince s start (pos + 1) = depthSince s start pos := by
  have none (c : Char) : ¬IsUnquoted s start c pos := fun unquoted => Nat.not_lt.2 outside unquoted.inside
  rw [depthSince_succ, if_neg (none '('), if_neg (none ')')]
  omega

theorem closesAt_iff_isTopLevel (since : start ≤ pos) (char : s[pos]? = some c)
    (nonneg : 0 ≤ depthSince s start pos) :
    ClosesAt (Text.charBefore? s pos) (quoteSince s start pos) (depthSince s start pos).toNat c ↔
      IsTopLevel s start ')' pos := by
  rw [ClosesAt, next_quoteSince since char]
  constructor
  · rintro ⟨quote, rfl, depth⟩
    exact ⟨⟨since, char, quote⟩, by omega⟩
  · rintro ⟨unquoted, depth⟩
    refine ⟨unquoted.quote, ?_, by omega⟩
    exact Option.some.inj (char.symm.trans unquoted.char)

/-- As long as the open parenthesis is not closed, the depth is not negative. -/
theorem depthSince_nonneg (free : ∀ i < pos, ¬IsTopLevel s start ')' i) : 0 ≤ depthSince s start pos := by
  induction pos with
  | zero => rw [depthSince_of_le (Nat.zero_le start)]
  | succ pos ih =>
    have nonneg : 0 ≤ depthSince s start pos := ih fun i before => free i (Nat.lt_succ_of_lt before)
    by_cases since : start ≤ pos
    · by_cases inside : pos < s.length
      · have char : s[pos]? = some s[pos] := List.getElem?_eq_getElem inside
        have pass := mt (closesAt_iff_isTopLevel since char nonneg).1 (free pos (Nat.lt_succ_self pos))
        have next := toNat_depthAfter pass
        rw [Int.toNat_of_nonneg nonneg, depthAfter_depthSince since char] at next
        omega
      · rwa [depthSince_succ_of_length_le (Nat.le_of_not_lt inside)]
    · rw [depthSince_of_le (Nat.lt_of_not_le since)]

/-- The search for the end of a parenthesis, from any of the positions that it comes by. -/
def closePosition? (s : Text) (start pos : Nat) : Option Nat :=
  (cutParenFrom? (Text.charBefore? s pos) (quoteSince s start pos) (depthSince s start pos).toNat
    (s.drop pos)).map fun parts => pos + parts.1.length

theorem closingParen_eq (s : Text) (start : Nat) :
    closingParen s start =
      match closePosition? s start start with
      | some pos => .ok pos
      | none => .error ⟨start⟩ := by
  have level : (depthSince s start start).toNat = 0 := by
    rw [depthSince_of_le (Nat.le_refl start)]
    rfl
  rw [closingParen, closePosition?, quoteSince_self, level]
  cases cutParenFrom? (Text.charBefore? s start) none 0 (s.drop start) <;> rfl

theorem findsFirst_closePosition? (s : Text) (start : Nat) :
    FindsFirst (IsTopLevel s start ')') start s.length (closePosition? s start) where
  since found := found.since
  inside found := found.inside
  here {pos} found := by
    have nonneg : 0 ≤ depthSince s start pos := Int.le_of_eq found.depth.symm
    have closes := (closesAt_iff_isTopLevel found.since found.char nonneg).2 found
    rw [closePosition?, drop_eq_cons found.char, cutParenFrom?_step, if_pos closes]
    rfl
  onward {pos} since inside free := by
    have char : s[pos]? = some s[pos] := List.getElem?_eq_getElem inside
    have nonneg : 0 ≤ depthSince s start pos :=
      depthSince_nonneg fun i before => free i (Nat.le_of_lt before)
    have pass := mt (closesAt_iff_isTopLevel since char nonneg).1 (free pos (Nat.le_refl pos))
    have before : Text.charBefore? s (pos + 1) = some s[pos] := char
    rw [closePosition?, closePosition?, drop_eq_cons char, cutParenFrom?_step, if_neg pass,
      next_quoteSince since char, Int.toNat_of_nonneg nonneg, depthAfter_depthSince since char, before,
      map_position_cons]
  atEnd outside := by
    rw [closePosition?, List.drop_eq_nil_of_le outside]
    rfl

theorem closingParen_eq_ok :
    closingParen s start = .ok pos ↔ IsLeast {i | IsTopLevel s start ')' i} pos := by
  rw [← (findsFirst_closePosition? s start).eq_some_iff, closingParen_eq]
  cases closePosition? s start start <;> simp

theorem closingParen_eq_error {unclosed : Unclosed} :
    closingParen s start = .error unclosed ↔ unclosed = ⟨start⟩ ∧ ∀ i, ¬IsTopLevel s start ')' i := by
  rw [← (findsFirst_closePosition? s start).eq_none_iff, closingParen_eq]
  cases closePosition? s start start <;> simp [eq_comm]

/-! ### Splitting -/

/-- The stretches of a text between some of its positions, from `begin` on; the characters at these
    positions are left out. -/
def slicesAt (s : Text) (begin : Nat) : (cuts : List Nat) → List Text
  | [] => [s.drop begin]
  | pos :: cuts => (s.drop begin).take (pos - begin) :: slicesAt s (pos + 1) cuts

/-- Splits from `begin` on, with a new search for a separator behind every separator. -/
def segments (sep : Char) (s : Text) (begin : Nat) : List Text :=
  match found : findTopLevel? (· == sep) s begin with
  | none => [s.drop begin]
  | some pos => (s.drop begin).take (pos - begin) :: segments sep s (pos + 1)
termination_by s.length - begin
decreasing_by
  have first := (findTopLevel?_eq_some.1 found).1
  have since := first.since
  have inside := first.inside
  omega

theorem segments_of_none (free : findTopLevel? (· == sep) s begin = none) :
    segments sep s begin = [s.drop begin] := by
  rw [segments]
  split
  · rfl
  · rename_i found
    cases free.symm.trans found

theorem segments_of_some (found : findTopLevel? (· == sep) s begin = some pos) :
    segments sep s begin = (s.drop begin).take (pos - begin) :: segments sep s (pos + 1) := by
  rw [segments]
  split
  · rename_i free
    cases free.symm.trans found
  · rename_i found'
    cases found.symm.trans found'
    rfl

/-- Splitting is a search for a separator that begins anew behind every separator. -/
theorem splitTopLevelFrom_eq_segments (sep : Char) (s : Text) (begin : Nat) :
    splitTopLevelFrom (· == sep) (Text.charBefore? s begin) none 0 (s.drop begin) =
      segments sep s begin := by
  induction begin using segments.induct sep s with
  | case1 begin free =>
    rw [segments_of_none free]
    exact splitTopLevelFrom_of_uncut (Option.map_eq_none_iff.1 free)
  | case2 begin pos found ih =>
    obtain ⟨⟨head, tail⟩, cut, rfl⟩ := Option.map_eq_some_iff.1 found
    obtain ⟨shape, pieces⟩ := splitTopLevelFrom_of_cut cut
    have first := (findTopLevel?_eq_some.1 found).1
    have rest : s.drop (begin + head.length + 1) = tail := by
      rw [Nat.add_assoc, ← List.drop_drop, shape]
      simp
    have before : Text.charBefore? s (begin + head.length + 1) = some sep := first.char
    have later : splitTopLevelFrom (· == sep) (some sep) none 0 tail =
        segments sep s (begin + head.length + 1) := by
      rw [← ih, before, rest]
    rw [segments_of_some found, pieces, later, Nat.add_sub_cancel_left, shape, List.take_left]

/-- The positions that are cut at, from `begin` on. -/
def cutsFrom (sep : Char) (s : Text) (begin : Nat) : List Nat :=
  (List.range' begin (s.length - begin)).filter (IsCut sep s 0 ·)

theorem cutsFrom_of_free (free : ∀ i, begin ≤ i → ¬IsCut sep s 0 i) : cutsFrom sep s begin = [] := by
  apply List.filter_eq_nil_iff.2
  intro i member
  simpa using free i (List.mem_range'_1.1 member).1

theorem cutsFrom_of_first (since : begin ≤ pos) (found : IsCut sep s 0 pos)
    (first : ∀ i, begin ≤ i → IsCut sep s 0 i → pos ≤ i) :
    cutsFrom sep s begin = pos :: cutsFrom sep s (pos + 1) := by
  have inside := found.inside
  have positions : List.range' begin (s.length - begin) =
      List.range' begin (pos - begin) ++ pos :: List.range' (pos + 1) (s.length - (pos + 1)) := by
    have here : pos :: List.range' (pos + 1) (s.length - (pos + 1)) =
        List.range' pos (s.length - (pos + 1) + 1) := List.range'_succ.symm
    have onward : begin + (pos - begin) = pos := by omega
    have all : pos - begin + (s.length - (pos + 1) + 1) = s.length - begin := by omega
    have two := List.range'_append_1 (s := begin) (m := pos - begin) (n := s.length - (pos + 1) + 1)
    rw [onward, all] at two
    rw [here, two]
  have free : (List.range' begin (pos - begin)).filter (IsCut sep s 0 ·) = [] := by
    apply List.filter_eq_nil_iff.2
    intro i member
    obtain ⟨since, before⟩ := List.mem_range'_1.1 member
    rw [decide_eq_true_iff]
    intro earlier
    have upTo := first i since earlier
    omega
  rw [cutsFrom, positions, List.filter_append, free, List.filter_cons_of_pos (by simpa using found)]
  rfl

/-- Where no string and no parenthesis is open, splitting from there on cuts at the separators that the
    scan of the whole text finds. -/
theorem segments_eq_slicesAt (closed : quoteSince s 0 begin = none) (level : depthSince s 0 begin = 0) :
    segments sep s begin = slicesAt s begin (cutsFrom sep s begin) := by
  induction begin using segments.induct sep s with
  | case1 begin free =>
    have none := findTopLevel?_eq_none.1 free
    have noCut : cutsFrom sep s begin = [] := by
      apply cutsFrom_of_free
      intro i since cut
      exact none i ((isCut_restart (Nat.zero_le begin) closed level since).2 cut)
    rw [segments_of_none free, noCut, slicesAt]
  | case2 begin pos found ih =>
    obtain ⟨found', first⟩ := findTopLevel?_eq_some.1 found
    have since := found'.since
    have cut := (isCut_restart (Nat.zero_le begin) closed level since).1 found'
    have cuts : cutsFrom sep s begin = pos :: cutsFrom sep s (pos + 1) := by
      apply cutsFrom_of_first since cut
      intro i since later
      exact first ((isCut_restart (Nat.zero_le begin) closed level since).2 later)
    rw [segments_of_some found, cuts, slicesAt, ih cut.quote cut.depth_succ]

theorem splitTopLevel_eq_segments (sep : Char) (s : Text) :
    splitTopLevel (· == sep) s = segments sep s 0 :=
  splitTopLevelFrom_eq_segments sep s 0

theorem splitTopLevel_eq_slicesAt (sep : Char) (s : Text) :
    splitTopLevel (· == sep) s =
      slicesAt s 0 ((List.range s.length).filter (IsCut sep s 0 ·)) := by
  have positions : (List.range s.length).filter (IsCut sep s 0 ·) = cutsFrom sep s 0 := by
    rw [cutsFrom, List.range_eq_range', Nat.sub_zero]
  rw [splitTopLevel_eq_segments, segments_eq_slicesAt rfl (depthSince_of_le (Nat.le_refl 0)), positions]

/-! ### The scans together -/

/-- Every scan agrees with the one scan. A text is cut at the separators that the scan of the whole text
    finds, although every piece is searched anew, and no character but these separators is lost; the
    separator that is found is the first one since the start; and a parenthesis ends at the first closing
    one outside strings and parentheses, or it is reported with the start. -/
theorem scanners_agree (sep : Char) (s : Text) (start : Nat) :
    (splitTopLevel (· == sep) s = slicesAt s 0 ((List.range s.length).filter (IsCut sep s 0 ·)) ∧
      splitTopLevel (· == sep) s = segments sep s 0 ∧
      Text.joinWith [sep] (splitTopLevel (· == sep) s) = s) ∧
    ((∀ pos, findTopLevel? (· == sep) s start = some pos ↔ IsLeast {i | IsCut sep s start i} pos) ∧
      (findTopLevel? (· == sep) s start = none ↔ ∀ i, ¬IsCut sep s start i)) ∧
    (∀ pos, closingParen s start = .ok pos ↔
      IsLeast {i | IsTopLevel s start ')' i} pos ∧ ∀ i ≤ pos, 0 ≤ depthSince s start i) ∧
    (∀ unclosed, closingParen s start = .error unclosed ↔
      unclosed = ⟨start⟩ ∧ ∀ i, ¬IsTopLevel s start ')' i) := by
  have whole : Text.joinWith [sep] (splitTopLevel (· == sep) s) = s :=
    intercalate_splitTopLevelFrom sep none none 0 s
  have nonneg {pos : Nat} (least : IsLeast {i | IsTopLevel s start ')' i} pos) :
      ∀ i ≤ pos, 0 ≤ depthSince s start i := by
    intro i upTo
    apply depthSince_nonneg
    intro j before closes
    have first := least.2 closes
    omega
  refine ⟨⟨splitTopLevel_eq_slicesAt sep s, splitTopLevel_eq_segments sep s, whole⟩,
    ⟨fun pos => findTopLevel?_eq_some, findTopLevel?_eq_none⟩, fun pos => ?_,
    fun unclosed => closingParen_eq_error⟩
  rw [closingParen_eq_ok]
  exact ⟨fun least => ⟨least, nonneg least⟩, And.left⟩

/-- A backslash that separates still escapes the quote behind it. -/
theorem scanners_agree_backslash :
    splitTopLevel (· == '\\') "a\\'b\\c)".toList = ["a".toList, "'b".toList, "c)".toList] ∧
      IsLeast {i | IsCut '\\' "a\\'b\\c)".toList 2 i} 4 ∧
      IsLeast {i | IsTopLevel "a\\'b\\c)".toList 2 ')' i} 6 := by
  obtain ⟨-, ⟨found, -⟩, closed, -⟩ := scanners_agree '\\' "a\\'b\\c)".toList 2
  refine ⟨by decide, ?_, ?_⟩
  · apply (found 4).1
    decide
  · exact ((closed 6).1 rfl).1

end Scan
end CondCss
