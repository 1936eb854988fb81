import CondCss.Proofs.Occurrence.Replacement
import CondCss.Proofs.Sheet.Cover

/-!
# Calls outside comments

A call is stray in a text if it stands outside the comments of the text. A comment starts outside
strings, with `/*`, and goes to the first `*/` behind it, or to the end of the text. A call in a string
is stray, and so is one directly behind a comment, whatever stands in front of the comment.

Blanks have no part in this, so trimming and minifying a text leave its stray calls as they are
(`strays_minify`). A text that is left without calls when its comments are removed has none outside
them, unless one stands directly behind a comment, or is removed with what is a comment only if strings
are not heeded (`straysFrom_of_withoutComments`). Closed texts have their stray calls side by side
(`strays_lines`).
-/

namespace CondCss
namespace Occurrence

open Sheet (Cover)

/-- Whether a call starts outside the comments of a text, behind the character `before` and with `cover`
    over its start. No string and no comment starts in it unless `heed` says so. -/
def straysFrom (heed : Bool) (before : Option Char) (cover : Cover) : Text → Bool
  | [] => false
  | c :: rest =>
    (cover.isCode && isCandidate before (c :: rest)) ||
      straysFrom heed (some c) (cover.next heed before c rest) rest

/-- Whether a text has a call outside its comments. -/
def strays (t : Text) : Bool :=
  straysFrom true none (.code none) t

/-- Whether a call outside the comments of a text is removed with what is taken for one when strings are
    not heeded. The first `skip` characters are removed with an earlier one. -/
def hiddenFrom (skip : Nat) (before : Option Char) (cover : Cover) : Text → Bool
  | [] => false
  | c :: rest =>
    match skip with
    | skip + 1 =>
      (cover.isCode && isCandidate before (c :: rest)) ||
        hiddenFrom skip (some c) (cover.next true before c rest) rest
    | 0 =>
      if Sheet.startsComment (c :: rest) then
        match Sheet.commentLength? (rest.drop 1) with
        | some length => hiddenFrom (length + 1) (some c) (cover.next true before c rest) rest
        | none => false
      else hiddenFrom 0 (some c) (cover.next true before c rest) rest

variable {heed : Bool} {before : Option Char} {cover : Cover} {c : Char} {t : Text}

theorem straysFrom_cons (rest : Text) : straysFrom heed before cover (c :: rest) =
    ((cover.isCode && isCandidate before (c :: rest)) ||
      straysFrom heed (some c) (cover.next heed before c rest) rest) :=
  rfl

/-- Where no string and no comment starts, every call counts. -/
theorem straysFrom_false (before : Option Char) (quote : Option Quote) (t : Text) :
    straysFrom false before (.code quote) t = startsAfter before t := by
  induction t generalizing before with
  | nil => rfl
  | cons c rest ih =>
    rw [straysFrom_cons, startsAfter, ← ih]
    rfl

theorem straysFrom_of_startsAfter (h : startsAfter before t = false) :
    straysFrom heed before cover t = false := by
  induction t generalizing before cover with
  | nil => rfl
  | cons c rest ih =>
    obtain ⟨notHere, notLater⟩ := Bool.or_eq_false_iff.1 h
    simp [straysFrom_cons, notHere, ih notLater]

/-- Without a call there is none outside comments. -/
theorem strays_of_anyIn (h : anyIn t = false) : strays t = false :=
  straysFrom_of_startsAfter h

/-! ### Characters without a part in calls, strings and comments -/

/-- A character that is no part of a call's start or of a name, and has no part in strings and
    comments. -/
structure IsInert (c : Char) : Prop extends IsBoundary c, Sheet.IsPlain c

theorem isInert_of_blank (h : Text.isBlank c = true) : IsInert c :=
  { isBoundary_of_blank h, Sheet.isPlain_of_blank h with }

theorem isInert_of_isPunctuation (h : Minify.isPunctuation c = true) : IsInert c := by
  have cases : c = '{' ∨ c = '}' ∨ c = ';' := by
    simpa [Minify.isPunctuation, or_assoc] using h
  have boundary : IsBoundary c := by
    rcases cases with rfl | rfl | rfl <;> exact ⟨by decide, by decide⟩
  exact { boundary, Sheet.isPlain_of_isPunctuation h with }

theorem straysFrom_before (ident : Text.isIdentChar c = false) (backslash : c ≠ '\\') :
    straysFrom heed (some c) cover t = straysFrom heed none cover t := by
  cases t with
  | nil => rfl
  | cons d t =>
    rw [straysFrom_cons, straysFrom_cons, isCandidate_before ident,
      Cover.next_before (by simpa using backslash)]

theorem straysFrom_inert (h : IsInert c) (before : Option Char) (cover : Cover) (rest : Text) :
    straysFrom heed before cover (c :: rest) = straysFrom heed none cover.settle rest := by
  rw [straysFrom_cons, not_isCandidate_boundary h.toIsBoundary, Bool.and_false, Bool.false_or,
    h.toIsPlain.next, straysFrom_before h.ident h.backslash]

/-- The texts that are looked for in front of a place. -/
def patterns : List Text := [['/', '*'], ['*', '/'], token]

/-- Two texts that start with the same patterns after the same character have the same calls there, if
    they have the same ones behind it. -/
theorem straysFrom_cons_congr {rest rest' : Text}
    (same : ∀ p ∈ patterns, p.isPrefixOf (c :: rest') = p.isPrefixOf (c :: rest))
    (later : ∀ before cover, straysFrom heed before cover rest' = straysFrom heed before cover rest) :
    straysFrom heed before cover (c :: rest') = straysFrom heed before cover (c :: rest) := by
  simp only [patterns, List.forall_mem_cons, List.not_mem_nil, false_implies, implies_true,
    and_true] at same
  obtain ⟨opens, closes, call⟩ := same
  have next : cover.next heed before c rest' = cover.next heed before c rest := by
    cases cover <;> simp [Cover.next, Sheet.startsComment, opens, closes]
  rw [straysFrom_cons, straysFrom_cons, isCandidate, call, next, later]
  rfl

/-! ### Blanks -/

theorem straysFrom_trimLeft (cover : Cover) (t : Text) :
    straysFrom heed none cover.settle (Text.trimLeft t) = straysFrom heed none cover.settle t := by
  induction t with
  | nil => rfl
  | cons c t ih =>
    cases hc : Text.isBlank c with
    | false => rw [Text.trimLeft_of_not_blank hc]
    | true =>
      rw [Text.trimLeft_of_blank hc, ih, straysFrom_inert (isInert_of_blank hc), Cover.settle_settle]

theorem isPrefixOf_of_ne {a : Char} (h : a ≠ c) (p t : Text) : (a :: p).isPrefixOf (c :: t) = false := by
  rw [List.isPrefixOf, beq_eq_false_iff_ne.2 h, Bool.false_and]

theorem isPrefixOf_collapse {p : Text} (hp : ∀ c ∈ p, Text.isBlank c = false) (t : Text) :
    p.isPrefixOf (Text.collapse t) = p.isPrefixOf t := by
  induction p generalizing t with
  | nil => simp
  | cons a p ih =>
    obtain ⟨ha, hp⟩ := List.forall_mem_cons.1 hp
    cases t with
    | nil => rfl
    | cons c t =>
      cases hc : Text.isBlank c with
      | false => rw [Text.collapse_of_not_blank hc, List.isPrefixOf, List.isPrefixOf, ih hp]
      | true =>
        rw [Text.collapse_of_blank hc, isPrefixOf_of_ne (Text.ne_space_of_not_blank ha),
          isPrefixOf_of_ne (Scan.ne_of_blank hc ha).symm]

theorem plain_of_mem_patterns {p : Text} (h : p ∈ patterns) :
    ∀ c ∈ p, Text.isBlank c = false ∧ Minify.isPunctuation c = false := by
  have all : patterns.all (·.all fun c => !Text.isBlank c && !Minify.isPunctuation c) = true := by
    decide
  intro c hc
  have := List.all_eq_true.1 (List.all_eq_true.1 all p h) c hc
  simpa using this

theorem straysFrom_collapse (before : Option Char) (cover : Cover) (t : Text) :
    straysFrom heed before cover (Text.collapse t) = straysFrom heed before cover t := by
  induction t generalizing before cover with
  | nil => rfl
  | cons c t ih =>
    cases hc : Text.isBlank c with
    | true =>
      rw [Text.collapse_of_blank hc, straysFrom_inert (isInert_of_blank (by decide)),
        ← Text.trimLeft_collapse, straysFrom_trimLeft, ih, straysFrom_inert (isInert_of_blank hc)]
    | false =>
      rw [Text.collapse_of_not_blank hc]
      refine straysFrom_cons_congr (fun p hp => ?_) fun before cover => ih before cover
      rw [← Text.collapse_of_not_blank hc]
      exact isPrefixOf_collapse (fun c hc => (plain_of_mem_patterns hp c hc).1) _

theorem isPrefixOf_tighten {p : Text}
    (hp : ∀ c ∈ p, Text.isBlank c = false ∧ Minify.isPunctuation c = false) (t : Text) :
    p.isPrefixOf (Minify.tighten t) = p.isPrefixOf t := by
  induction p generalizing t with
  | nil => simp
  | cons a p ih =>
    obtain ⟨⟨notBlank, notPunctuation⟩, hp⟩ := List.forall_mem_cons.1 hp
    cases t with
    | nil => rfl
    | cons c t =>
      have differs {d : Char} (h : Minify.isPunctuation d = true) : a ≠ d := by
        rintro rfl
        exact absurd (notPunctuation.symm.trans h) Bool.false_ne_true
      simp only [Minify.tighten]
      split
      · rename_i punctuation
        rw [isPrefixOf_of_ne (differs punctuation), isPrefixOf_of_ne (differs punctuation)]
      · split
        · rename_i dropped
          obtain ⟨blank, follows⟩ := Bool.and_eq_true_iff.1 dropped
          cases tail : Minify.tighten t with
          | nil => rw [tail] at follows; cases follows
          | cons d rest =>
            rw [tail] at follows
            have there : Minify.isPunctuation d = true := by simpa using follows
            rw [isPrefixOf_of_ne (differs there), isPrefixOf_of_ne (Scan.ne_of_blank blank notBlank).symm]
        · rw [List.isPrefixOf, List.isPrefixOf, ih hp]

theorem straysFrom_tighten (before : Option Char) (cover : Cover) (t : Text) :
    straysFrom heed before cover (Minify.tighten t) = straysFrom heed before cover t := by
  induction t generalizing before cover with
  | nil => rfl
  | cons c t ih =>
    have start (p : Text) (hp : p ∈ patterns) := isPrefixOf_tighten (plain_of_mem_patterns hp) (c :: t)
    simp only [Minify.tighten] at start ⊢
    split at start
    · rename_i punctuation
      rw [if_pos punctuation]
      have inert := isInert_of_isPunctuation punctuation
      rw [straysFrom_inert inert, straysFrom_trimLeft, ih, straysFrom_inert inert]
    · rename_i other
      rw [if_neg other]
      split
      · rename_i dropped
        -- The blank is dropped in front of a punctuation character, which settles the zone as well.
        obtain ⟨blank, follows⟩ := Bool.and_eq_true_iff.1 dropped
        rw [straysFrom_inert (isInert_of_blank blank), ← ih]
        cases tail : Minify.tighten t with
        | nil => rfl
        | cons d rest =>
          rw [tail] at follows
          have inert : IsInert d := isInert_of_isPunctuation (by simpa using follows)
          rw [straysFrom_inert inert, straysFrom_inert inert, Cover.settle_settle]
      · rename_i stays
        rw [if_neg stays] at start
        exact straysFrom_cons_congr start fun before cover => ih before cover

/-! ### Texts side by side -/

/-- An inert character cuts a text in two. -/
theorem straysFrom_append_cons (h : IsInert c) (before : Option Char) (cover : Cover) (t rest : Text) :
    straysFrom true before cover (t ++ c :: rest) =
      (straysFrom true before cover t || straysFrom true none (cover.run before t []).settle rest) := by
  induction t generalizing before cover with
  | nil => exact straysFrom_inert h before cover rest
  | cons d t ih =>
    have call : isCandidate before (d :: (t ++ c :: rest)) = isCandidate before (d :: t) :=
      isCandidate_append_cons h.toIsBoundary before (d :: t) rest
    rw [List.cons_append, straysFrom_cons, straysFrom_cons, call, Cover.next_append_cons h.toIsPlain,
      ih, Bool.or_assoc, Cover.run, List.append_nil]

/-- Blanks behind a text have no part in its calls. -/
theorem straysFrom_append_of_blank {back : Text} (h : ∀ c ∈ back, Text.isBlank c = true) (t : Text) :
    straysFrom heed before cover (t ++ back) = straysFrom heed before cover t := by
  cases back with
  | nil => rw [List.append_nil]
  | cons d back =>
    have inert := isInert_of_blank (h d List.mem_cons_self)
    induction t generalizing before cover with
    | nil =>
      exact (straysFrom_of_startsAfter ((startsAfter_append_cons inert.toIsBoundary before [] back).trans
        (anyIn_of_blank (List.forall_mem_cons.1 h).2))).trans rfl
    | cons c t ih =>
      have call : isCandidate before (c :: (t ++ d :: back)) = isCandidate before (c :: t) :=
        isCandidate_append_cons inert.toIsBoundary before (c :: t) back
      rw [List.cons_append, straysFrom_cons, straysFrom_cons, call,
        Cover.next_append_cons inert.toIsPlain, ih]

theorem straysFrom_trim (t : Text) :
    straysFrom heed none (.code none) (Text.trim t) = straysFrom heed none (.code none) t := by
  obtain ⟨front, back, eq, hfront, hback⟩ := Text.exists_eq_append_trim t
  have ahead (s : Text) :
      straysFrom heed none (.code none) (front ++ s) = straysFrom heed none (.code none) s := by
    clear eq
    induction front with
    | nil => rfl
    | cons c front ih =>
      obtain ⟨hc, hfront⟩ := List.forall_mem_cons.1 hfront
      rw [List.cons_append, straysFrom_inert (isInert_of_blank hc)]
      exact ih hfront
  have same := ahead (Text.trim t ++ back)
  rw [← eq, straysFrom_append_of_blank hback] at same
  exact same.symm

theorem straysFrom_minify (t : Text) :
    straysFrom heed none (.code none) (minify t) = straysFrom heed none (.code none) t := by
  rw [minify, straysFrom_trim, straysFrom_tighten, straysFrom_collapse]

/-- Minifying a text leaves its calls outside comments. -/
theorem strays_minify (t : Text) : strays (minify t) = strays t :=
  straysFrom_minify t

theorem anyIn_collapse (t : Text) : anyIn (Text.collapse t) = anyIn t := by
  rw [anyIn, anyIn, ← straysFrom_false none none, straysFrom_collapse, straysFrom_false]

/-- Minifying a text leaves its calls. -/
theorem anyIn_minify (t : Text) : anyIn (minify t) = anyIn t := by
  rw [anyIn, anyIn, ← straysFrom_false none none, straysFrom_minify, straysFrom_false]

theorem strays_trim : strays (Text.trim t) = strays t :=
  straysFrom_trim t

/-! ### Comments -/

/-- Behind the end of a comment the scan goes on, and without an end no call is seen. -/
theorem straysFrom_comment (before : Option Char) (t : Text) :
    straysFrom true before .comment t =
      match Sheet.commentLength? t with
      | some n => straysFrom true (some '/') (.code none) (t.drop n)
      | none => false := by
  fun_induction Sheet.commentLength? t generalizing before with
  | case1 => rfl
  | case2 rest => rfl
  | case3 c rest goesOn ih =>
    have stays : Cover.comment.next true before c rest = .comment := by
      simp [Cover.next, Sheet.isPrefixOf_end_eq_false goesOn]
    have covered : Cover.comment.isCode = false := rfl
    rw [straysFrom_cons, stays, covered, Bool.false_and, Bool.false_or, ih]
    cases Sheet.commentLength? rest <;> rfl

/-- From the start of a comment on, the scan goes on behind its end. -/
theorem straysFrom_opening (before : Option Char) (inner : Text) :
    straysFrom true before (.code none) ('/' :: '*' :: inner) =
      match Sheet.commentLength? inner with
      | some n => straysFrom true (some '/') (.code none) (inner.drop n)
      | none => false := by
  rw [← straysFrom_comment (some '*') inner]
  rfl

/-- A comment of a style sheet has no call outside it. -/
theorem strays_comment {front rest : Text} {later : List Text}
    (h : Sheet.IsItem front t rest later) (comment : Sheet.startsComment t = true) :
    strays t = false := by
  obtain ⟨inner, rfl⟩ := Sheet.exists_eq_of_startsComment comment
  rw [strays, straysFrom_opening]
  cases ends : Sheet.commentLength? inner with
  | none => rfl
  | some n =>
    obtain ⟨x, split⟩ := Sheet.exists_of_commentLength? ends
    rw [split] at h
    have nothing : inner.drop n = [] := h.eq_nil_of_commentEnd
    simp only [nothing]
    rfl

/-- The first letters of a call are not removed with a comment. -/
theorem isPrefixOf_withoutComments (h : token.isPrefixOf t = true) :
    token.isPrefixOf (Sheet.withoutComments t) = true := by
  obtain ⟨rest, rfl⟩ := List.isPrefixOf_iff_prefix.1 h
  simp only [token, List.cons_append, List.nil_append]
  rw [Sheet.withoutComments_cons rfl, Sheet.withoutComments_cons rfl, Sheet.withoutComments_cons rfl]
  rfl

/-- Behind a comment that is removed there is no call, if none stands directly behind a comment. -/
theorem not_token_behind_comment {inner : Text} {n : Nat} (ends : Sheet.commentLength? inner = some n)
    (unglued : Text.hasInfix (['*', '/'] ++ token) inner = false) :
    token.isPrefixOf (inner.drop n) = false := by
  obtain ⟨x, split⟩ := Sheet.exists_of_commentLength? ends
  rw [Bool.eq_false_iff] at unglued ⊢
  intro glued
  obtain ⟨back, call⟩ := List.isPrefixOf_iff_prefix.1 glued
  exact unglued (Text.hasInfix_iff.2 ⟨x, back, by rw [split, ← call]; simp⟩)

/-- If no call is left when the comments of a text are removed, none stands directly behind a comment,
    and none is removed that is outside comments, then no call stands outside comments. The comments
    are removed without regard to `cover`, which they may start in. -/
theorem straysFrom_of_withoutComments {skip : Nat} {before before' : Option Char} {cover : Cover}
    (h : startsAfter before (Sheet.withoutCommentsFrom skip t) = false)
    (unglued : Text.hasInfix (['*', '/'] ++ token) t = false)
    (unhidden : hiddenFrom skip before' cover t = false)
    (first : token.isPrefixOf (t.drop skip) = true → skip = 0 ∧ before' = before) :
    straysFrom true before' cover t = false := by
  -- Both scans go on by one character; the `skip` ones in front are removed already.
  induction t generalizing skip before before' cover with
  | nil => rfl
  | cons c rest ih =>
    have ungluedLater := (Bool.or_eq_false_iff.1 unglued).2
    rw [straysFrom_cons]
    cases skip with
    | succ skip =>
      obtain ⟨notHere, unhidden⟩ := Bool.or_eq_false_iff.1 unhidden
      rw [notHere, Bool.false_or]
      refine ih h ungluedLater unhidden fun call => ?_
      exact absurd (first call).1 (Nat.succ_ne_zero skip)
    | zero =>
      cases starts : Sheet.startsComment (c :: rest) with
      | true =>
        obtain ⟨inner, shape⟩ := Sheet.exists_eq_of_startsComment starts
        cases shape
        have notHere (before : Option Char) : isCandidate before ('/' :: '*' :: inner) = false := rfl
        rw [notHere, Bool.and_false, Bool.false_or]
        have behind : ('*' :: inner).drop 1 = inner := rfl
        rw [Sheet.withoutCommentsFrom, if_pos starts, behind] at h
        rw [hiddenFrom, if_pos starts, behind] at unhidden
        cases ends : Sheet.commentLength? inner with
        | none =>
          rw [ends] at h
          exact straysFrom_of_startsAfter (Bool.or_eq_false_iff.1 h).2
        | some n =>
          rw [ends] at h unhidden
          refine ih h ungluedLater unhidden fun call => ?_
          rw [List.drop_succ_cons, not_token_behind_comment ends (Bool.or_eq_false_iff.1 ungluedLater).2] at call
          cases call
      | false =>
        have kept : Sheet.withoutCommentsFrom 0 (c :: rest) =
            c :: Sheet.withoutCommentsFrom 0 rest := Sheet.withoutComments_cons starts
        rw [kept] at h
        obtain ⟨notHere, notLater⟩ := Bool.or_eq_false_iff.1 h
        have unhiddenLater : hiddenFrom 0 (some c) (cover.next true before' c rest) rest = false := by
          simpa [hiddenFrom, starts] using unhidden
        have later := ih notLater ungluedLater unhiddenLater fun _ => ⟨rfl, rfl⟩
        have notCall : isCandidate before' (c :: rest) = false := by
          rw [Bool.eq_false_iff] at notHere ⊢
          intro call
          obtain ⟨here, ident⟩ := Bool.and_eq_true_iff.1 call
          rw [(first here).2] at ident
          refine notHere (Bool.and_eq_true_iff.2 ⟨?_, ident⟩)
          rw [← kept]
          exact isPrefixOf_withoutComments here
        rw [notCall, later, Bool.and_false, Bool.or_false]

/-! ### Texts side by side -/

theorem anyIn_append_cons (h : IsBoundary c) (t rest : Text) :
    anyIn (t ++ c :: rest) = (anyIn t || anyIn rest) :=
  startsAfter_append_cons h none t rest

theorem isBoundary_space : IsBoundary ' ' := isBoundary_of_blank (by decide)

theorem isBoundary_paren : IsBoundary ')' := ⟨by decide, by decide⟩

theorem anyIn_paren (t : Text) : anyIn ('(' :: t) = anyIn t := by
  have notIdent : Text.isIdentChar '(' = false := by decide
  rw [anyIn, startsAfter, startsAfter_before notIdent]
  rfl

theorem anyIn_append_sep {sep : Text} (some : sep ≠ []) (h : ∀ c ∈ sep, IsBoundary c)
    (t rest : Text) : anyIn (t ++ (sep ++ rest)) = (anyIn t || anyIn rest) := by
  induction sep generalizing t with
  | nil => exact absurd rfl some
  | cons c sep ih =>
    obtain ⟨hc, hsep⟩ := List.forall_mem_cons.1 h
    rw [List.cons_append, anyIn_append_cons hc]
    by_cases more : sep = []
    · rw [more, List.nil_append]
    · have behind : anyIn (sep ++ rest) = anyIn rest := ih more hsep []
      rw [behind]

/-- A separator between texts has no part in their calls. -/
theorem anyIn_joinWith {sep : Text} (some : sep ≠ []) (h : ∀ c ∈ sep, IsBoundary c)
    (texts : List Text) : anyIn (Text.joinWith sep texts) = texts.any anyIn := by
  induction texts with
  | nil => rfl
  | cons t texts ih =>
    cases texts with
    | nil => simp [Text.joinWith]
    | cons t' texts =>
      rw [Text.joinWith] at ih
      rw [Text.joinWith, List.intercalate_cons_cons, List.append_assoc, anyIn_append_sep some h, ih]
      rfl

theorem anyIn_lines (texts : List Text) : anyIn (Text.joinWith ['\n'] texts) = texts.any anyIn :=
  anyIn_joinWith (by simp) (List.forall_mem_singleton.2 (isBoundary_of_blank (by decide))) texts

/-! ### Texts on lines of their own -/

/-- Whether every text is closed that has one with a call somewhere behind it. -/
def sealed : List Text → Bool
  | [] => true
  | t :: texts => (Sheet.closes t || !texts.any anyIn) && sealed texts

theorem sealed_append {texts : List Text} (h : ∀ t ∈ texts, Sheet.closes t = true)
    (others : List Text) : sealed (texts ++ others) = sealed others := by
  induction texts with
  | nil => rfl
  | cons t texts ih =>
    obtain ⟨here, later⟩ := List.forall_mem_cons.1 h
    rw [List.cons_append, sealed, here, Bool.true_or, Bool.true_and, ih later]

/-- Texts without stray calls have none on lines of their own. -/
theorem strays_lines {texts : List Text} (closed : sealed texts = true)
    (h : ∀ t ∈ texts, strays t = false) : strays (Text.joinWith ['\n'] texts) = false := by
  induction texts with
  | nil => rfl
  | cons t texts ih =>
    obtain ⟨here, later⟩ := List.forall_mem_cons.1 h
    obtain ⟨closedHere, closedLater⟩ := Bool.and_eq_true_iff.1 closed
    cases texts with
    | nil => simpa [Text.joinWith] using here
    | cons u texts =>
      have shape : Text.joinWith ['\n'] (t :: u :: texts) =
          t ++ '\n' :: Text.joinWith ['\n'] (u :: texts) := by
        simp [Text.joinWith]
      rw [shape, strays, straysFrom_append_cons (isInert_of_blank (by decide))]
      refine Bool.or_eq_false_iff.2 ⟨here, ?_⟩
      rcases Bool.or_eq_true_iff.1 closedHere with closed | free
      · rw [beq_iff_eq.1 closed]
        exact ih closedLater later
      · have free : (u :: texts).any anyIn = false := by simpa using free
        exact straysFrom_of_startsAfter ((anyIn_lines (u :: texts)).trans free)

end Occurrence
end CondCss
