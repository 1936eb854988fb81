import Mathlib.Data.List.SplitBy
import CondCss.Expand.Sheet
import CondCss.Proofs.Text.Blanks

/-!
# Minifying, run by run

A text is made of runs, of blanks and of other characters in turn. Minifying it leaves the other
characters as they are; a run of blanks goes if it stands at an end of the text or beside a brace or a
semicolon, and otherwise one space is left of it (`byRuns`).

The definition goes over the whole text three times. `minifyBehind` is what it does to the rest of a text
behind a character, and this can be followed from left to right: a character that is no blank stays
(`minifyBehind_cons`), and what is left of a run of blanks depends on its neighbours alone
(`minifyBehind_gap`). `minify_run_by_run` says that both are the same, and what follows from it.
-/

namespace CondCss
namespace Minify

open Text (isBlank trimLeft trimRight trim collapse)

variable {c d : Char} {s t rest : Text} {before after : Option Char}

/-! ### Runs -/

/-- The runs of a text: the longest stretches of blanks, and of characters that are no blanks. -/
def runs (s : Text) : List Text :=
  s.splitBy fun a b => isBlank a == isBlank b

/-- Whether blanks are dropped beside a character or, without one, beside an end of the text. -/
def isBare (neighbour : Option Char) : Bool :=
  neighbour.all isPunctuation

/-- What is left of a run of blanks between its neighbours. -/
def gap (before after : Option Char) : Text :=
  if isBare before || isBare after then [] else [' ']

/-- What is left of a run between its neighbours. -/
def shortenRun (before after : Option Char) (run : Text) : Text :=
  if run.all isBlank then gap before after else run

/-- What is left of runs behind the character `before`. -/
def byRuns (before : Option Char) : List Text → Text
  | [] => []
  | run :: later => shortenRun before later.flatten.head? run ++ byRuns run.getLast? later

/-! ### Minifying from left to right -/

theorem isBlank_of_isPunctuation (h : isPunctuation c = true) : isBlank c = false := by
  have cases : c = '{' ∨ c = '}' ∨ c = ';' := by simpa [isPunctuation, or_assoc] using h
  rcases cases with rfl | rfl | rfl <;> decide

theorem isPunctuation_of_isBlank (h : isBlank c = true) : isPunctuation c = false := by
  rw [Bool.eq_false_iff]
  intro punctuation
  rw [isBlank_of_isPunctuation punctuation] at h
  cases h

/-- What minifying makes of the rest of a text, behind the character `before`. -/
def minifyBehind (before : Option Char) (s : Text) : Text :=
  let tightened := tighten (collapse s)
  trimRight (if isBare before then trimLeft tightened else tightened)

theorem minify_eq_minifyBehind (s : Text) : minify s = minifyBehind none s := rfl

theorem minifyBehind_nil (before : Option Char) : minifyBehind before [] = [] := by
  unfold minifyBehind
  split <;> rfl

theorem tighten_collapse_cons (h : isBlank c = false) (rest : Text) :
    tighten (collapse (c :: rest)) = c :: if isPunctuation c then trimLeft (tighten (collapse rest))
      else tighten (collapse rest) := by
  rw [Text.collapse_of_not_blank h, tighten]
  split <;> simp [h]

/-- A character that is no blank stays. -/
theorem minifyBehind_cons (h : isBlank c = false) (before : Option Char) (rest : Text) :
    minifyBehind before (c :: rest) = c :: minifyBehind (some c) rest := by
  simp only [minifyBehind, tighten_collapse_cons h, Text.trimLeft_of_not_blank h, ite_self,
    Text.trimRight_of_not_blank h]
  rfl

/-- A run of blanks goes on with the next one. -/
theorem minifyBehind_blank_blank (hc : isBlank c = true) (hd : isBlank d = true)
    (before : Option Char) (rest : Text) :
    minifyBehind before (c :: d :: rest) = minifyBehind before (d :: rest) := by
  simp only [minifyBehind, Text.collapse_of_blank hc, Text.collapse_of_blank hd,
    Text.trimLeft_of_blank hd]

theorem minifyBehind_blank (h : isBlank c = true) (before : Option Char) :
    minifyBehind before [c] = [] := by
  have space : tighten (collapse [c]) = [' '] := by
    rw [Text.collapse_of_blank h]
    rfl
  simp only [minifyBehind, space]
  split <;> rfl

/-- What follows a run of blanks does not depend on what stands in front of it. -/
theorem minifyBehind_of_not_blank (h : isBlank c = false) (before before' : Option Char)
    (rest : Text) : minifyBehind before (c :: rest) = minifyBehind before' (c :: rest) := by
  rw [minifyBehind_cons h, minifyBehind_cons h]

/-- What is left of a run of blanks is decided by the characters beside it. -/
theorem minifyBehind_gap (hc : isBlank c = true) (hd : isBlank d = false) (before : Option Char)
    (rest : Text) :
    minifyBehind before (c :: d :: rest) =
      gap before (some d) ++ minifyBehind (some c) (d :: rest) := by
  have space : isBlank ' ' = true := by decide
  have collapsed : collapse (c :: d :: rest) = ' ' :: collapse (d :: rest) := by
    rw [Text.collapse_of_blank hc, Text.trimLeft_of_not_blank hd]
  have starts : (tighten (collapse (d :: rest))).head? = some d := by
    rw [tighten_collapse_cons hd]
    rfl
  have tightened : tighten (collapse (c :: d :: rest)) =
      (if isPunctuation d then [] else [' ']) ++ tighten (collapse (d :: rest)) := by
    rw [collapsed, tighten, starts]
    cases punctuation : isPunctuation d <;> simp [punctuation, isPunctuation_of_isBlank space, space]
  have kept : trimLeft (tighten (collapse (d :: rest))) = tighten (collapse (d :: rest)) := by
    rw [tighten_collapse_cons hd, Text.trimLeft_of_not_blank hd]
  have nonempty : trimRight (tighten (collapse (d :: rest))) ≠ [] := by
    rw [tighten_collapse_cons hd, Text.trimRight_of_not_blank hd]
    exact List.cons_ne_nil _ _
  have bare : isBare (some d) = isPunctuation d := rfl
  simp only [minifyBehind, tightened, gap, bare, kept, ite_self]
  cases isBare before <;> cases isPunctuation d
  · simp [Text.trimRight_cons, nonempty]
  · simp
  · simp [Text.trimLeft_of_blank space, kept]
  · simp [kept]

/-- Induction over a text in steps of `minifyBehind`: a character that is no blank, the last blank, and a
    blank in front of another one or at the end of its run. -/
@[elab_as_elim]
theorem gap_induction {motive : Text → Prop} (nil : motive [])
    (char : ∀ c rest, isBlank c = false → motive rest → motive (c :: rest))
    (last : ∀ c, isBlank c = true → motive [c])
    (more : ∀ c d rest, isBlank c = true → isBlank d = true → motive (d :: rest) →
      motive (c :: d :: rest))
    (gap : ∀ c d rest, isBlank c = true → isBlank d = false → motive (d :: rest) →
      motive (c :: d :: rest)) (s : Text) : motive s := by
  induction s with
  | nil => exact nil
  | cons c rest ih =>
    cases hc : isBlank c with
    | false => exact char c rest hc ih
    | true =>
      cases rest with
      | nil => exact last c hc
      | cons d rest =>
        cases hd : isBlank d with
        | false => exact gap c d rest hc hd ih
        | true => exact more c d rest hc hd ih

/-! ### Both ways -/

theorem minifyBehind_word {word : Text} (h : ∀ c ∈ word, isBlank c = false) (some : word ≠ [])
    (before : Option Char) (rest : Text) :
    minifyBehind before (word ++ rest) = word ++ minifyBehind word.getLast? rest := by
  induction word generalizing before with
  | nil => exact absurd rfl some
  | cons c word ih =>
    obtain ⟨hc, hword⟩ := List.forall_mem_cons.1 h
    rw [List.cons_append, minifyBehind_cons hc, List.cons_append]
    by_cases more : word = []
    · rw [more]
      rfl
    · rw [ih hword more, List.getLast?_cons_of_ne_nil more]

theorem minifyBehind_blanks {blanks : Text} (h : ∀ c ∈ blanks, isBlank c = true)
    (some : blanks ≠ []) (before : Option Char) {rest : Text}
    (ends : ∀ c ∈ rest.head?, isBlank c = false) :
    minifyBehind before (blanks ++ rest) =
      gap before rest.head? ++ minifyBehind blanks.getLast? rest := by
  induction blanks with
  | nil => exact absurd rfl some
  | cons c blanks ih =>
    obtain ⟨hc, hblanks⟩ := List.forall_mem_cons.1 h
    cases blanks with
    | nil =>
      cases rest with
      | nil => simp [minifyBehind_blank hc, minifyBehind_nil, gap, isBare]
      | cons d rest => exact minifyBehind_gap hc (ends d rfl) before rest
    | cons c' blanks =>
      rw [List.cons_append, List.cons_append, minifyBehind_blank_blank hc (hblanks c' List.mem_cons_self),
        ← List.cons_append, ih hblanks (List.cons_ne_nil c' blanks)]
      rfl

theorem isBlank_of_isChain {a : Char} {run : Text}
    (h : (a :: run).IsChain fun a b => (isBlank a == isBlank b) = true) :
    ∀ c ∈ a :: run, isBlank c = isBlank a := by
  induction run generalizing a with
  | nil => simp
  | cons b run ih =>
    obtain ⟨same, later⟩ := List.isChain_cons_cons.1 h
    refine List.forall_mem_cons.2 ⟨rfl, fun c hc => ?_⟩
    rw [ih later c hc, beq_iff_eq.1 same]

theorem minifyBehind_flatten {pieces : List Text} (nonempty : [] ∉ pieces)
    (uniform : ∀ run ∈ pieces, run.IsChain fun a b => (isBlank a == isBlank b) = true)
    (turns : pieces.IsChain fun r r' =>
      ∃ hr hr', (isBlank (r.getLast hr) == isBlank (r'.head hr')) = false)
    (before : Option Char) : minifyBehind before pieces.flatten = byRuns before pieces := by
  induction pieces generalizing before with
  | nil => exact minifyBehind_nil before
  | cons run later ih =>
    obtain ⟨some, someLater⟩ := not_or.1 (mt List.mem_cons.2 nonempty)
    obtain ⟨here, uniformLater⟩ := List.forall_mem_cons.1 uniform
    have onward := ih someLater uniformLater turns.tail
    obtain ⟨a, tail, rfl⟩ := List.exists_cons_of_ne_nil (Ne.symm some)
    have same := isBlank_of_isChain here
    rw [List.flatten_cons, byRuns, ← onward]
    cases ha : isBlank a with
    | false =>
      have word : (a :: tail).all isBlank = false := by simp [ha]
      rw [minifyBehind_word (fun c hc => (same c hc).trans ha) (List.cons_ne_nil a tail), shortenRun,
        word]
      rfl
    | true =>
      have blanks : (a :: tail).all isBlank = true :=
        List.all_eq_true.2 fun c hc => (same c hc).trans ha
      have ends : ∀ c ∈ later.flatten.head?, isBlank c = false := by
        cases later with
        | nil => simp
        | cons next others =>
          obtain ⟨hr, hr', turn⟩ := (List.isChain_cons_cons.1 turns).1
          rw [(same _ (List.getLast_mem hr)).trans ha] at turn
          obtain ⟨b, next, rfl⟩ := List.exists_cons_of_ne_nil hr'
          rintro c ⟨rfl⟩
          simpa using turn
      rw [minifyBehind_blanks (fun c hc => (same c hc).trans ha) (List.cons_ne_nil a tail) before ends,
        shortenRun, if_pos blanks]

theorem minify_eq_byRuns (s : Text) : minify s = byRuns none (runs s) := by
  obtain ⟨whole, nonempty, uniform, turns⟩ := List.splitBy_eq_iff.1 (rfl : runs s = runs s)
  rw [← minifyBehind_flatten nonempty uniform turns, ← whole, minify_eq_minifyBehind]

example : runs " a\n \x7bb  c".toList = [[' '], ['a'], ['\n', ' '], ['{', 'b'], [' ', ' '], ['c']] ∧
    byRuns none (runs " a\n \x7bb  c".toList) = "a\x7bb c".toList := by
  decide

/-! ### Consequences -/

/-- Only blanks are dropped. -/
theorem ink_minifyBehind (before : Option Char) (s : Text) :
    Text.ink (minifyBehind before s) = Text.ink s := by
  have ink_gap (before after : Option Char) : Text.ink (gap before after) = [] := by
    unfold gap
    split <;> decide
  induction s using gap_induction generalizing before with
  | nil => rw [minifyBehind_nil]
  | char c rest hc ih =>
    rw [minifyBehind_cons hc, Text.ink_cons_of_not_blank hc, ih, Text.ink_cons_of_not_blank hc]
  | last c hc =>
    rw [minifyBehind_blank hc, Text.ink_cons_of_blank hc]
  | more c d rest hc hd ih =>
    rw [minifyBehind_blank_blank hc hd, ih, Text.ink_cons_of_blank hc]
  | gap c d rest hc hd ih =>
    rw [minifyBehind_gap hc hd, Text.ink_append, ink_gap, ih, Text.ink_cons_of_blank hc]
    rfl

/-- What is minified stays as it is. -/
theorem minifyBehind_minifyBehind (before : Option Char) (s : Text) :
    minifyBehind before (minifyBehind before s) = minifyBehind before s := by
  induction s using gap_induction generalizing before with
  | nil => rw [minifyBehind_nil, minifyBehind_nil]
  | char c rest hc ih => rw [minifyBehind_cons hc, minifyBehind_cons hc, ih]
  | last c hc => rw [minifyBehind_blank hc, minifyBehind_nil]
  | more c d rest hc hd ih => rw [minifyBehind_blank_blank hc hd, ih]
  | gap c d rest hc hd ih =>
    have onward (before : Option Char) :
        minifyBehind before (minifyBehind (some c) (d :: rest)) = minifyBehind (some c) (d :: rest) := by
      rw [minifyBehind_of_not_blank hd (some c) before, ih]
    rw [minifyBehind_gap hc hd]
    cases kept : isBare before || isBare (some d) with
    | true => simp [gap, kept, onward]
    | false =>
      have space : gap before (some d) = [' '] := by simp [gap, kept]
      have again := onward (some ' ')
      rw [minifyBehind_cons hd] at again ⊢
      rw [space, List.singleton_append, minifyBehind_gap (by decide) hd, space, again]
      rfl

theorem minifyBehind_of_blanks {blanks : Text} (h : ∀ c ∈ blanks, isBlank c = true)
    (before : Option Char) : minifyBehind before blanks = [] := by
  by_cases none : blanks = []
  · rw [none, minifyBehind_nil]
  · have alone : minifyBehind before (blanks ++ []) = gap before Option.none ++ minifyBehind _ [] :=
      minifyBehind_blanks h none before (by simp)
    rw [List.append_nil] at alone
    simp [alone, minifyBehind_nil, gap, isBare]

theorem minifyBehind_append_blanks {blanks : Text} (h : ∀ c ∈ blanks, isBlank c = true)
    (before : Option Char) (s : Text) : minifyBehind before (s ++ blanks) = minifyBehind before s := by
  induction s using gap_induction generalizing before with
  | nil => rw [List.nil_append, minifyBehind_of_blanks h, minifyBehind_nil]
  | char c rest hc ih => rw [List.cons_append, minifyBehind_cons hc, ih, minifyBehind_cons hc]
  | last c hc =>
    have whole : ∀ d ∈ c :: blanks, isBlank d = true := List.forall_mem_cons.2 ⟨hc, h⟩
    rw [List.singleton_append, minifyBehind_of_blanks whole, minifyBehind_blank hc]
  | more c d rest hc hd ih =>
    rw [List.cons_append, List.cons_append, minifyBehind_blank_blank hc hd, ← List.cons_append, ih,
      minifyBehind_blank_blank hc hd]
  | gap c d rest hc hd ih =>
    rw [List.cons_append, List.cons_append, minifyBehind_gap hc hd, ← List.cons_append, ih,
      minifyBehind_gap hc hd]

theorem minifyBehind_none_blank (h : isBlank c = true) (s : Text) :
    minifyBehind none (c :: s) = minifyBehind none s := by
  cases s with
  | nil => rw [minifyBehind_blank h, minifyBehind_nil]
  | cons d s =>
    cases hd : isBlank d with
    | true => exact minifyBehind_blank_blank h hd none s
    | false =>
      rw [minifyBehind_gap h hd, minifyBehind_of_not_blank hd (some c) none]
      rfl

/-- Blanks at the ends of a text have no part in its minified form. -/
theorem minify_trim (s : Text) : minify (trim s) = minify s := by
  obtain ⟨front, back, eq, frontBlank, backBlank⟩ := Text.exists_eq_append_trim s
  have skipFront {front : Text} (h : ∀ c ∈ front, isBlank c = true) (u : Text) :
      minifyBehind none (front ++ u) = minifyBehind none u := by
    induction front with
    | nil => rfl
    | cons c front ih =>
      obtain ⟨hc, hfront⟩ := List.forall_mem_cons.1 h
      rw [List.cons_append, minifyBehind_none_blank hc, ih hfront]
  have whole := congrArg (minifyBehind none) eq
  rw [skipFront frontBlank, minifyBehind_append_blanks backBlank] at whole
  exact whole.symm

/-- Asking for a minified native stream changes nothing else, with or without the letters of a call. -/
theorem sheet_true (s : Text) :
    Expand.sheet true s = { Expand.sheet false s with native := minify (Expand.sheet false s).native } := by
  cases token : Expand.hasToken s with
  | false => simp [Expand.sheet, token, minify_trim]
  | true => simp [Expand.sheet, token]

/-- Minifying works run by run: a run of blanks goes if it touches an end of the text, a brace or a
    semicolon, and becomes one space otherwise, and all else stays. So it keeps the characters that are
    no blanks in their order, does nothing to a minified text, and does not depend on the blanks at the
    ends; and minifying the native stream is all that is asked for with it when a style sheet is
    expanded. -/
theorem minify_run_by_run (s : Text) :
    minify s = byRuns none (runs s) ∧ Text.ink (minify s) = Text.ink s ∧
    minify (minify s) = minify s ∧ minify (trim s) = minify s ∧
    Expand.sheet true s =
      { Expand.sheet false s with native := minify (Expand.sheet false s).native } :=
  ⟨minify_eq_byRuns s, ink_minifyBehind none s, minifyBehind_minifyBehind none s, minify_trim s,
    sheet_true s⟩

end Minify
end CondCss
