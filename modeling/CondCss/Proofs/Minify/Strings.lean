import CondCss.Proofs.Minify.Runs
import CondCss.Proofs.Scan.Strings
import CondCss.Proofs.Sheet.Layout

/-!
# Strings of minified texts

Minifying a text should leave its strings as they are, but it does not know about strings: it shortens
the blanks in them as well. No string is lost, cut or joined with another one, since no blank between a
backslash and a quote goes. So the strings of the minified text are the strings of the text, each
minified by itself (`strings_minify`), and a string stays as it is exactly if each of its blanks is a
space between two characters that are neither blanks, braces nor semicolons (`minifyBehind_eq_self_iff`).
-/

namespace CondCss
namespace Minify

open Text (isBlank)
open Scan (strings stringsFrom)

variable {c d : Char} {s t rest : Text} {before : Option Char} {quote : Option Quote}

/-! ### Texts that minifying leaves as they are -/

/-- Whether a neighbour is a character beside which a space is kept. -/
def isPlain (neighbour : Option Char) : Bool :=
  neighbour.any fun c => !isBlank c && !isPunctuation c

/-- Whether each blank of a text behind the character `before` is a space between plain characters. -/
def isTightBehind (before : Option Char) : Text → Bool
  | [] => true
  | c :: rest =>
    (!isBlank c || c == ' ' && isPlain before && isPlain rest.head?) && isTightBehind (some c) rest

/-- Whether each blank of a text is a space between plain characters. -/
def isTight (t : Text) : Bool :=
  isTightBehind none t

theorem length_minifyBehind_le (before : Option Char) (s : Text) :
    (minifyBehind before s).length ≤ s.length := by
  have length_gap (before after : Option Char) : (gap before after).length ≤ 1 := by
    unfold gap
    split <;> simp
  induction s using gap_induction generalizing before with
  | nil => simp [minifyBehind_nil]
  | char c rest hc ih =>
    rw [minifyBehind_cons hc, List.length_cons, List.length_cons]
    exact Nat.succ_le_succ (ih _)
  | last c hc => simp [minifyBehind_blank hc]
  | more c d rest hc hd ih =>
    rw [minifyBehind_blank_blank hc hd, List.length_cons]
    exact Nat.le_succ_of_le (ih before)
  | gap c d rest hc hd ih =>
    have here := length_gap before (some d)
    have behind := ih (some c)
    rw [minifyBehind_gap hc hd, List.length_append, List.length_cons]
    omega

theorem isTightBehind_cons (h : isBlank c = false) (before : Option Char) (rest : Text) :
    isTightBehind before (c :: rest) = isTightBehind (some c) rest := by
  simp [isTightBehind, h]

theorem isTightBehind_blank (h : isBlank c = true) (before : Option Char) (rest : Text) :
    isTightBehind before (c :: rest) = (c == ' ' && isPlain before && isPlain rest.head? &&
      isTightBehind (some c) rest) := by
  simp [isTightBehind, h]

/-- A space is left between two characters exactly if both are plain. -/
theorem isPlain_and_isPlain (hbefore : ∀ c ∈ before, isBlank c = false) (hd : isBlank d = false) :
    (isPlain before && isPlain (some d)) = !(isBare before || isBare (some d)) := by
  have behind : isPlain (some d) = !isPunctuation d := by simp [isPlain, hd]
  cases before with
  | none => rfl
  | some a =>
    have inFront : isPlain (some a) = !isPunctuation a := by simp [isPlain, hbefore a rfl]
    rw [inFront, behind, Bool.not_or]
    rfl

theorem minifyBehind_eq_self_iff (hbefore : ∀ c ∈ before, isBlank c = false) :
    minifyBehind before s = s ↔ isTightBehind before s = true := by
  induction s using gap_induction generalizing before with
  | nil => simp [minifyBehind_nil, isTightBehind]
  | char c rest hc ih =>
    have behind : ∀ d ∈ some c, isBlank d = false := by simpa using hc
    rw [minifyBehind_cons hc, isTightBehind_cons hc, List.cons.injEq, eq_self, true_and, ih behind]
  | last c hc => simp [minifyBehind_blank hc, isTightBehind_blank hc, isPlain]
  | more c d rest hc hd ih =>
    have shorter : minifyBehind before (d :: rest) ≠ c :: d :: rest := by
      intro same
      have length := length_minifyBehind_le before (d :: rest)
      rw [same, List.length_cons] at length
      omega
    simp [minifyBehind_blank_blank hc hd, shorter, isTightBehind_blank hc, isPlain, hd]
  | gap c d rest hc hd ih =>
    have onward : minifyBehind none (d :: rest) = d :: rest ↔ isTightBehind none (d :: rest) = true :=
      ih (by simp)
    rw [minifyBehind_gap hc hd, isTightBehind_blank hc, List.head?_cons, Bool.and_assoc (c == ' '),
      isPlain_and_isPlain hbefore hd, isTightBehind_cons hd, ← isTightBehind_cons hd none,
      minifyBehind_of_not_blank hd (some c) none]
    cases kept : isBare before || isBare (some d) with
    | true =>
      have differs : d ≠ c := by
        rintro rfl
        cases hc.symm.trans hd
      simp [gap, kept, minifyBehind_cons hd, differs]
    | false =>
      have space : gap before (some d) = [' '] := by simp [gap, kept]
      have char : ' ' = c ↔ c = ' ' := eq_comm
      simp [space, onward, char]

theorem minify_eq_self_iff (t : Text) : minify t = t ↔ isTight t = true := by
  have front : ∀ c ∈ (none : Option Char), isBlank c = false := by simp
  exact minifyBehind_eq_self_iff front

/-! ### Strings -/

theorem exists_stringsFrom_cons (opened : quote.isSome = true) (before : Option Char) (d : Char)
    (rest : Text) : ∃ first later, stringsFrom before quote (d :: rest) = (d :: first) :: later := by
  simp only [stringsFrom, opened, if_true]
  split
  · cases stringsFrom (some d) (Quote.next before d quote) rest with
    | nil => exact ⟨[], [], rfl⟩
    | cons first later => exact ⟨first, later, rfl⟩
  · exact ⟨[], _, rfl⟩

/-- A blank in a string goes to it. -/
theorem stringsFrom_blank (h : isBlank c = true) (before : Option Char) (quote : Option Quote)
    (rest : Text) :
    stringsFrom before quote (c :: rest) =
      if quote.isSome then Text.consHead c (stringsFrom none quote rest)
      else stringsFrom none quote rest := by
  simp only [stringsFrom, Quote.next_of_ofChar?_eq_none (Scan.ofChar?_of_blank h),
    Scan.stringsFrom_before (Scan.backslash_ne_of_blank h)]
  split
  · rfl
  · rfl

/-- The strings of a text, each minified; when one is open in front, what is left of it comes first and
    stands behind the character `before`. -/
def minifyStrings (before : Option Char) : (quote : Option Quote) → List Text → List Text
  | some _, first :: later => minifyBehind before first :: later.map minify
  | _, texts => texts.map minify

theorem minifyStrings_none (before : Option Char) (texts : List Text) :
    minifyStrings before none texts = texts.map minify := by
  cases texts <;> rfl

theorem minifyStrings_some (opened : quote.isSome = true) (before : Option Char) (first : Text)
    (later : List Text) :
    minifyStrings before quote (first :: later) = minifyBehind before first :: later.map minify := by
  cases quote with
  | none => cases opened
  | some q => rfl

/-- A character of a string that is no blank stays in it. -/
theorem minifyStrings_consHead (h : isBlank c = false) (before : Option Char)
    (quote quote' : Option Quote) (opened : quote'.isSome = true) (texts : List Text) :
    minifyStrings before quote (Text.consHead c texts) =
      Text.consHead c (minifyStrings (some c) quote' texts) := by
  cases texts with
  | nil =>
    cases quote <;> cases quote' <;>
      simp [minifyStrings, Text.consHead, minifyBehind_cons h, minifyBehind_nil,
        minify_eq_minifyBehind]
  | cons first later =>
    rw [minifyStrings_some opened]
    cases quote <;>
      simp [minifyStrings, Text.consHead, minifyBehind_cons h, minify_eq_minifyBehind]

theorem stringsFrom_congr {x y : Option Char} (same : x = some '\\' ↔ y = some '\\')
    (quote : Option Quote) (s : Text) : stringsFrom x quote s = stringsFrom y quote s := by
  by_cases escaped : x = some '\\'
  · rw [escaped, same.1 escaped]
  · rw [Scan.stringsFrom_before escaped, Scan.stringsFrom_before (mt same.2 escaped)]

/-- Where a run of blanks goes, its neighbours leave the quotes as they are. -/
theorem stringsFrom_of_isBare {x : Option Char} (h : (isBare x || isBare (some d)) = true)
    (quote : Option Quote) (rest : Text) :
    stringsFrom x quote (d :: rest) = stringsFrom none quote (d :: rest) := by
  rcases (Bool.or_eq_true _ _).mp h with inFront | behind
  · refine Scan.stringsFrom_before ?_ quote _
    rintro rfl
    cases inFront
  · have noQuote : Quote.ofChar? d = none := by
      have cases : d = '{' ∨ d = '}' ∨ d = ';' := by
        simpa [isBare, isPunctuation, or_assoc] using behind
      rcases cases with rfl | rfl | rfl <;> decide
    simp only [stringsFrom, Quote.next_of_ofChar?_eq_none noQuote]

/-- What is left of a run of blanks goes to the string in which it stands. -/
theorem stringsFrom_gap (x : Option Char) (quote : Option Quote) (d : Char) (rest : Text) :
    stringsFrom x quote (gap x (some d) ++ d :: rest) =
      if quote.isSome then Text.prepend (gap x (some d)) (stringsFrom none quote (d :: rest))
      else stringsFrom none quote (d :: rest) := by
  cases kept : isBare x || isBare (some d) with
  | true =>
    simp only [gap, kept, if_true, List.nil_append, stringsFrom_of_isBare kept]
    exact (ite_self _).symm
  | false =>
    have space : isBlank ' ' = true := by decide
    simp only [gap, kept, Bool.false_eq_true, if_false, List.singleton_append, stringsFrom_blank space]
    rfl

/-- The rest of a text and its minified form have the same strings, each minified. In front of them may
    stand different characters, as long as both or none of them escapes a quote. -/
theorem stringsFrom_minifyBehind (x y : Option Char) (quote : Option Quote) (s : Text)
    (same : (∀ c ∈ s.head?, isBlank c = false) → (x = some '\\' ↔ y = some '\\')) :
    stringsFrom x quote (minifyBehind x s) = minifyStrings x quote (stringsFrom y quote s) := by
  induction s using gap_induction generalizing x y quote with
  | nil =>
    rw [minifyBehind_nil]
    cases quote <;> simp [stringsFrom, minifyStrings, minifyBehind_nil]
  | char c rest hc ih =>
    rw [stringsFrom_congr (same (by simpa using hc)).symm]
    have later := ih (some c) (some c) (Quote.next x c quote) fun _ => Iff.rfl
    rw [minifyBehind_cons hc]
    simp only [stringsFrom, later]
    split
    · rename_i opened
      rw [minifyStrings_consHead hc x quote _ opened]
    · rename_i closed
      rw [Option.not_isSome_iff_eq_none.1 closed, minifyStrings_none]
      split
      · rename_i opened
        rw [minifyStrings_some opened, minifyBehind_cons hc, minifyBehind_nil]
      · rename_i outside
        rw [Option.not_isSome_iff_eq_none.1 outside, minifyStrings_none]
  | last c hc =>
    rw [minifyBehind_blank hc, stringsFrom_blank hc]
    cases quote <;> simp [stringsFrom, minifyStrings, Text.consHead, minifyBehind_blank hc]
  | more c d rest hc hd ih =>
    have later := ih x none quote fun plain => by cases hd.symm.trans (plain d rfl)
    rw [minifyBehind_blank_blank hc hd, later, stringsFrom_blank hc]
    split
    · rename_i opened
      obtain ⟨first, others, shape⟩ := exists_stringsFrom_cons opened none d rest
      rw [shape, minifyStrings_some opened, Text.consHead, minifyStrings_some opened,
        minifyBehind_blank_blank hc hd]
    · rfl
  | gap c d rest hc hd ih =>
    have later := ih none none quote fun _ => Iff.rfl
    have behind (first : Text) : minifyBehind (some c) (d :: first) = minifyBehind none (d :: first) :=
      minifyBehind_of_not_blank hd (some c) none first
    rw [minifyBehind_cons hd] at later
    rw [minifyBehind_gap hc hd, behind, minifyBehind_cons hd, stringsFrom_gap, later,
      stringsFrom_blank hc]
    split
    · rename_i opened
      obtain ⟨first, others, shape⟩ := exists_stringsFrom_cons opened none d rest
      rw [shape, minifyStrings_some opened, Text.prepend_cons, Text.consHead,
        minifyStrings_some opened, minifyBehind_gap hc hd, behind]
    · rename_i closed
      rw [Option.not_isSome_iff_eq_none.1 closed, minifyStrings_none, minifyStrings_none]

/-- The strings of a minified text are those of the text, each minified by itself. -/
theorem strings_minify (s : Text) : strings (minify s) = (strings s).map minify := by
  have whole := stringsFrom_minifyBehind none none none s fun _ => Iff.rfl
  rwa [minifyStrings_none] at whole

theorem map_minify_eq_self_iff (texts : List Text) :
    texts.map minify = texts ↔ ∀ t ∈ texts, isTight t = true := by
  have self : texts.map minify = texts ↔ ∀ t ∈ texts, minify t = t := by
    conv_lhs => rhs; rw [← List.map_id texts]
    exact List.map_inj_left
  simp only [self, minify_eq_self_iff]

/-- Minifying a text minifies each of its strings, and no string is lost, cut or joined with another one.
    So all strings are kept exactly if each blank in one of them is a space between characters that are
    neither blanks, braces nor semicolons. The same holds of the native stream of a style sheet that is
    expanded with and without minifying. -/
theorem strings_kept_iff_tight (s : Text) :
    strings (minify s) = (strings s).map minify ∧
    (strings (minify s) = strings s ↔ ∀ t ∈ strings s, isTight t = true) ∧
    strings (Expand.sheet true s).native = (strings (Expand.sheet false s).native).map minify ∧
    (strings (Expand.sheet true s).native = strings (Expand.sheet false s).native ↔
      ∀ t ∈ strings (Expand.sheet false s).native, isTight t = true) := by
  have kept_iff (u : Text) : strings (minify u) = strings u ↔ ∀ t ∈ strings u, isTight t = true := by
    rw [strings_minify, map_minify_eq_self_iff]
  have native : (Expand.sheet true s).native = minify (Expand.sheet false s).native := by
    rw [sheet_true]
  rw [native]
  exact ⟨strings_minify s, kept_iff s, strings_minify _, kept_iff _⟩

/-- Two strings in which blanks count: a run of spaces, and spaces beside a semicolon and a brace. -/
def spacedStrings : Text :=
  ".a \x7b content: \"a  b\" \"c ; \x7b d\"; \x7d".toList

/-- Both strings end, and both are changed. -/
theorem spacedStrings_changed :
    (Scan.endOf none none 0 spacedStrings).1 = none ∧
    strings spacedStrings = ["\"a  b\"".toList, "\"c ; \x7b d\"".toList] ∧
    strings (minify spacedStrings) = ["\"a b\"".toList, "\"c;\x7bd\"".toList] ∧
    strings (Expand.sheet true spacedStrings).native ≠
      strings (Expand.sheet false spacedStrings).native := by
  decide +kernel

end Minify
end CondCss
