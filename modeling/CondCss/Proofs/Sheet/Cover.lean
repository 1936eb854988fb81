import CondCss.Minify
import CondCss.Proofs.Sheet.Quoted

/-!
# What covers a place of a text

A place of a text stands in a string, in a part of a comment, or in neither. Strings and comments are
followed as in the scan for items: a comment starts outside strings only, and quotes in comments open
nothing (`Cover.ofPlace_run`). Blanks, braces and semicolons have no part in it (`IsPlain.next`).

A text is closed if what stands on the line behind it is in no string and no comment of it. Every item of
a style sheet but the last one is closed (`closes_of_mem_dropLast_items`).
-/

namespace CondCss
namespace Sheet

/-- What covers a place of a text. -/
inductive Cover where
  /-- No comment; a string, if one is open. -/
  | code (quote : Option Quote)
  /-- A comment, between the slash and the star that open it. -/
  | opening
  /-- A comment, behind its opening. -/
  | comment
  /-- A comment, between the star and the slash that end it. -/
  | closing
  deriving DecidableEq, Repr

namespace Cover

/-- Whether no comment covers a place. -/
def isCode : Cover → Bool
  | code _ => true
  | _ => false

/-- What covers the place behind the character `c`, with `before` in front of it and `rest` behind. No
    string and no comment starts unless `heed` says so. -/
def next (heed : Bool) (cover : Cover) (before : Option Char) (c : Char) (rest : Text) : Cover :=
  match cover with
  | code quote =>
    if heed then
      if quote.isNone && startsComment (c :: rest) then opening
      else code (Quote.next before c quote)
    else cover
  | opening => comment
  | comment => if ['*', '/'].isPrefixOf (c :: rest) then closing else comment
  | closing => code none

/-- What covers the place behind a stretch of text. -/
def run (cover : Cover) (before : Option Char) : (stretch rest : Text) → Cover
  | [], _ => cover
  | c :: stretch, rest =>
    (cover.next true before c (stretch ++ rest)).run (some c) stretch rest

/-- What covers the place behind a character that has no part in strings and comments. -/
def settle : Cover → Cover
  | code quote => code quote
  | closing => code none
  | opening | comment => comment

theorem settle_settle (cover : Cover) : cover.settle.settle = cover.settle := by
  cases cover <;> rfl

theorem run_append (cover : Cover) (before : Option Char) (s t rest : Text) :
    ∃ before', cover.run before (s ++ t) rest = (cover.run before s (t ++ rest)).run before' t rest := by
  induction s generalizing cover before with
  | nil => exact ⟨before, rfl⟩
  | cons c s ih =>
    rw [List.cons_append, run, run, List.append_assoc]
    exact ih _ _

end Cover

/-- A character without a part in strings and comments. -/
structure IsPlain (c : Char) : Prop where
  slash : c ≠ '/'
  star : c ≠ '*'
  backslash : c ≠ '\\'
  quote : Quote.ofChar? c = none

theorem isPlain_of_blank {c : Char} (h : Text.isBlank c = true) : IsPlain c :=
  ⟨Scan.ne_of_blank h (by decide), Scan.ne_of_blank h (by decide), Scan.ne_of_blank h (by decide),
    Quote.ofChar?_eq_none (Scan.ne_of_blank h (by decide)) (Scan.ne_of_blank h (by decide))⟩

theorem isPlain_of_isPunctuation {c : Char} (h : Minify.isPunctuation c = true) : IsPlain c := by
  have cases : c = '{' ∨ c = '}' ∨ c = ';' := by
    simpa [Minify.isPunctuation, or_assoc] using h
  rcases cases with rfl | rfl | rfl <;> exact ⟨by decide, by decide, by decide, by decide⟩

section Plain

variable {heed : Bool} {cover : Cover} {before : Option Char} {c d : Char} {t u rest : Text}

theorem IsPlain.next (h : IsPlain c) : cover.next heed before c rest = cover.settle := by
  cases cover <;>
    simp [Cover.next, Cover.settle, startsComment, List.isPrefixOf, h.slash.symm, h.star.symm,
      Quote.next_of_ofChar?_eq_none h.quote]

namespace Cover

/-- Only a backslash in front of a place matters. -/
theorem next_before (h : before ≠ some '\\') :
    cover.next heed before c rest = cover.next heed none c rest := by
  cases cover <;> simp [next, Quote.next_before h]

/-- Whether a comment starts or ends is decided by the next character. -/
theorem next_append_cons (h : IsPlain d) (t u : Text) :
    cover.next heed before c (t ++ d :: u) = cover.next heed before c t := by
  cases t with
  | nil => cases cover <;> simp [next, startsComment, List.isPrefixOf, h.slash.symm, h.star.symm]
  | cons e t => cases cover <;> simp [next, startsComment, List.isPrefixOf]

theorem run_append_cons (h : IsPlain d) : cover.run before t (d :: u) = cover.run before t [] := by
  induction t generalizing cover before with
  | nil => rfl
  | cons c t ih => rw [run, run, next_append_cons h, ih, List.append_nil]

theorem run_of_blank {gap : Text} (h : ∀ c ∈ gap, Text.isBlank c = true) :
    (cover.run before gap rest).settle = cover.settle := by
  induction gap generalizing cover before with
  | nil => rfl
  | cons c gap ih =>
    obtain ⟨hc, hgap⟩ := List.forall_mem_cons.1 h
    rw [run, ih hgap, (isPlain_of_blank hc).next, settle_settle]

/-! ### Places in a style sheet -/

/-- What covers a place of a style sheet. -/
def ofPlace (p : Place) : Cover :=
  match p.zone with
  | .code => code p.quote
  | .opening => opening
  | .comment => comment
  | .closing => closing

theorem ofPlace_step (p : Place) (c : Char) (rest : Text) :
    ofPlace (p.step c rest) = (ofPlace p).next true p.before c rest := by
  obtain ⟨before, quote, depth, zone⟩ := p
  cases zone with
  | code =>
    by_cases starts : (quote.isNone && startsComment (c :: rest)) = true <;>
      simp [Place.step, ofPlace, next, starts]
  | comment =>
    by_cases ends : ['*', '/'].isPrefixOf (c :: rest) = true <;> simp [Place.step, ofPlace, next, ends]
  | opening | closing => rfl

theorem ofPlace_run (p : Place) (t rest : Text) :
    ofPlace (p.run t rest) = (ofPlace p).run p.before t rest := by
  induction t generalizing p with
  | nil => rfl
  | cons c t ih => rw [Place.run, ih, ofPlace_step, Place.before_step, run]

theorem ofPlace_of_isTop {p : Place} (h : p.IsTop) : ofPlace p = code none := by
  rw [ofPlace, h.zone, h.quote]

/-- What is behind a text takes part in what covers its end only if a comment starts or ends there. -/
theorem run_of_eq_code {quote : Option Quote} (h : cover.run before t rest = code quote) :
    cover.run before t [] = code quote := by
  induction t generalizing cover before with
  | nil => exact h
  | cons c t ih =>
    cases t with
    | cons d t =>
      have same : cover.next true before c (d :: (t ++ rest)) = cover.next true before c (d :: t) := by
        cases cover <;> simp [next, startsComment, List.isPrefixOf]
      rw [run, List.cons_append, same] at h
      rw [run, List.append_nil]
      exact ih h
    | nil =>
      simp only [run, List.nil_append, List.append_nil] at h ⊢
      cases cover with
      | code open? =>
        have noComment : startsComment [c] = false := by simp [startsComment, List.isPrefixOf]
        by_cases starts : (open?.isNone && startsComment (c :: rest)) = true
        · simp [next, starts] at h
        · simpa [next, starts, noComment] using h
      | comment =>
        simp only [next] at h
        split at h <;> cases h
      | opening => cases h
      | closing => exact h

end Cover

/-! ### Closed texts -/

/-- Whether no string and no comment of a text goes on behind a blank that follows it. -/
def closes (t : Text) : Bool :=
  ((Cover.code none).run none t []).settle == .code none

/-- A text that is read from outside everything to outside everything is closed, unless its first
    character is a quote behind a backslash. -/
theorem closes_of_isTop {p : Place} {gap : Text} (top : p.IsTop)
    (fresh : p.before = some '\\' → startsComment t = true) (blank : ∀ c ∈ gap, Text.isBlank c = true)
    (behind : (p.run (t ++ gap) rest).IsTop) : closes t = true := by
  have start : (Cover.code none).run p.before t (gap ++ rest) =
      (Cover.code none).run none t (gap ++ rest) := by
    cases t with
    | nil => rfl
    | cons c t =>
      have next : (Cover.code none).next true p.before c (t ++ (gap ++ rest)) =
          (Cover.code none).next true none c (t ++ (gap ++ rest)) := by
        by_cases escaped : p.before = some '\\'
        · have starts := startsComment_of_isPrefix
            (List.prefix_append (c :: t) (gap ++ rest)) (fresh escaped)
          rw [List.cons_append] at starts
          simp [Cover.next, starts]
        · exact Cover.next_before escaped
      rw [Cover.run, Cover.run, next]
  obtain ⟨before, passed⟩ := Cover.run_append (.code none) p.before t gap rest
  have reached := Cover.ofPlace_of_isTop behind
  rw [Cover.ofPlace_run, Cover.ofPlace_of_isTop top, passed, start] at reached
  rw [closes, beq_iff_eq]
  cases gap with
  | nil =>
    have reached : (Cover.code none).run none t ([] ++ rest) = .code none := reached
    rw [Cover.run_of_eq_code reached]
    rfl
  | cons d gap =>
    have plain := isPlain_of_blank (blank d List.mem_cons_self)
    rw [List.cons_append, Cover.run_append_cons plain] at reached
    rw [← Cover.run_of_blank blank, reached]
    rfl

/-- A comment without an end does not close. -/
theorem commentLength?_ne_none_of_closes {inner : Text} (h : closes ('/' :: '*' :: inner) = true) :
    commentLength? inner ≠ none := by
  have opened : (Cover.code none).run none ('/' :: '*' :: inner) [] =
      Cover.comment.run (some '*') inner [] := rfl
  rw [closes, opened, beq_iff_eq] at h
  clear opened
  generalize some '*' = before at h
  fun_induction commentLength? inner generalizing before with
  | case1 => cases h
  | case2 rest => exact Option.some_ne_none 2
  | case3 c rest goesOn ih =>
    rw [Cover.run, List.append_nil, Cover.next, isPrefixOf_end_eq_false goesOn] at h
    simpa using ih _ h

end Plain

/-! ### Items -/

theorem before_placeAt (front rest : Text) : (placeAt front rest).before = front.getLast? := by
  have general (p : Place) : (p.run front rest).before = front.getLast?.or p.before := by
    induction front generalizing p with
    | nil => rfl
    | cons c front ih =>
      rw [Place.run, ih, Place.before_step, List.getLast?_cons]
      cases front.getLast? <;> rfl
  rw [placeAt, general, Place.start, Option.or_none]

/-- Behind a text with items there are blanks and the first of them, outside everything. -/
theorem Laid.exists_gap {front t s : Text} {items : List Text} (h : Laid front (t :: items) s) :
    ∃ gap rest, s = gap ++ rest ∧ (∀ c ∈ gap, Text.isBlank c = true) ∧
      (placeAt (front ++ gap) rest).IsTop := by
  generalize shape : t :: items = all at h
  induction h with
  | nil => cases shape
  | @blank front _ c s hc _ ih =>
    obtain ⟨gap, rest, rfl, blank, top⟩ := ih shape
    exact ⟨c :: gap, rest, rfl, List.forall_mem_cons.2 ⟨hc, blank⟩, by simpa using top⟩
  | @item front _ t s ht _ _ =>
    exact ⟨[], t ++ s, rfl, by simp, by simpa using ht.top⟩

/-- A closed item has no backslash at its end, unless it stands in front of a comment. -/
theorem IsItem.getLast?_of_closes {front t rest : Text} {later : List Text}
    (h : IsItem front t rest later) (closed : closes t = true)
    (escaped : t.getLast? = some '\\') : ∀ u ∈ later.head?, startsComment u = true := by
  rcases h.finished with comment | ⟨init, c, rfl, -, -, ⟨rfl, -⟩ | ⟨rfl, -⟩⟩ | rfl |
    ⟨next, _, rfl, starts⟩
  · obtain ⟨inner, rfl⟩ := exists_eq_of_startsComment comment
    cases ends : commentLength? inner with
    | none => exact absurd ends (commentLength?_ne_none_of_closes closed)
    | some n =>
      obtain ⟨x, split⟩ := exists_of_commentLength? ends
      rw [split] at h escaped
      have whole : '/' :: '*' :: (x ++ '*' :: '/' :: inner.drop n) =
          '/' :: '*' :: (x ++ ['*']) ++ ['/'] := by
        rw [h.eq_nil_of_commentEnd]
        simp
      rw [whole, List.getLast?_concat] at escaped
      cases escaped
  · rw [List.getLast?_concat] at escaped
    cases escaped
  · rw [List.getLast?_concat] at escaped
    cases escaped
  · simp
  · rintro u ⟨rfl⟩
    exact starts

/-- Items are closed, except for the last one. -/
theorem Laid.closes_of_mem_dropLast {front s : Text} {items : List Text} (h : Laid front items s)
    (fresh : front.getLast? = some '\\' → ∀ t ∈ items.head?, startsComment t = true) :
    ∀ t ∈ items.dropLast, closes t = true := by
  induction h with
  | nil => simp
  | @blank front items c s hc _ ih =>
    refine ih fun escaped => ?_
    rw [List.getLast?_concat] at escaped
    exact absurd escaped (Scan.backslash_ne_of_blank hc)
  | @item front items t s ht later ih =>
    cases items with
    | nil => simp
    | cons u items =>
      obtain ⟨gap, rest, rfl, blank, top⟩ := later.exists_gap
      have behind : placeAt (front ++ t ++ gap) rest =
          (placeAt front (t ++ (gap ++ rest))).run (t ++ gap) rest := by
        rw [placeAt, placeAt, List.append_assoc, Place.run_append, List.append_assoc]
      rw [behind] at top
      have closed : closes t = true := by
        refine closes_of_isTop ht.top (fun escaped => ?_) blank top
        rw [before_placeAt] at escaped
        exact fresh escaped t rfl
      rw [List.dropLast_cons_cons, List.forall_mem_cons]
      refine ⟨closed, ih fun escaped => ?_⟩
      rw [List.getLast?_append_of_ne_nil _ ht.nonempty] at escaped
      exact ht.getLast?_of_closes closed escaped

/-- Every item of a style sheet but the last one is closed. -/
theorem closes_of_mem_dropLast_items {s t : Text} (h : t ∈ (items s).dropLast) : closes t = true :=
  (laid_items s).closes_of_mem_dropLast (by simp) t h

end Sheet
end CondCss
