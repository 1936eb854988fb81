import CondCss.Proofs.Scan.Balanced

/-!
# The strings of a text

`strings` lists the quoted strings of a text as a scan of its quotes from the beginning finds them,
and `quoteAt` says which one is open at a position. In two stretches, one behind the other, the strings
are those of each, when every string of the first ends in it and the second is read with the last
character of the first in mind, which may be a backslash (`stringsFrom_append`). Where a character that
is neither quote nor backslash stands between them, they can be read apart (`strings_append_cons`).
-/

namespace CondCss
namespace Scan

variable {before : Option Char} {quote : Option Quote} {depth : Int} {c : Char} {s t : Text}

/-! ### Reading on -/

/-- The character in front of what follows a text. -/
def charAfter (before : Option Char) : Text → Option Char
  | [] => before
  | c :: rest => charAfter (some c) rest

theorem charAfter_concat (before : Option Char) (s : Text) (c : Char) :
    charAfter before (s ++ [c]) = some c := by
  induction s generalizing before with
  | nil => rfl
  | cons d s ih => exact ih (some d)

theorem endOf_append (before : Option Char) (quote : Option Quote) (depth : Int) (s t : Text) :
    endOf before quote depth (s ++ t) =
      endOf (charAfter before s) (endOf before quote depth s).1 (endOf before quote depth s).2 t := by
  induction s generalizing before quote depth with
  | nil => rfl
  | cons c s ih => exact ih _ _ _

theorem outside_append (before : Option Char) (quote : Option Quote) (depth : Int) (s t : Text) :
    outside before quote depth (s ++ t) = outside before quote depth s ++
      outside (charAfter before s) (endOf before quote depth s).1 (endOf before quote depth s).2 t := by
  induction s generalizing before quote depth with
  | nil => rfl
  | cons c s ih =>
    rw [List.cons_append, outside, ih, outside, List.append_assoc]
    rfl

/-- The string that is open at a position, found by reading every character before it. -/
def quoteAt (s : Text) : (pos : Nat) → Option Quote
  | 0 => none
  | pos + 1 => Quote.nextAt s pos (quoteAt s pos)

theorem charAfter_take {pos : Nat} (inside : pos ≤ s.length) :
    charAfter none (s.take pos) = Text.charBefore? s pos := by
  cases pos with
  | zero => rfl
  | succ pos =>
    rw [List.take_succ_eq_append_getElem inside, charAfter_concat, Text.charBefore?,
      List.getElem?_eq_getElem inside]

theorem quoteAt_eq_endOf (s : Text) (pos : Nat) :
    quoteAt s pos = (endOf none none 0 (s.take pos)).1 := by
  induction pos with
  | zero => rfl
  | succ pos ih =>
    rw [quoteAt, Quote.nextAt]
    by_cases inside : pos < s.length
    · rw [List.getElem?_eq_getElem inside, List.take_succ_eq_append_getElem inside, endOf_append, ← ih,
        charAfter_take (Nat.le_of_lt inside)]
      rfl
    · have atEnd : s.length ≤ pos := Nat.le_of_not_lt inside
      rw [List.getElem?_eq_none atEnd, ih, List.take_of_length_le atEnd,
        List.take_of_length_le (Nat.le_succ_of_le atEnd)]

/-! ### Strings -/

/-- The strings of a text with their quotes, one that is open at the end included. When a string is
    open in front, what is left of it comes first. -/
def stringsFrom (before : Option Char) (quote : Option Quote) : Text → List Text
  | [] => if quote.isSome then [[]] else []
  | c :: rest =>
    let later := stringsFrom (some c) (Quote.next before c quote) rest
    if (Quote.next before c quote).isSome then Text.consHead c later
    else if quote.isSome then [c] :: later
    else later

/-- The strings of a text. -/
def strings (s : Text) : List Text :=
  stringsFrom none none s

theorem stringsFrom_ne_nil (opened : quote.isSome = true) (before : Option Char) (s : Text) :
    stringsFrom before quote s ≠ [] := by
  cases s with
  | nil => simp [stringsFrom, opened]
  | cons c s =>
    simp only [stringsFrom, opened, if_true]
    split
    · cases stringsFrom (some c) (Quote.next before c quote) s <;> simp [Text.consHead]
    · simp

theorem consHead_append (c : Char) {pieces : List Text} (nonempty : pieces ≠ []) (more : List Text) :
    Text.consHead c (pieces ++ more) = Text.consHead c pieces ++ more := by
  obtain ⟨piece, pieces, rfl⟩ := List.exists_cons_of_ne_nil nonempty
  rfl

/-- The strings of two stretches of which the first leaves no string open. -/
theorem stringsFrom_append (closed : (endOf before quote depth s).1 = none) (t : Text) :
    stringsFrom before quote (s ++ t) =
      stringsFrom before quote s ++ stringsFrom (charAfter before s) none t := by
  induction s generalizing before quote depth with
  | nil =>
    obtain rfl : quote = none := closed
    rfl
  | cons c s ih =>
    rw [List.cons_append, stringsFrom, stringsFrom, ih closed]
    split
    · rename_i opened
      exact consHead_append c (stringsFrom_ne_nil opened _ s) _
    · split
      · rfl
      · rfl

theorem stringsFrom_before (h : before ≠ some '\\') (quote : Option Quote) (s : Text) :
    stringsFrom before quote s = stringsFrom none quote s := by
  cases s with
  | nil => rfl
  | cons c s => simp only [stringsFrom, Quote.next_before h]

/-- A character outside strings that is neither a quote nor a backslash is passed over. -/
theorem stringsFrom_cons (hc : Quote.ofChar? c = none) (plain : some c ≠ some '\\')
    (before : Option Char) (t : Text) : stringsFrom before none (c :: t) = strings t := by
  simp only [stringsFrom, Quote.next_of_ofChar?_eq_none hc, Option.isSome_none, Bool.false_eq_true,
    if_false]
  exact stringsFrom_before plain none t

theorem strings_append_cons (hc : Quote.ofChar? c = none) (plain : some c ≠ some '\\')
    (closed : (endOf none none depth s).1 = none) (t : Text) :
    strings (s ++ c :: t) = strings s ++ strings t := by
  rw [strings, stringsFrom_append closed, stringsFrom_cons hc plain]
  rfl

theorem ofChar?_of_blank (hc : Text.isBlank c = true) : Quote.ofChar? c = none :=
  Quote.ofChar?_eq_none (ne_of_blank hc (by decide)) (ne_of_blank hc (by decide))

/-- Blanks around a text in which every string ends have no part in its strings. -/
theorem strings_trim (closed : (endOf none none 0 s).1 = none) : strings (Text.trim s) = strings s := by
  obtain ⟨front, back, eq, frontBlank, backBlank⟩ := Text.exists_eq_append_trim s
  have skipFront (front rest : Text) (blank : ∀ c ∈ front, Text.isBlank c = true) :
      strings (front ++ rest) = strings rest := by
    induction front with
    | nil => rfl
    | cons c front ih =>
      have here := blank c List.mem_cons_self
      exact (stringsFrom_cons (ofChar?_of_blank here) (backslash_ne_of_blank here) none _).trans
        (ih fun c member => blank c (List.mem_cons_of_mem _ member))
  have sameEnd := congrArg Prod.fst (sameScan_trim s none 0).2
  have skipBack : strings (Text.trim s ++ back) = strings (Text.trim s) := by
    cases back with
    | nil => rw [List.append_nil]
    | cons c back =>
      have here := backBlank c List.mem_cons_self
      have later := skipFront back [] fun c member => backBlank c (List.mem_cons_of_mem _ member)
      rw [strings_append_cons (ofChar?_of_blank here) (backslash_ne_of_blank here)
        (sameEnd.trans closed), ← List.append_nil back, later]
      exact List.append_nil _
  have whole := congrArg strings eq
  rw [skipFront _ _ frontBlank, skipBack] at whole
  exact whole.symm

/-- Cutting a text at separators cuts no string. -/
theorem strings_splitTopLevelFrom {sep : Char} (hsep : IsSeparator sep) (hbefore : before ≠ some '\\')
    (t : Text) :
    (splitTopLevelFrom (· == sep) before none 0 t).flatMap strings = strings t ∧
      ((endOf none none 0 t).1 = none →
        ∀ piece ∈ splitTopLevelFrom (· == sep) before none 0 t, (endOf none none 0 piece).1 = none) := by
  induction length : t.length using Nat.strongRecOn generalizing t before with
  | ind n ih =>
    subst length
    cases cut : cutTopLevel? (· == sep) before none 0 t with
    | none =>
      rw [splitTopLevelFrom_of_uncut cut]
      refine ⟨by simp, fun closed piece member => ?_⟩
      rw [List.mem_singleton.1 member]
      exact closed
    | some parts =>
      obtain ⟨head, tail⟩ := parts
      rw [(splitTopLevelFrom_of_cut cut).2]
      obtain ⟨rfl, closed, -⟩ := cutTopLevel?_inv hsep cut
      rw [endOf_before hbefore] at closed
      have shorter : tail.length < (head ++ sep :: tail).length := by
        rw [List.length_append, List.length_cons]
        omega
      obtain ⟨sameStrings, closedPieces⟩ := ih tail.length shorter hsep.backslash tail rfl
      refine ⟨?_, fun whole => List.forall_mem_cons.2 ⟨by rw [closed], closedPieces ?_⟩⟩
      · rw [List.flatMap_cons, sameStrings,
          strings_append_cons hsep.quote hsep.backslash (congrArg Prod.fst closed)]
      · rwa [endOf_append_sep hsep closed] at whole

end Scan
end CondCss
