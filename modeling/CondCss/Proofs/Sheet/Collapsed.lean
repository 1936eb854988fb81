import CondCss.Proofs.Sheet.Comment
import CondCss.Proofs.Sheet.Rejoined

/-!
# Style sheets up to blanks

In a style sheet without comments no blank decides where an item, a fragment or a part of a declaration
ends. So if every run of blanks is made one space, the items and the rules that they are read as are the
same up to blanks (`items_collapse`, `readRule?_collapse`).
-/

namespace CondCss

/-- A rule up to blanks. -/
def Rule.tidy (r : Rule) : Rule :=
  ⟨Text.tidy r.selector, r.declarations.map Declaration.tidy, Text.collapse r.source⟩

namespace Sheet

open Scan (outside endOf)

variable {s t body : Text} {c : Char} {before : Option Char} {quote : Option Quote} {depth : Nat}

/-! ### Items -/

theorem map_collapse_consHead (hc : Text.isBlank c = false) (pieces : List Text) :
    (Text.consHead c pieces).map Text.collapse = Text.consHead c (pieces.map Text.collapse) := by
  cases pieces with
  | nil => simp [Text.consHead, Text.collapse, hc]
  | cons p pieces => simp only [Text.consHead, List.map_cons, Text.collapse_of_not_blank hc]

/-- A blank in front of a text makes no difference if a space stands there already. -/
theorem collapse_cons_of_space (hc : Text.isBlank c = true) {rest : Text}
    (h : Text.collapse t = ' ' :: rest) : Text.collapse (c :: t) = ' ' :: rest := by
  simp [Text.collapse, hc, h]

theorem collapse_cons_of_not_space (hc : Text.isBlank c = true)
    (h : (Text.collapse t).head? ≠ some ' ') : Text.collapse (c :: t) = ' ' :: Text.collapse t := by
  simp only [Text.collapse, hc, if_true]
  split
  · rename_i tail eq
    rw [eq] at h
    exact absurd rfl h
  · rfl

/-- Without comments, a text is cut at the same places whatever blanks it has. -/
theorem piecesFrom_collapse (noComment : Text.hasInfix ['/', '*'] s = false) :
    piecesFrom before quote depth .code (Text.collapse s) =
      (piecesFrom before quote depth .code s).map Text.collapse := by
  induction s generalizing before quote depth with
  | nil => rfl
  | cons c s ih =>
    have later : Text.hasInfix ['/', '*'] s = false := (Bool.or_eq_false_iff.1 noComment).2
    cases hc : Text.isBlank c with
    | false =>
      have same := Text.hasInfix_collapse (a := '/') (b := '*') (by decide) (by decide) (c :: s)
      rw [noComment, Text.collapse_of_not_blank hc] at same
      have here : startsComment (c :: s) = false := (Bool.or_eq_false_iff.1 noComment).1
      have here' : startsComment (c :: Text.collapse s) = false := (Bool.or_eq_false_iff.1 same).1
      have single : Text.collapse [c] = [c] := Text.collapse_of_not_blank hc
      rw [Text.collapse_of_not_blank hc]
      simp only [piecesFrom, here, here', Bool.and_false, Bool.false_eq_true, if_false, ih later]
      simp only [apply_ite (List.map Text.collapse), map_collapse_consHead hc, List.map_cons, single]
    | true =>
      rw [piecesFrom_blank hc]
      obtain ⟨p, pieces, shape⟩ : ∃ p pieces, piecesFrom none quote depth .code s = p :: pieces := by
        rw [piecesFrom_eq_piecesAt]
        exact List.exists_cons_of_ne_nil (piecesAt_ne_nil _ s)
      have onward : piecesFrom none quote depth .code (Text.collapse s) =
          (piecesFrom none quote depth .code s).map Text.collapse := ih later
      have whole : (piecesFrom none quote depth .code (Text.collapse s)).flatten = Text.collapse s :=
        flatten_piecesFrom _ _ _ _ _
      rw [onward, shape, List.map_cons, List.flatten_cons] at whole
      rw [shape, List.map_cons] at onward
      rw [shape, Text.consHead, List.map_cons]
      by_cases space : (Text.collapse s).head? = some ' '
      · obtain ⟨tail, eq⟩ := List.head?_eq_some_iff.1 space
        rw [collapse_cons_of_space hc eq, piecesFrom_blank (c := ' ') (by decide)]
        rw [eq, piecesFrom_blank (c := ' ') (by decide)] at onward
        rw [onward]
        obtain ⟨t, head⟩ : ∃ t, Text.collapse p = ' ' :: t := by
          cases rest : piecesFrom none quote depth .code tail <;>
            · rw [rest, Text.consHead] at onward
              exact ⟨_, (List.cons.inj onward).1.symm⟩
        rw [collapse_cons_of_space hc head, head]
      · have notSpace : (Text.collapse p).head? ≠ some ' ' := by
          intro head
          obtain ⟨t, eq⟩ := List.head?_eq_some_iff.1 head
          rw [← whole, eq] at space
          exact space rfl
        rw [collapse_cons_of_not_space hc space, collapse_cons_of_not_space hc notSpace,
          piecesFrom_blank (c := ' ') (by decide), onward, Text.consHead]

/-- Without comments, a text has the same items up to blanks whatever blanks it has. -/
theorem items_collapse (noComment : Text.hasInfix ['/', '*'] s = false) :
    items (Text.collapse s) = (items s).map Text.collapse := by
  have empty (p : Text) : (Text.tidy p).isEmpty = (Text.trim p).isEmpty := by
    rw [Bool.eq_iff_iff, List.isEmpty_iff, List.isEmpty_iff]
    exact Text.collapse_eq_nil
  rw [items, items, pieces, piecesFrom_collapse noComment, List.map_map, List.filter_map,
    List.filter_map, List.map_map]
  simp only [Function.comp_def, Text.trim_collapse, empty]
  rfl

theorem Stands.collapse (h : Stands t) (noComment : Text.hasInfix ['/', '*'] t = false) :
    Stands (Text.collapse t) where
  alone := by rw [items_collapse noComment, h.alone, List.map_singleton]
  ended := by
    rw [pieces, piecesFrom_collapse noComment, List.getLast?_map]
    exact congrArg (Option.map Text.collapse) h.ended

/-! ### Rules -/

/-- The semicolons that split a text are the same whatever blanks it has. -/
theorem splitTopLevel_collapse (s : Text) :
    Scan.splitTopLevel (· == ';') (Text.collapse s) =
      (Scan.splitTopLevel (· == ';') s).map Text.collapse := by
  induction length : s.length using Nat.strong_induction_on generalizing s with
  | _ n ih =>
    cases cut : Scan.cut? (· == ';') s with
    | none =>
      have free := (Scan.cutTopLevel?_eq_none Scan.isSeparator_semicolon).1 cut
      have free' := free
      rw [← (Scan.sameScan_collapse none s none 0).1] at free'
      rw [Scan.splitTopLevel, Scan.splitTopLevel,
        Scan.splitTopLevelFrom_of_free Scan.isSeparator_semicolon free,
        Scan.splitTopLevelFrom_of_free Scan.isSeparator_semicolon free', List.map_singleton]
    | some parts =>
      obtain ⟨first, rest⟩ := parts
      obtain ⟨rfl, closed, free⟩ := Scan.cutTopLevel?_inv Scan.isSeparator_semicolon cut
      obtain ⟨sameOutside, sameEnd⟩ := Scan.sameScan_collapse none first none 0
      have onward (rest : Text) : Scan.splitTopLevelFrom (· == ';') (some ';') none 0 rest =
          Scan.splitTopLevel (· == ';') rest :=
        Scan.splitTopLevelFrom_before (by decide) none 0 rest
      have shorter : rest.length < n := by
        rw [← length, List.length_append, List.length_cons]
        omega
      rw [Text.collapse_append_cons (by decide), Scan.splitTopLevel, Scan.splitTopLevel,
        Scan.splitTopLevelFrom_append_sep Scan.isSeparator_semicolon closed free,
        Scan.splitTopLevelFrom_append_sep Scan.isSeparator_semicolon (sameEnd.trans closed)
          (sameOutside ▸ free), onward, onward, List.map_cons, ih _ shorter rest rfl]

/-- A body without comments has the same declarations up to blanks whatever blanks it has. -/
theorem readDeclarations_collapse (noComment : Text.hasInfix ['/', '*'] body = false) :
    readDeclarations (Text.collapse body) = (readDeclarations body).map Declaration.tidy := by
  have noComment' : Text.hasInfix ['/', '*'] (Text.collapse body) = false := by
    rwa [Text.hasInfix_collapse (by decide) (by decide)]
  rw [readDeclarations, readDeclarations, withoutComments_of_hasInfix_eq_false noComment,
    withoutComments_of_hasInfix_eq_false noComment', splitTopLevel_collapse, List.filterMap_map,
    List.map_filterMap]
  exact List.filterMap_congr fun t _ => readDeclaration?_collapse t

/-- A rule without comments is the same rule up to blanks whatever blanks it has. -/
theorem readRule?_collapse (noComment : Text.hasInfix ['/', '*'] s = false) {r : Rule}
    (read : readRule? s = some r) : readRule? (Text.collapse s) = some r.tidy := by
  cases cut : cutBraces? s with
  | none =>
    simp only [readRule?, cut] at read
    cases read
  | some parts =>
    obtain ⟨selector, body⟩ := parts
    obtain ⟨tail, shape, opening, closing⟩ := cutBraces?_eq_some_iff.1 cut
    have inBody : Text.hasInfix ['/', '*'] body = false := by
      refine Text.hasInfix_eq_false_of_infix ⟨selector ++ ['{'], '}' :: tail, ?_⟩ noComment
      rw [shape]
      simp
    have inBody' : Text.hasInfix ['/', '*'] (Text.collapse body) = false := by
      rwa [Text.hasInfix_collapse (by decide) (by decide)]
    have cut' : cutBraces? (Text.collapse s) = some (Text.collapse selector, Text.collapse body) := by
      refine cutBraces?_eq_some_iff.2 ⟨Text.collapse tail, ?_, ?_, ?_⟩
      · rw [shape, Text.collapse_append_cons (by decide), Text.collapse_append_cons (by decide)]
      · rwa [Text.mem_collapse (by decide)]
      · rwa [Text.mem_collapse (by decide)]
    have nested : (Text.collapse body).contains '{' = body.contains '{' := by
      rw [Bool.eq_iff_iff, List.contains_iff_mem, List.contains_iff_mem, Text.mem_collapse (by decide)]
    simp only [readRule?, cut, withoutComments_of_hasInfix_eq_false inBody] at read
    simp only [readRule?, cut', withoutComments_of_hasInfix_eq_false inBody', nested]
    split at read
    · cases read
    · rename_i flat
      cases read
      rw [if_neg flat, Rule.tidy, Text.trim_collapse, readDeclarations_collapse inBody, Text.tidy_trim]

end Sheet
end CondCss
