import CondCss.Expand.Sheet

/-!
# Parts of a text

What is read from a text stands in it: the pieces of a style sheet together are its text, and items,
bodies, declarations and values are stretches of it, as long as there are no comments to remove.
Hence a style sheet without the letters of a call has no declaration with one
(`isConditional_eq_false_of_hasToken`).
-/

namespace CondCss

/-! ### Stretches of a text -/

namespace Text

theorem hasInfix_iff {needle s : Text} : hasInfix needle s = true ↔ needle <:+: s := by
  induction s with
  | nil => simp [hasInfix]
  | cons c rest ih =>
    simp only [hasInfix, Bool.or_eq_true, List.isPrefixOf_iff_prefix, ih]
    exact List.infix_cons_iff.symm

theorem hasInfix_eq_false_of_infix {needle s t : Text} (h : t <:+: s)
    (absent : hasInfix needle s = false) : hasInfix needle t = false := by
  cases present : hasInfix needle t with
  | false => rfl
  | true =>
    have : hasInfix needle s = true := hasInfix_iff.2 ((hasInfix_iff.1 present).trans h)
    rw [absent] at this
    cases this

theorem isSuffix_trimLeft (s : Text) : trimLeft s <:+ s :=
  List.dropWhile_suffix isBlank

theorem isPrefix_trimRight (s : Text) : trimRight s <+: s := by
  have := List.reverse_prefix.2 (isSuffix_trimLeft s.reverse)
  rwa [List.reverse_reverse] at this

theorem isInfix_trim (s : Text) : trim s <:+: s :=
  (isPrefix_trimRight _).isInfix.trans (isSuffix_trimLeft s).isInfix

@[simp] theorem flatten_consHead (c : Char) (pieces : List Text) :
    (consHead c pieces).flatten = c :: pieces.flatten := by
  cases pieces <;> rfl

theorem cutAt?_append_cons {sep : Char} {before : Text} (h : sep ∉ before) (after : Text) :
    cutAt? sep (before ++ sep :: after) = some (before, after) := by
  induction before with
  | nil => simp [cutAt?]
  | cons c before ih =>
    rw [List.mem_cons, not_or] at h
    rw [List.cons_append, cutAt?, if_neg fun same => h.1 (beq_iff_eq.1 same).symm, ih h.2]
    rfl

theorem cutAt?_eq_some {sep : Char} {s before after : Text} (h : cutAt? sep s = some (before, after)) :
    s = before ++ sep :: after := by
  induction s generalizing before with
  | nil => cases h
  | cons c rest ih =>
    unfold cutAt? at h
    split at h
    case isTrue same =>
      cases h
      rw [beq_iff_eq.1 same]
      rfl
    case isFalse _ =>
      obtain ⟨⟨before', after'⟩, cut, eq⟩ := Option.map_eq_some_iff.1 h
      cases eq
      rw [ih cut]
      rfl

theorem after?_append (lead s : Text) : after? lead (lead ++ s) = some s := by
  induction lead with
  | nil => rfl
  | cons c lead ih => rw [List.cons_append, after?, if_pos (beq_self_eq_true c), ih]

theorem eq_append_of_after? {lead s rest : Text} (h : after? lead s = some rest) :
    s = lead ++ rest := by
  induction lead generalizing s with
  | nil =>
    cases h
    rfl
  | cons a lead ih =>
    cases s with
    | nil => cases h
    | cons c s =>
      rw [after?] at h
      split at h
      · rename_i same
        rw [beq_iff_eq.1 same, ih h]
        rfl
      · cases h

/-- A character that is not in a word does not help to start a text with it. -/
theorem after?_append_cons {lead : Text} {c : Char} (absent : c ∉ lead) (s rest : Text) :
    after? lead (s ++ c :: rest) = (after? lead s).map (· ++ c :: rest) := by
  induction lead generalizing s with
  | nil => rfl
  | cons a lead ih =>
    obtain ⟨differs, later⟩ := not_or.1 (mt List.mem_cons.2 absent)
    cases s with
    | nil =>
      have other : (a == c) = false := by simpa using Ne.symm differs
      simp only [List.nil_append, after?, other, Bool.false_eq_true, if_false, Option.map_none]
    | cons d s =>
      rw [List.cons_append, after?, after?]
      split
      · exact ih later s
      · rfl

end Text

/-! ### Separators at the top level -/

namespace Scan

/-- A cut at a separator loses nothing but the separator. -/
theorem cutTopLevel?_eq_some {isSep : Char → Bool} {before : Option Char} {quote : Option Quote}
    {depth : Int} {s head tail : Text}
    (h : cutTopLevel? isSep before quote depth s = some (head, tail)) :
    ∃ c, isSep c = true ∧ s = head ++ c :: tail := by
  induction s generalizing before quote depth head with
  | nil => cases h
  | cons c rest ih =>
    have onward {quote : Option Quote} {depth : Int}
        (h : (cutTopLevel? isSep (some c) quote depth rest).map
          (fun parts => (c :: parts.1, parts.2)) = some (head, tail)) :
        ∃ d, isSep d = true ∧ c :: rest = head ++ d :: tail := by
      obtain ⟨⟨head', tail'⟩, cut, eq⟩ := Option.map_eq_some_iff.1 h
      cases eq
      obtain ⟨d, isSepD, rfl⟩ := ih cut
      exact ⟨d, isSepD, rfl⟩
    simp only [cutTopLevel?] at h
    split at h
    · exact onward h
    · split at h
      · exact onward h
      · split at h
        · exact onward h
        · split at h
          · rename_i sep
            cases h
            exact ⟨c, (Bool.and_eq_true_iff.1 sep).1, rfl⟩
          · exact onward h

/-- A piece between separators is a stretch of the text. -/
theorem infix_of_mem_splitTopLevelFrom {isSep : Char → Bool} {before : Option Char}
    {quote : Option Quote} {depth : Int} {s piece : Text}
    (h : piece ∈ splitTopLevelFrom isSep before quote depth s) : piece <:+: s := by
  -- The first piece is a prefix, which is what an added character needs.
  suffices parts : ∀ {before : Option Char} {quote : Option Quote} {depth : Int},
      ∃ first rest, splitTopLevelFrom isSep before quote depth s = first :: rest ∧
        first <+: s ∧ ∀ p ∈ rest, p <:+: s by
    obtain ⟨first, rest, split, isPrefix, isInfix⟩ := @parts before quote depth
    rw [split] at h
    rcases List.mem_cons.1 h with rfl | later
    · exact isPrefix.isInfix
    · exact isInfix piece later
  clear h
  induction s with
  | nil => exact ⟨[], [], rfl, List.prefix_rfl, fun p hp => absurd hp List.not_mem_nil⟩
  | cons c rest ih =>
    intro before quote depth
    have wider {p : Text} (hp : p <:+: rest) : p <:+: c :: rest :=
      hp.trans (List.suffix_cons c rest).isInfix
    have onward {quote : Option Quote} {depth : Int} :
        ∃ first pieces, Text.consHead c (splitTopLevelFrom isSep (some c) quote depth rest) =
          first :: pieces ∧ first <+: c :: rest ∧ ∀ p ∈ pieces, p <:+: c :: rest := by
      obtain ⟨first, pieces, split, isPrefix, isInfix⟩ := @ih (some c) quote depth
      rw [split]
      exact ⟨c :: first, pieces, rfl, List.cons_prefix_cons.2 ⟨rfl, isPrefix⟩,
        fun p hp => wider (isInfix p hp)⟩
    simp only [splitTopLevelFrom]
    split
    · exact onward
    · split
      · exact onward
      · split
        · exact onward
        · split
          · obtain ⟨first, pieces, split, isPrefix, isInfix⟩ := @ih (some c) none 0
            refine ⟨[], _, rfl, List.nil_prefix, fun p hp => ?_⟩
            rw [split] at hp
            rcases List.mem_cons.1 hp with rfl | later
            · exact wider isPrefix.isInfix
            · exact wider (isInfix p later)
          · exact onward

end Scan

/-! ### Items, rules and declarations -/

namespace Sheet

/-- The pieces of a style sheet together are its text. -/
theorem flatten_piecesFrom (before : Option Char) (quote : Option Quote) (depth : Nat)
    (region : Region) (s : Text) : (piecesFrom before quote depth region s).flatten = s := by
  fun_induction piecesFrom before quote depth region s <;> simp_all +zetaDelta

theorem infix_of_mem_items {s item : Text} (h : item ∈ items s) : item <:+: s := by
  obtain ⟨piece, isPiece, rfl⟩ := List.mem_map.1 (List.mem_filter.1 h).1
  have inText : piece <:+: (pieces s).flatten := List.infix_of_mem_flatten isPiece
  rw [pieces, flatten_piecesFrom] at inText
  exact (Text.isInfix_trim piece).trans inText

theorem withoutComments_of_hasInfix_eq_false {s : Text}
    (h : Text.hasInfix ['/', '*'] s = false) : withoutComments s = s := by
  unfold withoutComments
  induction s with
  | nil => rfl
  | cons c rest ih =>
    obtain ⟨notHere, notLater⟩ := Bool.or_eq_false_iff.1 h
    have : startsComment (c :: rest) = false := notHere
    simp only [withoutCommentsFrom, this, Bool.false_eq_true, if_false, ih notLater]

theorem cutBraces?_eq_some {s selector body : Text} (h : cutBraces? s = some (selector, body)) :
    ∃ tail, s = selector ++ '{' :: body ++ '}' :: tail := by
  unfold cutBraces? at h
  split at h
  · rename_i before rest cut
    obtain ⟨⟨tail, reversed⟩, cut', eq⟩ := Option.map_eq_some_iff.1 h
    cases eq
    have parts := congrArg List.reverse (Text.cutAt?_eq_some cut')
    rw [List.reverse_reverse] at parts
    refine ⟨tail.reverse, ?_⟩
    rw [Text.cutAt?_eq_some cut, parts]
    simp
  · cases h

/-- The value of a declaration of a rule is a stretch of the rule's text. -/
theorem value_infix_of_readRule? {s : Text} {r : Rule} {d : Declaration}
    (noComment : Text.hasInfix ['/', '*'] s = false) (read : readRule? s = some r)
    (member : d ∈ r.declarations) : d.value <:+: s := by
  unfold readRule? at read
  split at read
  · rename_i selector body cut
    split at read
    · cases read
    · cases read
      obtain ⟨tail, rfl⟩ := cutBraces?_eq_some cut
      have inText : body <:+: selector ++ '{' :: body ++ '}' :: tail :=
        ⟨selector ++ ['{'], '}' :: tail, by simp⟩
      have clean := withoutComments_of_hasInfix_eq_false
        (Text.hasInfix_eq_false_of_infix inText noComment)
      obtain ⟨piece, isPiece, readPiece⟩ := List.mem_filterMap.1 member
      rw [clean] at isPiece
      have inBody : piece <:+: body := Scan.infix_of_mem_splitTopLevelFrom isPiece
      have inPiece : d.value <:+: piece := by
        unfold readDeclaration? at readPiece
        split at readPiece
        · rename_i property value cutColon
          obtain ⟨c, -, rfl⟩ := Scan.cutTopLevel?_eq_some cutColon
          simp only at readPiece
          split at readPiece
          · cases readPiece
          · cases readPiece
            exact (Text.isInfix_trim value).trans ⟨property ++ [c], [], by simp⟩
        · cases readPiece
      exact inPiece.trans (inBody.trans inText)
  · cases read

end Sheet

/-! ### Calls -/

namespace Occurrence

theorem token_infix_of_startsAfter {before : Option Char} {s : Text}
    (h : startsAfter before s = true) : token <:+: s := by
  induction s generalizing before with
  | nil => cases h
  | cons c rest ih =>
    rcases (Bool.or_eq_true _ _).mp h with here | later
    · exact (List.isPrefixOf_iff_prefix.1 (Bool.and_eq_true_iff.1 here).1).isInfix
    · exact (ih later).trans (List.suffix_cons c rest).isInfix

theorem allFrom_eq_nil_of_startsAfter {before : Option Char} {pos : Nat} {s : Text}
    (h : startsAfter before s = false) : allFrom before pos 0 s = [] := by
  induction s generalizing before pos with
  | nil => rfl
  | cons c rest ih =>
    obtain ⟨notHere, notLater⟩ := Bool.or_eq_false_iff.1 h
    simp only [allFrom, notHere, Bool.false_eq_true, if_false]
    exact ih notLater

/-- A text without a call has no closed one. -/
theorem allIn_eq_nil_of_anyIn {s : Text} (h : anyIn s = false) : allIn s = [] :=
  allFrom_eq_nil_of_startsAfter h

end Occurrence

/-- Without the letters of a call in a style sheet, no declaration has a call. -/
theorem Expand.isConditional_eq_false_of_hasToken {s item : Text} {r : Rule} {d : Declaration}
    (noToken : hasToken s = false) (noComment : Text.hasInfix ['/', '*'] item = false)
    (isItem : item ∈ Sheet.items s) (read : Sheet.readRule? item = some r)
    (member : d ∈ r.declarations) : isConditional d = false := by
  have itemInText := Sheet.infix_of_mem_items isItem
  have valueInItem := Sheet.value_infix_of_readRule? noComment read member
  cases conditional : isConditional d with
  | false => rfl
  | true =>
    have token := Occurrence.token_infix_of_startsAfter conditional
    have present := Text.hasInfix_iff.2 (token.trans (valueInItem.trans itemInText))
    rw [hasToken] at noToken
    rw [noToken] at present
    cases present

end CondCss
