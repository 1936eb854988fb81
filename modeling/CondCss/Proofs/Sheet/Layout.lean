import Mathlib.Tactic.MkIffOfInductiveProp
import Mathlib.Tactic.Tauto
import CondCss.Proofs.Scan.Closed

/-!
# Rules as they are laid out

A rule is laid out as a selector and, between braces, fragments with semicolons between them. If the
strings of the selector and the strings and parentheses of each fragment are closed, such a text is
one unit of a style sheet (`isUnit_ruleText`) and is read as the rule with the declarations that the
fragments are (`readRule?_ruleText`). Both hold up to blanks, too (`tidy_ruleText`).
-/

namespace CondCss

/-- A declaration up to blanks. -/
def Declaration.tidy (d : Declaration) : Declaration :=
  ⟨Text.tidy d.property, Text.tidy d.value⟩

/-! ### Units -/

/-- Puts a stretch in front of the first of several pieces. -/
def Text.prepend (t : Text) (pieces : List Text) : List Text :=
  t.foldr consHead pieces

@[simp] theorem Text.prepend_cons (t p : Text) (pieces : List Text) :
    prepend t (p :: pieces) = (t ++ p) :: pieces := by
  induction t with
  | nil => rfl
  | cons c t ih =>
    change consHead c (prepend t (p :: pieces)) = _
    rw [ih]
    rfl

theorem Text.prepend_append (s t : Text) (pieces : List Text) :
    prepend (s ++ t) pieces = prepend s (prepend t pieces) :=
  List.foldr_append

namespace Sheet

open Scan (outside endOf outside_append_sep endOf_append_sep)

variable {before : Option Char} {quote : Option Quote} {parens : Int} {t rest : Text}

/-- A stretch without braces outside strings, and without comments. -/
@[mk_iff]
structure Braceless (before : Option Char) (quote : Option Quote) (parens : Int) (t : Text) :
    Prop where
  closed : (endOf before quote parens t).1 = none
  opening : '{' ∉ t
  closing : ∀ m ∈ outside before quote parens t, m.1 ≠ '}'
  comment : Text.hasInfix ['/', '*'] t = false

theorem startsComment_append (rest : Text) {c d : Char} (hd : d ≠ '*')
    (h : Text.hasInfix ['/', '*'] (c :: t) = false) : startsComment (c :: (t ++ d :: rest)) = false := by
  have here : ['/', '*'].isPrefixOf (c :: t) = false := (Bool.or_eq_false_iff.1 h).1
  cases t with
  | nil => simpa [startsComment, List.isPrefixOf] using fun _ => hd.symm
  | cons x t => simpa [startsComment, List.isPrefixOf] using here

/-- What the scan of a style sheet does at a character that is no brace, no semicolon that counts, and
    starts no comment. -/
theorem piecesFrom_cons {depth : Nat} {c : Char} (comment : startsComment (c :: rest) = false)
    (pass : (Quote.next before c quote).isSome = true ∨
      (c ≠ '{' ∧ c ≠ '}' ∧ (depth = 0 → c ≠ ';'))) :
    piecesFrom before quote depth .code (c :: rest) =
      Text.consHead c (piecesFrom (some c) (Quote.next before c quote) depth .code rest) := by
  rw [piecesFrom]
  simp only [comment, Bool.and_false, Bool.false_eq_true, if_false]
  split
  · rfl
  · rename_i outsideString
    obtain ⟨notOpening, notClosing, notSemicolon⟩ := pass.resolve_left outsideString
    rw [if_neg (by simpa using notOpening), if_neg (by simpa using notClosing), if_neg]
    intro ends
    obtain ⟨isSemicolon, top⟩ := Bool.and_eq_true_iff.1 ends
    exact notSemicolon (beq_iff_eq.1 top) (beq_iff_eq.1 isSemicolon)

/-- The scan of a style sheet passes over a stretch without braces. -/
theorem piecesFrom_append (depth : Nat) {d : Char} (hd : d ≠ '*') (rest : Text)
    (h : Braceless before quote parens t)
    (semicolon : depth = 0 → ∀ m ∈ outside before quote parens t, m.1 ≠ ';') :
    ∃ before', piecesFrom before quote depth .code (t ++ d :: rest) =
      Text.prepend t (piecesFrom before' none depth .code (d :: rest)) := by
  induction t generalizing before quote parens with
  | nil =>
    have closed : quote = none := h.closed
    exact ⟨before, by rw [closed]; rfl⟩
  | cons c t ih =>
    have comment := startsComment_append rest hd h.comment
    have pass : (Quote.next before c quote).isSome = true ∨
        (c ≠ '{' ∧ c ≠ '}' ∧ (depth = 0 → c ≠ ';')) := by
      by_cases inString : (Quote.next before c quote).isSome = true
      · exact .inl inString
      · have here (notBlank : Text.isBlank c = false) :
            (c, parens) ∈ outside before quote parens (c :: t) := by
          refine List.mem_append_left _ ?_
          rw [Scan.mark_eq_singleton inString notBlank]
          exact List.mem_singleton.2 rfl
        refine .inr ⟨?_, ?_, ?_⟩
        · rintro rfl
          exact h.opening List.mem_cons_self
        · rintro rfl
          exact h.closing _ (here (by decide)) rfl
        · rintro top rfl
          exact semicolon top _ (here (by decide)) rfl
    have later : Braceless (some c) (Quote.next before c quote)
        (Scan.depthAfter before quote c parens) t :=
      ⟨h.closed, fun hbrace => h.opening (List.mem_cons_of_mem c hbrace),
        fun m hm => h.closing m (List.mem_append_right _ hm),
        (Bool.or_eq_false_iff.1 h.comment).2⟩
    obtain ⟨before', onward⟩ := ih later fun top m hm =>
      semicolon top m (List.mem_append_right _ hm)
    refine ⟨before', ?_⟩
    rw [List.cons_append, piecesFrom_cons comment pass, onward]
    rfl

theorem piecesFrom_opening (before : Option Char) (depth : Nat) (rest : Text) :
    piecesFrom before none depth .code ('{' :: rest) =
      Text.consHead '{' (piecesFrom (some '{') none (depth + 1) .code rest) := by
  rw [piecesFrom]
  rfl

theorem piecesFrom_closing (before : Option Char) (depth : Nat) (rest : Text) :
    piecesFrom before none (depth + 1) .code ('}' :: rest) =
      if depth = 0 then ['}'] :: piecesFrom (some '}') none 0 .code rest
      else Text.consHead '}' (piecesFrom (some '}') none depth .code rest) := by
  rw [piecesFrom]
  change (if (depth + 1 == 1) = true then _ else _) = _
  cases depth <;> rfl

/-- A text that is one piece of a style sheet, or a part of one inside a block. -/
def IsUnit (t : Text) : Prop :=
  ∀ (before : Option Char) (depth : Nat) (rest : Text), before ≠ some '\\' →
    piecesFrom before none depth .code (t ++ rest) =
      if depth = 0 then t :: piecesFrom (some '}') none 0 .code rest
      else Text.prepend t (piecesFrom (some '}') none depth .code rest)

/-- A text that can stand inside a block. -/
def FitsInside (t : Text) : Prop :=
  ∀ (before : Option Char) (depth : Nat) (rest : Text), before ≠ some '\\' →
    ∃ before', piecesFrom before none (depth + 1) .code (t ++ '}' :: rest) =
      Text.prepend t (piecesFrom before' none (depth + 1) .code ('}' :: rest))

theorem Braceless.of_before (h : Braceless none none 0 t) (hbefore : before ≠ some '\\') :
    Braceless before none 0 t := by
  refine ⟨?_, h.opening, ?_, h.comment⟩
  · rw [Scan.endOf_before hbefore]
    exact h.closed
  · rw [Scan.outside_before hbefore]
    exact h.closing

/-- A text that can stand in front of a block. -/
@[mk_iff]
structure FitsHeader (t : Text) : Prop extends Braceless none none 0 t where
  semicolon : ∀ m ∈ outside none none 0 t, m.1 ≠ ';'

theorem fitsInside_of_braceless (h : Braceless none none 0 t) : FitsInside t :=
  fun _ depth rest hbefore =>
    piecesFrom_append (depth + 1) (by decide) rest (h.of_before hbefore) fun zero =>
      absurd zero (Nat.succ_ne_zero depth)

/-- What is printed from a header and something that can stand inside a block is one piece. -/
theorem isUnit_block {header inner : Text} (h : FitsHeader header) (hinner : FitsInside inner) :
    IsUnit (header ++ '{' :: (inner ++ ['}'])) := by
  intro before depth rest hbefore
  have shape : header ++ '{' :: (inner ++ ['}']) ++ rest =
      header ++ '{' :: (inner ++ '}' :: rest) := by simp
  obtain ⟨before', passHeader⟩ := piecesFrom_append depth (d := '{') (by decide)
    (inner ++ '}' :: rest) (h.of_before hbefore) fun _ => by
      rw [Scan.outside_before hbefore]
      exact h.semicolon
  obtain ⟨before'', passInner⟩ := hinner (some '{') depth rest (by decide)
  rw [shape, passHeader, piecesFrom_opening, passInner, piecesFrom_closing]
  split
  · rw [Text.prepend_cons]
    simp [Text.consHead]
  · rw [Text.prepend_append]
    change _ = Text.prepend header (Text.consHead '{' (Text.prepend (inner ++ ['}']) _))
    rw [Text.prepend_append]
    rfl

theorem piecesFrom_space (before : Option Char) (depth : Nat) (rest : Text) :
    piecesFrom before none depth .code (' ' :: rest) =
      Text.consHead ' ' (piecesFrom (some ' ') none depth .code rest) :=
  piecesFrom_cons rfl (.inr ⟨by decide, by decide, fun _ => by decide⟩)

/-- A piece can stand inside a block, with a space on both sides. -/
theorem IsUnit.fitsInside (h : IsUnit t) : FitsInside (' ' :: (t ++ [' '])) := by
  intro before depth rest _
  have shape : ' ' :: (t ++ [' ']) ++ '}' :: rest = ' ' :: (t ++ ' ' :: '}' :: rest) := by simp
  refine ⟨some ' ', ?_⟩
  rw [shape, piecesFrom_space, h (some ' ') (depth + 1) _ (by decide),
    if_neg (Nat.succ_ne_zero depth), piecesFrom_space]
  change _ = Text.consHead ' ' (Text.prepend (t ++ [' ']) _)
  rw [Text.prepend_append]
  rfl

/-! ### Fragments -/

/-- A text that can stand between semicolons in the body of a rule that is read by itself: its strings
    and parentheses are closed, and it has no semicolon of its own at the top level, no opening brace and
    no comment. -/
@[mk_iff]
structure IsFragment (t : Text) : Prop where
  closed : endOf none none 0 t = (none, 0)
  single : (';', 0) ∉ outside none none 0 t
  opening : '{' ∉ t
  comment : Text.hasInfix ['/', '*'] t = false

instance (t : Text) : Decidable (IsFragment t) :=
  decidable_of_iff _ (isFragment_iff t).symm

/-- A property and a value with a colon between them are a fragment. -/
theorem isFragment_append_colon {property value : Text}
    (closed : endOf none none 0 property = (none, 0)) :
    IsFragment (property ++ ':' :: value) ↔ IsFragment property ∧ IsFragment value := by
  have marks : outside none none 0 (property ++ ':' :: value) =
      outside none none 0 property ++ (':', 0) :: outside none none 0 value :=
    outside_append_sep Scan.isSeparator_colon closed
  have ends : endOf none none 0 (property ++ ':' :: value) = endOf none none 0 value :=
    endOf_append_sep Scan.isSeparator_colon closed
  have comment : Text.hasInfix ['/', '*'] (property ++ ':' :: value) =
      (Text.hasInfix ['/', '*'] property || Text.hasInfix ['/', '*'] value) :=
    Text.hasInfix_append_cons (by decide) (by decide) property value
  have notSemicolon : ((';', 0) : Char × Int) ≠ (':', 0) := by decide
  have notBrace : '{' ≠ ':' := by decide
  rw [isFragment_iff, isFragment_iff, isFragment_iff, marks, ends, comment, Bool.or_eq_false_iff]
  simp only [List.mem_append, List.mem_cons]
  tauto

theorem isFragment_congr {s t : Text} (same : Scan.SameScan none s none t)
    (brace : '{' ∈ s ↔ '{' ∈ t)
    (comment : Text.hasInfix ['/', '*'] s = Text.hasInfix ['/', '*'] t) :
    IsFragment s ↔ IsFragment t := by
  rw [isFragment_iff, isFragment_iff, (same none 0).1, (same none 0).2, brace, comment]

theorem isFragment_trim : IsFragment (Text.trim t) ↔ IsFragment t :=
  isFragment_congr (Scan.sameScan_trim t) (Text.mem_trim (by decide))
    (Text.hasInfix_trim (by decide) (by decide) t)

theorem isFragment_cons_of_blank {c : Char} (hc : Text.isBlank c = true) :
    IsFragment (c :: t) ↔ IsFragment t := by
  rw [← isFragment_trim, Text.trim_cons_of_blank hc, isFragment_trim]

/-- Fragments with semicolons between them have no opening brace and no comment. -/
theorem plain_intercalate {fragments : List Text} (h : ∀ t ∈ fragments, IsFragment t) :
    '{' ∉ [';'].intercalate fragments ∧
      Text.hasInfix ['/', '*'] ([';'].intercalate fragments) = false := by
  induction fragments with
  | nil => exact ⟨List.not_mem_nil, rfl⟩
  | cons t fragments ih =>
    obtain ⟨here, later⟩ := List.forall_mem_cons.1 h
    obtain ⟨opening, comment⟩ := ih later
    cases fragments with
    | nil =>
      rw [List.intercalate_singleton]
      exact ⟨here.opening, here.comment⟩
    | cons t' fragments =>
      rw [List.intercalate_cons_cons, List.append_assoc, List.singleton_append]
      constructor
      · simp [here.opening, opening]
      · rw [Text.hasInfix_append_cons (by decide) (by decide), here.comment, comment]
        rfl

/-- A text that can stand between semicolons in a rule: its strings and parentheses are closed, and it
    has no semicolon of its own at the top level, no braces outside strings and no comments. -/
@[mk_iff]
structure FitsBody (t : Text) : Prop where
  closed : endOf none none 0 t = (none, 0)
  single : (';', 0) ∉ outside none none 0 t
  opening : '{' ∉ t
  closing : ∀ m ∈ outside none none 0 t, m.1 ≠ '}'
  comment : Text.hasInfix ['/', '*'] t = false

instance (t : Text) : Decidable (FitsBody t) :=
  decidable_of_iff _ (fitsBody_iff t).symm

instance (t : Text) : Decidable (Braceless none none 0 t) :=
  decidable_of_iff _ (braceless_iff none none 0 t).symm

instance (t : Text) : Decidable (FitsHeader t) :=
  decidable_of_iff _ (fitsHeader_iff t).symm

theorem FitsBody.braceless (h : FitsBody t) : Braceless none none 0 t :=
  ⟨by rw [h.closed], h.opening, h.closing, h.comment⟩

theorem braceless_append_sep {sep : Char} (hsep : Scan.IsSeparator sep)
    (notBrace : sep ≠ '{' ∧ sep ≠ '}') (notComment : '/' ≠ sep ∧ '*' ≠ sep)
    (h : FitsBody t) (hrest : Braceless none none 0 rest) :
    Braceless none none 0 (t ++ sep :: rest) := by
  refine ⟨?_, ?_, ?_, ?_⟩
  · rw [endOf_append_sep hsep h.closed]
    exact hrest.closed
  · simp [h.opening, hrest.opening, notBrace.1.symm]
  · rw [outside_append_sep hsep h.closed, List.forall_mem_append, List.forall_mem_cons]
    exact ⟨h.closing, notBrace.2, hrest.closing⟩
  · rw [Text.hasInfix_append_cons notComment.1 notComment.2, h.comment, hrest.comment]
    rfl

/-- A fragment that can stand in a style sheet has no closing brace outside strings. -/
theorem fitsBody_iff_isFragment :
    FitsBody t ↔ IsFragment t ∧ ∀ m ∈ outside none none 0 t, m.1 ≠ '}' := by
  rw [fitsBody_iff, isFragment_iff]
  tauto

theorem FitsBody.isFragment (h : FitsBody t) : IsFragment t :=
  (fitsBody_iff_isFragment.1 h).1

theorem fitsBody_append_colon {property value : Text}
    (closed : endOf none none 0 property = (none, 0)) :
    FitsBody (property ++ ':' :: value) ↔ FitsBody property ∧ FitsBody value := by
  have marks : outside none none 0 (property ++ ':' :: value) =
      outside none none 0 property ++ (':', 0) :: outside none none 0 value :=
    outside_append_sep Scan.isSeparator_colon closed
  rw [fitsBody_iff_isFragment, fitsBody_iff_isFragment, fitsBody_iff_isFragment,
    isFragment_append_colon closed, marks, List.forall_mem_append, List.forall_mem_cons]
  have notBrace : (':', (0 : Int)).1 ≠ '}' := by decide
  tauto

/-- A property and a value with a colon between them are a fragment. -/
theorem FitsBody.append_colon {property value : Text} (h : FitsBody property)
    (hvalue : FitsBody value) : FitsBody (property ++ ':' :: value) :=
  (fitsBody_append_colon h.closed).2 ⟨h, hvalue⟩

theorem FitsBody.of_append_colon {property value : Text}
    (closed : endOf none none 0 property = (none, 0)) (h : FitsBody (property ++ ':' :: value)) :
    FitsBody property ∧ FitsBody value :=
  (fitsBody_append_colon closed).1 h

theorem fitsBody_congr {s t : Text} (same : Scan.SameScan none s none t)
    (brace : '{' ∈ s ↔ '{' ∈ t)
    (comment : Text.hasInfix ['/', '*'] s = Text.hasInfix ['/', '*'] t) : FitsBody s ↔ FitsBody t := by
  rw [fitsBody_iff, fitsBody_iff, (same none 0).1, (same none 0).2, brace, comment]

theorem fitsHeader_congr {s t : Text} (same : Scan.SameScan none s none t)
    (brace : '{' ∈ s ↔ '{' ∈ t)
    (comment : Text.hasInfix ['/', '*'] s = Text.hasInfix ['/', '*'] t) :
    FitsHeader s ↔ FitsHeader t := by
  rw [fitsHeader_iff, fitsHeader_iff, braceless_iff, braceless_iff, (same none 0).1,
    (same none 0).2, brace, comment]

theorem fitsBody_trim : FitsBody (Text.trim t) ↔ FitsBody t :=
  fitsBody_congr (Scan.sameScan_trim t) (Text.mem_trim (by decide))
    (Text.hasInfix_trim (by decide) (by decide) t)

theorem fitsBody_cons_of_blank {c : Char} (hc : Text.isBlank c = true) :
    FitsBody (c :: t) ↔ FitsBody t := by
  rw [← fitsBody_trim, Text.trim_cons_of_blank hc, fitsBody_trim]

theorem fitsBody_collapse : FitsBody (Text.collapse t) ↔ FitsBody t :=
  fitsBody_congr (Scan.sameScan_collapse none t) (Text.mem_collapse (by decide))
    (Text.hasInfix_collapse (by decide) (by decide) t)

theorem fitsHeader_trimLeft : FitsHeader (Text.trimLeft t) ↔ FitsHeader t :=
  fitsHeader_congr (Scan.sameScan_trimLeft (by decide) t) (Text.mem_trimLeft (by decide))
    (Text.hasInfix_trimLeft (by decide) t)

theorem fitsHeader_trimRight : FitsHeader (Text.trimRight t) ↔ FitsHeader t :=
  fitsHeader_congr (Scan.sameScan_trimRight none t) (Text.mem_trimRight (by decide))
    (Text.hasInfix_trimRight (by decide) t)

theorem fitsHeader_collapse : FitsHeader (Text.collapse t) ↔ FitsHeader t :=
  fitsHeader_congr (Scan.sameScan_collapse none t) (Text.mem_collapse (by decide))
    (Text.hasInfix_collapse (by decide) (by decide) t)

/-! ### Declarations -/

/-- What stands around the first colon at the top level is a declaration, if it is not blank. -/
theorem readDeclaration?_append_colon {property value : Text}
    (closed : endOf none none 0 property = (none, 0))
    (free : (':', 0) ∉ outside none none 0 property) :
    readDeclaration? (property ++ ':' :: value) =
      if Text.trim property = [] ∨ Text.trim value = [] then none
      else some ⟨Text.trim property, Text.trim value⟩ := by
  have cut : Scan.cut? (· == ':') (property ++ ':' :: value) = some (property, value) :=
    Scan.cutTopLevel?_append_sep Scan.isSeparator_colon closed free
  simp only [readDeclaration?, cut, Bool.or_eq_true, List.isEmpty_iff]

theorem readDeclaration?_eq_some {d : Declaration} (h : readDeclaration? t = some d) :
    ∃ property value, t = property ++ ':' :: value ∧ endOf none none 0 property = (none, 0) ∧
      (':', 0) ∉ outside none none 0 property ∧ d = ⟨Text.trim property, Text.trim value⟩ ∧
      Text.trim property ≠ [] ∧ Text.trim value ≠ [] := by
  cases cut : Scan.cut? (· == ':') t with
  | none =>
    simp only [readDeclaration?, cut] at h
    cases h
  | some parts =>
    obtain ⟨property, value⟩ := parts
    obtain ⟨rfl, closed, free⟩ := Scan.cutTopLevel?_inv Scan.isSeparator_colon cut
    rw [readDeclaration?_append_colon closed free] at h
    split at h
    · cases h
    · rename_i notBlank
      rw [not_or] at notBlank
      cases h
      exact ⟨property, value, rfl, closed, free, rfl, notBlank.1, notBlank.2⟩

/-- A fragment is read in the same way up to blanks. -/
theorem readDeclaration?_collapse (t : Text) :
    readDeclaration? (Text.collapse t) = (readDeclaration? t).map Declaration.tidy := by
  cases cut : Scan.cut? (· == ':') t with
  | none =>
    have free := (Scan.cutTopLevel?_eq_none Scan.isSeparator_colon).1 cut
    rw [← (Scan.sameScan_collapse none t none 0).1] at free
    have cut' : Scan.cut? (· == ':') (Text.collapse t) = none :=
      (Scan.cutTopLevel?_eq_none Scan.isSeparator_colon).2 free
    simp only [readDeclaration?, cut, cut', Option.map_none]
  | some parts =>
    obtain ⟨property, value⟩ := parts
    obtain ⟨rfl, closed, free⟩ := Scan.cutTopLevel?_inv Scan.isSeparator_colon cut
    obtain ⟨sameOutside, sameEnd⟩ := Scan.sameScan_collapse none property none 0
    rw [Text.collapse_append_cons (by decide), readDeclaration?_append_colon closed free,
      readDeclaration?_append_colon (sameEnd.trans closed) (sameOutside ▸ free),
      Text.trim_collapse, Text.trim_collapse]
    simp only [Text.tidy, Text.collapse_eq_nil]
    split
    · rfl
    · simp only [Option.map_some, Declaration.tidy, Text.tidy_trim]
      rfl

/-! ### Rules -/

/-- The text of a rule with these fragments in its body. -/
def ruleText (selector : Text) (fragments : List Text) : Text :=
  selector ++ '{' :: ([';'].intercalate fragments ++ ['}'])

theorem braceless_intercalate {fragments : List Text} (h : ∀ t ∈ fragments, FitsBody t) :
    Braceless none none 0 ([';'].intercalate fragments) := by
  induction fragments with
  | nil => exact ⟨rfl, List.not_mem_nil, fun m hm => absurd hm List.not_mem_nil, rfl⟩
  | cons t fragments ih =>
    obtain ⟨here, later⟩ := List.forall_mem_cons.1 h
    cases fragments with
    | nil =>
      rw [List.intercalate_singleton]
      exact here.braceless
    | cons t' fragments =>
      rw [List.intercalate_cons_cons, List.append_assoc, List.singleton_append]
      exact braceless_append_sep Scan.isSeparator_semicolon (by decide) (by decide) here (ih later)

/-- A rule is one unit of a style sheet. -/
theorem isUnit_ruleText {selector : Text} {fragments : List Text} (h : FitsHeader selector)
    (hfragments : ∀ t ∈ fragments, FitsBody t) : IsUnit (ruleText selector fragments) :=
  isUnit_block h (fitsInside_of_braceless (braceless_intercalate hfragments))

/-- The braces around a body are found. -/
theorem cutBraces?_block {header body : Text} (h : '{' ∉ header) :
    cutBraces? (header ++ '{' :: (body ++ ['}'])) = some (header, body) := by
  simp only [cutBraces?, Text.cutAt?_append_cons h, List.reverse_append, List.reverse_cons,
    List.reverse_nil, List.nil_append, List.singleton_append, Text.cutAt?, beq_self_eq_true, if_true,
    Option.map_some, List.reverse_reverse]

/-- A rule is read from the text of its own that it is laid out as. -/
theorem readRule?_of_isFragment {selector : Text} {fragments : List Text} (opening : '{' ∉ selector)
    (nonempty : fragments ≠ []) (hfragments : ∀ t ∈ fragments, IsFragment t) :
    readRule? (ruleText selector fragments) =
      some ⟨Text.trim selector, fragments.filterMap readDeclaration?,
        ruleText selector fragments⟩ := by
  obtain ⟨noOpening, noComment⟩ := plain_intercalate hfragments
  have clean : withoutComments ([';'].intercalate fragments) = [';'].intercalate fragments :=
    withoutComments_of_hasInfix_eq_false noComment
  have noBrace : ([';'].intercalate fragments).contains '{' = false := by
    simpa using noOpening
  have split : Scan.splitTopLevel (· == ';') ([';'].intercalate fragments) = fragments :=
    Scan.splitTopLevelFrom_intercalate Scan.isSeparator_semicolon nonempty (by decide)
      (fun t ht => (hfragments t ht).closed) fun t ht => (hfragments t ht).single
  simp only [readRule?, ruleText, cutBraces?_block opening, clean, noBrace, Bool.false_eq_true,
    if_false, readDeclarations, split]

/-- A rule is read from its text. -/
theorem readRule?_ruleText {selector : Text} {fragments : List Text} (h : FitsHeader selector)
    (nonempty : fragments ≠ []) (hfragments : ∀ t ∈ fragments, FitsBody t) :
    readRule? (ruleText selector fragments) =
      some ⟨Text.trim selector, fragments.filterMap readDeclaration?,
        ruleText selector fragments⟩ :=
  readRule?_of_isFragment h.opening nonempty fun t ht => (hfragments t ht).isFragment

theorem collapse_intercalate (fragments : List Text) :
    Text.collapse ([';'].intercalate fragments) =
      [';'].intercalate (fragments.map Text.collapse) := by
  induction fragments with
  | nil => rfl
  | cons t fragments ih =>
    cases fragments with
    | nil => simp only [List.map_cons, List.map_nil, List.intercalate_singleton]
    | cons t' fragments =>
      rw [List.intercalate_cons_cons, List.append_assoc, List.singleton_append,
        Text.collapse_append_cons (by decide), ih]
      simp only [List.map_cons, List.intercalate_cons_cons, List.append_assoc,
        List.singleton_append]

theorem trim_ruleText (selector : Text) (fragments : List Text) :
    Text.trim (ruleText selector fragments) = ruleText (Text.trimLeft selector) fragments := by
  rw [ruleText, Text.trim, Text.trimLeft_append_cons (by decide), ← List.cons_append,
    ← List.append_assoc, Text.trimRight_append_cons (by decide)]
  simp [ruleText, Text.trimRight_nil]

/-- Up to blanks a rule is laid out from its parts up to blanks. -/
theorem tidy_ruleText (selector : Text) (fragments : List Text) :
    Text.tidy (ruleText selector fragments) =
      ruleText (Text.trimLeft (Text.collapse selector)) (fragments.map Text.collapse) := by
  have inner : Text.collapse ([';'].intercalate fragments ++ ['}']) =
      [';'].intercalate (fragments.map Text.collapse) ++ ['}'] := by
    rw [Text.collapse_append_cons (by decide), collapse_intercalate]
    rfl
  have collapsed : Text.collapse (ruleText selector fragments) =
      ruleText (Text.collapse selector) (fragments.map Text.collapse) := by
    rw [ruleText, Text.collapse_append_cons (by decide), inner]
    rfl
  rw [← Text.trim_collapse, collapsed, trim_ruleText]

end Sheet
end CondCss
