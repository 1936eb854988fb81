import CondCss.Proofs.Cascade.Reading
import CondCss.Proofs.Scan.Balanced

/-!
# Reading what is expanded

Rules and blocks that a style sheet is expanded to are read as the writes that they stand for:
`reads_baseRule` for the unconditional declarations of a rule, `reads_render` for a variant.
-/

namespace CondCss

namespace Sheet

open Scan (outside endOf)

theorem fitsHeader_iff_chars {t : Text} : FitsHeader t ↔ (endOf none none 0 t).1 = none ∧ '{' ∉ t ∧
    Text.hasInfix ['/', '*'] t = false ∧ '}' ∉ (outside none none 0 t).map Prod.fst ∧
    ';' ∉ (outside none none 0 t).map Prod.fst := by
  have chars (c : Char) : (∀ m ∈ outside none none 0 t, m.1 ≠ c) ↔
      c ∉ (outside none none 0 t).map Prod.fst := by
    simp only [List.mem_map, not_exists, not_and]
  rw [fitsHeader_iff, braceless_iff, chars, chars]
  tauto

/-- Two headers are one, with a character between them that has no meaning there. -/
theorem FitsHeader.append_cons {s t : Text} {c : Char} (hs : FitsHeader s) (ht : FitsHeader t)
    (noQuote : Quote.ofChar? c = none) (meaningless : c ∉ ['{', '}', ';', '/', '*', '\\']) :
    FitsHeader (s ++ c :: t) := by
  simp only [List.mem_cons, List.not_mem_nil, or_false, not_or] at meaningless
  obtain ⟨opening, closing, semicolon, slash, star, backslash⟩ := meaningless
  have notBackslash : some c ≠ some '\\' := fun h => backslash (Option.some.inj h)
  obtain ⟨closedS, openingS, commentS, closingS, semicolonS⟩ := fitsHeader_iff_chars.1 hs
  obtain ⟨closedT, openingT, commentT, closingT, semicolonT⟩ := fitsHeader_iff_chars.1 ht
  have ends : endOf none none 0 s = (none, (endOf none none 0 s).2) := Prod.ext closedS rfl
  have marks : (outside none none 0 (s ++ c :: t)).map Prod.fst =
      (outside none none 0 s).map Prod.fst ++ ((if Text.isBlank c then [] else [c]) ++
        (outside none none 0 t).map Prod.fst) := by
    rw [Scan.outside_append_cons noQuote ends, List.map_append, List.map_append,
      Scan.outside_before notBackslash,
      Scan.outside_depth none none (Scan.depthAfter none none c _) 0 t]
    congr 2
    unfold Scan.mark
    rw [Quote.next_of_ofChar?_eq_none noQuote]
    cases Text.isBlank c <;> rfl
  have absent {x : Char} (hs : x ∉ (outside none none 0 s).map Prod.fst)
      (ht : x ∉ (outside none none 0 t).map Prod.fst) (hx : c ≠ x) :
      x ∉ (outside none none 0 (s ++ c :: t)).map Prod.fst := by
    rw [marks, List.mem_append, List.mem_append, not_or, not_or]
    refine ⟨hs, ?_, ht⟩
    cases Text.isBlank c with
    | true => exact List.not_mem_nil
    | false => exact fun h => hx (List.mem_singleton.1 h).symm
  refine fitsHeader_iff_chars.2 ⟨?_, ?_, ?_, absent closingS closingT closing,
    absent semicolonS semicolonT semicolon⟩
  · rw [Scan.endOf_append_cons noQuote ends, Scan.endOf_before notBackslash,
      Scan.endOf_depth _ _ _ 0, closedT]
  · simp [openingS, openingT, Ne.symm opening]
  · rw [Text.hasInfix_append_cons (Ne.symm slash) (Ne.symm star), commentS, commentT]
    rfl

end Sheet

/-! ### Headers of blocks -/

namespace Expand

open Cascade Sheet
open Scan (endOf)

/-- An expression that can stand in the header of a block: what opens in it also ends in it, and it has
    nothing that ends the header. -/
structure FitsParens (e : Text) : Prop where
  closed : Scan.endOf none none 0 e = (none, 0)
  within : Scan.Within none none 0 e
  header : FitsHeader e

theorem FitsParens.collapse {e : Text} (h : FitsParens e) : FitsParens (Text.collapse e) := by
  obtain ⟨sameOutside, sameEnd⟩ := Scan.sameScan_collapse none e none 0
  refine ⟨sameEnd.trans h.closed, fun d hd => h.within d ?_, fitsHeader_collapse.2 h.header⟩
  rw [← sameOutside]
  exact hd

theorem FitsParens.cutParen? {e : Text} (h : FitsParens e) (rest : Text) :
    Scan.cutParen? (e ++ ')' :: rest) = some (e, rest) :=
  Scan.Balanced.cutParen? ⟨h.closed, h.within⟩ rest

/-- Expressions in parentheses, with the word `and` between neighbours. -/
def conjunction (expressions : List Text) : Text :=
  Text.joinWith [' ', 'a', 'n', 'd', ' '] (expressions.map fun e => ['('] ++ e ++ [')'])

theorem header_eq (keyword : Text) (expressions : List Text) :
    header keyword expressions = keyword ++ conjunction expressions.eraseDups := rfl

theorem conjunction_singleton (e : Text) : conjunction [e] = '(' :: (e ++ [')']) := by
  simp [conjunction, Text.joinWith]

theorem conjunction_cons_cons (e e' : Text) (expressions : List Text) :
    conjunction (e :: e' :: expressions) =
      '(' :: (e ++ ')' :: ([' ', 'a', 'n', 'd', ' '] ++ conjunction (e' :: expressions))) := by
  simp [conjunction, Text.joinWith, List.intercalate_cons_cons]

theorem conjunction_cons (e : Text) (expressions : List Text) :
    ∃ tail, conjunction (e :: expressions) = '(' :: (e ++ ')' :: tail) := by
  cases expressions with
  | nil => exact ⟨[], conjunction_singleton e⟩
  | cons e' expressions => exact ⟨_, conjunction_cons_cons e e' expressions⟩

theorem length_le_conjunction (expressions : List Text) :
    expressions.length ≤ (conjunction expressions).length := by
  induction expressions with
  | nil => exact Nat.zero_le _
  | cons e expressions ih =>
    cases expressions with
    | nil => simp [conjunction_singleton]
    | cons e' expressions =>
      rw [conjunction_cons_cons]
      simp only [List.length_cons, List.length_append] at ih ⊢
      omega

/-- The expressions of a header are read back. -/
theorem readConjunction?_conjunction {fuel : Nat} {expressions : List Text}
    (nonempty : expressions ≠ []) (fits : ∀ e ∈ expressions, FitsParens e)
    (enough : expressions.length ≤ fuel) :
    readConjunction? fuel (conjunction expressions) = some expressions := by
  induction expressions generalizing fuel with
  | nil => exact absurd rfl nonempty
  | cons e expressions ih =>
    obtain ⟨here, later⟩ := List.forall_mem_cons.1 fits
    cases fuel with
    | zero => exact absurd enough (Nat.not_succ_le_zero _)
    | succ fuel =>
      cases expressions with
      | nil =>
        rw [conjunction_singleton]
        simp [readConjunction?, Text.after?, here.cutParen?]
      | cons e' expressions =>
        have rest := ih (List.cons_ne_nil _ _) later (Nat.le_of_succ_le_succ enough)
        rw [conjunction_cons_cons]
        simp [readConjunction?, Text.after?, here.cutParen?, rest]

theorem fitsHeader_append_conjunction {front : Text} {expressions : List Text}
    (hfront : FitsHeader front) (fits : ∀ e ∈ expressions, FitsParens e) :
    FitsHeader (front ++ conjunction expressions) := by
  induction expressions generalizing front with
  | nil => simpa [conjunction, Text.joinWith] using hfront
  | cons e expressions ih =>
    obtain ⟨here, later⟩ := List.forall_mem_cons.1 fits
    have opened : FitsHeader (front ++ '(' :: e) :=
      hfront.append_cons here.header (by decide) (by decide)
    cases expressions with
    | nil =>
      have := opened.append_cons (c := ')') (t := []) (by decide) (by decide) (by decide)
      simpa [conjunction_singleton] using this
    | cons e' expressions =>
      have joined : FitsHeader ((front ++ '(' :: e) ++ ')' :: [' ', 'a', 'n', 'd', ' ']) :=
        opened.append_cons (by decide) (by decide) (by decide)
      have := ih joined later
      simpa [conjunction_cons_cons] using this

/-- What works on the stretches between parentheses one by one works on the expressions. -/
theorem conjunction_map {f : Text → Text} (empty : f [] = [])
    (word : f [' ', 'a', 'n', 'd', ' '] = [' ', 'a', 'n', 'd', ' '])
    (apart : ∀ c ∈ ['(', ')'], ∀ t rest, f (t ++ c :: rest) = f t ++ c :: f rest)
    (expressions : List Text) : f (conjunction expressions) = conjunction (expressions.map f) := by
  have opening (rest : Text) : f ('(' :: rest) = '(' :: f rest := by
    have := apart '(' (by decide) [] rest
    rwa [empty] at this
  have closing (t rest : Text) : f (t ++ ')' :: rest) = f t ++ ')' :: f rest :=
    apart ')' (by decide) t rest
  induction expressions with
  | nil => exact empty
  | cons e expressions ih =>
    cases expressions with
    | nil =>
      rw [conjunction_singleton, opening, closing, empty]
      exact (conjunction_singleton _).symm
    | cons e' expressions =>
      obtain ⟨tail, opens⟩ := conjunction_cons e' expressions
      have between : f ([' ', 'a', 'n', 'd', ' '] ++ conjunction (e' :: expressions)) =
          [' ', 'a', 'n', 'd', ' '] ++ conjunction ((e' :: expressions).map f) := by
        rw [← ih, opens, apart '(' (by decide), word, opening]
      rw [conjunction_cons_cons, opening, closing, between]
      exact (conjunction_cons_cons _ _ _).symm

theorem collapse_conjunction (expressions : List Text) :
    Text.collapse (conjunction expressions) = conjunction (expressions.map Text.collapse) := by
  refine conjunction_map rfl (by decide) ?_ expressions
  intro c member t rest
  rcases List.mem_pair.1 member with rfl | rfl
  · exact Text.collapse_append_cons (by decide)
  · exact Text.collapse_append_cons (by decide)

theorem conjunction_concat (e : Text) (expressions : List Text) :
    ∃ front, conjunction (e :: expressions) = front ++ [')'] := by
  induction expressions generalizing e with
  | nil => exact ⟨'(' :: e, conjunction_singleton e⟩
  | cons e' expressions ih =>
    obtain ⟨front, ends⟩ := ih e'
    refine ⟨'(' :: (e ++ ')' :: ([' ', 'a', 'n', 'd', ' '] ++ front)), ?_⟩
    rw [conjunction_cons_cons, ends]
    simp

/-- The kinds of conditions that a block can have. -/
def blockKinds : List ConditionKind := [.media, .supports]

theorem tidy_append_conjunction {kind : ConditionKind} (isBlock : kind ∈ blockKinds) (e : Text)
    (expressions : List Text) :
    Text.tidy (blockWord kind ++ conjunction (e :: expressions)) =
      blockWord kind ++ conjunction ((e :: expressions).map Text.collapse) := by
  have word : Text.collapse (blockWord kind) = blockWord kind := by
    revert kind
    decide
  obtain ⟨tail, opens⟩ := conjunction_cons e expressions
  have collapsed : Text.collapse (blockWord kind ++ conjunction (e :: expressions)) =
      blockWord kind ++ conjunction ((e :: expressions).map Text.collapse) := by
    rw [← collapse_conjunction, opens, Text.collapse_append_cons (by decide), word,
      Text.collapse_of_not_blank (by decide)]
  obtain ⟨front, ends⟩ := conjunction_concat (Text.collapse e) (expressions.map Text.collapse)
  have left : Text.trimLeft (blockWord kind ++ (front ++ [')'])) =
      blockWord kind ++ (front ++ [')']) :=
    Text.trimLeft_of_not_blank (by decide)
  rw [← Text.trim_collapse, collapsed, List.map_cons, ends, Text.trim, left, ← List.append_assoc,
    Text.trimRight_append_cons (by decide), Text.trimRight_nil]

/-- The header of a block is read back. -/
theorem readHeader?_header {kind : ConditionKind} (isBlock : kind ∈ blockKinds)
    {expressions : List Text} (nonempty : expressions ≠ [])
    (fits : ∀ e ∈ expressions, FitsParens e) :
    readHeader? (Text.tidy (header (blockWord kind) expressions)) =
      some (expressions.eraseDups.map fun e => (kind, Text.collapse e)) := by
  obtain ⟨e, rest, shape⟩ : ∃ e rest, expressions.eraseDups = e :: rest := by
    obtain ⟨e, rest, rfl⟩ := List.exists_cons_of_ne_nil nonempty
    exact ⟨e, _, List.eraseDups_cons⟩
  have fits' : ∀ t ∈ (e :: rest).map Text.collapse, FitsParens t := by
    intro t ht
    obtain ⟨u, hu, rfl⟩ := List.mem_map.1 ht
    rw [← shape] at hu
    exact (fits u (List.mem_eraseDups.1 hu)).collapse
  have read := readConjunction?_conjunction (by simp) fits' (length_le_conjunction _)
  rw [header_eq, shape, tidy_append_conjunction isBlock]
  have cases : kind = .media ∨ kind = .supports := by simpa [blockKinds] using isBlock
  rcases cases with rfl | rfl
  · simp only [readHeader?, List.findSome?_cons, Text.after?_append, Option.bind_eq_bind,
      Option.bind_some, read, Option.map_some, List.map_map]
    rfl
  · have notMedia (t : Text) : Text.after? (blockWord .media) (blockWord .supports ++ t) = none :=
      rfl
    simp only [readHeader?, List.findSome?_cons, notMedia, Text.after?_append, Option.bind_eq_bind,
      Option.bind_none, Option.bind_some, read, Option.map_some, List.map_map]
    rfl

/-- A text in blocks for conditions of one kind writes what it wrote, under these conditions. -/
theorem reads_wrapIn {kind : ConditionKind} (isBlock : kind ∈ blockKinds) {expressions : List Text}
    (fits : ∀ e ∈ expressions, FitsParens e) {inner : Text} {writes : List Write}
    (hinner : Reads inner writes) :
    Reads (wrapIn (blockWord kind) expressions inner)
      (writes.map (·.under (expressions.eraseDups.map fun e => (kind, Text.collapse e)))) := by
  unfold wrapIn
  split
  · rename_i empty
    rw [List.isEmpty_iff.1 empty]
    simpa [Write.under] using hinner
  · rename_i some
    have nonempty : expressions ≠ [] := fun h => some (List.isEmpty_iff.2 h)
    have word : FitsHeader (blockWord kind) := by
      revert kind
      decide
    refine reads_wrap ?_ (readHeader?_header isBlock nonempty fits) hinner
    exact fitsHeader_append_conjunction word fun e he => fits e (List.mem_eraseDups.1 he)

/-! ### Rules and variants -/

/-- A declaration that can be printed and read back. -/
@[mk_iff]
structure FitsDeclaration (d : Declaration) : Prop where
  property : FitsBody d.property
  colon : (':', 0) ∉ Scan.outside none none 0 d.property
  named : Text.trim d.property ≠ []
  value : FitsBody d.value
  valued : Text.trim d.value ≠ []

instance (d : Declaration) : Decidable (FitsDeclaration d) :=
  haveI : Decidable ((':', 0) ∉ Scan.outside none none 0 d.property) :=
    decidable_of_iff (∀ m ∈ Scan.outside none none 0 d.property, m ≠ (':', 0)) List.forall_mem_ne'
  decidable_of_iff _ (fitsDeclaration_iff d).symm

variable {selector : Text} {d : Declaration} {declarations : List Declaration}

theorem cons_render (d : Declaration) :
    ' ' :: d.render = (' ' :: d.property) ++ ':' :: (' ' :: d.value) := by
  simp [Declaration.render]

theorem fitsBody_render (property : FitsBody d.property) (value : FitsBody d.value) :
    FitsBody (' ' :: d.render) := by
  rw [cons_render]
  exact ((fitsBody_cons_of_blank (by decide)).2 property).append_colon
    ((fitsBody_cons_of_blank (by decide)).2 value)

theorem isFragment_render (property : IsFragment d.property) (value : IsFragment d.value) :
    IsFragment (' ' :: d.render) := by
  have spaced : endOf none none 0 (' ' :: d.property) = (none, 0) :=
    ((isFragment_cons_of_blank (by decide)).2 property).closed
  rw [cons_render, isFragment_append_colon spaced, isFragment_cons_of_blank (by decide),
    isFragment_cons_of_blank (by decide)]
  exact ⟨property, value⟩

theorem readDeclaration?_render (closed : endOf none none 0 d.property = (none, 0))
    (colon : (':', 0) ∉ Scan.outside none none 0 d.property) :
    Sheet.readDeclaration? (' ' :: d.render) =
      if Text.trim d.property = [] ∨ Text.trim d.value = [] then none
      else some ⟨Text.trim d.property, Text.trim d.value⟩ := by
  obtain ⟨sameOutside, sameEnd⟩ := Scan.sameScan_blank (c := ' ') (by decide) none d.property none 0
  rw [cons_render, readDeclaration?_append_colon (sameEnd.trans closed) (sameOutside ▸ colon),
    Text.trim_cons_of_blank (by decide), Text.trim_cons_of_blank (by decide)]

theorem FitsDeclaration.readDeclaration? (h : FitsDeclaration d) :
    Sheet.readDeclaration? (' ' :: d.render) = some ⟨Text.trim d.property, Text.trim d.value⟩ := by
  rw [readDeclaration?_render h.property.closed h.colon, if_neg (not_or.2 ⟨h.named, h.valued⟩)]

/-- The fragments of a printed rule. -/
def fragments (declarations : List Declaration) : List Text :=
  declarations.map (fun d => ' ' :: d.render) ++ [[' ']]

theorem baseRule_eq_ruleText (nonempty : declarations ≠ []) :
    baseRule selector declarations = ruleText (selector ++ [' ']) (fragments declarations) := by
  have body : ∀ declarations ≠ [], [';'].intercalate (fragments declarations) =
      ' ' :: (Text.joinWith [';', ' '] (declarations.map (·.render)) ++ [';', ' ']) := by
    intro declarations
    induction declarations with
    | nil => exact fun h => absurd rfl h
    | cons d declarations ih =>
      intro _
      cases declarations with
      | nil => simp [fragments, Text.joinWith, List.intercalate_cons_cons]
      | cons d' declarations =>
        have rest := ih (List.cons_ne_nil _ _)
        simp only [fragments, List.map_cons, List.cons_append] at rest ⊢
        rw [List.intercalate_cons_cons, rest]
        simp [Text.joinWith, List.intercalate_cons_cons]
  rw [ruleText, body declarations nonempty]
  simp [baseRule]

theorem declarationRule_eq_baseRule (selector property value : Text) :
    declarationRule selector property value = baseRule selector [⟨property, value⟩] := by
  simp [declarationRule, baseRule, Text.joinWith, Declaration.render]

theorem fitsBody_of_mem_fragments
    (fits : ∀ d ∈ declarations, FitsBody d.property ∧ FitsBody d.value) :
    ∀ t ∈ fragments declarations, FitsBody t := by
  intro t ht
  rcases List.mem_append.1 ht with inside | last
  · obtain ⟨d, hd, rfl⟩ := List.mem_map.1 inside
    exact fitsBody_render (fits d hd).1 (fits d hd).2
  · rw [List.mem_singleton.1 last]
    decide

/-- What is read from a printed rule. -/
theorem filterMap_fragments (declarations : List Declaration) :
    (fragments declarations).filterMap Sheet.readDeclaration? =
      declarations.filterMap fun d => Sheet.readDeclaration? (' ' :: d.render) := by
  have blank : Sheet.readDeclaration? [' '] = none := rfl
  rw [fragments, List.filterMap_append, List.filterMap_map, List.filterMap_cons_none blank,
    List.filterMap_nil, List.append_nil]
  rfl

/-- A printed rule is read back, if its declarations are fragments. -/
theorem readRule?_baseRule_of_isFragment (opening : '{' ∉ selector) (nonempty : declarations ≠ [])
    (fits : ∀ d ∈ declarations, IsFragment d.property ∧ IsFragment d.value) :
    Sheet.readRule? (baseRule selector declarations) =
      some ⟨Text.trim selector,
        declarations.filterMap fun d => Sheet.readDeclaration? (' ' :: d.render),
        baseRule selector declarations⟩ := by
  have notInHeader : '{' ∉ selector ++ [' '] := by simpa using opening
  have areFragments : ∀ t ∈ fragments declarations, IsFragment t := by
    intro t ht
    rcases List.mem_append.1 ht with inside | last
    · obtain ⟨d, hd, rfl⟩ := List.mem_map.1 inside
      exact isFragment_render (fits d hd).1 (fits d hd).2
    · rw [List.mem_singleton.1 last, isFragment_cons_of_blank (by decide)]
      exact ⟨rfl, List.not_mem_nil, List.not_mem_nil, rfl⟩
  have read := readRule?_of_isFragment notInHeader (by simp [fragments]) areFragments
  rwa [filterMap_fragments, Text.trim_concat_of_blank (by decide),
    ← baseRule_eq_ruleText nonempty] at read

/-- A printed rule writes its declarations. -/
theorem reads_baseRule (h : FitsHeader selector) (nonempty : declarations ≠ [])
    (fits : ∀ d ∈ declarations, FitsDeclaration d) :
    Reads (baseRule selector declarations)
      (declarations.map fun d => plainWrite (Text.tidy selector) d.tidy) := by
  have read : (fragments declarations).filterMap Sheet.readDeclaration? =
      declarations.map fun d => ⟨Text.trim d.property, Text.trim d.value⟩ := by
    rw [filterMap_fragments, ← List.filterMap_eq_map]
    exact List.filterMap_congr fun d hd => (fits d hd).readDeclaration?
  have reads := reads_ruleText (fitsHeader_concat_space h) (by simp [fragments])
    (fitsBody_of_mem_fragments fun d hd => ⟨(fits d hd).property, (fits d hd).value⟩)
  rw [read, List.map_map] at reads
  rw [baseRule_eq_ruleText nonempty]
  have trimmed : Text.tidy (selector ++ [' ']) = Text.tidy selector := by
    rw [Text.tidy, Text.trim_concat_of_blank (by decide)]
    rfl
  simpa only [Function.comp_def, trimmed, Declaration.tidy, Text.tidy_trim] using reads

/-- What a variant writes, up to blanks. -/
def Variant.tidyWrite (selector property : Text) (v : Variant) : Write where
  conditions := blockKinds.flatMap fun kind =>
    (expressionsOf kind v.conditions).eraseDups.map fun e => (kind, Text.collapse e)
  selector := Text.tidy selector
  property := Text.tidy property
  value := Text.tidy v.value

/-- A printed variant writes its value under its conditions. -/
theorem reads_render (h : FitsHeader selector) {property : Text} {v : Variant}
    (fits : FitsDeclaration ⟨property, v.value⟩)
    (expressions : ∀ c ∈ v.conditions, FitsParens c.expression) :
    Reads (v.render selector property) [v.tidyWrite selector property] := by
  have fitsKind (kind : ConditionKind) : ∀ e ∈ expressionsOf kind v.conditions, FitsParens e := by
    intro e he
    obtain ⟨c, hc, rfl⟩ := List.mem_map.1 he
    exact expressions c (List.mem_filter.1 hc).1
  have rule := reads_baseRule h (List.cons_ne_nil _ [])
    (fun d hd => by rw [List.mem_singleton.1 hd]; exact fits)
  rw [← declarationRule_eq_baseRule] at rule
  have features : ConditionKind.supports ∈ blockKinds := by decide
  have media : ConditionKind.media ∈ blockKinds := by decide
  have inner := reads_wrapIn features (fitsKind .supports) rule
  have outer := reads_wrapIn media (fitsKind .media) inner
  have shape : v.render selector property =
      wrapIn (blockWord .media) (expressionsOf .media v.conditions)
        (wrapIn (blockWord .supports) (expressionsOf .supports v.conditions)
          (declarationRule selector property v.value)) := rfl
  rw [shape]
  simpa [Variant.tidyWrite, blockKinds, Write.under, plainWrite, Declaration.tidy] using outer

end Expand
end CondCss
