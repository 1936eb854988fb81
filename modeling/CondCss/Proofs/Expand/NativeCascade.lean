import CondCss.Proofs.Conditional.Parts
import CondCss.Proofs.Expand.Blocks
import CondCss.Proofs.Sheet.Collapsed

/-!
# The cascade of an expanded style sheet

An expanded rule is printed as a rule for its unconditional declarations with the variants of the
conditional ones behind it. This module reads what is printed as a cascade again (`each_rule`,
`yields_sheet`) and compares it with what the style sheet means.

The two agree if, in each rule, the unconditional declarations are taken before the conditional ones.
They also agree in the order of the source, for every property that no rule sets unconditionally after
setting it conditionally (`native_sheet_cascade`). For other properties they need not agree, nor for
rules that what is printed of them does not close (`sheet_cascade_differs`).
-/

namespace CondCss

/-! ### Streams -/

namespace Cascade

variable {s t rest : Text} {writes more : List Write}

theorem yields_cons_of_blank {c : Char} (hc : Text.isBlank c = true) :
    Yields (c :: s) writes ↔ Yields s writes := by
  rw [Yields, Yields, Text.collapse_of_blank hc, Sheet.items_cons_of_blank (by decide),
    ← Text.trimLeft_collapse, Sheet.items_trimLeft]

theorem yields_trim : Yields (Text.trim s) writes ↔ Yields s writes := by
  have collapsed : Text.collapse (Text.trim s) = Text.trim (Text.collapse s) :=
    (Text.trim_collapse s).symm
  rw [Yields, Yields, collapsed, Sheet.items_trim]

/-- Texts, each with a new line behind it. -/
def inLines (texts : List Text) : Text :=
  texts.flatMap (· ++ ['\n'])

theorem yields_joinWith {texts : List Text} :
    Yields (Text.joinWith ['\n'] texts) writes ↔ Yields (inLines texts) writes := by
  have behind : texts ≠ [] → inLines texts = Text.joinWith ['\n'] texts ++ ['\n'] := by
    induction texts with
    | nil => exact fun h => absurd rfl h
    | cons t texts ih =>
      intro _
      cases texts with
      | nil => simp [inLines, Text.joinWith]
      | cons t' texts =>
        have later := ih (List.cons_ne_nil _ _)
        rw [inLines, List.flatMap_cons, ← inLines, later]
        simp [Text.joinWith, List.intercalate_cons_cons]
  by_cases some : texts = []
  · rw [some]
    rfl
  · rw [behind some, ← yields_trim, ← yields_trim (s := _ ++ _), Text.trim_concat_of_blank (by decide)]

/-- Lines of units are read one after the other. -/
theorem yields_inLines_append {texts : List Text} (h : Each ReadsAll texts writes)
    (hrest : Yields rest more) : Yields (inLines texts ++ rest) (writes ++ more) := by
  induction h with
  | nil => exact hrest
  | cons here _ ih =>
    rw [inLines, List.flatMap_cons, List.append_assoc, List.append_assoc, List.append_assoc]
    exact here.yields_append ((yields_cons_of_blank (by decide)).2 ih)

/-- An item that leaves nothing open is read by itself. -/
theorem yields_append_of_stands (stands : Sheet.Stands t)
    (noComment : Text.hasInfix ['/', '*'] t = false) (reads : ReadsItem (Text.collapse t) writes)
    (hrest : Yields rest more) : Yields (t ++ '\n' :: rest) (writes ++ more) := by
  have split : Text.collapse (t ++ '\n' :: rest) =
      Text.collapse t ++ ' ' :: Text.collapse (Text.trimLeft rest) := by
    rw [Text.collapse_append_of_trim stands.trimmed stands.nonempty,
      Text.collapse_of_blank (by decide)]
  rw [Yields, split, (stands.collapse noComment).items_append (by decide), ← Text.trimLeft_collapse,
    Sheet.items_trimLeft]
  exact .cons reads hrest

/-- A rule without comments is read as its declarations. -/
theorem readsItem_of_readRule? (noComment : Text.hasInfix ['/', '*'] s = false) {r : Rule}
    (read : Sheet.readRule? s = some r) :
    ReadsItem (Text.collapse s)
      (r.declarations.map fun d => plainWrite (Text.tidy r.selector) d.tidy) := by
  intro fuel enough
  cases fuel with
  | zero =>
    have empty := Text.collapse_eq_nil.1 (List.length_eq_zero_iff.1 (Nat.le_zero.1 enough))
    rw [empty] at read
    cases read
  | succ fuel =>
    simp only [readItem, Sheet.readRule?_collapse noComment read, Rule.tidy, List.map_map]
    rfl

end Cascade

namespace Expand

open Cascade
open Occurrence (allIn anyIn)
open Sheet (FitsHeader)

/-! ### Variants as they are read -/

/-- Whether a declaration cannot be expanded. -/
def isDeferred (d : Declaration) : Bool :=
  (variants d.value).toOption.isNone

theorem variants_of_anyIn {value : Text} (none : anyIn value = false) :
    variants value = .ok [⟨[], value⟩] := by
  simp only [variants, Occurrence.allIn_eq_nil_of_anyIn none, none, Bool.false_eq_true, if_false]
  rfl

theorem isConditional_of_isDeferred {d : Declaration} (deferred : isDeferred d = true) :
    isConditional d = true := by
  cases conditional : isConditional d with
  | true => rfl
  | false =>
    rw [isDeferred, variants_of_anyIn conditional] at deferred
    cases deferred

theorem exists_variants_of_not_isDeferred {d : Declaration} (expanded : isDeferred d = false) :
    ∃ all, variants d.value = .ok all := by
  cases hall : variants d.value with
  | ok all => exact ⟨all, rfl⟩
  | error why =>
    rw [isDeferred, hall] at expanded
    cases expanded

/-- What the variants of a declaration write, up to blanks; nothing if it is deferred. -/
def variantWrites (selector : Text) (d : Declaration) : List Write :=
  ((variants d.value).toOption.getD []).map (·.tidyWrite selector d.property)

theorem variantWrites_of_isDeferred (selector : Text) {d : Declaration}
    (deferred : isDeferred d = true) : variantWrites selector d = [] := by
  rw [variantWrites, Option.isNone_iff_eq_none.1 deferred]
  rfl

theorem variantWrites_of_plain (selector : Text) {d : Declaration}
    (plain : isConditional d = false) :
    variantWrites selector d = [plainWrite (Text.tidy selector) d.tidy] := by
  rw [variantWrites, variants_of_anyIn plain]
  rfl

/-- A variant has no call in its value, and what opens in its conditions also ends there. -/
theorem closed_of_variants {value : Text} (conditional : anyIn value = true) {all : List Variant}
    (hall : variants value = .ok all) {v : Variant} (hv : v ∈ all) :
    anyIn v.value = false ∧ ∀ c ∈ v.conditions, c.kind ∈ blockKinds ∧
      Scan.endOf none none 0 c.expression = (none, 0) ∧ Scan.Within none none 0 c.expression := by
  obtain ⟨calls, read, -, rfl, simple⟩ :=
    variants_eq_ok (allIn_ne_nil_of_variants conditional hall) hall
  obtain ⟨parsed, isNative⟩ := mapM_readNative_eq_ok read
  refine ⟨simple v hv, fun clause hclause => ?_⟩
  obtain ⟨selection, member, rfl⟩ := List.mem_map.1 hv
  have kind := kind_of_mem_conditions isNative member hclause
  obtain ⟨c, hc, inClauses⟩ := exists_of_mem_conditions member hclause
  obtain ⟨o, -, parsedCall⟩ := exists_of_mem_mapM parsed hc
  have notLiteral : clause.kind ≠ .literal := by
    rcases kind with kind | kind <;> simp [kind]
  exact ⟨by simpa [blockKinds] using kind,
    Conditional.closed_expression parsedCall inClauses notLiteral⟩

/-- Whether every variant of a declaration is closed and not blank, so that it can be printed and read
    back. -/
def FitsVariants (d : Declaration) : Prop :=
  ∀ v ∈ (variants d.value).toOption.getD [],
    FitsDeclaration ⟨d.property, v.value⟩ ∧ ∀ c ∈ v.conditions, FitsHeader c.expression

instance (d : Declaration) : Decidable (FitsVariants d) :=
  inferInstanceAs (Decidable (∀ v ∈ _, _))

/-- Whether a rule is closed, and all variants of its declarations are. -/
@[mk_iff]
structure FitsRule (r : Rule) : Prop where
  header : FitsHeader r.selector
  variants : ∀ d ∈ r.declarations, FitsVariants d

instance (r : Rule) : Decidable (FitsRule r) :=
  decidable_of_iff _ (fitsRule_iff r).symm

theorem FitsVariants.fitsDeclaration {d : Declaration} (fits : FitsVariants d)
    (plain : isConditional d = false) : FitsDeclaration d := by
  have only : (⟨[], d.value⟩ : Variant) ∈ (variants d.value).toOption.getD [] := by
    rw [variants_of_anyIn plain]
    exact List.mem_singleton.2 rfl
  exact (fits _ only).1

/-- The text of an expanded declaration is read as its variants. -/
theorem readsAll_declaration {selector : Text} (header : FitsHeader selector) {d : Declaration}
    (conditional : isConditional d = true) (fits : FitsVariants d) :
    ReadsAll (declaration selector d.property d.value).native (variantWrites selector d) := by
  unfold declaration variantWrites
  unfold FitsVariants at fits
  cases hall : variants d.value with
  | error why => exact .nil
  | ok all =>
    rw [hall] at fits
    simp only [Except.toOption, Option.getD_some] at fits ⊢
    refine .join ?_
    rw [List.map_eq_flatMap, List.map_eq_flatMap]
    refine Each.flatMap fun v hv => .singleton (.singleton ?_)
    obtain ⟨printable, headers⟩ := fits v hv
    refine reads_render header printable fun c hc => ?_
    obtain ⟨-, closed, within⟩ := (closed_of_variants conditional hall hv).2 c hc
    exact ⟨closed, within, headers c hc⟩

/-! ### The native stream of a rule -/

/-- What the native stream of a rule writes, up to blanks. -/
def nativeWrites (r : Rule) : List Write :=
  (baseFirst r).declarations.flatMap (variantWrites r.selector)

theorem flatMap_variantWrites_of_plain (selector : Text) {declarations : List Declaration}
    (plain : ∀ d ∈ declarations, isConditional d = false) :
    declarations.flatMap (variantWrites selector) =
      declarations.map fun d => plainWrite (Text.tidy selector) d.tidy := by
  rw [List.map_eq_flatMap]
  exact List.flatMap_congr fun d hd => variantWrites_of_plain selector (plain d hd)

theorem nativeWrites_of_plain {r : Rule} (plain : r.declarations.any isConditional = false) :
    nativeWrites r = r.declarations.map fun d => plainWrite (Text.tidy r.selector) d.tidy := by
  obtain ⟨none, all⟩ := filter_of_plain plain
  rw [List.any_eq_false] at plain
  rw [nativeWrites, baseFirst, none, all, List.append_nil,
    flatMap_variantWrites_of_plain _ fun d hd => Bool.eq_false_iff.2 (plain d hd)]

/-- The native stream of a rule is read as its unconditional declarations and the variants of the
    others. -/
theorem each_rule {r : Rule} (fits : FitsRule r) : Each ReadsAll (rule r).native (nativeWrites r) := by
  rw [nativeWrites, baseFirst, List.flatMap_append]
  refine Each.append ?_ ?_
  · have plain : ∀ d ∈ r.declarations.filter (!isConditional ·), isConditional d = false :=
      fun d hd => by simpa using (List.mem_filter.1 hd).2
    rw [flatMap_variantWrites_of_plain r.selector plain]
    cases base : r.declarations.filter (!isConditional ·) with
    | nil => exact .nil
    | cons d rest =>
      refine .singleton (.singleton (reads_baseRule fits.header (List.cons_ne_nil d rest) ?_))
      intro d' hd'
      rw [← base] at hd'
      exact (fits.variants d' (List.mem_filter.1 hd').1).fitsDeclaration (plain d' hd')
  · refine ReadsAll.filter_nonempty ?_
    rw [List.map_map, List.map_eq_flatMap]
    refine Each.flatMap fun d hd => .singleton ?_
    obtain ⟨member, conditional⟩ := List.mem_filter.1 hd
    exact readsAll_declaration fits.header conditional (fits.variants d member)

/-! ### The native stream of a style sheet -/

/-- Whether an item is a rule without comments that is kept as it is or fits. -/
def FitsItem (i : Text) : Prop :=
  Text.hasInfix ['/', '*'] i = false ∧
    ∃ r, Sheet.readRule? i = some r ∧ (r.declarations.any isConditional = true → FitsRule r)

theorem native_item_of_conditional {i : Text} {r : Rule} (read : Sheet.readRule? i = some r)
    (conditional : r.declarations.any isConditional = true) : (item i).native = (rule r).native := by
  simp only [item, read, conditional, if_true]

theorem native_item_of_plain {i : Text} {r : Rule} (read : Sheet.readRule? i = some r)
    (plain : r.declarations.any isConditional = false) : (item i).native = [i] := by
  simp only [item, read, plain, Bool.false_eq_true, if_false]

/-- The native streams of items are read one after the other. Only the last item may leave something
    open, and it does so only when it is kept as it is. -/
theorem yields_items {items : List Text} (chained : Sheet.Chained items)
    (fits : ∀ i ∈ items, FitsItem i) :
    Yields (inLines (items.flatMap fun i => (item i).native))
      ((items.filterMap Sheet.readRule?).flatMap nativeWrites) := by
  have split (i : Text) (later : List Text) :
      inLines ((i :: later).flatMap fun i => (item i).native) =
        inLines (item i).native ++ inLines (later.flatMap fun i => (item i).native) := by
    rw [List.flatMap_cons, inLines, List.flatMap_append]
    rfl
  induction chained with
  | nil => exact .nil
  | @last i alone =>
    obtain ⟨noComment, r, read, ready⟩ := fits i (List.mem_singleton.2 rfl)
    rw [split, List.filterMap_cons_some read, List.flatMap_cons]
    cases conditional : r.declarations.any isConditional with
    | true =>
      rw [native_item_of_conditional read conditional]
      exact yields_inLines_append (each_rule (ready conditional)) .nil
    | false =>
      have kept : Yields i (nativeWrites r) := by
        rw [Yields, Sheet.items_collapse noComment, alone, nativeWrites_of_plain conditional]
        exact .singleton (readsItem_of_readRule? noComment read)
      rw [native_item_of_plain read conditional, List.flatMap_nil]
      have line : Yields (Text.joinWith ['\n'] [i]) (nativeWrites r) := by
        rwa [Text.joinWith, List.intercalate_singleton]
      simpa [inLines] using yields_joinWith.1 line
  | @ended i later stands _ ih =>
    obtain ⟨⟨noComment, r, read, ready⟩, fitsLater⟩ := List.forall_mem_cons.1 fits
    have onward := ih fitsLater
    rw [split, List.filterMap_cons_some read, List.flatMap_cons]
    cases conditional : r.declarations.any isConditional with
    | true =>
      rw [native_item_of_conditional read conditional]
      exact yields_inLines_append (each_rule (ready conditional)) onward
    | false =>
      have reads := readsItem_of_readRule? noComment read
      rw [native_item_of_plain read conditional, nativeWrites_of_plain conditional]
      simpa [inLines] using yields_append_of_stands stands noComment reads onward
  | @beforeComment i next later _ _ comment _ _ =>
    obtain ⟨noComment, -⟩ := fits next (List.mem_cons_of_mem _ List.mem_cons_self)
    have present : Text.hasInfix ['/', '*'] next = true :=
      Text.hasInfix_iff.2 (List.isPrefixOf_iff_prefix.1 comment).isInfix
    rw [present] at noComment
    cases noComment

/-- A style sheet of rules, of which those that are rewritten fit, is read as what its rules write. -/
theorem yields_sheet {s : Text} (flat : ∀ i ∈ Sheet.items s, (Sheet.readRule? i).isSome = true)
    (noComment : Text.hasInfix ['/', '*'] s = false)
    (fits : ∀ r ∈ Sheet.rules s, r.declarations.any isConditional = true → FitsRule r) :
    Yields (sheet false s).native ((Sheet.rules s).flatMap nativeWrites) := by
  have fitsItems : ∀ i ∈ Sheet.items s, FitsItem i := by
    intro i isItem
    obtain ⟨r, read⟩ := Option.isSome_iff_exists.1 (flat i isItem)
    exact ⟨Text.hasInfix_eq_false_of_infix (Sheet.infix_of_mem_items isItem) noComment, r, read,
      fits r (List.mem_filterMap.2 ⟨i, isItem, read⟩)⟩
  cases token : hasToken s with
  | true =>
    have native : (sheet false s).native =
        Text.trim (Text.joinWith ['\n'] ((Sheet.items s).flatMap fun i => (item i).native)) := by
      simp [sheet, token, List.flatMap_map]
    rw [native, yields_trim, yields_joinWith]
    exact yields_items (Sheet.chained_items s) fitsItems
  | false =>
    have native : (sheet false s).native = Text.trim s := by simp [sheet, token]
    rw [native, yields_trim, Yields, Sheet.items_collapse noComment, List.map_eq_flatMap, Sheet.rules,
      List.filterMap_eq_flatMap_toList, List.flatMap_assoc]
    refine Each.flatMap fun i isItem => ?_
    obtain ⟨noCommentItem, r, read, -⟩ := fitsItems i isItem
    have plain : r.declarations.any isConditional = false := by
      refine List.any_eq_false.2 fun d hd => ?_
      simp [isConditional_eq_false_of_hasToken token noCommentItem isItem read hd]
    rw [read, Option.toList_some, List.flatMap_singleton, nativeWrites_of_plain plain]
    exact .singleton (readsItem_of_readRule? noCommentItem read)

/-! ### What a style sheet means and what is printed of it -/

section Meaning

variable (truth : Truth) (selector property : Text)

theorem sourceWrite?_of_plain {d : Declaration} (plain : isConditional d = false) :
    sourceWrite? truth selector d = some (plainWrite (Text.tidy selector) d.tidy) := by
  unfold sourceWrite?
  rw [valueUnder_of_anyIn_eq_false _ plain]
  rfl

/-- A printed variant applies if its conditions hold up to blanks. -/
theorem applies_tidyWrite {v : Variant} (native : ∀ c ∈ v.conditions, c.kind ∈ blockKinds) :
    (v.tidyWrite selector property).applies truth = v.applies truth.upToBlanks := by
  have isBlock : ∀ c ∈ v.conditions, c.kind = .media ∨ c.kind = .supports := fun c hc => by
    simpa [blockKinds] using native c hc
  simp only [applies_eq_headers truth.upToBlanks v isBlock, Write.applies, Variant.tidyWrite,
    blockKinds, List.flatMap_cons, List.flatMap_nil, List.append_nil, List.all_append, List.all_map,
    Function.comp_def]
  rfl

theorem winner_sourceWrite? (d : Declaration) (selector' property' : Text) :
    winner truth (sourceWrite? truth selector d).toList selector' property' =
      if (Text.tidy selector, Text.tidy d.property) = (selector', property') then
        (Text.valueUnder truth.upToBlanks d.value).map Text.tidy
      else none := by
  unfold sourceWrite?
  cases Text.valueUnder truth.upToBlanks d.value with
  | none => exact (ite_self none).symm
  | some value => exact winner_singleton rfl

/-- The variants of a declaration that is not deferred mean what the declaration means. -/
theorem winner_variantWrites_source {d : Declaration} (expanded : isDeferred d = false)
    (selector' property' : Text) :
    winner truth (variantWrites selector d) selector' property' =
      winner truth (sourceWrite? truth selector d).toList selector' property' := by
  cases conditional : isConditional d with
  | false =>
    rw [variantWrites_of_plain selector conditional, sourceWrite?_of_plain truth selector conditional]
    rfl
  | true =>
    obtain ⟨all, hall⟩ := exists_variants_of_not_isDeferred expanded
    obtain ⟨conditionals, read, -, rfl, -⟩ :=
      variants_eq_ok (allIn_ne_nil_of_variants conditional hall) hall
    have parsed := mapM_parse_toOption (mapM_readNative_eq_ok read).1
    have sameTest := List.filter_congr fun v hv => applies_tidyWrite truth selector d.property
      fun c hc => ((closed_of_variants conditional hall hv).2 c hc).1
    have place (v : Variant) : ((v.tidyWrite selector d.property).selector,
      (v.tidyWrite selector d.property).property) = (Text.tidy selector, Text.tidy d.property) := rfl
    rw [variantWrites, hall]
    simp only [Except.toOption, Option.getD_some]
    rw [winner_map place, sameTest, winner_sourceWrite?, valueUnder_of_parse _ parsed,
      ← getLast?_filter_variants, Option.map_map]
    rfl

/-- A declaration with calls that is not deferred is written as blocks, one for every selection of
    choices and at most `maxVariants` of them. A block applies when the expressions in its headers
    hold. Of the blocks that apply, the last one has the value in which each call is replaced by the
    value of its first true clause or of its `else`; and if some call has neither, no block applies.

    If selector, values and conditions are closed, what is written is read as these blocks again, up to
    blanks: a value of several lines is indented anew in a block. So the value that wins in the text is
    that of the last block that applies. -/
theorem declaration_last_applying_block (selector property value : Text)
    (calls : Occurrence.allIn value ≠ [])
    (expanded : (declaration selector property value).deferred = none) :
    ∃ (conditionals : List Conditional) (blocks : List Variant),
      (Occurrence.allIn value).mapM (fun o => Conditional.parse .strict o.content) =
        .ok conditionals ∧
      (declaration selector property value).native =
        Text.joinWith ['\n'] (blocks.map (·.render selector property)) ∧
      blocks.length = (conditionals.map choiceCount).foldr (· * ·) 1 ∧
      blocks.length ≤ maxVariants ∧
      (∀ truth : Truth,
        (∀ b ∈ blocks, b.applies truth =
          ((expressionsOf .media b.conditions).eraseDups.all (truth .media) &&
            (expressionsOf .supports b.conditions).eraseDups.all (truth .supports))) ∧
        (∀ values, conditionals.mapM (Conditional.valueUnder truth) = some values →
          ((blocks.filter (·.applies truth)).getLast?).map (·.value) =
            some (Occurrence.replaceAll value (Occurrence.allIn value) values)) ∧
        ((∃ c ∈ conditionals, c.valueUnder truth = none) →
          ∀ b ∈ blocks, b.applies truth = false)) ∧
      (FitsHeader selector → FitsVariants ⟨property, value⟩ →
        read (declaration selector property value).native =
            blocks.map (·.tidyWrite selector property) ∧
          ∀ truth : Truth,
            winner truth (read (declaration selector property value).native) (Text.tidy selector)
                (Text.tidy property) =
              (Text.valueUnder truth.upToBlanks value).map Text.tidy) := by
  obtain ⟨blocks, hblocks, written⟩ := declaration_of_deferred_eq_none expanded
  obtain ⟨conditionals, isRead, few, rfl, -⟩ := variants_eq_ok calls hblocks
  obtain ⟨parsed, isNative⟩ := mapM_readNative_eq_ok isRead
  refine ⟨conditionals, _, parsed, congrArg DeclarationExpansion.native written, ?_, ?_, ?_, ?_⟩
  · rw [List.length_map, length_orderedSelections]
  · rw [List.length_map, ← selectionCount_eq_length]
    exact few
  · intro truth
    have last := getLast?_filter_variants truth value (Occurrence.allIn value) conditionals
    refine ⟨fun b hb => ?_, fun values hvalues => ?_, fun ⟨c, hc, missing⟩ b hb => ?_⟩
    · obtain ⟨selection, inOrder, rfl⟩ := List.mem_map.1 hb
      exact applies_eq_headers truth _ fun c hc => kind_of_mem_conditions isNative inOrder hc
    · rw [last, hvalues]
      rfl
    · rw [mapM_valueUnder_eq_none hc missing, Option.map_none, Option.map_eq_none_iff,
        List.getLast?_eq_none_iff, List.filter_eq_nil_iff] at last
      exact Bool.eq_false_iff.2 (last b hb)
  · intro header fits
    let d : Declaration := ⟨property, value⟩
    have conditional : isConditional d = true :=
      Bool.of_not_eq_false fun plain => calls (Occurrence.allIn_eq_nil_of_anyIn plain)
    have notDeferred : isDeferred d = false := by rw [isDeferred, hblocks]; rfl
    have reads := (readsAll_declaration header conditional fits).read
    refine ⟨reads.trans (by rw [variantWrites, hblocks]; rfl), fun truth => ?_⟩
    rw [reads, winner_variantWrites_source truth selector notDeferred, winner_sourceWrite?, if_pos rfl]

/-- A value with two calls that share a condition; the first repeats a clause, the second has no
    `else`. -/
def twoCalls : Text :=
  "if(media(w): a; media(w): a; supports(g): b; else: c) if(supports(g): 1; media(w): 2)".toList

theorem declaration_last_applying_block_twoCalls :
    Occurrence.allIn twoCalls ≠ [] ∧ (declaration ['p'] ['q'] twoCalls).deferred = none ∧
    (∃ blocks : List Variant,
      (declaration ['p'] ['q'] twoCalls).native =
        Text.joinWith ['\n'] (blocks.map (·.render ['p'] ['q'])) ∧
      blocks.length = 8 ∧
      ((blocks.filter (·.applies fun kind _ => kind == .media)).getLast?).map (·.value) =
        some ['a', ' ', '2'] ∧
      ∀ b ∈ blocks, b.applies (fun _ _ => false) = false) ∧
    winner (fun kind _ => kind == .media) (read (declaration ['p'] ['q'] twoCalls).native) ['p']
      ['q'] = some ['a', ' ', '2'] := by
  have calls : Occurrence.allIn twoCalls ≠ [] := by decide +kernel
  have expanded : (declaration ['p'] ['q'] twoCalls).deferred = none := by decide +kernel
  obtain ⟨conditionals, blocks, parsed, written, count, -, meaning, readBack⟩ :=
    declaration_last_applying_block ['p'] ['q'] twoCalls calls expanded
  have parts : (Occurrence.allIn twoCalls).mapM
      (fun o => Conditional.parse .strict o.content) = .ok
        [⟨[⟨.media, ['w'], ['a']⟩, ⟨.media, ['w'], ['a']⟩, ⟨.supports, ['g'], ['b']⟩], some ['c']⟩,
         ⟨[⟨.supports, ['g'], ['1']⟩, ⟨.media, ['w'], ['2']⟩], none⟩] := by decide +kernel
  obtain rfl := Except.ok.inj (parts.symm.trans parsed)
  refine ⟨calls, expanded, ⟨blocks, written, count, ?_, ?_⟩, ?_⟩
  · rw [(meaning fun kind _ => kind == .media).2.1 [['a'], ['2']] (by decide)]
    decide +kernel
  · exact (meaning fun _ _ => false).2.2 ⟨_, List.mem_cons_of_mem _ List.mem_cons_self, by decide⟩
  · have fits : FitsVariants ⟨['q'], twoCalls⟩ := by decide +kernel
    refine ((readBack (by decide) fits).2 fun kind _ => kind == .media).trans ?_
    decide +kernel

/-- An expanded rule means what the rule means with its unconditional declarations in front. -/
theorem winner_nativeWrites_source {r : Rule} (expanded : ∀ d ∈ r.declarations, isDeferred d = false) :
    winner truth (nativeWrites r) selector property =
      winner truth (sourceWrites truth [baseFirst r]) selector property := by
  rw [nativeWrites, sourceWrites, List.flatMap_singleton, List.filterMap_eq_flatMap_toList]
  refine winner_flatMap_congr fun d hd => ?_
  refine winner_variantWrites_source truth r.selector (expanded d ?_) selector property
  rcases List.mem_append.1 hd with plain | conditional
  · exact (List.mem_filter.1 plain).1
  · exact (List.mem_filter.1 conditional).1

end Meaning

/-- The native stream of a style sheet of rules, from which nothing is deferred, is read as the style
    sheet with the unconditional declarations of each rule in front: they are what the conditional ones
    override. For a property that no rule for the selector sets unconditionally after setting it
    conditionally, this is what the style sheet means in its own order. The rules that are rewritten have
    to be closed, with every choice in their values; those that are kept may be anything. -/
theorem native_sheet_cascade (s : Text)
    (flat : ∀ i ∈ Sheet.items s, (Sheet.readRule? i).isSome = true)
    (noComment : Text.hasInfix ['/', '*'] s = false)
    (fits : ∀ r ∈ Sheet.rules s, r.declarations.any isConditional = true → FitsRule r)
    (expanded : (sheet false s).hasDeferred = false) (truth : Truth) (selector property : Text) :
    winner truth (read (sheet false s).native) selector property =
        winner truth (sourceWrites truth ((Sheet.rules s).map baseFirst)) selector property ∧
      ((∀ r ∈ Sheet.rules s, Text.tidy r.selector = selector → r.declarations.Pairwise fun a b =>
          Text.tidy a.property = property → Text.tidy b.property = property →
            isConditional a = true → isConditional b = true) →
        winner truth (read (sheet false s).native) selector property =
          winner truth (sourceWrites truth (Sheet.rules s)) selector property) := by
  have notDeferred : ∀ r ∈ Sheet.rules s, ∀ d ∈ r.declarations, isDeferred d = false := by
    intro r hr d hd
    obtain ⟨i, isItem, read⟩ := List.mem_filterMap.1 hr
    refine Bool.eq_false_iff.2 fun deferred => ?_
    have conditional := isConditional_of_isDeferred deferred
    obtain ⟨all, hall, -⟩ := declaration_of_deferred_eq_none
      (deferred_eq_none_of_sheet noComment expanded isItem read hd conditional)
    rw [isDeferred, hall] at deferred
    cases deferred
  have sameBaseFirst : winner truth (read (sheet false s).native) selector property =
      winner truth (sourceWrites truth ((Sheet.rules s).map baseFirst)) selector property := by
    rw [(yields_sheet flat noComment fits).read, sourceWrites_map]
    refine winner_flatMap_congr fun r hr => ?_
    exact winner_nativeWrites_source truth selector property (notDeferred r hr)
  refine ⟨sameBaseFirst, fun ordered => ?_⟩
  rw [sameBaseFirst, sourceWrites_map, ← List.map_id (Sheet.rules s), sourceWrites_map,
    List.map_id]
  exact winner_flatMap_congr fun r hr => winner_baseFirst truth (ordered r hr)

/-- Two rules for one selector; the first sets a property unconditionally and then conditionally, the
    second has no `else`. The value of a rule without conditions is not closed. -/
def fallbackThenOverride : Text :=
  (".a \x7b top: 0; top: if(media(w): 1px; supports(g): 2px; else: 3px) \x7d" ++
    ".b \x7b top: url( \x7d .a \x7b top: if(media(v): 4px) \x7d").toList

theorem native_sheet_cascade_fallbackThenOverride :
    (∀ i ∈ Sheet.items fallbackThenOverride, (Sheet.readRule? i).isSome = true) ∧
    Text.hasInfix ['/', '*'] fallbackThenOverride = false ∧
    (∀ r ∈ Sheet.rules fallbackThenOverride, r.declarations.any isConditional = true → FitsRule r) ∧
    (sheet false fallbackThenOverride).hasDeferred = false ∧
    winner (fun kind _ => kind == .supports) (read (sheet false fallbackThenOverride).native)
      ['.', 'a'] ['t', 'o', 'p'] = some ['2', 'p', 'x'] := by
  have flat : ∀ i ∈ Sheet.items fallbackThenOverride, (Sheet.readRule? i).isSome = true := by
    decide +kernel
  have noComment : Text.hasInfix ['/', '*'] fallbackThenOverride = false := by decide +kernel
  have fits : ∀ r ∈ Sheet.rules fallbackThenOverride, r.declarations.any isConditional = true →
      FitsRule r := by decide +kernel
  have expanded : (sheet false fallbackThenOverride).hasDeferred = false := by decide +kernel
  have meaning := native_sheet_cascade _ flat noComment fits expanded
    (fun kind _ => kind == .supports) ['.', 'a'] ['t', 'o', 'p']
  refine ⟨flat, noComment, fits, expanded, ?_⟩
  rw [meaning.2 (by decide +kernel)]
  decide +kernel

/-- A rule that sets a property unconditionally after setting it conditionally. -/
def lateBase : Text :=
  ".a \x7b color: if(media(x): red; else: blue); color: green; \x7d".toList

/-- Style sheets with one rewritten rule each that is not closed, and a place where what is printed is
    read as something else: a closing brace too many and an open string in the selector, an open
    parenthesis and an open string behind the conditional declaration, a blank value, a semicolon in a
    condition, and a comment that starts across the end of a call. -/
def openRules : List (Text × Text × Text) :=
  [("\x7d .a \x7b color: if(supports(g): red; else: blue) \x7d".toList,
      "\x7d .a".toList, "color".toList),
    (".a\" \x7b color: if(supports(g): red; else: blue) \x7d\"".toList,
      ".a\"".toList, "color".toList),
    (".a \x7b top: if(supports(g): 1px; else: 2px); color: ( \x7d".toList,
      ".a".toList, "color".toList),
    (".a \x7b color: if(supports(g): red; else: blue); content: \"abc \x7d".toList,
      ".a".toList, "color".toList),
    (".a \x7b color: red; color: if(supports(g): ; else: blue) \x7d".toList,
      ".a".toList, "color".toList),
    (".a \x7b color: if(supports(a;b): red; else: blue) \x7d".toList,
      ".a".toList, "color".toList),
    (".a \x7b top: if(supports(g): 1/; else: 2)* 3 \x7d .b \x7b top: 0 \x7d".toList,
      ".b".toList, "top".toList)]

/-- A rule with a condition of two lines. -/
def brokenLine : Text :=
  ".a \x7b color: if(media(x): 0; else: 1) if(supports(g\nh): 2; else: 3) \x7d".toList

/-- In the order of the source the unconditional value wins, in the native stream a conditional one. A
    rule that is not closed is not read back from the native stream in either order. One condition of two
    lines is printed with different blanks, so a truth that tells them apart would not hold of both. -/
theorem sheet_cascade_differs :
    (∀ i ∈ Sheet.items lateBase, (Sheet.readRule? i).isSome = true) ∧
    Text.hasInfix ['/', '*'] lateBase = false ∧
    (sheet false lateBase).hasDeferred = false ∧
    (sheet false lateBase).native =
      (".a \x7b color: green; \x7d\n.a \x7b color: blue; \x7d\n" ++
        "@media (x) \x7b\n  .a \x7b color: red; \x7d\n\x7d").toList ∧
    winner (fun _ _ => false) (read (sheet false lateBase).native) ".a".toList "color".toList =
      some "blue".toList ∧
    winner (fun _ _ => false) (sourceWrites (fun _ _ => false) (Sheet.rules lateBase))
      ".a".toList "color".toList = some "green".toList ∧
    (∀ p ∈ openRules,
      ((∀ i ∈ Sheet.items p.1, (Sheet.readRule? i).isSome = true) ∧
        Text.hasInfix ['/', '*'] p.1 = false ∧ (sheet false p.1).hasDeferred = false) ∧
      winner (fun _ _ => true) (read (sheet false p.1).native) p.2.1 p.2.2 ≠
        winner (fun _ _ => true) (sourceWrites (fun _ _ => true) ((Sheet.rules p.1).map baseFirst))
          p.2.1 p.2.2) ∧
    (sheet false brokenLine).native =
      (".a \x7b color: 1 3; \x7d\n@supports (g\nh) \x7b\n  .a \x7b color: 1 2; \x7d\n\x7d\n" ++
        "@media (x) \x7b\n  .a \x7b color: 0 3; \x7d\n\x7d\n" ++
        "@media (x) \x7b\n  @supports (g\n  h) \x7b\n" ++
        "    .a \x7b color: 0 2; \x7d\n  \x7d\n\x7d").toList := by
  decide +kernel

end Expand
end CondCss
