import CondCss.Proofs.Expand.Conservation
import CondCss.Proofs.Occurrence.Stray
import CondCss.Proofs.Sheet.Minified

/-!
# Calls in the native stream

The native stream should have no call outside comments. It is made of stretches (kept items, base rules,
blocks for variants), and calls are looked for in the values of declarations and in items that are no
rules. A call elsewhere gets through: in a selector, in a property, in a fragment that is no
declaration, behind the braces, directly behind a comment, between strings that are taken for a comment,
or in a condition that becomes the header of a block. `stretches_free` says that there is no other way,
for every style sheet and also when the stream is minified. The stretches then have no such call, and
neither has the whole stream if no rewritten rule leaves a string or a comment open; `calls_left` has a
style sheet for each way.
-/

namespace CondCss

namespace Expand

open Occurrence (anyIn strays IsBoundary)

/-! ### Calls in printed texts -/

variable (selector property value : Text)

theorem anyIn_render_declaration (d : Declaration) :
    anyIn d.render = (anyIn d.property || anyIn d.value) := by
  rw [Declaration.render, List.append_assoc, List.cons_append,
    Occurrence.anyIn_append_cons Occurrence.isBoundary_colon, List.cons_append, List.nil_append,
    Occurrence.anyIn_cons Occurrence.isBoundary_space]

/-- The calls of a printed rule are those of its parts. -/
theorem anyIn_baseRule (declarations : List Declaration) :
    anyIn (baseRule selector declarations) =
      (anyIn selector || declarations.any fun d => anyIn d.property || anyIn d.value) := by
  have separator : ∀ c ∈ [';', ' '], IsBoundary c :=
    List.forall_mem_cons.2 ⟨Occurrence.isBoundary_semicolon,
      List.forall_mem_singleton.2 Occurrence.isBoundary_space⟩
  have shape : baseRule selector declarations =
      selector ++ ' ' :: '{' :: ' ' :: (Text.joinWith [';', ' '] (declarations.map (·.render)) ++
        ';' :: [' ', '}']) := by
    simp [baseRule]
  have close : anyIn [' ', '}'] = false := by decide
  rw [shape, Occurrence.anyIn_append_cons Occurrence.isBoundary_space,
    Occurrence.anyIn_cons Occurrence.isBoundary_opening,
    Occurrence.anyIn_cons Occurrence.isBoundary_space,
    Occurrence.anyIn_append_cons Occurrence.isBoundary_semicolon, close, Bool.or_false,
    Occurrence.anyIn_joinWith (by simp) separator, List.any_map]
  simp only [Function.comp_def, anyIn_render_declaration]

theorem anyIn_declarationRule :
    anyIn (declarationRule selector property value) =
      (anyIn selector || (anyIn property || anyIn value)) := by
  rw [declarationRule_eq_baseRule, anyIn_baseRule, List.any_cons, List.any_nil, Bool.or_false]

theorem anyIn_conjunction (expressions : List Text) :
    anyIn (conjunction expressions) = expressions.any anyIn := by
  have word : anyIn ['a', 'n', 'd'] = false := by decide
  induction expressions with
  | nil => rfl
  | cons e expressions ih =>
    cases expressions with
    | nil =>
      rw [conjunction_singleton, Occurrence.anyIn_paren,
        Occurrence.anyIn_append_cons Occurrence.isBoundary_paren]
      simp [Occurrence.anyIn, Occurrence.startsAfter]
    | cons e' expressions =>
      have and (t : Text) : anyIn ([' ', 'a', 'n', 'd', ' '] ++ t) = anyIn t := by
        have shape : [' ', 'a', 'n', 'd', ' '] ++ t = ' ' :: (['a', 'n', 'd'] ++ ' ' :: t) := rfl
        rw [shape, Occurrence.anyIn_cons Occurrence.isBoundary_space,
          Occurrence.anyIn_append_cons Occurrence.isBoundary_space, word, Bool.false_or]
      rw [conjunction_cons_cons, Occurrence.anyIn_paren,
        Occurrence.anyIn_append_cons Occurrence.isBoundary_paren, and, ih]
      rfl

theorem anyIn_header {kind : ConditionKind} (isBlock : kind ∈ blockKinds) (expressions : List Text) :
    anyIn (header (Cascade.blockWord kind) expressions) = expressions.any anyIn := by
  have word : anyIn ('@' :: kind.name) = false := by
    revert kind
    decide
  have shape : Cascade.blockWord kind ++ conjunction expressions.eraseDups =
      ('@' :: kind.name) ++ ' ' :: conjunction expressions.eraseDups := by
    simp [Cascade.blockWord]
  rw [header_eq, shape, Occurrence.anyIn_append_cons Occurrence.isBoundary_space, word,
    Bool.false_or, anyIn_conjunction, Bool.eq_iff_iff, List.any_eq_true, List.any_eq_true]
  simp only [List.mem_eraseDups]

theorem anyIn_wrap {header inner : Text} (closed : inner.getLast? = some '}') :
    anyIn (wrap header inner) = (anyIn header || anyIn inner) := by
  have indented : anyIn ('\n' :: (Text.indent inner ++ ['\n'])) = anyIn inner := by
    have same := Text.collapse_indent (t := inner) (by decide) closed
    have nothing : anyIn [] = false := rfl
    rw [← Occurrence.anyIn_collapse, same, Occurrence.anyIn_cons Occurrence.isBoundary_space,
      Occurrence.anyIn_append_cons Occurrence.isBoundary_space, nothing, Bool.or_false, Text.tidy,
      Occurrence.anyIn_collapse, Occurrence.anyIn_trim]
  have shape : wrap header inner =
      header ++ ' ' :: '{' :: (('\n' :: (Text.indent inner ++ ['\n'])) ++ '}' :: []) := by
    simp [wrap]
  rw [shape, Occurrence.anyIn_append_cons Occurrence.isBoundary_space,
    Occurrence.anyIn_cons Occurrence.isBoundary_opening,
    Occurrence.anyIn_append_cons Occurrence.isBoundary_closing, indented]
  simp [Occurrence.anyIn, Occurrence.startsAfter]

theorem anyIn_wrapIn {kind : ConditionKind} (isBlock : kind ∈ blockKinds) (expressions : List Text)
    {inner : Text} (closed : inner.getLast? = some '}') :
    anyIn (wrapIn (Cascade.blockWord kind) expressions inner) =
        (expressions.any anyIn || anyIn inner) ∧
      (wrapIn (Cascade.blockWord kind) expressions inner).getLast? = some '}' := by
  unfold wrapIn
  split
  · rename_i empty
    rw [List.isEmpty_iff.1 empty, List.any_nil, Bool.false_or]
    exact ⟨rfl, closed⟩
  · rw [anyIn_wrap closed, anyIn_header isBlock]
    refine ⟨rfl, ?_⟩
    have shape (header : Text) : wrap header inner =
        (header ++ [' ', '{', '\n'] ++ Text.indent inner ++ ['\n']) ++ ['}'] := by
      simp [wrap]
    rw [shape, List.getLast?_concat]

/-- The calls of a printed variant are those of its parts and of the conditions in its headers. -/
theorem anyIn_render (v : Variant) :
    anyIn (v.render selector property) =
      ((expressionsOf .media v.conditions).any anyIn ||
        ((expressionsOf .supports v.conditions).any anyIn ||
          (anyIn selector || (anyIn property || anyIn v.value)))) := by
  have media : ConditionKind.media ∈ blockKinds := by decide
  have supports : ConditionKind.supports ∈ blockKinds := by decide
  have closed : (declarationRule selector property v.value).getLast? = some '}' := by
    have shape : declarationRule selector property v.value =
        (selector ++ [' ', '{', ' '] ++ property ++ [':', ' '] ++ v.value ++ [';', ' ']) ++ ['}'] := by
      simp [declarationRule]
    rw [shape, List.getLast?_concat]
  obtain ⟨inner, innerClosed⟩ :=
    anyIn_wrapIn supports (expressionsOf .supports v.conditions) closed
  obtain ⟨outer, -⟩ := anyIn_wrapIn media (expressionsOf .media v.conditions) innerClosed
  have shape : v.render selector property =
      wrapIn (Cascade.blockWord .media) (expressionsOf .media v.conditions)
        (wrapIn (Cascade.blockWord .supports) (expressionsOf .supports v.conditions)
          (declarationRule selector property v.value)) := rfl
  rw [shape, outer, inner, anyIn_declarationRule]

/-! ### Rewritten rules -/

/-- Whether nothing that a declaration becomes in the native stream has a call besides its value. -/
def Placement.isFree : Placement → Bool
  | base d => !anyIn d.property
  | native d blocks =>
    !anyIn d.property && blocks.all fun v => v.conditions.all fun c => !anyIn c.expression
  | deferred _ _ => true

theorem anyIn_base {r : Rule} {placements : List Placement} (selectorFree : anyIn r.selector = false)
    (sound : ∀ p ∈ placements, p.Sound r.selector) (free : ∀ p ∈ placements, p.isFree = true) :
    anyIn (baseRule r.selector (placements.filterMap Placement.base?)) = false := by
  rw [anyIn_baseRule, selectorFree, Bool.false_or, List.any_eq_false]
  intro d hd
  obtain ⟨p, member, isBase⟩ := List.mem_filterMap.1 hd
  cases p with
  | native d' blocks => cases isBase
  | deferred d' why => cases isBase
  | base d' =>
    cases isBase
    have value : anyIn d.value = false := sound _ member
    have property : anyIn d.property = false := by
      simpa [Placement.isFree] using free _ member
    simp [value, property]

theorem anyIn_native? {r : Rule} {p : Placement} {t : Text} (selectorFree : anyIn r.selector = false)
    (sound : p.Sound r.selector) (free : p.isFree = true)
    (written : p.native? r.selector = some t) : anyIn t = false := by
  cases p with
  | base d => cases written
  | deferred d why => cases written
  | native d blocks =>
    cases written
    obtain ⟨conditional, variants, -⟩ := sound
    obtain ⟨propertyFree, conditionsFree⟩ : anyIn d.property = false ∧
        ∀ v ∈ blocks, ∀ c ∈ v.conditions, anyIn c.expression = false := by
      simpa [Placement.isFree] using free
    obtain ⟨-, -, -, -, valuesFree⟩ :=
      variants_eq_ok (allIn_ne_nil_of_variants conditional variants) variants
    rw [Occurrence.anyIn_lines, List.any_eq_false]
    intro t ht
    obtain ⟨v, hv, rfl⟩ := List.mem_map.1 ht
    have ofKind (kind : ConditionKind) : (expressionsOf kind v.conditions).any anyIn = false := by
      rw [List.any_eq_false]
      intro e he
      obtain ⟨c, hc, rfl⟩ := List.mem_map.1 he
      simp [conditionsFree v hv c (List.mem_filter.1 hc).1]
    simp [anyIn_render, ofKind, selectorFree, propertyFree, valuesFree v hv]

/-! ### Kept rules -/

/-- The text behind the last closing brace. -/
def behindBraces (i : Text) : Text :=
  ((Text.cutAt? '}' i.reverse).map fun parts => parts.1.reverse).getD []

/-- Whether the calls of a rule stand in the values of its declarations and in comments between its
    braces: none is in the selector, none behind the braces, none directly behind a comment, none between
    strings that are taken for a comment, and a fragment with a call is a declaration with no call in its
    property. -/
def callsInValues (i : Text) : Bool :=
  match Sheet.cutBraces? i with
  | none => true
  | some (selector, body) =>
    !anyIn selector && !anyIn (behindBraces i) &&
      !Text.hasInfix (['*', '/'] ++ Occurrence.token) body &&
      !Occurrence.hiddenFrom 0 none ((Sheet.Cover.code none).run none selector []).settle body &&
      (Scan.splitTopLevel (· == ';') (Sheet.withoutComments body)).all fun fragment =>
        !anyIn fragment || (Sheet.readDeclaration? fragment).any (!anyIn ·.property)

theorem anyIn_fragment {f : Text} {d : Declaration} (read : Sheet.readDeclaration? f = some d) :
    anyIn f = (anyIn d.property || anyIn d.value) := by
  obtain ⟨property, value, rfl, -, -, rfl, -, -⟩ := Sheet.readDeclaration?_eq_some read
  rw [Occurrence.anyIn_append_cons Occurrence.isBoundary_colon, Occurrence.anyIn_trim,
    Occurrence.anyIn_trim]

theorem behindBraces_eq {tail : Text} (h : '}' ∉ tail) (front : Text) :
    behindBraces (front ++ '}' :: tail) = tail := by
  have h : '}' ∉ tail.reverse := by simpa using h
  have reversed : (front ++ '}' :: tail).reverse = tail.reverse ++ '}' :: front.reverse := by simp
  rw [behindBraces, reversed, Text.cutAt?_append_cons h]
  simp

/-- A body without conditional declarations has no call outside comments, if a fragment with a call
    could only be a declaration with a call in its value. -/
theorem anyIn_body {body : Text} (plain : (Sheet.readDeclarations body).any isConditional = false)
    (fragments : ∀ f ∈ Scan.splitTopLevel (· == ';') (Sheet.withoutComments body),
      anyIn f = false ∨ ∃ d, Sheet.readDeclaration? f = some d ∧ anyIn d.property = false) :
    anyIn (Sheet.withoutComments body) = false := by
  have semicolon : ∀ c ∈ [';'], IsBoundary c :=
    List.forall_mem_singleton.2 Occurrence.isBoundary_semicolon
  have same := Scan.intercalate_splitTopLevelFrom ';' none none 0 (Sheet.withoutComments body)
  rw [← same]
  refine (Occurrence.anyIn_joinWith (by simp) semicolon _).trans (List.any_eq_false.2 fun f hf => ?_)
  apply Bool.eq_false_iff.1
  rcases fragments f hf with none | ⟨d, read, property⟩
  · exact none
  · have value : anyIn d.value = false :=
      Bool.eq_false_iff.2 (List.any_eq_false.1 plain d (List.mem_filterMap.2 ⟨f, hf, read⟩))
    rw [anyIn_fragment read, property, value]
    rfl

/-- A rule without conditional declarations has no call outside comments, if its calls could only be in
    values. -/
theorem strays_kept {i : Text} {r : Rule} (read : Sheet.readRule? i = some r)
    (plain : r.declarations.any isConditional = false) (free : callsInValues i = true) :
    strays i = false := by
  unfold Sheet.readRule? at read
  split at read
  · rename_i selector body cut
    split at read
    · cases read
    · cases read
      obtain ⟨tail, rfl, -, noClosing⟩ := Sheet.cutBraces?_eq_some_iff.1 cut
      have behind : behindBraces (selector ++ '{' :: (body ++ '}' :: tail)) = tail := by
        simpa using behindBraces_eq noClosing (selector ++ '{' :: body)
      simp only [callsInValues, cut, behind, Bool.and_eq_true, Bool.not_eq_true', List.all_eq_true,
        Bool.or_eq_true, Option.any_eq_true] at free
      obtain ⟨⟨⟨⟨selectorFree, tailFree⟩, unglued⟩, unhidden⟩, fragments⟩ := free
      have bodyFree := anyIn_body plain fragments
      have opening : Occurrence.IsInert '{' := Occurrence.isInert_of_isPunctuation (by decide)
      have closing : Occurrence.IsInert '}' := Occurrence.isInert_of_isPunctuation (by decide)
      have free := Occurrence.straysFrom_of_withoutComments bodyFree unglued unhidden fun _ => ⟨rfl, rfl⟩
      rw [strays, Occurrence.straysFrom_append_cons opening,
        Occurrence.straysFrom_of_startsAfter selectorFree, Bool.false_or,
        Occurrence.straysFrom_append_cons closing, free,
        Occurrence.straysFrom_of_startsAfter tailFree]
      rfl
  · cases read

/-! ### The native stream -/

/-- Whether the calls of an item stand where they are looked for. -/
def Fate.isFree : Fate → Bool
  | kept i => (Sheet.readRule? i).isNone || Sheet.startsComment i || callsInValues i
  | moved _ => true
  | rewritten _ r placements => !anyIn r.selector && placements.all (·.isFree)

/-- Whether everything that a rewritten rule becomes in the native stream closes its strings and
    comments. An item that is kept closes them, unless it is the last one. -/
def Fate.isClosed (f : Fate) : Bool :=
  f.isKept || f.native.all Sheet.closes

/-- The stretches that the native stream of a style sheet is made of. -/
def stretches (shorten : Bool) (s : Text) : List Text :=
  ((Sheet.items s).flatMap fun i => (item i).native).map fun t =>
    if shorten then minify (Text.trim t) else Text.trim t

/-- What an item gives to the native stream: itself, or a base rule or the blocks of a declaration. -/
theorem mem_native_cases {i t : Text} (h : t ∈ (item i).native) :
    (t = i ∧ Fate.of i = .kept i) ∨
      ∃ r placements, Fate.of i = .rewritten i r placements ∧
        (t = baseRule r.selector (placements.filterMap Placement.base?) ∨
          ∃ p ∈ placements, p.native? r.selector = some t) := by
  have same := Fate.item_of i
  rw [Fate.item_eq] at h
  cases fate : Fate.of i with
  | moved j =>
    rw [fate] at h
    exact absurd h List.not_mem_nil
  | kept j =>
    rw [fate] at h same
    obtain rfl : j = i := same
    exact .inl ⟨List.mem_singleton.1 h, rfl⟩
  | rewritten j r placements =>
    rw [fate] at h same
    obtain rfl : j = i := same
    refine .inr ⟨r, placements, rfl, ?_⟩
    rcases List.mem_append.1 h with base | native
    · split at base
      · exact absurd base List.not_mem_nil
      · exact .inl (List.mem_singleton.1 base)
    · exact .inr (List.mem_filterMap.1 native)

theorem strays_item {s i t : Text} (isItem : i ∈ Sheet.items s) (free : (Fate.of i).isFree = true)
    (h : t ∈ (item i).native) : strays t = false := by
  have sound := Fate.sound_of i
  rcases mem_native_cases h with ⟨rfl, kept⟩ | ⟨r, placements, rewritten, fromRule⟩
  · rw [kept] at free sound
    by_cases comment : Sheet.startsComment t = true
    · obtain ⟨front, back, split⟩ := List.append_of_mem isItem
      have laid := Sheet.laid_items s
      rw [split] at laid
      obtain ⟨before, after, -, place⟩ := laid.exists_isItem
      exact Occurrence.strays_comment place comment
    · rcases sound with ⟨r, read, plain⟩ | ⟨read, none⟩
      · apply strays_kept read plain
        simpa [Fate.isFree, read, comment] using free
      · exact Occurrence.strays_of_anyIn (none.resolve_left comment)
  · rw [rewritten] at free sound
    obtain ⟨-, -, -, sound⟩ := sound
    obtain ⟨selectorFree, free⟩ : anyIn r.selector = false ∧
        ∀ p ∈ placements, p.isFree = true := by
      simpa [Fate.isFree] using free
    apply Occurrence.strays_of_anyIn
    rcases fromRule with rfl | ⟨p, member, written⟩
    · exact anyIn_base selectorFree sound free
    · exact anyIn_native? selectorFree (sound p member) (free p member) written

theorem brace_mem_render (selector property : Text) (v : Variant) :
    '{' ∈ v.render selector property := by
  unfold Variant.render wrapIn
  split
  · split <;> simp [declarationRule, wrap]
  · simp [wrap]

/-- No stretch is blank. -/
theorem trim_ne_nil_of_mem_native {s i t : Text} (isItem : i ∈ Sheet.items s)
    (h : t ∈ (item i).native) : Text.trim t ≠ [] := by
  have ofBrace {t : Text} (brace : '{' ∈ t) : Text.trim t ≠ [] :=
    List.ne_nil_of_mem ((Text.mem_trim (by decide)).2 brace)
  have sound := Fate.sound_of i
  rcases mem_native_cases h with ⟨rfl, -⟩ | ⟨r, placements, rewritten, rfl | ⟨p, member, written⟩⟩
  · obtain ⟨trimmed, nonempty⟩ := Sheet.whole_of_mem_items isItem
    rw [trimmed]
    exact nonempty
  · exact ofBrace (by simp [baseRule])
  · rw [rewritten] at sound
    obtain ⟨-, -, -, sound⟩ := sound
    cases p with
    | base d => cases written
    | deferred d why => cases written
    | native d blocks =>
      cases written
      obtain ⟨conditional, variants, -⟩ := sound _ member
      refine trim_joinWith_ne_nil (by simpa using variants_ne_nil conditional variants) ?_
      intro t ht
      obtain ⟨v, -, rfl⟩ := List.mem_map.1 ht
      exact ofBrace (brace_mem_render r.selector d.property v)

/-- The native stream is its stretches, with blanks between them. -/
theorem spread_native (shorten : Bool) {s : Text} (token : hasToken s = true) :
    Sheet.Spread (stretches shorten s) (sheet shorten s).native := by
  have nonempty : ∀ t ∈ (Sheet.items s).flatMap fun i => (item i).native, Text.trim t ≠ [] := by
    intro t ht
    obtain ⟨i, isItem, ofItem⟩ := List.mem_flatMap.1 ht
    exact trim_ne_nil_of_mem_native isItem ofItem
  have trimmed := (Sheet.Spread.joinWith _).trim nonempty
  simp only [sheet, token, stretches, Bool.not_true, Bool.false_eq_true, if_false,
    List.flatMap_map]
  cases shorten with
  | false => exact trimmed
  | true =>
    have short := trimmed.minify (Sheet.Spread.solid_map_trim nonempty)
    rwa [List.map_map] at short

/-- The calls of the native stream are those of its stretches. -/
theorem anyIn_native (shorten : Bool) {s : Text} (token : hasToken s = true) :
    anyIn (sheet shorten s).native = (stretches shorten s).any anyIn := by
  simp only [sheet, token, stretches, Bool.not_true, Bool.false_eq_true, if_false,
    List.flatMap_map, List.any_map, Function.comp_def]
  cases shorten with
  | false => simp only [Bool.false_eq_true, if_false, Occurrence.anyIn_trim, Occurrence.anyIn_lines]
  | true => simp only [if_true, Occurrence.anyIn_minify, Occurrence.anyIn_trim, Occurrence.anyIn_lines]

theorem closes_of_mem_native {i t : Text} (closed : (Fate.of i).isClosed = true)
    (whole : Sheet.closes i = true) (h : t ∈ (item i).native) : Sheet.closes t = true := by
  rcases Bool.or_eq_true_iff.1 closed with kept | all
  · rcases mem_native_cases h with ⟨rfl, -⟩ | ⟨r, placements, rewritten, -⟩
    · exact whole
    · rw [rewritten] at kept
      cases kept
  · rw [Fate.item_eq] at h
    exact List.all_eq_true.1 all t h

/-- What stands in front of a kept item is closed, if rewritten rules are. -/
theorem sealed_native {items : List Text} (whole : ∀ i ∈ items.dropLast, Sheet.closes i = true)
    (closed : ∀ i ∈ items, (Fate.of i).isClosed = true) :
    Occurrence.sealed (items.flatMap fun i => (item i).native) = true := by
  induction items with
  | nil => rfl
  | cons i items ih =>
    obtain ⟨here, later⟩ := List.forall_mem_cons.1 closed
    rw [List.flatMap_cons]
    cases items with
    | cons j items =>
      rw [List.dropLast_cons_cons] at whole
      obtain ⟨wholeHere, wholeLater⟩ := List.forall_mem_cons.1 whole
      rw [Occurrence.sealed_append fun t ht => closes_of_mem_native here wholeHere ht]
      exact ih wholeLater later
    | nil =>
      -- The last item has nothing behind it, so it may leave something open if it is kept.
      rw [List.flatMap_nil, Fate.item_eq]
      rcases Bool.or_eq_true_iff.1 here with kept | all
      · cases fate : Fate.of i with
        | kept j => simp [Fate.native, Occurrence.sealed]
        | moved j => rfl
        | rewritten j r placements =>
          rw [fate] at kept
          cases kept
      · exact Occurrence.sealed_append (fun t ht => List.all_eq_true.1 all t ht) []

/-- The native stream of every style sheet, minified or not, has no call outside comments, if every call
    stands where it is looked for, in the value of a declaration or in an item that is no rule, and
    rewritten rules close their strings and comments. In any case the stream is made of stretches with
    blanks between them, its calls are those of the stretches, and none of them stands outside the
    comments of its stretch. Without the letters of a call the stream is the whole style sheet, and one
    stretch. -/
theorem stretches_free (shorten : Bool) (s : Text)
    (free : ∀ i ∈ Sheet.items s, (Fate.of i).isFree = true) :
    (hasToken s = true → Sheet.Spread (stretches shorten s) (sheet shorten s).native ∧
      anyIn (sheet shorten s).native = (stretches shorten s).any anyIn ∧
      ∀ t ∈ stretches shorten s, strays t = false) ∧
    (hasToken s = false → strays (sheet shorten s).native = false) ∧
    ((∀ i ∈ Sheet.items s, (Fate.of i).isClosed = true) →
      strays (sheet shorten s).native = false) := by
  have shortened (t : Text) :
      strays (if shorten then minify (Text.trim t) else Text.trim t) = strays t := by
    split
    · rw [Occurrence.strays_minify, Occurrence.strays_trim]
    · exact Occurrence.strays_trim
  have untouched : hasToken s = false → strays (sheet shorten s).native = false := by
    intro noToken
    have none : strays s = false := by
      refine Occurrence.strays_of_anyIn (Bool.eq_false_iff.2 fun call => ?_)
      have found := Text.hasInfix_iff.2 (Occurrence.token_infix_of_startsAfter call)
      rw [hasToken, found] at noToken
      cases noToken
    simp only [sheet, noToken, Bool.not_false, if_true]
    split
    · rw [Occurrence.strays_minify, none]
    · rw [Occurrence.strays_trim, none]
  refine ⟨fun token => ⟨spread_native shorten token, anyIn_native shorten token, ?_⟩, untouched, ?_⟩
  · intro t ht
    obtain ⟨u, hu, rfl⟩ := List.mem_map.1 ht
    obtain ⟨i, isItem, ofItem⟩ := List.mem_flatMap.1 hu
    rw [shortened]
    exact strays_item isItem (free i isItem) ofItem
  · intro closed
    cases token : hasToken s with
    | false => exact untouched token
    | true =>
      have lines : strays (Text.joinWith ['\n'] ((Sheet.items s).flatMap fun i => (item i).native)) =
          false := by
        refine Occurrence.strays_lines (sealed_native ?_ closed) fun t ht => ?_
        · exact fun i last => Sheet.closes_of_mem_dropLast_items last
        · obtain ⟨i, isItem, ofItem⟩ := List.mem_flatMap.1 ht
          exact strays_item isItem (free i isItem) ofItem
      rw [← shortened] at lines
      simpa only [sheet, token, Bool.not_true, Bool.false_eq_true, if_false, List.flatMap_map]
        using lines

/-- A comment, a rule that is kept and a rule that is rewritten, all with calls. The last declaration is
    deferred. -/
def callsEverywhere : Text :=
  ("/* if(x) */ .a \x7b color: red; /* if(y) */ \x7d .b \x7b top: 0; " ++
    "top: if(media(w): 1px; else: 2px); if(z): if(style(--v): 3px) \x7d").toList

theorem stretches_free_callsEverywhere :
    (∀ i ∈ Sheet.items callsEverywhere, (Fate.of i).isFree = true ∧ (Fate.of i).isClosed = true) ∧
    hasToken callsEverywhere = true ∧
    (sheet true callsEverywhere).native =
      ("/* if(x) */ .a\x7bcolor: red;/* if(y) */\x7d.b\x7btop: 0;\x7d.b\x7btop: 2px;\x7d" ++
        "@media (w)\x7b.b\x7btop: 1px;\x7d\x7d").toList ∧
    (∀ t ∈ stretches true callsEverywhere, strays t = false) ∧
    strays (sheet true callsEverywhere).native = false := by
  have free : ∀ i ∈ Sheet.items callsEverywhere,
      (Fate.of i).isFree = true ∧ (Fate.of i).isClosed = true := by decide +kernel
  have token : hasToken callsEverywhere = true := by decide +kernel
  obtain ⟨marked, -, whole⟩ := stretches_free true callsEverywhere fun i isItem => (free i isItem).1
  exact ⟨free, token, by decide +kernel, (marked token).2.2, whole fun i isItem => (free i isItem).2⟩

/-- A call in the condition of another one. -/
def callInCondition : Text :=
  ".a \x7b color: if(media(if(x)): a; else: b); \x7d".toList

/-- Calls in a fragment that is no declaration, a property, a selector, behind the braces, behind a
    comment, and between two strings that would be a comment without their quotes. -/
def callsElsewhere : List Text :=
  [".a \x7b if(x); color: red \x7d".toList, ".a \x7b if(x): red \x7d".toList,
    "a:if(x) \x7b color: red \x7d".toList, "@import \"\x7b\x7d\" if(x);".toList,
    ".a \x7b color: my-/**/if(x) \x7d".toList,
    ".a \x7b content: \"/*\"; my: if(x); b: \"*/\" \x7d".toList]

/-- A rule whose string loses its end with what is taken for a comment, in front of one with a call in a
    comment. -/
def stringLeftOpen : Text :=
  (".a \x7b content: \"/*\"*/; color: if(media(x): a; media(y): c; else: b); \x7d " ++
    ".b \x7b /* if(z) */ \x7d").toList

/-- All of them get into the native stream, outside comments and without a finding. Where a rewritten
    rule leaves a string open, the comment of another one is in that string. -/
theorem calls_left :
    (sheet false callInCondition).native =
      ".a \x7b color: b; \x7d\n@media (if(x)) \x7b\n  .a \x7b color: a; \x7d\n\x7d".toList ∧
    (∀ s ∈ callInCondition :: stringLeftOpen :: callsElsewhere,
      strays (sheet false s).native = true ∧ (sheet false s).diagnostics = []) ∧
    ∀ i ∈ Sheet.items stringLeftOpen, (Fate.of i).isFree = true := by
  decide +kernel

end Expand
end CondCss
