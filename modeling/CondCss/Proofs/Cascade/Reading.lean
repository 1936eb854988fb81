import CondCss.Proofs.Expand.SheetCascade
import CondCss.Proofs.Sheet.Layout

/-!
# Reading a text as a cascade

A text is read as a list of writes, up to blanks. A rule writes its declarations. A block for media
or features writes what stands in it, under the conditions of its header, which come in parentheses
with the word `and` between them. Anything else writes nothing.

A text that is made of units with blanks between them is read unit by unit (`read_of_spread`), and
what is said of one unit is `Reads`: of a rule in `reads_ruleText`, of a block in `reads_wrap`.
-/

namespace CondCss
namespace Cascade

/-- The conditions in parentheses that a text is, with the word `and` between neighbours. -/
def readConjunction? : (fuel : Nat) → Text → Option (List Text)
  | 0, _ => none
  | fuel + 1, s => do
    let rest ← Text.after? ['('] s
    let parts ← Scan.cutParen? rest
    if parts.2.isEmpty then some [parts.1]
    else
      let more ← Text.after? [' ', 'a', 'n', 'd', ' '] parts.2
      (readConjunction? fuel more).map (parts.1 :: ·)

/-- The word that starts a block for conditions of one kind. -/
def blockWord (kind : ConditionKind) : Text :=
  '@' :: kind.name ++ [' ']

/-- The conditions of the header of a block. -/
def readHeader? (header : Text) : Option (List (ConditionKind × Text)) :=
  [ConditionKind.media, .supports].findSome? fun kind => do
    let rest ← Text.after? (blockWord kind) header
    (readConjunction? rest.length rest).map (·.map (kind, ·))

/-- A write under further conditions. -/
def Write.under (conditions : List (ConditionKind × Text)) (w : Write) : Write :=
  { w with conditions := conditions ++ w.conditions }

/-- The writes of an item, with blocks at most `fuel` levels deep. -/
def readItem : (fuel : Nat) → Text → List Write
  | 0, _ => []
  | fuel + 1, item =>
    match Sheet.readRule? item with
    | some r => r.declarations.map (plainWrite r.selector)
    | none =>
      ((Sheet.cutBraces? item).bind fun parts =>
        (readHeader? (Text.trim parts.1)).map fun conditions =>
          ((Sheet.items parts.2).flatMap (readItem fuel)).map (·.under conditions)).getD []

/-- The writes of a text, up to blanks. Every level of blocks takes a character. -/
def read (s : Text) : List Write :=
  (Sheet.items (Text.collapse s)).flatMap (readItem (Text.collapse s).length)

end Cascade

/-! ### Items of a text -/

namespace Sheet

theorem piecesFrom_before {before : Option Char} (h : before ≠ some '\\') (quote : Option Quote)
    (depth : Nat) (s : Text) :
    piecesFrom before quote depth .code s = piecesFrom none quote depth .code s := by
  cases s with
  | nil => rfl
  | cons c s => simp only [piecesFrom, Quote.next_before h]

/-- The scan of a style sheet passes over a blank. -/
theorem piecesFrom_blank {c : Char} (hc : Text.isBlank c = true) (before : Option Char)
    (quote : Option Quote) (depth : Nat) (rest : Text) :
    piecesFrom before quote depth .code (c :: rest) =
      Text.consHead c (piecesFrom none quote depth .code rest) := by
  have noQuote : Quote.next before c quote = quote :=
    Quote.next_of_ofChar?_eq_none
      (Quote.ofChar?_eq_none (Scan.ne_of_blank hc (by decide)) (Scan.ne_of_blank hc (by decide)))
      before quote
  have notComment : startsComment (c :: rest) = false := by
    have : '/' ≠ c := (Scan.ne_of_blank hc (by decide)).symm
    simp [startsComment, List.isPrefixOf, this]
  rw [piecesFrom_cons notComment (.inr ⟨Scan.ne_of_blank hc (by decide),
    Scan.ne_of_blank hc (by decide), fun _ => Scan.ne_of_blank hc (by decide)⟩), noQuote,
    piecesFrom_before (Scan.backslash_ne_of_blank hc)]

theorem items_cons_of_blank {c : Char} (hc : Text.isBlank c = true) (s : Text) :
    items (c :: s) = items s := by
  rw [items, pieces, piecesFrom_blank hc, items, pieces]
  cases piecesFrom none none 0 .code s with
  | nil =>
    simp only [Text.consHead, List.map_cons, Text.trim_cons_of_blank hc]
    rfl
  | cons p ps => simp only [Text.consHead, List.map_cons, Text.trim_cons_of_blank hc]

theorem items_trimLeft (s : Text) : items (Text.trimLeft s) = items s := by
  induction s with
  | nil => rfl
  | cons c s ih =>
    cases hc : Text.isBlank c with
    | true => rw [Text.trimLeft_of_blank hc, ih, items_cons_of_blank hc]
    | false => rw [Text.trimLeft_of_not_blank hc]

/-- An item is trimmed and not empty. -/
theorem whole_of_mem_items {s i : Text} (h : i ∈ items s) : Text.trim i = i ∧ i ≠ [] := by
  obtain ⟨inPieces, nonempty⟩ := List.mem_filter.1 h
  obtain ⟨piece, -, rfl⟩ := List.mem_map.1 inPieces
  exact ⟨Text.trim_trim piece, by simpa using nonempty⟩

theorem items_of_isUnit {t : Text} (unit : IsUnit t) (trimmed : Text.trim t = t) (some : t ≠ [])
    (s : Text) : items (t ++ s) = t :: items s := by
  rw [items, pieces, unit none 0 s (by decide), if_pos rfl, piecesFrom_before (by decide),
    List.map_cons, trimmed, List.filter_cons_of_pos (by simpa using some)]
  rfl

/-- Items with blanks between them. -/
inductive Spread : List Text → Text → Prop where
  | nil : Spread [] []
  | blank {c : Char} {items : List Text} {s : Text} (hc : Text.isBlank c = true)
      (h : Spread items s) : Spread items (c :: s)
  | item {items : List Text} {s : Text} (t : Text) (h : Spread items s) : Spread (t :: items) (t ++ s)

namespace Spread

theorem blanks {items : List Text} {front s : Text} (hfront : ∀ c ∈ front, Text.isBlank c = true)
    (h : Spread items s) : Spread items (front ++ s) := by
  induction front with
  | nil => exact h
  | cons c front ih =>
    obtain ⟨hc, hfront⟩ := List.forall_mem_cons.1 hfront
    exact .blank hc (ih hfront)

theorem append {items items' : List Text} {s s' : Text} (h : Spread items s)
    (h' : Spread items' s') : Spread (items ++ items') (s ++ s') := by
  induction h with
  | nil => exact h'
  | blank hc _ ih => exact .blank hc ih
  | item t _ ih =>
    rw [List.append_assoc]
    exact .item t ih

/-- A text is what trimming leaves of it, with blanks around. -/
theorem trim_self (t : Text) : Spread ([Text.trim t].filter (!·.isEmpty)) t := by
  obtain ⟨front, back, eq, hfront, hback⟩ := Text.exists_eq_append_trim t
  have behind : Spread [] back := by
    have := blanks hback .nil
    rwa [List.append_nil] at this
  rw [eq]
  refine blanks hfront ?_
  rw [← eq]
  cases empty : (Text.trim t).isEmpty with
  | true =>
    rw [List.isEmpty_iff.1 empty]
    exact behind
  | false =>
    rw [List.filter_cons_of_pos (by simp [empty])]
    exact .item _ behind

theorem singleton (t : Text) : Spread [t] t := by
  have := Spread.item t .nil
  rwa [List.append_nil] at this

theorem joinWith (texts : List Text) : Spread texts (Text.joinWith ['\n'] texts) := by
  induction texts with
  | nil => exact .nil
  | cons t texts ih =>
    cases texts with
    | nil =>
      rw [Text.joinWith, List.intercalate_singleton]
      exact singleton t
    | cons t' texts =>
      rw [Text.joinWith, List.intercalate_cons_cons, List.append_assoc]
      exact .item t (.blank (by decide) ih)

/-- Every text is its items with blanks between them. -/
theorem items (s : Text) : Spread (Sheet.items s) s := by
  have pieces (l : List Text) : Spread ((l.map Text.trim).filter (!·.isEmpty)) l.flatten := by
    induction l with
    | nil => exact .nil
    | cons p l ih =>
      rw [List.map_cons, ← List.singleton_append, List.filter_append, List.flatten_cons]
      exact (trim_self p).append ih
  have := pieces (Sheet.pieces s)
  rwa [Sheet.pieces, flatten_piecesFrom] at this

theorem map_trim {items : List Text} {s : Text} (h : Spread items s)
    (nonempty : ∀ t ∈ items, Text.trim t ≠ []) : Spread (items.map Text.trim) s := by
  induction h with
  | nil => exact .nil
  | blank hc _ ih => exact .blank hc (ih nonempty)
  | @item items s t _ ih =>
    obtain ⟨here, later⟩ := List.forall_mem_cons.1 nonempty
    have first := trim_self t
    rw [List.filter_cons_of_pos (by simpa using here), List.filter_nil] at first
    exact first.append (ih later)

theorem trimLeft {items : List Text} {s : Text} (h : Spread items s)
    (solid : ∀ t ∈ items, Text.trim t = t ∧ t ≠ []) : Spread items (Text.trimLeft s) := by
  induction h with
  | nil => exact .nil
  | blank hc _ ih =>
    rw [Text.trimLeft_of_blank hc]
    exact ih solid
  | @item items s t h _ =>
    obtain ⟨trimmed, nonempty⟩ := solid t List.mem_cons_self
    obtain ⟨c, t, rfl⟩ := List.exists_cons_of_ne_nil nonempty
    rw [List.cons_append, Text.trimLeft_of_not_blank (Text.not_blank_of_trim_cons trimmed)]
    exact .item (c :: t) h

theorem trimRight {items : List Text} {s : Text} (h : Spread items s)
    (solid : ∀ t ∈ items, Text.trim t = t ∧ t ≠ []) : Spread items (Text.trimRight s) := by
  induction h with
  | nil => exact .nil
  | blank hc _ ih =>
    rw [Text.trimRight_cons]
    split
    · rename_i gone
      exact gone.1 ▸ ih solid
    · exact .blank hc (ih solid)
  | @item items s t _ ih =>
    obtain ⟨⟨trimmed, nonempty⟩, later⟩ := List.forall_mem_cons.1 solid
    obtain ⟨t, c, rfl, notBlank⟩ := Text.exists_concat_of_trim trimmed nonempty
    rw [List.append_assoc, List.singleton_append, Text.trimRight_append_cons notBlank]
    have := Spread.item (t ++ [c]) (ih later)
    rwa [List.append_assoc] at this

theorem solid_map_trim {items : List Text} (nonempty : ∀ t ∈ items, Text.trim t ≠ []) :
    ∀ t ∈ items.map Text.trim, Text.trim t = t ∧ t ≠ [] := by
  intro t member
  obtain ⟨u, hu, rfl⟩ := List.mem_map.1 member
  exact ⟨Text.trim_trim u, nonempty u hu⟩

/-- Trimming takes blanks around items only. -/
theorem trim {items : List Text} {s : Text} (h : Spread items s)
    (nonempty : ∀ t ∈ items, Text.trim t ≠ []) : Spread (items.map Text.trim) (Text.trim s) :=
  ((h.map_trim nonempty).trimLeft (solid_map_trim nonempty)).trimRight (solid_map_trim nonempty)

/-- Units with blanks between them are found again, up to blanks, whatever follows them. -/
theorem items_collapse_append {items : List Text} {s : Text} (h : Spread items s)
    (solid : ∀ t ∈ items, Text.trim t = t ∧ t ≠ [])
    (units : ∀ t ∈ items, IsUnit (Text.collapse t)) (rest : Text) :
    Sheet.items (Text.collapse (s ++ rest)) =
      items.map Text.collapse ++ Sheet.items (Text.collapse rest) := by
  induction h with
  | nil => rfl
  | blank hc _ ih =>
    rw [List.cons_append, Text.collapse_of_blank hc, items_cons_of_blank (by decide),
      ← Text.trimLeft_collapse, items_trimLeft, ih solid units]
  | @item items s t _ ih =>
    obtain ⟨⟨trimmed, nonempty⟩, solid⟩ := List.forall_mem_cons.1 solid
    obtain ⟨unit, units⟩ := List.forall_mem_cons.1 units
    have split := Text.collapse_append_of_trim trimmed nonempty (s ++ rest)
    have trimmed' : Text.trim (Text.collapse t) = Text.collapse t := by
      rw [Text.trim_collapse, Text.tidy, trimmed]
    have nonempty' : Text.collapse t ≠ [] := fun empty => nonempty (Text.collapse_eq_nil.1 empty)
    rw [List.append_assoc, split, items_of_isUnit unit trimmed' nonempty', ih solid units,
      List.map_cons, List.cons_append]

end Spread
end Sheet

namespace Cascade

open Sheet (Spread FitsHeader FitsBody ruleText)

/-! ### What a text is read as -/

/-- What an item is read as. -/
def ReadsItem (t : Text) (writes : List Write) : Prop :=
  ∀ fuel, t.length ≤ fuel → readItem fuel t = writes

/-- What a text is read as, item by item and up to blanks. -/
def Yields (s : Text) (writes : List Write) : Prop :=
  Each ReadsItem (Sheet.items (Text.collapse s)) writes

theorem Yields.read {s : Text} {writes : List Write} (h : Yields s writes) : read s = writes := by
  have fits : ∀ t ∈ Sheet.items (Text.collapse s), t.length ≤ (Text.collapse s).length :=
    fun t ht => (Sheet.infix_of_mem_items ht).length_le
  unfold Yields at h
  rw [Cascade.read]
  generalize Sheet.items (Text.collapse s) = items at h fits
  generalize (Text.collapse s).length = fuel at fits
  induction h with
  | nil => rfl
  | cons reads _ ih =>
    obtain ⟨here, later⟩ := List.forall_mem_cons.1 fits
    rw [List.flatMap_cons, reads fuel here, ih later]

/-! ### What a unit writes -/

/-- A text that is one unit of a style sheet with braces, and what it writes. -/
structure Reads (t : Text) (writes : List Write) : Prop where
  unit : Sheet.IsUnit (Text.tidy t)
  brace : '{' ∈ t
  last : t.getLast? = some '}'
  comment : Text.hasInfix ['/', '*'] t = false
  read : ReadsItem (Text.tidy t) writes

theorem Reads.tidy_ne_nil {t : Text} {writes : List Write} (h : Reads t writes) :
    Text.tidy t ≠ [] := by
  have brace : '{' ∈ Text.tidy t := (Text.mem_tidy (by decide)).2 h.brace
  exact List.ne_nil_of_mem brace

theorem Reads.trim_ne_nil {t : Text} {writes : List Write} (h : Reads t writes) :
    Text.trim t ≠ [] := by
  have brace : '{' ∈ Text.trim t := (Text.mem_trim (by decide)).2 h.brace
  exact List.ne_nil_of_mem brace

theorem Reads.trim {t : Text} {writes : List Write} (h : Reads t writes) :
    Reads (Text.trim t) writes := by
  obtain ⟨front, rfl⟩ : ∃ front, t = front ++ ['}'] := List.getLast?_eq_some_iff.1 h.last
  have last : (Text.trim (front ++ ['}'])).getLast? = some '}' := by
    rw [Text.trim, Text.trimLeft_append_cons (by decide), Text.trimRight_append_cons (by decide),
      Text.trimRight_nil, List.getLast?_concat]
  refine ⟨?_, (Text.mem_trim (by decide)).2 h.brace, last, ?_, ?_⟩
  · rw [Text.tidy_trim]
    exact h.unit
  · rw [Text.hasInfix_trim (by decide) (by decide)]
    exact h.comment
  · rw [Text.tidy_trim]
    exact h.read

/-- A text made of units with blanks between them, and what they write. -/
def ReadsAll (s : Text) (writes : List Write) : Prop :=
  ∃ texts, Spread texts s ∧ Each Reads texts writes

namespace ReadsAll

/-- A text is read unit by unit, whatever follows it. -/
theorem yields_append {s rest : Text} {writes more : List Write} (h : ReadsAll s writes)
    (hrest : Yields rest more) : Yields (s ++ rest) (writes ++ more) := by
  obtain ⟨texts, spread, each⟩ := h
  have nonempty : ∀ t ∈ texts, Text.trim t ≠ [] := fun t ht =>
    let ⟨_, reads⟩ := each.exists_of_mem ht
    reads.trim_ne_nil
  have units : ∀ t ∈ texts.map Text.trim, Sheet.IsUnit (Text.collapse t) := by
    intro t member
    obtain ⟨u, hu, rfl⟩ := List.mem_map.1 member
    obtain ⟨_, reads⟩ := each.exists_of_mem hu
    exact reads.unit
  have items : Sheet.items (Text.collapse (s ++ rest)) =
      texts.map Text.tidy ++ Sheet.items (Text.collapse rest) := by
    rw [(spread.map_trim nonempty).items_collapse_append (Spread.solid_map_trim nonempty) units,
      List.map_map]
    rfl
  have tidied : Each ReadsItem (texts.map Text.tidy) writes :=
    each.map fun _ _ reads => reads.read
  rw [Yields, items]
  exact tidied.append hrest

/-- A text is read unit by unit. -/
theorem read {s : Text} {writes : List Write} (h : ReadsAll s writes) : read s = writes := by
  have whole : Yields (s ++ []) (writes ++ []) := h.yields_append .nil
  rw [List.append_nil, List.append_nil] at whole
  exact whole.read

theorem nil : ReadsAll [] [] := ⟨[], .nil, .nil⟩

theorem singleton {t : Text} {writes : List Write} (h : Reads t writes) : ReadsAll t writes :=
  ⟨[t], .singleton t, .singleton h⟩

theorem append {s t : Text} {first second : List Write} (hs : ReadsAll s first)
    (ht : ReadsAll t second) : ReadsAll (s ++ t) (first ++ second) := by
  obtain ⟨texts, spread, each⟩ := hs
  obtain ⟨texts', spread', each'⟩ := ht
  exact ⟨texts ++ texts', spread.append spread', each.append each'⟩

theorem blank {c : Char} {s : Text} {writes : List Write} (hc : Text.isBlank c = true)
    (h : ReadsAll s writes) : ReadsAll (c :: s) writes := by
  obtain ⟨texts, spread, each⟩ := h
  exact ⟨texts, .blank hc spread, each⟩

/-- Texts on lines of their own are read one after another. -/
theorem join {texts : List Text} {writes : List Write} (h : Each ReadsAll texts writes) :
    ReadsAll (Text.joinWith ['\n'] texts) writes := by
  induction h with
  | nil => exact .nil
  | @cons t texts first rest here later ih =>
    cases later with
    | nil =>
      rw [List.append_nil, Text.joinWith, List.intercalate_singleton]
      exact here
    | cons _ _ =>
      rw [Text.joinWith, List.intercalate_cons_cons, List.append_assoc]
      exact here.append (.blank (by decide) ih)

/-- Empty texts can be left out. -/
theorem filter_nonempty {texts : List Text} {writes : List Write} (h : Each ReadsAll texts writes) :
    Each ReadsAll (texts.filter (!·.isEmpty)) writes := by
  induction h with
  | nil => exact .nil
  | @cons t texts first rest here _ ih =>
    cases t with
    | nil =>
      obtain rfl : [] = first := here.read
      exact ih
    | cons c t =>
      rw [List.filter_cons_of_pos (by simp)]
      exact .cons here ih

/-- Trimming takes nothing from units. -/
theorem trim {s : Text} {writes : List Write} (h : ReadsAll s writes) :
    ReadsAll (Text.trim s) writes := by
  obtain ⟨texts, spread, each⟩ := h
  refine ⟨_, spread.trim fun t ht => ?_, each.map fun _ _ reads => reads.trim⟩
  obtain ⟨_, reads⟩ := each.exists_of_mem ht
  exact reads.trim_ne_nil

end ReadsAll

/-! ### Rules -/

/-- A rule writes the declarations that its fragments are. -/
theorem reads_ruleText {selector : Text} {fragments : List Text} (h : FitsHeader selector)
    (nonempty : fragments ≠ []) (hfragments : ∀ t ∈ fragments, FitsBody t) :
    Reads (ruleText selector fragments) ((fragments.filterMap Sheet.readDeclaration?).map fun d =>
      plainWrite (Text.tidy selector) d.tidy) := by
  have h' : FitsHeader (Text.trimLeft (Text.collapse selector)) :=
    Sheet.fitsHeader_trimLeft.2 (Sheet.fitsHeader_collapse.2 h)
  have nonempty' : fragments.map Text.collapse ≠ [] := by simpa using nonempty
  have hfragments' : ∀ t ∈ fragments.map Text.collapse, FitsBody t := by
    intro t ht
    obtain ⟨u, hu, rfl⟩ := List.mem_map.1 ht
    exact Sheet.fitsBody_collapse.2 (hfragments u hu)
  refine ⟨?_, ?_, ?_, ?_, fun fuel enough => ?_⟩
  · rw [Sheet.tidy_ruleText]
    exact Sheet.isUnit_ruleText h' hfragments'
  · simp [ruleText]
  · rw [ruleText, ← List.cons_append, ← List.append_assoc, List.getLast?_concat]
  · have body := (Sheet.braceless_intercalate hfragments).comment
    rw [ruleText, Text.hasInfix_append_cons (by decide) (by decide), h.comment,
      Text.hasInfix_append_cons (by decide) (by decide), body]
    rfl
  · rw [Sheet.tidy_ruleText] at enough ⊢
    cases fuel with
    | zero => simp [ruleText] at enough
    | succ fuel =>
      have trimmed : Text.trim (Text.trimLeft (Text.collapse selector)) = Text.tidy selector := by
        rw [Text.trim, Text.trimLeft_trimLeft, ← Text.trim_collapse]
        rfl
      have declarations : (fragments.map Text.collapse).filterMap Sheet.readDeclaration? =
          (fragments.filterMap Sheet.readDeclaration?).map Declaration.tidy := by
        rw [List.filterMap_map, List.map_filterMap]
        exact List.filterMap_congr fun t _ => Sheet.readDeclaration?_collapse t
      simp only [readItem, Sheet.readRule?_ruleText h' nonempty' hfragments', trimmed, declarations,
        List.map_map]
      rfl

/-! ### Blocks -/

theorem fitsHeader_concat_space {header : Text} (h : FitsHeader header) :
    FitsHeader (header ++ [' ']) := by
  have blank : ∀ c ∈ [' '], Text.isBlank c = true := List.forall_mem_singleton.2 (by decide)
  rw [← Sheet.fitsHeader_trimRight, Text.trimRight_append_of_blank blank, Sheet.fitsHeader_trimRight]
  exact h

theorem wrap_eq (header inner : Text) :
    Expand.wrap header inner =
      (header ++ [' ']) ++ '{' :: (('\n' :: (Text.indent inner ++ ['\n'])) ++ ['}']) := by
  simp [Expand.wrap]

/-- Up to blanks a block has its inside between spaces. -/
theorem tidy_wrap (header : Text) {inner : Text} (last : inner.getLast? = some '}') :
    Text.tidy (Expand.wrap header inner) =
      Text.trimLeft (Text.collapse (header ++ [' '])) ++
        '{' :: ((' ' :: (Text.tidy inner ++ [' '])) ++ ['}']) := by
  have inside : Text.collapse (('\n' :: (Text.indent inner ++ ['\n'])) ++ ['}']) =
      (' ' :: (Text.tidy inner ++ [' '])) ++ ['}'] := by
    rw [Text.collapse_append_cons (by decide), Text.collapse_indent (by decide) last]
    rfl
  rw [← Text.trim_collapse, wrap_eq, Text.collapse_append_cons (c := '{') (by decide), inside,
    Text.trim, Text.trimLeft_append_cons (by decide), ← List.cons_append, ← List.append_assoc,
    Text.trimRight_append_cons (by decide)]
  rfl

/-- A block writes what stands in it, under the conditions of its header. -/
theorem reads_wrap {header inner : Text} {conditions : List (ConditionKind × Text)}
    {writes : List Write} (h : FitsHeader header)
    (read : readHeader? (Text.tidy header) = some conditions) (hinner : Reads inner writes) :
    Reads (Expand.wrap header inner) (writes.map (·.under conditions)) := by
  -- The header without blanks in front, up to the brace.
  let front := Text.trimLeft (Text.collapse (header ++ [' ']))
  have hfront : FitsHeader front :=
    Sheet.fitsHeader_trimLeft.2 (Sheet.fitsHeader_collapse.2 (fitsHeader_concat_space h))
  have trimmed : Text.trim front = Text.tidy header := by
    have : Text.trim front = Text.trim (Text.collapse (header ++ [' '])) := by
      rw [Text.trim, Text.trimLeft_trimLeft]
      rfl
    rw [this, Text.trim_collapse, Text.tidy, Text.trim_concat_of_blank (by decide)]
    rfl
  let body := ' ' :: (Text.tidy inner ++ [' '])
  have tidied : Text.tidy (Expand.wrap header inner) = front ++ '{' :: (body ++ ['}']) :=
    tidy_wrap header hinner.last
  have noComment : Text.hasInfix ['/', '*'] body = false := by
    have inside : Text.hasInfix ['/', '*'] (Text.tidy inner) = false := by
      rw [Text.hasInfix_tidy (by decide) (by decide)]
      exact hinner.comment
    have := Text.hasInfix_append_cons (a := '/') (b := '*') (c := ' ') (by decide) (by decide) []
      (Text.tidy inner ++ [' '])
    rw [List.nil_append] at this
    rw [this, Text.hasInfix_append_cons (by decide) (by decide), inside]
    rfl
  refine ⟨?_, ?_, ?_, ?_, fun fuel enough => ?_⟩
  · rw [tidied]
    exact Sheet.isUnit_block hfront hinner.unit.fitsInside
  · simp [Expand.wrap]
  · rw [wrap_eq, ← List.cons_append, ← List.append_assoc, List.getLast?_concat]
  · rw [← Text.hasInfix_tidy (by decide) (by decide), tidied,
      Text.hasInfix_append_cons (by decide) (by decide), hfront.comment,
      Text.hasInfix_append_cons (by decide) (by decide), noComment]
    rfl
  · rw [tidied] at enough ⊢
    cases fuel with
    | zero => simp at enough
    | succ fuel =>
      have noRule : Sheet.readRule? (front ++ '{' :: (body ++ ['}'])) = none := by
        have nested : body.contains '{' = true := by
          simp [body, (Text.mem_tidy (by decide)).2 hinner.brace]
        simp only [Sheet.readRule?, Sheet.cutBraces?_block hfront.opening,
          Sheet.withoutComments_of_hasInfix_eq_false noComment, nested, if_true]
      have items : Sheet.items body = [Text.tidy inner] := by
        have trimmedInner : Text.trim (Text.tidy inner) = Text.tidy inner := by
          rw [Text.tidy, Text.trim_collapse, Text.tidy_trim]
          rfl
        rw [Sheet.items_cons_of_blank (by decide),
          Sheet.items_of_isUnit hinner.unit trimmedInner hinner.tidy_ne_nil]
        rfl
      have fits : (Text.tidy inner).length ≤ fuel := by
        simp only [body, List.length_append, List.length_cons] at enough
        omega
      simp only [readItem, noRule, Sheet.cutBraces?_block hfront.opening, Option.bind_some, trimmed,
        read, Option.map_some, Option.getD_some, items, List.flatMap_singleton,
        hinner.read fuel fits]

end Cascade
end CondCss
