import CondCss.Proofs.Expand.NativeCascade
import CondCss.Proofs.Expand.ReadBack

/-!
# What becomes of the items of a style sheet

Expanding a style sheet loses nothing and writes nothing twice. An item is kept as it is, moved to the
deferred stream as it is, or rewritten; and each declaration of a rewritten rule stays in the base rule,
is written as native blocks, or is deferred whole with one finding. `sheet_conservation` says that both
streams, the findings and the counts are made of these fates, in the order of the items, and what is
printed for a rewritten rule is read back as its declarations.
-/

namespace CondCss

/-- A conditional that can be read has a clause. -/
theorem Conditional.clauses_ne_nil_of_parse {mode : Conditional.Mode} {content : Text}
    {c : Conditional} (h : Conditional.parse mode content = .ok c) : c.clauses ≠ [] := by
  obtain ⟨-, -, -, -, nonempty⟩ := Conditional.parse_eq_ok h
  exact nonempty

namespace Expand

/-! ### Declarations -/

/-- Where a declaration of a rewritten rule goes. -/
inductive Placement where
  /-- It stays in the base rule. -/
  | base (d : Declaration)
  /-- It is written as these variants, in the native stream. -/
  | native (d : Declaration) (blocks : List Variant)
  /-- It is deferred whole. -/
  | deferred (d : Declaration) (why : Deferral)
  deriving DecidableEq, Repr

namespace Placement

/-- The declaration that is placed. -/
def declaration : Placement → Declaration
  | base d | native d _ | deferred d _ => d

/-- What the base rule gets. -/
def base? : Placement → Option Declaration
  | base d => some d
  | _ => none

/-- What the native stream gets besides the base rule. -/
def native? (selector : Text) : Placement → Option Text
  | native d blocks => some (Text.joinWith ['\n'] (blocks.map (·.render selector d.property)))
  | _ => none

/-- What the deferred stream gets, with the finding. -/
def entry? (selector : Text) : Placement → Option (Text × Diagnostic)
  | deferred d why =>
    some (declarationRule selector d.property d.value, why.diagnostic selector d.property)
  | _ => none

/-- What the native blocks of a declaration write, up to blanks. -/
def blockWrites (selector : Text) : Placement → List Cascade.Write
  | native d blocks => blocks.map (·.tidyWrite selector d.property)
  | _ => []

/-- Whether a declaration belongs where it is placed. -/
def Sound (selector : Text) : Placement → Prop
  | base d => Occurrence.anyIn d.value = false
  | native d blocks => Occurrence.anyIn d.value = true ∧ variants d.value = .ok blocks ∧
      Text.joinWith ['\n'] (blocks.map (·.render selector d.property)) ≠ []
  | deferred d why => Occurrence.anyIn d.value = true ∧ variants d.value = .error why

/-- Where a declaration goes. -/
def of (d : Declaration) : Placement :=
  if isConditional d then
    match variants d.value with
    | .ok blocks => .native d blocks
    | .error why => .deferred d why
  else .base d

end Placement

theorem orderedSelections_ne_nil {conditionals : List Conditional}
    (h : ∀ c ∈ conditionals, c.clauses ≠ []) : orderedSelections conditionals ≠ [] := by
  have count : 0 < (conditionals.map choiceCount).foldr (· * ·) 1 := by
    induction conditionals with
    | nil => decide
    | cons c conditionals ih =>
      obtain ⟨here, later⟩ := List.forall_mem_cons.1 h
      have some : 0 < choiceCount c := by
        have := List.length_pos_iff.2 here
        unfold choiceCount
        omega
      rw [List.map_cons, List.foldr_cons]
      exact Nat.mul_pos some (ih later)
  rw [← length_orderedSelections] at count
  exact List.length_pos_iff.1 count

/-- A conditional declaration that is not deferred has a variant. -/
theorem variants_ne_nil {value : Text} {blocks : List Variant}
    (conditional : Occurrence.anyIn value = true) (h : variants value = .ok blocks) :
    blocks ≠ [] := by
  obtain ⟨conditionals, read, -, rfl, -⟩ :=
    variants_eq_ok (allIn_ne_nil_of_variants conditional h) h
  have clauses : ∀ c ∈ conditionals, c.clauses ≠ [] := by
    intro c hc
    obtain ⟨o, -, isRead⟩ := exists_of_mem_mapM read hc
    exact Conditional.clauses_ne_nil_of_parse (readNative_eq_ok isRead).1
  simpa using orderedSelections_ne_nil clauses

theorem joinWith_render_ne_nil {blocks : List Variant} (some : blocks ≠ [])
    (selector property : Text) :
    Text.joinWith ['\n'] (blocks.map (·.render selector property)) ≠ [] := by
  refine joinWith_ne_nil (by simpa using some) fun t ht => ?_
  obtain ⟨v, -, rfl⟩ := List.mem_map.1 ht
  exact v.render_ne_nil selector property

namespace Placement

theorem declaration_of (d : Declaration) : (of d).declaration = d := by
  unfold of
  split
  · split <;> rfl
  · rfl

theorem sound_of (selector : Text) (d : Declaration) : (of d).Sound selector := by
  unfold of
  split
  · rename_i conditional
    split
    · rename_i blocks written
      exact ⟨conditional, written,
        joinWith_render_ne_nil (variants_ne_nil conditional written) selector d.property⟩
    · rename_i why deferred
      exact ⟨conditional, deferred⟩
  · rename_i plain
    exact Bool.eq_false_iff.2 plain

/-- A declaration belongs in one place only. -/
theorem Sound.eq_of {selector : Text} {p : Placement} (h : p.Sound selector) :
    p = of p.declaration := by
  cases p with
  | base d => simp [of, declaration, isConditional, show Occurrence.anyIn d.value = false from h]
  | native d blocks =>
    obtain ⟨conditional, written, -⟩ := h
    simp [of, declaration, isConditional, conditional, written]
  | deferred d why =>
    obtain ⟨conditional, deferred⟩ := h
    simp [of, declaration, isConditional, conditional, deferred]

end Placement

/-! ### Rules -/

section Rules

variable (selector : Text) (declarations : List Declaration)

theorem filterMap_base? :
    (declarations.map Placement.of).filterMap Placement.base? =
      declarations.filter (!isConditional ·) := by
  rw [List.filterMap_map, ← List.filterMap_eq_filter]
  refine List.filterMap_congr fun d _ => ?_
  cases conditional : isConditional d with
  | false => simp [Placement.of, Placement.base?, conditional]
  | true =>
    cases written : variants d.value <;>
      simp [Placement.of, Placement.base?, Option.guard, conditional, written]

/-- The conditional declarations of a rule, expanded. -/
def expansions : List DeclarationExpansion :=
  (declarations.filter isConditional).map fun d => declaration selector d.property d.value

/-- What is read off the expansion of each conditional declaration can be read off its placement. -/
theorem flatMap_expansions {α : Type} {f : DeclarationExpansion → List α} {g : Placement → List α}
    (base : ∀ d, g (.base d) = [])
    (conditional : ∀ d, isConditional d = true →
      f (declaration selector d.property d.value) = g (.of d)) :
    (expansions selector declarations).flatMap f = (declarations.map Placement.of).flatMap g := by
  induction declarations with
  | nil => rfl
  | cons d declarations ih =>
    unfold expansions at ih ⊢
    cases isCond : isConditional d with
    | false =>
      have stays : Placement.of d = .base d := by simp [Placement.of, isCond]
      rw [List.filter_cons_of_neg (by simp [isCond]), ih, List.map_cons, List.flatMap_cons, stays,
        base, List.nil_append]
    | true =>
      rw [List.filter_cons_of_pos isCond, List.map_cons, List.flatMap_cons, ih,
        conditional d isCond, List.map_cons, List.flatMap_cons]

theorem filterMap_native? :
    (declarations.map Placement.of).filterMap (Placement.native? selector) =
      ((expansions selector declarations).map (·.native)).filter (!·.isEmpty) := by
  rw [List.filterMap_eq_flatMap_toList, List.map_eq_flatMap (l := expansions _ _),
    List.filter_flatMap]
  refine (flatMap_expansions selector declarations (fun d => rfl) fun d conditional => ?_).symm
  cases written : variants d.value with
  | ok blocks =>
    have := joinWith_render_ne_nil (variants_ne_nil conditional written) selector d.property
    simp [declaration, Placement.of, Placement.native?, conditional, written, this]
  | error why => simp [declaration, Placement.of, Placement.native?, conditional, written]

theorem filterMap_entry? :
    ((declarations.map Placement.of).filterMap (Placement.entry? selector)).map Prod.fst =
        (expansions selector declarations).filterMap (·.deferred) ∧
      ((declarations.map Placement.of).filterMap (Placement.entry? selector)).map Prod.snd =
        (expansions selector declarations).flatMap (·.diagnostics) := by
  rw [List.filterMap_eq_flatMap_toList, List.map_flatMap, List.map_flatMap,
    List.filterMap_eq_flatMap_toList]
  refine ⟨(flatMap_expansions selector declarations (fun d => rfl) fun d conditional => ?_).symm,
    (flatMap_expansions selector declarations (fun d => rfl) fun d conditional => ?_).symm⟩
  all_goals
    cases written : variants d.value <;>
      simp [declaration, Placement.of, Placement.entry?, conditional, written]

end Rules

/-! ### Items -/

/-- What becomes of an item. -/
inductive Fate where
  /-- It goes to the native stream as it is. -/
  | kept (item : Text)
  /-- It goes to the deferred stream as it is. -/
  | moved (item : Text)
  /-- It is a rule that is rewritten, one declaration after the other. -/
  | rewritten (item : Text) (rule : Rule) (placements : List Placement)
  deriving DecidableEq, Repr

namespace Fate

/-- The item. -/
def item : Fate → Text
  | kept i | moved i | rewritten i _ _ => i

/-- Whether the item goes on as it is, without a finding. -/
def isKept : Fate → Bool
  | kept _ => true
  | _ => false

/-- What the native stream gets: of a rewritten rule first what stays in it, if anything does. -/
def native : Fate → List Text
  | kept i => [i]
  | moved _ => []
  | rewritten _ r placements =>
    let base := placements.filterMap Placement.base?
    (if base.isEmpty then [] else [baseRule r.selector base]) ++
      placements.filterMap (Placement.native? r.selector)

/-- What the deferred stream gets, each text with its finding. -/
def entries : Fate → List (Text × Diagnostic)
  | kept _ => []
  | moved i => [(i, opaqueBlock i)]
  | rewritten _ r placements => placements.filterMap (Placement.entry? r.selector)

/-- What the native stream of a rewritten rule writes, up to blanks: the declarations that stay, then the
    blocks of the others. -/
def ruleWrites (r : Rule) (placements : List Placement) : List Cascade.Write :=
  (placements.filterMap Placement.base?).map
      (fun d => Cascade.plainWrite (Text.tidy r.selector) d.tidy) ++
    placements.flatMap (Placement.blockWrites r.selector)

/-- Whether this is what should become of the item. -/
def Sound : Fate → Prop
  | kept i =>
    (∃ r, Sheet.readRule? i = some r ∧ r.declarations.any isConditional = false) ∨
      Sheet.readRule? i = none ∧ (Sheet.startsComment i = true ∨ Occurrence.anyIn i = false)
  | moved i =>
    Sheet.readRule? i = none ∧ Sheet.startsComment i = false ∧ Occurrence.anyIn i = true
  | rewritten i r placements =>
    Sheet.readRule? i = some r ∧ r.declarations.any isConditional = true ∧
      placements.map Placement.declaration = r.declarations ∧
      ∀ p ∈ placements, p.Sound r.selector

/-- What becomes of an item. -/
def of (i : Text) : Fate :=
  match Sheet.readRule? i with
  | some r =>
    if r.declarations.any isConditional then .rewritten i r (r.declarations.map Placement.of)
    else .kept i
  | none => if !Sheet.startsComment i && Occurrence.anyIn i then .moved i else .kept i

theorem item_of (i : Text) : (of i).item = i := by
  unfold of
  split <;> split <;> rfl

theorem sound_of (i : Text) : (of i).Sound := by
  unfold of
  split
  · rename_i r read
    split
    · rename_i conditional
      refine ⟨read, conditional, ?_, ?_⟩
      · rw [List.map_map]
        exact (List.map_congr_left fun d _ => Placement.declaration_of d).trans (List.map_id _)
      · intro p hp
        obtain ⟨d, -, rfl⟩ := List.mem_map.1 hp
        exact Placement.sound_of r.selector d
    · rename_i plain
      exact .inl ⟨r, read, Bool.eq_false_iff.2 plain⟩
  · rename_i read
    split
    · rename_i conditional
      obtain ⟨notComment, conditional⟩ := Bool.and_eq_true_iff.1 conditional
      exact ⟨read, by simpa using notComment, conditional⟩
    · rename_i plain
      refine .inr ⟨read, ?_⟩
      by_cases comment : Sheet.startsComment i = true
      · exact .inl comment
      · right
        simpa [comment] using plain

/-- No other fate is right for an item. -/
theorem Sound.eq_of {f : Fate} (h : f.Sound) : f = of f.item := by
  cases f with
  | kept i =>
    rcases h with ⟨r, read, plain⟩ | ⟨read, comment | plain⟩
    · simp [of, item, read, plain]
    · simp [of, item, read, comment]
    · simp [of, item, read, plain]
  | moved i =>
    obtain ⟨read, notComment, conditional⟩ := h
    simp [of, item, read, notComment, conditional]
  | rewritten i r placements =>
    obtain ⟨read, conditional, each, sound⟩ := h
    have placed : r.declarations.map Placement.of = placements := by
      rw [← each, List.map_map]
      refine (List.map_congr_left fun p hp => ?_).trans (List.map_id _)
      exact (sound p hp).eq_of.symm
    simp only [of, item, read, conditional, if_true, placed]

/-- Expanding an item is carrying out what becomes of it. -/
theorem item_eq (i : Text) :
    Expand.item i =
      { native := (of i).native
        deferred := (of i).entries.map Prod.fst
        diagnostics := (of i).entries.map Prod.snd
        changed := !(of i).isKept } := by
  cases read : Sheet.readRule? i with
  | some r =>
    cases conditional : r.declarations.any isConditional with
    | true =>
      obtain ⟨deferred, diagnostics⟩ := filterMap_entry? r.selector r.declarations
      simp only [Expand.item, of, read, conditional, if_true, native, entries, isKept,
        filterMap_base?, filterMap_native?, deferred, diagnostics]
      rfl
    | false =>
      simp only [Expand.item, of, read, conditional, Bool.false_eq_true, if_false]
      rfl
  | none =>
    simp only [Expand.item, of, read]
    split <;> rfl

theorem ruleWrites_of (r : Rule) :
    ruleWrites r (r.declarations.map Placement.of) = nativeWrites r := by
  have blocks : (r.declarations.map Placement.of).flatMap (Placement.blockWrites r.selector) =
      (r.declarations.filter isConditional).flatMap (variantWrites r.selector) := by
    induction r.declarations with
    | nil => rfl
    | cons d declarations ih =>
      rw [List.map_cons, List.flatMap_cons, ih]
      cases conditional : isConditional d with
      | false => simp [Placement.of, Placement.blockWrites, conditional]
      | true =>
        rw [List.filter_cons_of_pos conditional, List.flatMap_cons]
        cases written : variants d.value <;>
          simp [Placement.of, Placement.blockWrites, variantWrites, Except.toOption, conditional,
            written]
  have plain : ∀ d ∈ r.declarations.filter (!isConditional ·), isConditional d = false :=
    fun d hd => by simpa using (List.mem_filter.1 hd).2
  rw [ruleWrites, blocks, filterMap_base?, nativeWrites, baseFirst, List.flatMap_append,
    flatMap_variantWrites_of_plain _ plain]

/-- What is printed for a rewritten rule is read back: the native stream as what stays in the rule with
    the blocks behind it, and a deferred declaration as itself. -/
theorem Sound.readBack {i : Text} {r : Rule} {placements : List Placement}
    (h : (rewritten i r placements).Sound) :
    (FitsRule r → Cascade.read (Text.joinWith ['\n'] (native (.rewritten i r placements))) =
        ruleWrites r placements) ∧
      ∀ d why, .deferred d why ∈ placements → d.Legible →
        Sheet.readRule? (declarationRule r.selector d.property d.value) =
          some ⟨r.selector, [d], declarationRule r.selector d.property d.value⟩ := by
  have read : Sheet.readRule? i = some r := h.1
  have conditional : r.declarations.any isConditional = true := h.2.1
  constructor
  · intro fits
    have isOf : rewritten i r placements = of i := h.eq_of
    have texts : native (.rewritten i r placements) = (rule r).native := by
      rw [isOf, ← native_item_of_conditional read conditional, item_eq]
    have placed : placements = r.declarations.map Placement.of := by
      simp only [of, read, conditional, if_true] at isOf
      injection isOf
    rw [texts, placed, ruleWrites_of]
    exact (Cascade.ReadsAll.join (each_rule fits)).read
  · intro d why _ legible
    obtain ⟨selector, body, -, opening, -, rfl⟩ := exists_of_readRule? read
    rw [declarationRule_eq_baseRule]
    refine readRule?_baseRule_of_legible (Text.trim_trim selector) ?_ (List.cons_ne_nil _ _)
      (List.forall_mem_singleton.2 legible)
    rwa [Text.mem_trim (by decide)]

/-- What is deferred is not blank. -/
theorem trim_ne_nil_of_mem_entries {i : Text} (trimmed : Text.trim i = i) (nonempty : i ≠ [])
    {entry : Text × Diagnostic} (h : entry ∈ (of i).entries) : Text.trim entry.1 ≠ [] := by
  cases fate : of i with
  | kept j =>
    rw [fate] at h
    exact absurd h List.not_mem_nil
  | moved j =>
    obtain rfl : j = i := by rw [← item_of i, fate]; rfl
    rw [fate] at h
    obtain rfl := List.mem_singleton.1 h
    exact trimmed.symm ▸ nonempty
  | rewritten j r placements =>
    rw [fate] at h
    obtain ⟨p, -, hp⟩ := List.mem_filterMap.1 h
    cases p with
    | base d => cases hp
    | native d blocks => cases hp
    | deferred d why =>
      cases hp
      have brace : '{' ∈ Text.trim (declarationRule r.selector d.property d.value) :=
        (Text.mem_trim (by decide)).2 (by simp [declarationRule])
      exact List.ne_nil_of_mem brace

end Fate

/-! ### The style sheet -/

theorem trim_joinWith_ne_nil {texts : List Text} (some : texts ≠ [])
    (h : ∀ t ∈ texts, Text.trim t ≠ []) : Text.trim (Text.joinWith ['\n'] texts) ≠ [] := by
  cases texts with
  | nil => exact absurd rfl some
  | cons first rest =>
    obtain ⟨c, tail, shape⟩ := List.exists_cons_of_ne_nil (h first List.mem_cons_self)
    have notBlank : Text.isBlank c = false := by
      refine Text.not_blank_of_trim_cons (t := tail) ?_
      rw [← shape, Text.trim_trim]
    have inFirst : c ∈ first := (Text.mem_trim notBlank).1 (shape ▸ List.mem_cons_self)
    have inJoined : c ∈ Text.joinWith ['\n'] (first :: rest) := by
      cases rest with
      | nil => rwa [Text.joinWith, List.intercalate_singleton]
      | cons second rest =>
        rw [Text.joinWith, List.intercalate_cons_cons, List.append_assoc]
        exact List.mem_append_left _ inFirst
    exact List.ne_nil_of_mem ((Text.mem_trim notBlank).2 inJoined)

/-- What a report says besides the native stream is what becomes of the items. -/
structure Report.Accounts (r : Report) (fates : List Fate) : Prop where
  /-- The deferred stream has the deferred texts, in order. -/
  deferred : r.deferred = Text.trim (Text.joinWith ['\n'] ((fates.flatMap Fate.entries).map Prod.fst))
  /-- There is one finding for each deferred text, in the same order. -/
  diagnostics : r.diagnostics = (fates.flatMap Fate.entries).map Prod.snd
  hasDeferred_iff_deferred : r.hasDeferred = true ↔ r.deferred ≠ []
  hasDeferred_iff_diagnostics : r.hasDeferred = true ↔ r.diagnostics ≠ []
  total : r.total = fates.length
  changed : r.changed = fates.countP (!·.isKept)
  changed_le_total : r.changed ≤ r.total

/-- The items of a style sheet with the letters of a call, each with what should become of it. -/
structure AreFates (s : Text) (fates : List Fate) : Prop where
  items : fates.map Fate.item = Sheet.items s
  sound : ∀ f ∈ fates, f.Sound

theorem areFates_of (s : Text) : AreFates s ((Sheet.items s).map Fate.of) where
  items := by
    rw [List.map_map]
    exact (List.map_congr_left fun i _ => Fate.item_of i).trans (List.map_id _)
  sound := by
    intro f hf
    obtain ⟨i, -, rfl⟩ := List.mem_map.1 hf
    exact Fate.sound_of i

theorem AreFates.eq {s : Text} {fates : List Fate} (h : AreFates s fates) :
    fates = (Sheet.items s).map Fate.of := by
  rw [← h.items, List.map_map]
  exact ((List.map_congr_left fun f hf => (h.sound f hf).eq_of.symm).trans (List.map_id _)).symm

theorem flatMap_entries_kept (items : List Text) :
    (items.map Fate.kept).flatMap Fate.entries = [] := by
  simp [List.flatMap_map, Fate.entries]

/-- A report without deferred texts and changed items is right if all items are kept. -/
theorem accounts_kept (native : Text) (items : List Text) :
    Report.Accounts { native, total := items.length } (items.map Fate.kept) where
  deferred := by rw [flatMap_entries_kept]; rfl
  diagnostics := by rw [flatMap_entries_kept]; rfl
  hasDeferred_iff_deferred := by simp
  hasDeferred_iff_diagnostics := by simp
  total := by simp
  changed := by
    symm
    rw [List.countP_eq_zero]
    intro f hf
    obtain ⟨i, -, rfl⟩ := List.mem_map.1 hf
    simp [Fate.isKept]
  changed_le_total := Nat.zero_le _

theorem accounts_of (native : Text) {items : List Text}
    (whole : ∀ i ∈ items, Text.trim i = i ∧ i ≠ []) :
    let entries := (items.map Fate.of).flatMap Fate.entries
    Report.Accounts
      { native
        deferred := Text.trim (Text.joinWith ['\n'] (entries.map Prod.fst))
        hasDeferred := !(entries.map Prod.fst).isEmpty
        total := items.length
        changed := (items.map Fate.of).countP (!·.isKept)
        diagnostics := entries.map Prod.snd } (items.map Fate.of) := by
  intro entries
  have some : (!(entries.map Prod.fst).isEmpty) = true ↔ entries ≠ [] := by simp
  have shown (h : entries ≠ []) : Text.trim (Text.joinWith ['\n'] (entries.map Prod.fst)) ≠ [] := by
    refine trim_joinWith_ne_nil (by simpa using h) fun t ht => ?_
    obtain ⟨entry, member, rfl⟩ := List.mem_map.1 ht
    obtain ⟨f, inFates, ofFate⟩ := List.mem_flatMap.1 member
    obtain ⟨i, inItems, rfl⟩ := List.mem_map.1 inFates
    obtain ⟨trimmed, nonempty⟩ := whole i inItems
    exact Fate.trim_ne_nil_of_mem_entries trimmed nonempty ofFate
  refine ⟨rfl, rfl, some.trans ⟨shown, ?_⟩, some.trans (by simp), by simp, rfl, ?_⟩
  · intro h none
    rw [none] at h
    exact h rfl
  · exact List.countP_le_length.trans (by simp)

/-- Expanding a style sheet keeps, moves or rewrites each item, and both streams, the findings and the
    counts are made of nothing else, in the order of the items. What becomes of an item is determined
    (`AreFates`): a rewritten rule has each of its declarations in one place, in the base rule, in
    native blocks, or deferred whole with one finding. Without the letters of a call all items are kept:
    the whole text is the native stream.

    What is printed for a rewritten rule stands for its declarations: if the rule is closed, its native
    texts are read as the base rule and the blocks again, up to blanks since a block indents a value of
    several lines anew; and a deferred declaration that is legible is read back as it was. -/
theorem sheet_conservation (shorten : Bool) (s : Text) :
    ∃ fates : List Fate, (sheet shorten s).Accounts fates ∧
      (hasToken s = true → AreFates s fates ∧ (∀ others, AreFates s others → others = fates) ∧
        (sheet shorten s).native =
          (let native := Text.trim (Text.joinWith ['\n'] (fates.flatMap Fate.native))
          if shorten then minify native else native) ∧
        ∀ i r placements, .rewritten i r placements ∈ fates →
          (FitsRule r →
            Cascade.read (Text.joinWith ['\n'] (Fate.native (.rewritten i r placements))) =
              Fate.ruleWrites r placements) ∧
          ∀ d why, .deferred d why ∈ placements → d.Legible →
            Sheet.readRule? (declarationRule r.selector d.property d.value) =
              some ⟨r.selector, [d], declarationRule r.selector d.property d.value⟩) ∧
      (hasToken s = false → fates = (Sheet.items s).map Fate.kept ∧
        (sheet shorten s).native = if shorten then minify s else Text.trim s) := by
  cases token : hasToken s with
  | false =>
    refine ⟨(Sheet.items s).map Fate.kept, ?_, fun h => absurd h Bool.false_ne_true, fun _ => ⟨rfl, ?_⟩⟩
    · simp only [sheet, token, Bool.not_false, if_true]
      exact accounts_kept _ _
    · simp [sheet, token]
  | true =>
    have expanded : (Sheet.items s).map item = ((Sheet.items s).map Fate.of).map fun f =>
        { native := f.native
          deferred := f.entries.map Prod.fst
          diagnostics := f.entries.map Prod.snd
          changed := !f.isKept } := by
      rw [List.map_map]
      exact List.map_congr_left fun i _ => Fate.item_eq i
    refine ⟨(Sheet.items s).map Fate.of, ?_, fun _ => ⟨areFates_of s, fun others h => h.eq, ?_, ?_⟩,
      fun h => absurd h.symm Bool.false_ne_true⟩
    · have accounts := accounts_of (sheet shorten s).native fun i hi =>
        Sheet.whole_of_mem_items (s := s) hi
      simp only [sheet, token, Bool.not_true, Bool.false_eq_true, if_false, expanded,
        List.flatMap_map, List.map_flatMap, List.countP_map] at accounts ⊢
      exact accounts
    · simp only [sheet, token, Bool.not_true, Bool.false_eq_true, if_false, expanded,
        List.flatMap_map]
    · intro i r placements member
      exact ((areFates_of s).sound _ member).readBack

end Expand
end CondCss
