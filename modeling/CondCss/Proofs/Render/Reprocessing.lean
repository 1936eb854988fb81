import CondCss.Proofs.Expand.Printed

/-!
# Rendering a rendering

What is rendered is written on lines: the items that are kept, the rules and blocks that stand for the
rewritten ones, and then the deferred texts with their calls resolved. If nothing of a style sheet is left
open (`Fate.Sturdy`), each of these is an item again and settled.

So rendering once more only moves those texts behind the others that have a call that cannot be read
(`render_again`). It changes nothing if they are behind them already, and in any case a third rendering is
the second one.
-/

namespace CondCss
namespace Expand

open Sheet (FitsHeader FitsBody Stands)
open Occurrence (anyIn callsClosed contents)
open Render (stage maxPasses isInert Settled)

/-! ### What is written -/

/-- The lines that the native stream gets besides the base rule. -/
def Placement.lines? (selector : Text) : Placement → Option (List Text)
  | native d blocks => some (blocks.map (·.render selector d.property))
  | _ => none

/-- The lines that the native stream gets, in groups. -/
def Fate.lines : Fate → List (List Text)
  | kept i => [[i]]
  | moved _ => []
  | rewritten _ r placements =>
    let base := placements.filterMap Placement.base?
    (if base.isEmpty then [] else [[baseRule r.selector base]]) ++
      placements.filterMap (Placement.lines? r.selector)

theorem Fate.native_eq_lines (f : Fate) : f.native = f.lines.map (Text.joinWith ['\n']) := by
  have alone (t : Text) : Text.joinWith ['\n'] [t] = t := by
    rw [Text.joinWith, List.intercalate_singleton]
  cases f with
  | kept i => simp [native, lines, alone]
  | moved i => rfl
  | rewritten i r placements =>
    have blocks : placements.filterMap (Placement.native? r.selector) =
        (placements.filterMap (Placement.lines? r.selector)).map (Text.joinWith ['\n']) := by
      rw [List.map_filterMap]
      refine List.filterMap_congr fun p _ => ?_
      cases p <;> rfl
    simp only [native, lines, List.map_append, blocks]
    split <;> simp [alone]

/-! ### Style sheets in which nothing is left open -/

/-- A text whose calls are closed in front of every pass and behind the last one. -/
def StaysClosed (h : Host) (t : Text) : Prop :=
  ∀ n ≤ maxPasses, callsClosed ((stage h)^[n] t) = true

/-- A declaration of which nothing is left open, wherever it goes. Written as variants, it closes what it
    opens in their values and headers and leaves no call there that can be read. Deferred, it has calls in
    its value only; the value is closed in every pass, and what it is resolved to has no blanks at its ends
    if a call is left in it. -/
def Placement.Sturdy (h : Host) (selector : Text) : Placement → Prop
  | base _ => True
  | native d blocks => ∀ v ∈ blocks, FitsBody v.value ∧
      (∀ c ∈ v.conditions, FitsHeader c.expression) ∧ isInert (v.render selector d.property) = true
  | deferred d _ =>
      let final := (stage h)^[maxPasses] d.value
      anyIn selector = false ∧ anyIn d.property = false ∧ StaysClosed h d.value ∧ FitsBody final ∧
        (anyIn final = true → Text.trim final = final)

/-- An item of which nothing is left open, whatever becomes of it. -/
def Fate.Sturdy (h : Host) : Fate → Prop
  | kept i => Stands i
  | moved i =>
    let final := (stage h)^[maxPasses] i
    StaysClosed h i ∧ Stands final ∧ (Fate.of final).isWhole = true
  | rewritten _ r placements =>
    FitsHeader r.selector ∧ r.selector ≠ [] ∧ (∀ d ∈ r.declarations, FitsDeclaration d) ∧
      ∀ p ∈ placements, p.Sturdy h r.selector

instance (h : Host) (t : Text) : Decidable (StaysClosed h t) :=
  Nat.decidableBallLE maxPasses _

instance (h : Host) (selector : Text) : (p : Placement) → Decidable (p.Sturdy h selector)
  | .base _ => inferInstanceAs (Decidable True)
  | .native _ blocks => inferInstanceAs (Decidable (∀ v ∈ blocks, _ ∧ _ ∧ _))
  | .deferred _ _ => inferInstanceAs (Decidable (_ ∧ _ ∧ _ ∧ _ ∧ (_ → _)))

instance (h : Host) : (f : Fate) → Decidable (f.Sturdy h)
  | .kept i => inferInstanceAs (Decidable (Stands i))
  | .moved _ => inferInstanceAs (Decidable (_ ∧ _ ∧ _))
  | .rewritten _ r placements =>
    inferInstanceAs (Decidable (_ ∧ _ ∧ (∀ d ∈ r.declarations, _) ∧ ∀ p ∈ placements, _))

/-- A deferred text that is settled once it is resolved. -/
structure Lasts (h : Host) (t : Text) : Prop where
  trimmed : Text.trim t = t
  nonempty : t ≠ []
  closed : StaysClosed h t
  stands : Stands ((stage h)^[maxPasses] t)
  settled : isInert ((stage h)^[maxPasses] t) = true → Settled ((stage h)^[maxPasses] t)

/-- The selector and the properties of a rule are trimmed as they are read. -/
theorem trimmed_of_readRule? {i : Text} {r : Rule} (read : Sheet.readRule? i = some r) :
    Text.trim r.selector = r.selector ∧
      ∀ d ∈ r.declarations, Text.trim d.property = d.property := by
  unfold Sheet.readRule? at read
  split at read
  · split at read
    · cases read
    · cases read
      refine ⟨Text.trim_trim _, fun d hd => ?_⟩
      obtain ⟨fragment, -, readFragment⟩ := List.mem_filterMap.1 hd
      obtain ⟨property, value, -, -, -, rfl, -⟩ := Sheet.readDeclaration?_eq_some readFragment
      exact Text.trim_trim _
  · cases read

/-- A rewritten rule of which nothing is left open. -/
structure SturdyRule (h : Host) (r : Rule) (placements : List Placement) : Prop where
  header : FitsHeader r.selector
  selected : r.selector ≠ []
  trimmed : Text.trim r.selector = r.selector
  properties : ∀ d ∈ r.declarations, Text.trim d.property = d.property
  fits : ∀ d ∈ r.declarations, FitsDeclaration d
  placed : ∀ p ∈ placements, p.declaration ∈ r.declarations
  sound : ∀ p ∈ placements, p.Sound r.selector
  sturdy : ∀ p ∈ placements, p.Sturdy h r.selector

section Rules

variable {h : Host} {r : Rule} {placements : List Placement}

theorem SturdyRule.of_fate {i : Text} (fate : Fate.of i = .rewritten i r placements)
    (sturdy : (Fate.of i).Sturdy h) : SturdyRule h r placements := by
  have sound := Fate.sound_of i
  rw [fate] at sound sturdy
  obtain ⟨read, -, each, soundEach⟩ := sound
  obtain ⟨header, selected, fits, sturdyEach⟩ := sturdy
  obtain ⟨trimmed, properties⟩ := trimmed_of_readRule? read
  refine ⟨header, selected, trimmed, properties, fits, fun p hp => ?_, soundEach, sturdyEach⟩
  rw [← each]
  exact List.mem_map_of_mem hp

theorem SturdyRule.head_isBlank (rule : SturdyRule h r placements) :
    ∃ c tail, r.selector = c :: tail ∧ Text.isBlank c = false := by
  obtain ⟨c, tail, shape⟩ := List.exists_cons_of_ne_nil rule.selected
  refine ⟨c, tail, shape, Text.not_blank_of_trim_cons (t := tail) ?_⟩
  rw [← shape]
  exact rule.trimmed

/-- The base rule of a rewritten rule is kept. -/
theorem SturdyRule.base (rule : SturdyRule h r placements)
    (some : placements.filterMap Placement.base? ≠ []) :
    let base := baseRule r.selector (placements.filterMap Placement.base?)
    Stands base ∧ Settled base := by
  have each : ∀ d ∈ placements.filterMap Placement.base?,
      FitsDeclaration d ∧ anyIn d.value = false := by
    intro d hd
    obtain ⟨p, hp, isBase⟩ := List.mem_filterMap.1 hd
    cases p with
    | base d' =>
      cases isBase
      exact ⟨rule.fits d (rule.placed _ hp), rule.sound _ hp⟩
    | native d' blocks => cases isBase
    | deferred d' why => cases isBase
  obtain ⟨c, tail, shape, notBlank⟩ := rule.head_isBlank
  refine ⟨?_, settled_of_kept (Fate.of_eq_kept
    (readRule?_baseRule rule.header some fun d hd => (each d hd).1) fun d hd => ?_)⟩
  · refine (isBlock_baseRule rule.header some fun d hd =>
      ⟨(each d hd).1.property, (each d hd).1.value⟩).stands ?_
    rw [shape]
    rintro d ⟨⟩
    exact notBlank
  · obtain ⟨d', hd', rfl⟩ := List.mem_map.1 hd
    rw [isConditional, Occurrence.anyIn_trim]
    exact (each d' hd').2

/-- The variants of a declaration stand by themselves and are settled. -/
theorem SturdyRule.variant (rule : SturdyRule h r placements) {d : Declaration}
    {blocks : List Variant} (member : .native d blocks ∈ placements) {v : Variant} (hv : v ∈ blocks) :
    Stands (v.render r.selector d.property) ∧ Settled (v.render r.selector d.property) := by
  obtain ⟨conditional, written, -⟩ := rule.sound _ member
  obtain ⟨hvalue, headers, inert⟩ := rule.sturdy _ member v hv
  obtain ⟨plain, closed⟩ := closed_of_variants conditional written hv
  have fits := rule.fits d (rule.placed _ member)
  obtain ⟨block, whole⟩ := isBlock_render rule.header fits.property fits.colon hvalue plain
    fun c hc => ⟨(closed c hc).2.1, (closed c hc).2.2, headers c hc⟩
  obtain ⟨c, tail, shape, notBlank⟩ := rule.head_isBlank
  refine ⟨block.stands ?_, settled_of_isWhole whole inert⟩
  rw [shape]
  exact head_render notBlank d.property v

/-- A deferred declaration of a rewritten rule is settled once it is resolved. -/
theorem SturdyRule.deferred (rule : SturdyRule h r placements) {d : Declaration} {why : Deferral}
    (member : .deferred d why ∈ placements) :
    Lasts h (declarationRule r.selector d.property d.value) := by
  obtain ⟨noneBefore, none, closed, hvalue, whole⟩ := rule.sturdy _ member
  have declared := rule.placed _ member
  have fits := rule.fits d declared
  have resolved (n : Nat) (le : n ≤ maxPasses) :
      (stage h)^[n] (declarationRule r.selector d.property d.value) =
        declarationRule r.selector d.property ((stage h)^[n] d.value) :=
    iterate_declarationRule h noneBefore none fun k below =>
      closed k (Nat.le_trans (Nat.le_of_lt below) le)
  have named := rule.properties d declared
  obtain ⟨c, tail, shape, notBlank⟩ := rule.head_isBlank
  have head (value : Text) :
      ∀ d' ∈ (declarationRule r.selector d.property value).head?, Text.isBlank d' = false := by
    rw [shape]
    rintro d' ⟨⟩
    exact notBlank
  have whole' := (isBlock_declarationRule rule.header fits.property fits.value).stands (head _)
  refine ⟨whole'.trimmed, whole'.nonempty, fun n le => ?_, ?_, ?_⟩
  · rw [resolved n le]
    exact (calls_declarationRule h noneBefore none (closed n le)).2.1
  · rw [resolved maxPasses (Nat.le_refl _)]
    exact (isBlock_declarationRule rule.header fits.property hvalue).stands (head _)
  · rw [resolved maxPasses (Nat.le_refl _)]
    intro inert
    refine settled_declarationRule rule.header rule.trimmed fits.property fits.colon named ?_ hvalue
      fun call => ⟨whole call, ?_, inert⟩
    · have := fits.named
      rwa [named] at this
    · obtain ⟨-, -, same⟩ := calls_declarationRule h noneBefore none (closed maxPasses (Nat.le_refl _))
      obtain ⟨-, unreadable⟩ := Bool.and_eq_true_iff.1 inert
      rw [same] at unreadable
      exact Bool.and_eq_true_iff.2 ⟨closed maxPasses (Nat.le_refl _), unreadable⟩

end Rules

/-! ### Items in which nothing is left open -/

section Items

variable {h : Host} {s i : Text}

/-- What an item gives to the native stream stands by itself and is settled. -/
theorem lines_of_sturdy (sturdy : (Fate.of i).Sturdy h) :
    ∀ t ∈ (Fate.of i).lines.flatten, Stands t ∧ Settled t := by
  have same := Fate.item_of i
  intro t ht
  cases fate : Fate.of i with
  | kept j =>
    rw [fate] at same sturdy ht
    obtain rfl : j = i := same
    obtain rfl : t = j := by simpa [Fate.lines] using ht
    exact ⟨sturdy, settled_of_kept fate⟩
  | moved j =>
    rw [fate] at ht
    exact absurd ht List.not_mem_nil
  | rewritten j r placements =>
    rw [fate] at same ht
    obtain rfl : j = i := same
    have rule := SturdyRule.of_fate fate sturdy
    obtain ⟨group, isGroup, inGroup⟩ := List.mem_flatten.1 ht
    rcases List.mem_append.1 isGroup with base | written
    · split at base
      · exact absurd base List.not_mem_nil
      · rename_i some
        rw [List.mem_singleton.1 base] at inGroup
        rw [List.mem_singleton.1 inGroup]
        exact rule.base (by simpa using some)
    · obtain ⟨p, member, isLines⟩ := List.mem_filterMap.1 written
      cases p with
      | base d => cases isLines
      | deferred d why => cases isLines
      | native d blocks =>
        cases isLines
        obtain ⟨v, hv, rfl⟩ := List.mem_map.1 inGroup
        exact rule.variant member hv

/-- What is deferred from an item is settled once it is resolved. -/
theorem lasts_of_sturdy (isItem : i ∈ Sheet.items s) (sturdy : (Fate.of i).Sturdy h) :
    ∀ t ∈ (item i).deferred, Lasts h t := by
  have same := Fate.item_of i
  intro t ht
  rw [Fate.item_eq] at ht
  cases fate : Fate.of i with
  | kept j =>
    rw [fate] at ht
    exact absurd ht List.not_mem_nil
  | moved j =>
    rw [fate] at same sturdy ht
    obtain rfl : j = i := same
    obtain rfl : t = j := by simpa [Fate.entries] using ht
    obtain ⟨trimmed, nonempty⟩ := Sheet.whole_of_mem_items isItem
    obtain ⟨closed, stands, whole⟩ := sturdy
    exact ⟨trimmed, nonempty, closed, stands, settled_of_isWhole whole⟩
  | rewritten j r placements =>
    rw [fate] at same ht
    obtain rfl : j = i := same
    have rule := SturdyRule.of_fate fate sturdy
    obtain ⟨entry, isEntry, rfl⟩ := List.mem_map.1 ht
    obtain ⟨p, member, placed⟩ := List.mem_filterMap.1 isEntry
    cases p with
    | base d => cases placed
    | native d blocks => cases placed
    | deferred d why =>
      cases placed
      exact rule.deferred member

end Items

end Expand

namespace Render

open Expand (Fate)
open Sheet (Stands)
open Occurrence (contents)

/-! ### The first rendering -/

/-- The texts that are deferred from a style sheet. -/
def deferredTexts (s : Text) : List Text :=
  (Sheet.items s).flatMap fun i => (Expand.item i).deferred

/-- The lines of a rendering: those of the native stream, and then the deferred texts, resolved. -/
def emitted (h : Host) (s : Text) : List Text :=
  ((Sheet.items s).flatMap fun i => (Fate.of i).lines).flatten ++
    (deferredTexts s).map (stage h)^[maxPasses]

section First

variable {h : Host} {debug : Bool} {s : Text}

theorem lasts_of_mem_deferredTexts (sturdy : ∀ i ∈ Sheet.items s, (Fate.of i).Sturdy h) :
    ∀ t ∈ deferredTexts s, Expand.Lasts h t := by
  intro t ht
  obtain ⟨i, isItem, ofItem⟩ := List.mem_flatMap.1 ht
  exact Expand.lasts_of_sturdy isItem (sturdy i isItem) t ofItem

theorem lines_of_mem_native (sturdy : ∀ i ∈ Sheet.items s, (Fate.of i).Sturdy h) :
    ∀ t ∈ ((Sheet.items s).flatMap fun i => (Fate.of i).lines).flatten, Stands t ∧ Settled t := by
  intro t ht
  obtain ⟨group, isGroup, inGroup⟩ := List.mem_flatten.1 ht
  obtain ⟨i, isItem, ofItem⟩ := List.mem_flatMap.1 isGroup
  exact Expand.lines_of_sturdy (sturdy i isItem) t (List.mem_flatten.2 ⟨group, ofItem, inGroup⟩)

theorem joinWith_deferredTexts (sturdy : ∀ i ∈ Sheet.items s, (Fate.of i).Sturdy h) :
    (stage h)^[maxPasses] (Text.trim (Text.joinWith ['\n'] (deferredTexts s))) =
      Text.joinWith ['\n'] ((deferredTexts s).map (stage h)^[maxPasses]) := by
  have lasts := lasts_of_mem_deferredTexts sturdy
  rw [Text.trim_joinWith fun t ht => ⟨(lasts t ht).trimmed, (lasts t ht).nonempty⟩]
  exact iterate_joinWith fun t ht k below => (lasts t ht).closed k (Nat.le_of_lt below)

theorem joinWith_native (sturdy : ∀ i ∈ Sheet.items s, (Fate.of i).Sturdy h) :
    Text.trim (Text.joinWith ['\n'] ((Sheet.items s).flatMap fun i => (Expand.item i).native)) =
      Text.joinWith ['\n'] ((Sheet.items s).flatMap fun i => (Fate.of i).lines).flatten := by
  have lines := lines_of_mem_native sturdy
  have native : (Sheet.items s).flatMap (fun i => (Expand.item i).native) =
      ((Sheet.items s).flatMap fun i => (Fate.of i).lines).map (Text.joinWith ['\n']) := by
    rw [List.map_flatMap]
    refine List.flatMap_congr fun i _ => ?_
    rw [Fate.item_eq]
    exact (Fate.of i).native_eq_lines
  have all : ((Sheet.items s).flatMap fun i => (Expand.item i).native).filter (!·.isEmpty) =
      (Sheet.items s).flatMap fun i => (Expand.item i).native := by
    refine List.filter_eq_self.2 fun t ht => ?_
    obtain ⟨i, isItem, ofItem⟩ := List.mem_flatMap.1 ht
    have some := Expand.trim_ne_nil_of_mem_native isItem ofItem
    cases t with
    | nil => exact absurd rfl some
    | cons c t => rfl
  have joined := Text.joinWith_groups
    ((Sheet.items s).flatMap fun i => (Fate.of i).lines)
    fun group isGroup t inGroup => (lines t (List.mem_flatten.2 ⟨group, isGroup, inGroup⟩)).1.nonempty
  rw [← native, all] at joined
  rw [joined]
  exact Text.trim_joinWith fun t ht => ⟨(lines t ht).1.trimmed, (lines t ht).1.nonempty⟩

/-- A rendering is its lines. -/
theorem text_eq_emitted (token : Expand.hasToken s = true)
    (sturdy : ∀ i ∈ Sheet.items s, (Fate.of i).Sturdy h) :
    (render h { debug } s).text = Text.joinWith ['\n'] (emitted h s) := by
  have lasts := lasts_of_mem_deferredTexts sturdy
  have lines := lines_of_mem_native sturdy
  have groups := Text.joinWith_groups
    [((Sheet.items s).flatMap fun i => (Fate.of i).lines).flatten,
      (deferredTexts s).map (stage h)^[maxPasses]]
    (by
      simp only [List.forall_mem_cons, List.forall_mem_map]
      exact ⟨fun t ht => (lines t ht).1.nonempty, fun t ht => (lasts t ht).stands.nonempty, by simp⟩)
  have deferred := joinWith_deferredTexts sturdy
  rw [deferredTexts] at deferred
  rw [text_of_hasToken h debug token, joinWith_native sturdy, deferred]
  simpa [emitted, deferredTexts] using groups

/-- Below the limit of passes, nothing is left to resolve in the deferred texts. -/
theorem isInert_of_limit (token : Expand.hasToken s = true)
    (sturdy : ∀ i ∈ Sheet.items s, (Fate.of i).Sturdy h)
    (limit : limitReached ∉ (render h { debug } s).effects) :
    ∀ t ∈ deferredTexts s, isInert ((stage h)^[maxPasses] t) = true := by
  have lasts := lasts_of_mem_deferredTexts sturdy
  intro t ht
  have some : (Expand.sheet false s).hasDeferred = true := by
    have : deferredTexts s ≠ [] := List.ne_nil_of_mem ht
    simpa [Expand.sheet, token, deferredTexts, List.flatMap_map] using this
  have deferred : (Expand.sheet false s).deferred =
      Text.trim (Text.joinWith ['\n'] (deferredTexts s)) := by
    simp [Expand.sheet, token, deferredTexts, List.flatMap_map]
  have resolving : limitReached ∉ (resolve h { debug } (Expand.sheet false s).deferred).effects := by
    intro member
    apply limit
    simp only [render, token, Bool.not_true, Bool.false_eq_true, if_false, some, if_true]
    exact List.mem_append_right _ member
  have unreadable := unreadable_of_limit resolving
  have closed : ∀ u ∈ (deferredTexts s).map (stage h)^[maxPasses],
      Occurrence.callsClosed u = true := by
    intro u hu
    obtain ⟨u, inTexts, rfl⟩ := List.mem_map.1 hu
    exact (lasts u inTexts).closed maxPasses (Nat.le_refl _)
  rw [deferred, joinWith_deferredTexts sturdy, Occurrence.contents_joinWith closed,
    List.all_flatMap, List.all_eq_true] at unreadable
  have member := List.mem_map_of_mem (f := (stage h)^[maxPasses]) ht
  exact Bool.and_eq_true_iff.2 ⟨closed _ member, unreadable _ member⟩

/-- The lines of a rendering stand by themselves and are settled. -/
theorem settled_of_mem_emitted (token : Expand.hasToken s = true)
    (sturdy : ∀ i ∈ Sheet.items s, (Fate.of i).Sturdy h)
    (limit : limitReached ∉ (render h { debug } s).effects) :
    ∀ t ∈ emitted h s, Stands t ∧ Settled t := by
  intro t ht
  rcases List.mem_append.1 ht with native | deferred
  · exact lines_of_mem_native sturdy t native
  · obtain ⟨u, inTexts, rfl⟩ := List.mem_map.1 deferred
    have lasts := lasts_of_mem_deferredTexts sturdy u inTexts
    exact ⟨lasts.stands, lasts.settled (isInert_of_limit token sturdy limit u inTexts)⟩

end First

/-! ### Further renderings -/

/-- Let nothing of a style sheet be left open and the limit of passes not be reached. Then its rendering
    is a list of lines, and rendering it again puts those lines behind the others that are deferred
    again. So the second rendering is the first one just when no line that stays is behind one that is
    deferred, and the third is always the second. A style sheet without the letters of a call is its own
    rendering. -/
theorem render_again (h : Host) (debug : Bool) (s : Text)
    (sturdy : ∀ i ∈ Sheet.items s, (Fate.of i).Sturdy h)
    (limit : limitReached ∉ (render h { debug } s).effects) :
    let again (t : Text) : Text := (render h { debug } t).text
    (Expand.hasToken s = true →
      again s = Text.joinWith ['\n'] (emitted h s) ∧
      again (again s) = Text.joinWith ['\n'] (settleOrder (emitted h s))) ∧
    (again (again s) = again s ↔ (Expand.hasToken s = true →
      (emitted h s).Pairwise fun a b => stays b = true → stays a = true)) ∧
    again (again (again s)) = again (again s) := by
  intro again
  cases token : Expand.hasToken s with
  | false =>
    have same : again s = s := by simp [again, render, token]
    simp [same]
  | true =>
    have settled := settled_of_mem_emitted token sturdy limit
    have standing : ∀ t ∈ emitted h s, Stands t := fun t ht => (settled t ht).1
    have first : again s = Text.joinWith ['\n'] (emitted h s) := text_eq_emitted token sturdy
    have second : again (again s) = Text.joinWith ['\n'] (settleOrder (emitted h s)) := by
      rw [first]
      exact render_lines h debug standing fun t ht => (settled t ht).2
    have standing' : ∀ t ∈ settleOrder (emitted h s), Stands t := fun t ht =>
      standing t (mem_settleOrder.1 ht)
    have third : again (again (again s)) = again (again s) := by
      have := render_lines h debug standing' fun t ht => (settled t (mem_settleOrder.1 ht)).2
      rw [settleOrder_settleOrder] at this
      rw [second]
      exact this
    refine ⟨fun _ => ⟨first, second⟩, ?_, third⟩
    rw [second, first, ← settleOrder_eq_self_iff]
    constructor
    · intro same _
      have items := congrArg Sheet.items same
      rwa [Sheet.items_joinWith standing', Sheet.items_joinWith standing] at items
    · intro same
      rw [same rfl]

/-- A comment and a name with the letters of a call, calls that are expanded and resolved, and last one
    that cannot be read. -/
def callsAndLookAlikes : Text :=
  ("/* if( */ .m \x7b a: my-if(1); \x7d .a \x7b c: if(media(p): b; else: w); \x7d " ++
    ".b \x7b c: if(style(--t): r; else: g); d: if(x); \x7d").toList

/-- The call that cannot be read is last, so rendering again changes nothing. -/
theorem render_again_callsAndLookAlikes :
    let once := (render {} {} callsAndLookAlikes).text
    once = ("/* if( */\n.m \x7b a: my-if(1); \x7d\n.a \x7b c: w; \x7d\n" ++
      "@media (p) \x7b\n  .a \x7b c: b; \x7d\n\x7d\n.b \x7b c: g; \x7d\n.b \x7b d: if(x); \x7d").toList ∧
    (render {} {} once).text = once := by
  have sturdy : ∀ i ∈ Sheet.items callsAndLookAlikes, (Fate.of i).Sturdy {} := by decide +kernel
  have limit : limitReached ∉ (render {} {} callsAndLookAlikes).effects := by decide +kernel
  have order : (emitted {} callsAndLookAlikes).Pairwise fun a b => stays b = true → stays a = true := by
    decide +kernel
  obtain ⟨-, again, -⟩ := render_again {} false callsAndLookAlikes sturdy limit
  exact ⟨by decide +kernel, again.2 fun _ => order⟩

/-- Style sheets that rendering again changes. A call that cannot be read stands in front of a value that
    is resolved; a call is left in the condition of a block that needs no evaluation; a resolved value
    begins with a blank in front of a call that cannot be read. A value with a call that is never closed
    gets another semicolon every time. -/
theorem rendering_again_differs :
    let again (t : Text) : Text := (render {} {} t).text
    let unreadableFirst := (".a \x7b color: if(media(x) red); \x7d " ++
      ".b \x7b color: if(style(--t: dark): black; else: white); \x7d").toList
    let callInHeader := ".a \x7b color: if(media(if(x)): a; else: b); \x7d .b \x7b color: red; \x7d".toList
    let blankFirst := ".a \x7b color: if(style(--t): x; else: ) if(b); \x7d".toList
    let unclosed := ".a \x7b color: if(media(x): a \x7d".toList
    (limitReached ∉ (render {} {} unreadableFirst).effects ∧
      again unreadableFirst = ".a \x7b color: if(media(x) red); \x7d\n.b \x7b color: white; \x7d".toList ∧
      again (again unreadableFirst) =
        ".b \x7b color: white; \x7d\n.a \x7b color: if(media(x) red); \x7d".toList) ∧
    ((Expand.sheet false callInHeader).hasDeferred = false ∧
      again (again callInHeader) ≠ again callInHeader) ∧
    again (again blankFirst) ≠ again blankFirst ∧
    (again unclosed = ".a \x7b color: if(media(x): a; \x7d".toList ∧
      again (again unclosed) = ".a \x7b color: if(media(x): a;; \x7d".toList ∧
      again (again (again unclosed)) = ".a \x7b color: if(media(x): a;;; \x7d".toList) := by
  decide +kernel

end Render
end CondCss
