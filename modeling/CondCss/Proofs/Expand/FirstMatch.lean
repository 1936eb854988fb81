import CondCss.Expand.Declaration
import CondCss.Proofs.Cascade
import CondCss.Proofs.Expand.Ranking
import CondCss.Proofs.Readings

/-!
# The last variant that applies

A declaration with conditional parts is written as one variant for every selection of choices. This
module shows that the order of the variants does what conditional parts mean: of the variants that
apply, the last one has, for each part, the value of its first true clause or of its `else`.

The argument compares strengths. For one part, the first true clause is at least as strong as every
other choice that applies, and only equal choices are equally strong (`strength_le_first`). So the
selection of first choices has the largest sum of strengths, and no other one has the same sum
(`strengths_le_first`).
-/

namespace CondCss
namespace Expand

/-- Whether the condition of a choice holds; the `else` has none. -/
def choiceHolds (truth : Truth) : Choice → Bool
  | none => true
  | some clause => clause.isTrue truth

/-- Whether all conditions of a selection hold. -/
def selectionHolds (truth : Truth) (selection : List Choice) : Bool :=
  selection.all (choiceHolds truth)

/-- The choice that a conditional means: its first true clause, otherwise its `else`. -/
def firstChoice (truth : Truth) (c : Conditional) : Option Choice :=
  ((c.clauses.find? (·.isTrue truth)).map some).or (if c.hasElse then some none else none)

/-- Whether a variant applies. -/
def Variant.applies (truth : Truth) (v : Variant) : Bool :=
  v.conditions.all (·.isTrue truth)

theorem valueUnder_eq_map_firstChoice (truth : Truth) (c : Conditional) :
    c.valueUnder truth = (firstChoice truth c).map (chosenValue c) := by
  unfold Conditional.valueUnder firstChoice Conditional.hasElse
  cases c.clauses.find? (·.isTrue truth) with
  | some clause => rfl
  | none => cases h : c.otherwise <;> simp [chosenValue, h]

theorem applies_variant (truth : Truth) (value : Text) (occurrences : List Occurrence)
    (conditionals : List Conditional) (selection : List Choice) :
    (variant value occurrences conditionals selection).applies truth =
      selectionHolds truth selection := by
  simp only [Variant.applies, variant, selectionHolds]
  induction selection with
  | nil => rfl
  | cons choice selection ih =>
    cases choice with
    | none =>
      rw [List.filterMap_cons_none rfl, List.all_cons, ih]
      rfl
    | some clause =>
      have step : List.filterMap id (some clause :: selection) =
          clause :: List.filterMap id selection := rfl
      rw [step, List.all_cons, List.all_cons, ih]
      rfl

/-! ### One conditional -/

theorem mem_choices {c : Conditional} {choice : Choice} :
    choice ∈ choices c ↔
      (choice = none ∧ c.hasElse = true) ∨ ∃ clause ∈ c.clauses, choice = some clause := by
  cases h : c.hasElse <;> simp [choices, h, eq_comm]

/-- The first element that passes a test stands before every other one that does, counted by first
    occurrences. -/
theorem idxOf_find?_le {p : Clause → Bool} {l : List Clause} {first other : Clause}
    (found : l.find? p = some first) (member : other ∈ l) (passes : p other = true) :
    l.idxOf first ≤ l.idxOf other := by
  induction l with
  | nil => simp at found
  | cons head tail ih =>
    by_cases hp : p head = true
    · have same : head = first := by simpa [List.find?_cons, hp] using found
      rw [same, List.idxOf_cons_self]
      exact Nat.zero_le _
    · have found' : tail.find? p = some first := by simpa [List.find?_cons, hp] using found
      have differs : head ≠ first := fun h => hp (h ▸ List.find?_some found')
      have differs' : head ≠ other := fun h => hp (h ▸ passes)
      have member' : other ∈ tail := (List.mem_cons.1 member).resolve_left (Ne.symm differs')
      rw [List.idxOf_cons_ne tail differs, List.idxOf_cons_ne tail differs']
      exact Nat.succ_le_succ (ih found' member')

/-- The strength of a clause of a conditional is positive. -/
theorem strength_pos {c : Conditional} {clause : Clause} (member : clause ∈ c.clauses) :
    0 < strength c (some clause) :=
  Nat.sub_pos_of_lt (List.idxOf_lt_length_of_mem member)

/-- Where a choice applies, there is a first choice; that one is at least as strong, and equal to
    the choice if it is equally strong. -/
theorem strength_le_first {truth : Truth} {c : Conditional} {choice : Choice}
    (member : choice ∈ choices c) (holds : choiceHolds truth choice = true) :
    ∃ first, firstChoice truth c = some first ∧ strength c choice ≤ strength c first ∧
      (strength c choice = strength c first → choice = first) := by
  rcases mem_choices.1 member with ⟨rfl, hasElse⟩ | ⟨clause, inClauses, rfl⟩
  · cases found : c.clauses.find? (·.isTrue truth) with
    | none => exact ⟨none, by simp [firstChoice, found, hasElse], Nat.le_refl _, fun _ => rfl⟩
    | some first =>
      have positive := strength_pos (List.mem_of_find?_eq_some found)
      refine ⟨some first, by simp [firstChoice, found], Nat.zero_le _, fun equal => ?_⟩
      exact absurd equal (Nat.ne_of_lt positive)
  · cases found : c.clauses.find? (·.isTrue truth) with
    | none => exact absurd holds (List.find?_eq_none.1 found clause inClauses)
    | some first =>
      have inFront := idxOf_find?_le found inClauses holds
      have firstBound := List.idxOf_lt_length_of_mem (List.mem_of_find?_eq_some found)
      have bound := List.idxOf_lt_length_of_mem inClauses
      refine ⟨some first, by simp [firstChoice, found], ?_, fun equal => ?_⟩
      · simp only [strength]
        omega
      · have sameIndex : c.clauses.idxOf clause = c.clauses.idxOf first := by
          simp only [strength] at equal
          omega
        rw [(List.idxOf_inj inClauses).1 sameIndex]

theorem firstChoice_mem {truth : Truth} {c : Conditional} {first : Choice}
    (h : firstChoice truth c = some first) :
    first ∈ choices c ∧ choiceHolds truth first = true := by
  cases found : c.clauses.find? (·.isTrue truth) with
  | some clause =>
    obtain rfl : some clause = first := by simpa [firstChoice, found] using h
    have holds : clause.isTrue truth = true := List.find?_some found
    exact ⟨mem_choices.2 (Or.inr ⟨clause, List.mem_of_find?_eq_some found, rfl⟩), holds⟩
  | none =>
    obtain ⟨hasElse, rfl⟩ : c.hasElse = true ∧ none = first := by
      simpa [firstChoice, found] using h
    exact ⟨mem_choices.2 (Or.inl ⟨rfl, hasElse⟩), rfl⟩

/-! ### All conditionals of a value -/

/-- The sum of the strengths of a selection. -/
def totalStrength (conditionals : List Conditional) (selection : List Choice) : Nat :=
  (strengths conditionals selection).foldr (· + ·) 0

/-- Where a selection applies, every conditional has a first choice; together these are at least as
    strong, and they are the selection if it is equally strong. -/
theorem strengths_le_first {truth : Truth} {conditionals : List Conditional}
    {selection : List Choice} (member : List.Forall₂ (· ∈ ·) selection (conditionals.map choices))
    (holds : selectionHolds truth selection = true) :
    ∃ firsts, conditionals.mapM (firstChoice truth) = some firsts ∧
      totalStrength conditionals selection ≤ totalStrength conditionals firsts ∧
      (totalStrength conditionals selection = totalStrength conditionals firsts →
        selection = firsts) := by
  induction conditionals generalizing selection with
  | nil =>
    cases member
    exact ⟨[], rfl, Nat.le_refl _, fun _ => rfl⟩
  | cons c conditionals ih =>
    rcases member with _ | ⟨inChoices, rest⟩
    rename_i choice selection
    obtain ⟨holdsHere, holdsRest⟩ := Bool.and_eq_true_iff.1 holds
    obtain ⟨first, hfirst, le, unique⟩ := strength_le_first inChoices holdsHere
    obtain ⟨firsts, hfirsts, leRest, uniqueRest⟩ := ih rest holdsRest
    simp only [totalStrength, strengths] at leRest uniqueRest
    refine ⟨first :: firsts, by simp [List.mapM_cons, hfirst, hfirsts], ?_, fun equal => ?_⟩
    · simp only [totalStrength, strengths, List.zipWith_cons_cons, List.foldr_cons]
      omega
    · simp only [totalStrength, strengths, List.zipWith_cons_cons, List.foldr_cons] at equal
      rw [unique (by omega), uniqueRest (by omega)]

theorem firstChoices_mem {truth : Truth} {conditionals : List Conditional} {firsts : List Choice}
    (h : conditionals.mapM (firstChoice truth) = some firsts) :
    List.Forall₂ (· ∈ ·) firsts (conditionals.map choices) ∧
      selectionHolds truth firsts = true := by
  induction conditionals generalizing firsts with
  | nil =>
    obtain rfl : [] = firsts := by simpa using h
    exact ⟨List.Forall₂.nil, rfl⟩
  | cons c conditionals ih =>
    obtain ⟨first, hfirst, rest, hrest, rfl⟩ : ∃ first, firstChoice truth c = some first ∧
        ∃ rest, conditionals.mapM (firstChoice truth) = some rest ∧ first :: rest = firsts := by
      simpa [List.mapM_cons, Option.bind_eq_some_iff] using h
    obtain ⟨memberRest, holdsRest⟩ := ih hrest
    obtain ⟨member, holds⟩ := firstChoice_mem hfirst
    exact ⟨List.Forall₂.cons member memberRest, Bool.and_eq_true_iff.2 ⟨holds, holdsRest⟩⟩

theorem totalStrength_le_of_comesFirst {conditionals : List Conditional} {a b : List Choice}
    (h : comesFirst (rank conditionals a) (rank conditionals b) = true) :
    totalStrength conditionals a ≤ totalStrength conditionals b := by
  simp only [rank, comesFirst, Bool.or_eq_true, Bool.and_eq_true, decide_eq_true_eq,
    beq_iff_eq] at h
  unfold totalStrength
  omega

/-- The last selection that applies takes the first choice of every conditional; when some
    conditional has no first choice, no selection applies. -/
theorem getLast?_filter_orderedSelections (truth : Truth) (conditionals : List Conditional) :
    ((orderedSelections conditionals).filter (selectionHolds truth)).getLast? =
      conditionals.mapM (firstChoice truth) := by
  cases hlast : ((orderedSelections conditionals).filter (selectionHolds truth)).getLast? with
  | some last =>
    obtain ⟨inOrder, holds⟩ := List.mem_filter.1 (List.mem_of_getLast? hlast)
    obtain ⟨firsts, hfirsts, le, unique⟩ :=
      strengths_le_first (mem_orderedSelections.1 inOrder) holds
    obtain ⟨memberFirsts, holdsFirsts⟩ := firstChoices_mem hfirsts
    have below := rank_le_of_getLast? hlast (mem_orderedSelections.2 memberFirsts) holdsFirsts
    rw [hfirsts, unique (Nat.le_antisymm le (totalStrength_le_of_comesFirst below))]
  | none =>
    cases hfirsts : conditionals.mapM (firstChoice truth) with
    | none => rfl
    | some firsts =>
      obtain ⟨memberFirsts, holdsFirsts⟩ := firstChoices_mem hfirsts
      have inFilter := List.mem_filter.2 ⟨mem_orderedSelections.2 memberFirsts, holdsFirsts⟩
      rw [List.getLast?_eq_none_iff.1 hlast] at inFilter
      exact absurd inFilter List.not_mem_nil

theorem mapM_valueUnder (truth : Truth) (conditionals : List Conditional) :
    conditionals.mapM (Conditional.valueUnder truth) =
      (conditionals.mapM (firstChoice truth)).map (List.zipWith chosenValue conditionals) := by
  induction conditionals with
  | nil => rfl
  | cons c conditionals ih =>
    rw [List.mapM_cons, List.mapM_cons, ih, valueUnder_eq_map_firstChoice]
    cases firstChoice truth c with
    | none => rfl
    | some first => cases conditionals.mapM (firstChoice truth) <;> rfl

/-- Of the variants that apply, the last one takes the first choice of every conditional. -/
theorem getLast?_filter_applies (truth : Truth) (value : Text) (occurrences : List Occurrence)
    (conditionals : List Conditional) :
    (((orderedSelections conditionals).map (variant value occurrences conditionals)).filter
      (·.applies truth)).getLast? =
      (conditionals.mapM (firstChoice truth)).map (variant value occurrences conditionals) := by
  have sameTest : ((·.applies truth) ∘ variant value occurrences conditionals) =
      selectionHolds truth :=
    funext (applies_variant truth value occurrences conditionals)
  rw [List.filter_map, sameTest, List.getLast?_map, getLast?_filter_orderedSelections]

/-- Of the variants that apply, the last one has the value that the conditional parts mean. -/
theorem getLast?_filter_variants (truth : Truth) (value : Text) (occurrences : List Occurrence)
    (conditionals : List Conditional) :
    ((((orderedSelections conditionals).map (variant value occurrences conditionals)).filter
      (·.applies truth)).getLast?).map (·.value) =
      (conditionals.mapM (Conditional.valueUnder truth)).map
        (Occurrence.replaceAll value occurrences) := by
  rw [getLast?_filter_applies, mapM_valueUnder, Option.map_map, Option.map_map]
  rfl

/-! ### Expanded declarations -/

theorem readNative_eq_ok {o : Occurrence} {c : Conditional} (h : readNative o = .ok c) :
    Conditional.parse .strict o.content = .ok c ∧ c.isNative = true := by
  unfold readNative at h
  split at h
  · cases h
  · split at h
    · cases h
      exact ⟨‹_›, ‹_›⟩
    · cases h

theorem mapM_readNative_eq_ok {occurrences : List Occurrence} {conditionals : List Conditional}
    (h : occurrences.mapM readNative = .ok conditionals) :
    occurrences.mapM (fun o => Conditional.parse .strict o.content) = .ok conditionals ∧
      ∀ c ∈ conditionals, c.isNative = true := by
  induction occurrences generalizing conditionals with
  | nil =>
    cases h
    exact ⟨rfl, fun c hc => absurd hc List.not_mem_nil⟩
  | cons o occurrences ih =>
    obtain ⟨c, rest, hread, hrest, rfl⟩ := mapM_cons_eq_ok_iff.1 h
    obtain ⟨parsed, isNative⟩ := readNative_eq_ok hread
    obtain ⟨parsedRest, isNativeRest⟩ := ih hrest
    exact ⟨mapM_cons_eq_ok_iff.2 ⟨c, rest, parsed, parsedRest, rfl⟩,
      List.forall_mem_cons.2 ⟨isNative, isNativeRest⟩⟩

/-- What a value with calls is expanded to, when it is. -/
theorem variants_eq_ok {value : Text} {all : List Variant} (calls : Occurrence.allIn value ≠ [])
    (h : variants value = .ok all) :
    ∃ conditionals, (Occurrence.allIn value).mapM readNative = .ok conditionals ∧
      selectionCount conditionals ≤ maxVariants ∧
      all = (orderedSelections conditionals).map
        (variant value (Occurrence.allIn value) conditionals) ∧
      ∀ v ∈ all, Occurrence.anyIn v.value = false := by
  unfold variants at h
  split at h
  · exact absurd ‹_› calls
  · cases hread : (Occurrence.allIn value).mapM readNative with
    | error e => rw [hread] at h; cases h
    | ok conditionals =>
      rw [hread] at h
      change (if maxVariants < selectionCount conditionals then _ else _) = _ at h
      split at h
      · cases h
      · change (if List.any _ _ = true then _ else _) = _ at h
        split at h
        · cases h
        · rename_i few simple
          cases h
          refine ⟨conditionals, rfl, Nat.le_of_not_lt few, rfl, fun v hv => ?_⟩
          cases hany : Occurrence.anyIn v.value with
          | false => rfl
          | true => exact absurd (List.any_eq_true.2 ⟨v, hv, hany⟩) simple

/-- A declaration that is not deferred has variants, and is written as these. -/
theorem declaration_of_deferred_eq_none {selector property value : Text}
    (h : (declaration selector property value).deferred = none) :
    ∃ all, variants value = .ok all ∧ declaration selector property value =
      { native := Text.joinWith ['\n'] (all.map (·.render selector property)) } := by
  cases hall : variants value with
  | ok all => exact ⟨all, rfl, by simp only [declaration, hall]⟩
  | error why => simp [declaration, hall] at h

/-- A chosen clause is one of a conditional. -/
theorem exists_of_mem_conditions {value : Text} {occurrences : List Occurrence}
    {conditionals : List Conditional} {selection : List Choice}
    (member : selection ∈ orderedSelections conditionals) {clause : Clause}
    (h : clause ∈ (variant value occurrences conditionals selection).conditions) :
    ∃ c ∈ conditionals, clause ∈ c.clauses := by
  have chosen : some clause ∈ selection := by simpa [variant] using h
  obtain ⟨options, inOptions, isChoice⟩ :=
    mem_options_of_mem_selection (mem_orderedSelections.1 member) chosen
  obtain ⟨c, inConditionals, rfl⟩ := List.mem_map.1 inOptions
  rcases mem_choices.1 isChoice with ⟨absurdity, _⟩ | ⟨clause', inClauses, same⟩
  · cases absurdity
  · obtain rfl := Option.some.inj same
    exact ⟨c, inConditionals, inClauses⟩

/-- The chosen clauses of native conditionals ask about media and features. -/
theorem kind_of_mem_conditions {value : Text} {occurrences : List Occurrence}
    {conditionals : List Conditional} (isNative : ∀ c ∈ conditionals, c.isNative = true)
    {selection : List Choice} (member : selection ∈ orderedSelections conditionals)
    {clause : Clause}
    (h : clause ∈ (variant value occurrences conditionals selection).conditions) :
    clause.kind = .media ∨ clause.kind = .supports := by
  obtain ⟨c, inConditionals, inClauses⟩ := exists_of_mem_conditions member h
  have native := List.all_eq_true.1 (isNative c inConditionals) clause inClauses
  cases kind : clause.kind <;> simp_all [ConditionKind.isNative]

/-- A variant that asks about media and features applies exactly when every expression in the
    headers of its blocks holds. -/
theorem applies_eq_headers (truth : Truth) (v : Variant)
    (native : ∀ c ∈ v.conditions, c.kind = .media ∨ c.kind = .supports) :
    v.applies truth =
      ((expressionsOf .media v.conditions).eraseDups.all (truth .media) &&
        (expressionsOf .supports v.conditions).eraseDups.all (truth .supports)) := by
  rw [Bool.eq_iff_iff]
  simp only [Variant.applies, Clause.isTrue, Bool.and_eq_true, List.all_eq_true,
    List.mem_eraseDups, expressionsOf, List.mem_map, List.mem_filter, beq_iff_eq]
  constructor
  · intro all
    constructor <;> rintro _ ⟨c, ⟨member, kind⟩, rfl⟩ <;> exact kind ▸ all c member
  · rintro ⟨media, supports⟩ c member
    rcases native c member with kind | kind
    · exact kind ▸ media c.expression ⟨c, ⟨member, kind⟩, rfl⟩
    · exact kind ▸ supports c.expression ⟨c, ⟨member, kind⟩, rfl⟩

/-- How many choices there are for a conditional. -/
def choiceCount (c : Conditional) : Nat :=
  c.clauses.length + if c.hasElse then 1 else 0

theorem length_choices (c : Conditional) : (choices c).length = choiceCount c := by
  unfold choices choiceCount
  cases c.hasElse <;> simp

theorem length_orderedSelections (conditionals : List Conditional) :
    (orderedSelections conditionals).length =
      (conditionals.map choiceCount).foldr (· * ·) 1 := by
  rw [orderedSelections, (sortStable_perm _).length_eq, length_selections, List.map_map]
  exact congrArg _ (List.map_congr_left fun c _ => length_choices c)

theorem selectionCount_eq_length (conditionals : List Conditional) :
    selectionCount conditionals = (orderedSelections conditionals).length := by
  have product (l : List Nat) (start : Nat) :
      l.foldl (· * ·) start = start * l.foldr (· * ·) 1 := by
    induction l generalizing start with
    | nil => simp
    | cons n l ih => rw [List.foldl_cons, ih, List.foldr_cons, Nat.mul_assoc]
  rw [length_orderedSelections, selectionCount, product, Nat.one_mul]
  exact congrArg _ (List.map_congr_left fun c _ => length_choices c)

theorem mapM_valueUnder_eq_none {truth : Truth} {conditionals : List Conditional}
    {c : Conditional} (member : c ∈ conditionals) (h : c.valueUnder truth = none) :
    conditionals.mapM (Conditional.valueUnder truth) = none := by
  induction conditionals with
  | nil => exact absurd member List.not_mem_nil
  | cons first conditionals ih =>
    rw [List.mapM_cons]
    rcases List.mem_cons.1 member with rfl | later
    · rw [h]
      rfl
    · rw [ih later]
      cases first.valueUnder truth <;> rfl

end Expand
end CondCss
