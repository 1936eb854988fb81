import CondCss.Proofs.Expand.SelectorComments
import CondCss.Proofs.Expand.StrayCalls
import CondCss.Proofs.Sheet.Rejoined

/-!
# Style sheets without calls

A style sheet without a call should pass through: its items are those of the native stream, and nothing
else comes of it. It does where it is not read at all, since it has not even the letters of a call. If it
has them in other names, it is read, and a rule is read without its comments, so that what stands in front
of a comment and behind it can become a call. `passes_through_iff` says that this is the only way in which
a style sheet without calls is changed, and that no comment may stand inside the letters of a call for it;
`gluedCall_changed` is such a style sheet.
-/

namespace CondCss

/-! ### Calls of a part -/

namespace Occurrence

variable {before : Option Char} {s t u : Text}

theorem startsAfter_append_left (h : startsAfter before (t ++ u) = false) :
    startsAfter before t = false := by
  induction t generalizing before with
  | nil => rfl
  | cons c t ih =>
    obtain ⟨notHere, notLater⟩ := Bool.or_eq_false_iff.1 h
    refine Bool.or_eq_false_iff.2 ⟨?_, ih notLater⟩
    rw [Bool.eq_false_iff] at notHere ⊢
    intro call
    obtain ⟨here, ident⟩ := Bool.and_eq_true_iff.1 call
    have longer := (List.isPrefixOf_iff_prefix.1 here).trans (List.prefix_append (c :: t) u)
    exact notHere (Bool.and_eq_true_iff.2 ⟨List.isPrefixOf_iff_prefix.2 longer, ident⟩)

theorem startsAfter_run (p : Sheet.Place) (h : startsAfter p.before (t ++ u) = false) :
    startsAfter (p.run t u).before u = false := by
  induction t generalizing p with
  | nil => exact h
  | cons c t ih =>
    obtain ⟨-, notLater⟩ := Bool.or_eq_false_iff.1 h
    refine ih (p.step c (t ++ u)) ?_
    rwa [Sheet.Place.before_step]

/-- A call that starts a text does so behind every character but one of a name. -/
theorem startsAfter_of_anyIn (h : anyIn t = false) (before : Option Char) :
    startsAfter before t = false := by
  cases t with
  | nil => rfl
  | cons c t =>
    obtain ⟨notHere, notLater⟩ := Bool.or_eq_false_iff.1 h
    refine Bool.or_eq_false_iff.2 ⟨?_, notLater⟩
    rw [isCandidate] at notHere ⊢
    simp only [Option.any_none, Bool.not_false, Bool.and_true] at notHere
    rw [notHere, Bool.false_and]

/-- No piece of a style sheet starts in a name. -/
theorem anyIn_of_leads {p : Sheet.Place} (led : p.Leads t) (h : startsAfter p.before t = false) :
    anyIn t = false := by
  have plain {c : Char} (ident : Text.isIdentChar c = false) (behind : p.before = some c) :
      anyIn t = false := by
    rwa [behind, startsAfter_before ident] at h
  rcases led with rfl | comment | ends
  · rfl
  · obtain ⟨inner, rfl⟩ := Sheet.exists_eq_of_startsComment comment
    exact h
  · simp only [List.mem_cons, List.not_mem_nil, or_false] at ends
    rcases ends with front | ends | ends | ends
    · rwa [front] at h
    · exact plain (by decide) ends
    · exact plain (by decide) ends
    · exact plain (by decide) ends

theorem anyIn_of_areLed {p : Sheet.Place} {pieces : List Text} (led : Sheet.AreLed p pieces)
    (h : startsAfter p.before pieces.flatten = false) : ∀ q ∈ pieces, anyIn q = false := by
  induction pieces generalizing p with
  | nil => simp
  | cons q pieces ih =>
    obtain ⟨-, here, later⟩ := led
    rw [List.flatten_cons] at h
    exact List.forall_mem_cons.2
      ⟨anyIn_of_leads here (startsAfter_append_left h), ih later (startsAfter_run p h)⟩

/-- The items of a style sheet without calls have none. -/
theorem anyIn_of_mem_items (free : anyIn s = false) {i : Text} (member : i ∈ Sheet.items s) :
    anyIn i = false := by
  obtain ⟨q, isPiece, rfl⟩ := List.mem_map.1 (List.mem_filter.1 member).1
  rw [anyIn_trim]
  refine anyIn_of_areLed (Sheet.areLed_pieces s) ?_ q isPiece
  rwa [Sheet.pieces, Sheet.flatten_piecesFrom]

/-! ### Calls that appear when comments are taken out -/

/-- Whether a comment stands behind the first or the second letter of a call. -/
def hasCut (s : Text) : Bool :=
  Text.hasInfix ['i', '/', '*'] s || Text.hasInfix ['i', 'f', '/', '*'] s

theorem hasCut_eq_false_of_part (part : t <:+: s) (h : hasCut s = false) : hasCut t = false := by
  obtain ⟨first, second⟩ := Bool.or_eq_false_iff.1 h
  exact Bool.or_eq_false_iff.2 ⟨Text.hasInfix_eq_false_of_infix part first,
    Text.hasInfix_eq_false_of_infix part second⟩

/-- A call that is left when comments are taken out was one, if none stands inside its letters. -/
theorem isPrefixOf_of_withoutComments (uncut : hasCut t = false) (notHere : Sheet.startsComment t = false)
    (h : token.isPrefixOf (Sheet.withoutComments t) = true) : token.isPrefixOf t = true := by
  obtain ⟨notBehindI, notBehindF⟩ := Bool.or_eq_false_iff.1 uncut
  cases t with
  | nil => exact h
  | cons c rest =>
    rw [Sheet.withoutComments_cons notHere] at h
    obtain ⟨rfl, h⟩ : 'i' = c ∧ ['f', '('].isPrefixOf (Sheet.withoutComments rest) = true := by
      simpa [token, List.isPrefixOf] using h
    have notHere : Sheet.startsComment rest = false := (Bool.or_eq_false_iff.1 notBehindI).1
    cases rest with
    | nil => exact h
    | cons c rest =>
      rw [Sheet.withoutComments_cons notHere] at h
      obtain ⟨rfl, h⟩ : 'f' = c ∧ ['('].isPrefixOf (Sheet.withoutComments rest) = true := by
        simpa [token] using h
      have notHere : Sheet.startsComment rest = false := (Bool.or_eq_false_iff.1 notBehindF).1
      cases rest with
      | nil => exact h
      | cons c rest =>
        rw [Sheet.withoutComments_cons notHere] at h
        simpa [token, List.isPrefixOf] using h

/-- Taking out comments makes no call, if none stands inside the letters of one. -/
theorem startsAfter_withoutComments (free : startsAfter before t = false) (uncut : hasCut t = false) :
    startsAfter before (Sheet.withoutComments t) = false := by
  -- A comment is passed over at once, so the induction is on the length of what is left.
  induction length : t.length using Nat.strongRecOn generalizing before t with
  | ind n ih =>
    subst length
    cases t with
    | nil => rfl
    | cons c rest =>
      cases starts : Sheet.startsComment (c :: rest) with
      | false =>
        obtain ⟨notHere, notLater⟩ := Bool.or_eq_false_iff.1 free
        have later := ih rest.length (by simp) notLater
          (hasCut_eq_false_of_part (List.suffix_cons c rest).isInfix uncut) rfl
        rw [Sheet.withoutComments_cons starts]
        refine Bool.or_eq_false_iff.2 ⟨?_, later⟩
        rw [Bool.eq_false_iff] at notHere ⊢
        intro call
        obtain ⟨here, ident⟩ := Bool.and_eq_true_iff.1 call
        rw [← Sheet.withoutComments_cons starts] at here
        exact notHere (Bool.and_eq_true_iff.2 ⟨isPrefixOf_of_withoutComments uncut starts here, ident⟩)
      | true =>
        obtain ⟨inner, shape⟩ := Sheet.exists_eq_of_startsComment starts
        cases shape
        cases ends : Sheet.commentLength? inner with
        | none =>
          have whole : Sheet.withoutComments ('/' :: '*' :: inner) = '/' :: '*' :: inner := by
            simp [Sheet.withoutComments, Sheet.withoutCommentsFrom, starts, ends]
          rwa [whole]
        | some m =>
          obtain ⟨x, split⟩ := Sheet.exists_of_commentLength? ends
          have shape : '/' :: '*' :: inner = ('/' :: '*' :: (x ++ ['*'])) ++ '/' :: inner.drop m := by
            conv_lhs => rw [split]
            simp
          have behind : anyIn (inner.drop m) = false := by
            rw [shape, startsAfter_append_cons ⟨by decide, by decide⟩] at free
            exact (Bool.or_eq_false_iff.1 free).2
          have part : inner.drop m <:+: '/' :: '*' :: inner :=
            ((List.drop_suffix m inner).trans (List.suffix_append ['/', '*'] inner)).isInfix
          have shorter : (inner.drop m).length < ('/' :: '*' :: inner).length := by
            rw [List.length_drop, List.length_cons, List.length_cons]
            omega
          rw [Sheet.withoutComments_comment ends]
          exact ih _ shorter (startsAfter_of_anyIn behind before) (hasCut_eq_false_of_part part uncut) rfl

end Occurrence

namespace Expand

open Occurrence (anyIn hasCut IsBoundary)

/-! ### Items without calls -/

/-- Whether an item is a rule and has a call in the value of a declaration, as it is read without its
    comments. -/
def readsCall (i : Text) : Bool :=
  (Sheet.readRule? i).any fun r => r.declarations.any isConditional

theorem item_of_readsCall {i : Text} (free : anyIn i = false) :
    (readsCall i = true → (item i).changed = true) ∧
      (readsCall i = false → item i = { native := [i] }) := by
  cases read : Sheet.readRule? i with
  | none => simp [readsCall, item, read, free]
  | some r =>
    cases call : r.declarations.any isConditional <;> simp [readsCall, item, read, call, rule]

/-- A declaration has no call in its value if there is none in the body without comments. -/
theorem isConditional_of_mem_readDeclarations {body : Text} {d : Declaration}
    (free : anyIn (Sheet.withoutComments body) = false) (member : d ∈ Sheet.readDeclarations body) :
    isConditional d = false := by
  obtain ⟨fragment, isFragment, read⟩ := List.mem_filterMap.1 member
  have semicolon : ∀ c ∈ [';'], IsBoundary c :=
    List.forall_mem_singleton.2 Occurrence.isBoundary_semicolon
  have split := Occurrence.anyIn_joinWith (by simp) semicolon
    (Scan.splitTopLevel (· == ';') (Sheet.withoutComments body))
  rw [Text.joinWith, Scan.splitTopLevel, Scan.intercalate_splitTopLevelFrom,
    free] at split
  have fragmentFree := List.any_eq_false.1 split.symm fragment isFragment
  rw [anyIn_fragment read, Bool.not_eq_true, Bool.or_eq_false_iff] at fragmentFree
  exact fragmentFree.2

/-- A value of a rule has no call if there is none in the rule, and no comment inside the letters of
    one. -/
theorem readsCall_of_uncut {i : Text} (free : anyIn i = false) (uncut : hasCut i = false) :
    readsCall i = false := by
  rw [Bool.eq_false_iff]
  intro call
  obtain ⟨r, read, some⟩ := (Option.any_eq_true _ _).1 call
  obtain ⟨d, member, conditional⟩ := List.any_eq_true.1 some
  unfold Sheet.readRule? at read
  split at read
  · rename_i selector body cut
    split at read
    · cases read
    · cases read
      obtain ⟨tail, rfl, -, -⟩ := Sheet.cutBraces?_eq_some_iff.1 cut
      rw [Occurrence.anyIn_append_cons Occurrence.isBoundary_opening,
        Occurrence.anyIn_append_cons Occurrence.isBoundary_closing] at free
      simp only [Bool.or_eq_false_iff] at free
      have part : body <:+: selector ++ '{' :: (body ++ '}' :: tail) :=
        ⟨selector ++ ['{'], '}' :: tail, by simp⟩
      have bodyFree : anyIn (Sheet.withoutComments body) = false :=
        Occurrence.startsAfter_withoutComments free.2.1
          (Occurrence.hasCut_eq_false_of_part part uncut)
      rw [isConditional_of_mem_readDeclarations bodyFree member] at conditional
      cases conditional
  · cases read

/-! ### Passing through -/

/-- What a report says of a style sheet of which nothing is changed: its items are those of the native
    stream, and nothing else comes of it. -/
structure Report.PassesThrough (r : Report) (s : Text) : Prop where
  native : Sheet.items r.native = Sheet.items s
  deferred : r.deferred = []
  hasDeferred : r.hasDeferred = false
  diagnostics : r.diagnostics = []
  changed : r.changed = 0
  total : r.total = (Sheet.items s).length

theorem passesThrough_of_unread {s : Text} (unread : hasToken s = false) :
    (sheet false s).PassesThrough s := by
  have native : (sheet false s).native = Text.trim s := by simp [sheet, unread]
  refine ⟨by rw [native, Sheet.items_trim], ?_, ?_, ?_, ?_, ?_⟩ <;> simp [sheet, unread]

/-- Read item by item, a style sheet passes through just if every item is kept. -/
theorem passesThrough_ofItems_iff {s : Text} (free : anyIn s = false) :
    (Report.ofItems false ((Sheet.items s).map item)).PassesThrough s ↔
      ∀ i ∈ Sheet.items s, readsCall i = false := by
  have itemFree (i : Text) (member : i ∈ Sheet.items s) : anyIn i = false :=
    Occurrence.anyIn_of_mem_items free member
  constructor
  · intro passes i member
    have none := List.countP_eq_zero.1 passes.changed (item i) (List.mem_map_of_mem member)
    rw [Bool.eq_false_iff]
    intro call
    exact none ((item_of_readsCall (itemFree i member)).1 call)
  · intro kept
    have same : (Sheet.items s).map item = (Sheet.items s).map fun i => { native := [i] } :=
      List.map_congr_left fun i member =>
        (item_of_readsCall (itemFree i member)).2 (kept i member)
    have nothing : (Sheet.items s).flatMap (fun _ => ([] : List Text)) = [] :=
      List.flatMap_eq_nil_iff.2 fun _ _ => rfl
    rw [same]
    constructor
    · simp [Report.ofItems, List.flatMap_map, Sheet.items_trim, Sheet.items_joinWith_items]
    · simp only [Report.ofItems, List.flatMap_map, nothing]
      rfl
    all_goals simp [Report.ofItems, List.flatMap_map, List.countP_map, Function.comp_def]

/-- A style sheet without calls passes through just if it has not even the letters of one, or no rule in
    it has one when its comments are taken out. Read item by item it does so just in the second case; and
    both ways to expand it agree that it passes through if no comment stands inside the letters of a
    call. -/
theorem passes_through_iff (s : Text) (free : anyIn s = false) :
    ((sheet false s).PassesThrough s ↔
      hasToken s = false ∨ ∀ i ∈ Sheet.items s, readsCall i = false) ∧
    ((Report.ofItems false ((Sheet.items s).map item)).PassesThrough s ↔
      ∀ i ∈ Sheet.items s, readsCall i = false) ∧
    (hasCut s = false → (sheet false s).PassesThrough s ∧
      (Report.ofItems false ((Sheet.items s).map item)).PassesThrough s) := by
  have itemwise := passesThrough_ofItems_iff free
  have whole : (sheet false s).PassesThrough s ↔
      hasToken s = false ∨ ∀ i ∈ Sheet.items s, readsCall i = false := by
    cases token : hasToken s with
    | false => simp [passesThrough_of_unread token]
    | true => simpa [sheet_eq_ofItems false token] using itemwise
  refine ⟨whole, itemwise, fun uncut => ?_⟩
  have kept : ∀ i ∈ Sheet.items s, readsCall i = false := fun i member =>
    readsCall_of_uncut (Occurrence.anyIn_of_mem_items free member)
      (Occurrence.hasCut_eq_false_of_part (Sheet.infix_of_mem_items member) uncut)
  exact ⟨whole.2 (.inr kept), itemwise.2 kept⟩

/-- The letters of a call at the end of other names, with comments, strings and braces that nothing
    closes. -/
def lookAlikes : Text :=
  ("\n.a \x7b b: my-if(x); /* i */ \x7d c /* \x7d */ \x7d@d \"\x7d;\" _if(;" ++
    "\n e /* f */ \x7b \"g ").toList

theorem passes_through_iff_lookAlikes :
    anyIn lookAlikes = false ∧ hasToken lookAlikes = true ∧ hasCut lookAlikes = false ∧
      (Sheet.items lookAlikes).length = 7 ∧ (sheet false lookAlikes).PassesThrough lookAlikes := by
  have free : anyIn lookAlikes = false := by decide +kernel
  have uncut : hasCut lookAlikes = false := by decide +kernel
  exact ⟨free, by decide +kernel, uncut, by decide +kernel,
    ((passes_through_iff lookAlikes free).2.2 uncut).1⟩

/-- A comment inside the letters of a call. -/
def cutCall : Text :=
  "b: i/**/f(x);".toList

/-- A style sheet without a call: a comment cuts the letters of one, and others end another name. -/
def gluedCall : Text :=
  ".a ".toList ++ Sheet.inBraces (cutCall ++ " c: my-if(y);".toList)

/-- Without a call, a style sheet is changed, a declaration is deferred and an error found. Without the
    other name it is kept as it is, though it is changed when it is read item by item. -/
theorem gluedCall_changed :
    anyIn gluedCall = false ∧
    (sheet false gluedCall).native = ".a \x7b c: my-if(y); \x7d".toList ∧
    Sheet.items (sheet false gluedCall).native ≠ Sheet.items gluedCall ∧
    (sheet false gluedCall).deferred = ".a \x7b b: if(x); \x7d".toList ∧
    (sheet false gluedCall).errors.length = 1 ∧ (sheet false gluedCall).changed = 1 ∧
    let cut := ".a ".toList ++ Sheet.inBraces cutCall
    (sheet false cut).native = cut ∧ (sheet false cut).changed = 0 ∧
    (Report.ofItems false ((Sheet.items cut).map item)).changed = 1 := by
  decide +kernel

end Expand
end CondCss
