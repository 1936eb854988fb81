import CondCss.Proofs.Expand.SelectorComments
import CondCss.Proofs.Sheet.Rejoined

/-!
# Items and parentheses

An item should not end inside parentheses. The scan for items does not count them, though: outside all
blocks it ends an item with every semicolon and in front of every comment, and a block with its brace,
whatever is open. `topItems` are the items as they are when parentheses are counted as well. If the
parentheses of these are paired, those of the items are just if no item ends inside parentheses, and then
both are the same (`items_paired_iff`). `dataUrl_cut` is a statement with a semicolon in parentheses, which
is taken apart.
-/

namespace CondCss
namespace Sheet

variable {p : Place} {n m : Nat} {c : Char} {s t u rest : Text} {pieces : List Text}

/-! ### Parentheses outside strings and comments -/

/-- How many parentheses are open behind a character, when `n` are open in front of it. One that closes
    nothing has no answer. -/
def Place.nest? (p : Place) (n : Nat) (c : Char) : Option Nat :=
  if p.InCode ∧ c = '(' then some (n + 1)
  else if p.InCode ∧ c = ')' then (if n = 0 then none else some (n - 1))
  else some n

/-- How many parentheses are open behind a text that is read from the place `p` on. -/
def nesting? (p : Place) (n : Nat) : Text → Option Nat
  | [] => some n
  | c :: rest => (p.nest? n c).bind fun m => nesting? (p.step c rest) m rest

/-- Whether the parentheses of a text are paired, outside strings and comments. -/
def Paired (t : Text) : Prop :=
  nesting? .start 0 t = some 0

instance (t : Text) : Decidable (Paired t) :=
  inferInstanceAs (Decidable (_ = _))

theorem Place.nest?_of_ne (opening : c ≠ '(') (closing : c ≠ ')') (p : Place) (n : Nat) :
    p.nest? n c = some n := by
  simp [nest?, opening, closing]

theorem Place.nest?_of_not_inCode (h : ¬p.InCode) (n : Nat) (c : Char) : p.nest? n c = some n := by
  simp [nest?, h]

theorem Place.nest?_of_ends (h : p.Ends c ∨ p.EndsComment) (n : Nat) : p.nest? n c = some n := by
  rcases h with ⟨-, -, ⟨rfl, -⟩ | ⟨rfl, -⟩⟩ | ⟨closing, -⟩
  · exact nest?_of_ne (by decide) (by decide) p n
  · exact nest?_of_ne (by decide) (by decide) p n
  · exact nest?_of_not_inCode (fun code => by cases closing.symm.trans code.1) n c

/-- What follows a text has no part in its parentheses. -/
theorem nesting?_step_append (p : Place) (n : Nat) (c : Char) (t u : Text) :
    nesting? (p.step c (t ++ u)) n t = nesting? (p.step c t) n t := by
  cases t with
  | nil => rfl
  | cons d t => rw [List.cons_append, Place.step_cons_congr p c d _ t]

theorem nesting?_append (p : Place) (n : Nat) (t u : Text) :
    nesting? p n (t ++ u) = (nesting? p n t).bind fun m => nesting? (p.run t u) m u := by
  induction t generalizing p n with
  | nil => rfl
  | cons c t ih =>
    simp only [List.cons_append, nesting?, Option.bind_assoc, ih, nesting?_step_append, Place.run]

theorem nesting?_of_blank (h : ∀ c ∈ t, Text.isBlank c = true) (p : Place) (n : Nat) :
    nesting? p n t = some n := by
  induction t generalizing p with
  | nil => rfl
  | cons c t ih =>
    obtain ⟨hc, later⟩ := List.forall_mem_cons.1 h
    rw [nesting?, Place.nest?_of_ne (Scan.ne_of_blank hc (by decide)) (Scan.ne_of_blank hc (by decide))]
    exact ih later _

/-- Outside everything, parentheses count as at the start. -/
theorem nesting?_eq_start (top : p.IsTop) (h : p.Unescaped t) (n : Nat) :
    nesting? p n t = nesting? .start n t := by
  cases t with
  | nil => rfl
  | cons c t =>
    have code : p.InCode := ⟨top.zone, top.quote⟩
    have codeAtStart : Place.start.InCode := ⟨rfl, rfl⟩
    have same : p.nest? n c = Place.start.nest? n c := by simp [Place.nest?, code, codeAtStart]
    rw [nesting?, nesting?, same, Place.step_eq_start top h]

/-- The parentheses of a piece are those of its item. -/
theorem nesting?_eq_trim (top : p.IsTop) (led : p.Leads t) (n : Nat) :
    nesting? p n t = nesting? .start n (Text.trim t) := by
  obtain ⟨lead, trail, eq, hlead, htrail⟩ := Text.exists_eq_append_trim t
  generalize Text.trim t = core at eq
  subst eq
  have behind : (p.run lead (core ++ trail)).IsTop := isTop_run_of_blank top hlead _
  rw [nesting?_append, nesting?_of_blank hlead, Option.bind_some, nesting?_append,
    nesting?_eq_start behind (led.unescaped_run hlead _)]
  cases nesting? .start n core with
  | none => rfl
  | some m => exact nesting?_of_blank htrail _ m

/-! ### Pieces whose parentheses are paired -/

/-- Pieces that are read one after the other, each of which leaves no parenthesis open. -/
def AreLevel : Place → (n : Nat) → List Text → Prop
  | _, _, [] => True
  | p, n, t :: later => nesting? p n t = some 0 ∧ AreLevel (p.run t later.flatten) 0 later

theorem areLevel_consHead (some : pieces ≠ []) (nest : p.nest? n c = Option.some m) :
    AreLevel p n (Text.consHead c pieces) ↔ AreLevel (p.step c pieces.flatten) m pieces := by
  obtain ⟨t, later, rfl⟩ := List.exists_cons_of_ne_nil some
  simp only [Text.consHead, AreLevel, nesting?, nest, Option.bind_some, List.flatten_cons,
    nesting?_step_append, Place.run]

theorem areLevel_comment (some : pieces ≠ []) (nest : p.nest? n c = Option.some m) :
    AreLevel p n ([] :: Text.consHead c pieces) ↔
      n = 0 ∧ AreLevel (p.step c pieces.flatten) m pieces := by
  have here : nesting? p n [] = Option.some 0 ↔ n = 0 := Option.some_inj
  rw [AreLevel, here]
  refine and_congr_right ?_
  rintro rfl
  exact areLevel_consHead some nest

theorem areLevel_cut (ends : p.Ends c ∨ p.EndsComment) :
    AreLevel p n ([c] :: pieces) ↔ n = 0 ∧ AreLevel (p.step c pieces.flatten) n pieces := by
  have here : nesting? p n [c] = Option.some 0 ↔ n = 0 := by
    simp [nesting?, Place.nest?_of_ends ends]
  rw [AreLevel, here]
  refine and_congr_right ?_
  rintro rfl
  rfl

theorem AreLevel.nesting?_flatten (h : AreLevel p n pieces) (some : pieces ≠ []) :
    nesting? p n pieces.flatten = Option.some 0 := by
  induction pieces generalizing p n with
  | nil => exact absurd rfl some
  | cons t later ih =>
    obtain ⟨here, behind⟩ := h
    rw [List.flatten_cons, nesting?_append, here, Option.bind_some]
    by_cases more : later = []
    · rw [more]
      rfl
    · exact ih behind more

/-- Pieces leave no parenthesis open just if their items do not. -/
theorem areLevel_iff (led : AreLed p pieces) :
    AreLevel p 0 pieces ↔ ∀ t ∈ trimAll pieces, Paired t := by
  induction pieces generalizing p with
  | nil => simp [AreLevel, trimAll]
  | cons q later ih =>
    obtain ⟨top, here, behind⟩ := led
    rw [AreLevel, ih behind, nesting?_eq_trim top here, trimAll_cons, ← Paired]
    split
    · rename_i blank
      rw [blank]
      exact and_iff_right rfl
    · rw [List.forall_mem_cons]

/-! ### Where items end -/

/-- Whether an item ends with a character, or a comment outside all blocks ends or starts with it. -/
def Place.Cuts (p : Place) (c : Char) (rest : Text) : Prop :=
  p.Ends c ∨ p.EndsComment ∨ (p.IsTop ∧ startsComment (c :: rest) = true)

/-- Whether no parenthesis is open wherever an item ends in a text that is read from the place `p` on. -/
def EndsOutside (p : Place) (n : Nat) (s : Text) : Prop :=
  ∀ front c rest, s = front ++ c :: rest → (p.run front (c :: rest)).Cuts c rest →
    nesting? p n front = some 0

theorem endsOutside_nil (p : Place) (n : Nat) : EndsOutside p n [] := by
  intro front c rest split
  simp at split

theorem endsOutside_cons (nest : p.nest? n c = some m) :
    EndsOutside p n (c :: rest) ↔ (p.Cuts c rest → n = 0) ∧ EndsOutside (p.step c rest) m rest := by
  have cons (front : Text) {d : Char} {back : Text} (split : rest = front ++ d :: back) :
      nesting? p n (c :: front) = nesting? (p.step c rest) m front := by
    rw [nesting?, nest, Option.bind_some, split, nesting?_step_append]
  constructor
  · intro outside
    refine ⟨fun cuts => Option.some.inj (outside [] c rest rfl cuts), ?_⟩
    intro front d back split cuts
    rw [← cons front split]
    subst split
    exact outside (c :: front) d back rfl cuts
  · rintro ⟨here, later⟩ front d back split cuts
    cases front with
    | nil =>
      cases split
      exact congrArg some (here cuts)
    | cons _ front =>
      cases split
      rw [cons front rfl]
      exact later front d back rfl cuts

/-- Pieces leave no parenthesis open just if none of them ends inside parentheses. -/
theorem areLevel_piecesAt_iff (whole : nesting? p n s = some 0) :
    AreLevel p n (piecesAt p s) ↔ EndsOutside p n s := by
  induction s generalizing p n with
  | nil => exact iff_of_true ⟨whole, trivial⟩ (endsOutside_nil p n)
  | cons c rest ih =>
    obtain ⟨m, nest, later⟩ := Option.bind_eq_some_iff.1 whole
    have onward := ih later
    have nonempty := piecesAt_ne_nil (p.step c rest) rest
    rw [endsOutside_cons nest, piecesAt]
    split
    · rename_i comment
      have cuts : p.Cuts c rest := .inr (.inr comment)
      rw [areLevel_comment nonempty nest, flatten_piecesAt, onward, imp_iff_right cuts]
    · rename_i notComment
      split
      · rename_i ends
        obtain rfl : n = m := Option.some.inj ((Place.nest?_of_ends ends n).symm.trans nest)
        have cuts : p.Cuts c rest := ends.imp id .inl
        rw [areLevel_cut ends, flatten_piecesAt, onward, imp_iff_right cuts]
      · rename_i goesOn
        have notCuts : ¬p.Cuts c rest := by
          rintro (ends | ends | comment)
          · exact goesOn (.inl ends)
          · exact goesOn (.inr ends)
          · exact notComment comment
        rw [areLevel_consHead nonempty nest, flatten_piecesAt, onward,
          and_iff_right fun cuts => absurd cuts notCuts]

/-! ### Items with regard to parentheses -/

/-- The pieces of a text, read from the place `p` on, when none may end inside parentheses. A parenthesis
    that closes nothing is passed over. -/
def topPiecesAt (p : Place) (n : Nat) : Text → List Text
  | [] => [[]]
  | c :: rest =>
    let onward := topPiecesAt (p.step c rest) ((p.nest? n c).getD 0) rest
    if n = 0 ∧ p.IsTop ∧ startsComment (c :: rest) = true then [] :: Text.consHead c onward
    else if n = 0 ∧ (p.Ends c ∨ p.EndsComment) then [c] :: onward
    else Text.consHead c onward

/-- The items of a style sheet when none may end inside parentheses. -/
def topItems (s : Text) : List Text :=
  trimAll (topPiecesAt .start 0 s)

theorem splits_topPiecesAt (p : Place) (n : Nat) (s : Text) : Splits p s (topPiecesAt p n s) := by
  induction s generalizing p n with
  | nil => exact .nil p
  | cons c rest ih =>
    rw [topPiecesAt]
    split
    · rename_i comment
      exact .comment comment.2.1 comment.2.2 (ih _ _)
    · split
      · rename_i ends
        exact .ends ends.2 (ih _ _)
      · exact .goesOn (ih _ _)

theorem areLevel_topPiecesAt (whole : nesting? p n s = some 0) : AreLevel p n (topPiecesAt p n s) := by
  induction s generalizing p n with
  | nil => exact ⟨whole, trivial⟩
  | cons c rest ih =>
    obtain ⟨m, nest, later⟩ := Option.bind_eq_some_iff.1 whole
    have onward := ih later
    have parts := splits_topPiecesAt (p.step c rest) m rest
    rw [topPiecesAt, nest, Option.getD_some]
    split
    · rename_i comment
      rw [areLevel_comment parts.ne_nil nest, parts.flatten]
      exact ⟨comment.1, onward⟩
    · split
      · rename_i ends
        obtain rfl : n = m := Option.some.inj ((Place.nest?_of_ends ends.2 n).symm.trans nest)
        rw [areLevel_cut ends.2, parts.flatten]
        exact ⟨ends.1, onward⟩
      · rwa [areLevel_consHead parts.ne_nil nest, parts.flatten]

/-- The parentheses of a text are paired just if those of each of its items are. -/
theorem paired_iff (s : Text) : Paired s ↔ ∀ t ∈ topItems s, Paired t := by
  have parts := splits_topPiecesAt .start 0 s
  rw [topItems, ← areLevel_iff parts.areLed]
  constructor
  · exact areLevel_topPiecesAt
  · intro level
    have whole := level.nesting?_flatten parts.ne_nil
    rwa [parts.flatten] at whole

theorem topPiecesAt_eq_piecesAt (whole : nesting? p n s = some 0) (outside : EndsOutside p n s) :
    topPiecesAt p n s = piecesAt p s := by
  induction s generalizing p n with
  | nil => rfl
  | cons c rest ih =>
    obtain ⟨m, nest, later⟩ := Option.bind_eq_some_iff.1 whole
    obtain ⟨here, onward⟩ := (endsOutside_cons nest).1 outside
    have comment : n = 0 ∧ p.IsTop ∧ startsComment (c :: rest) = true ↔
        p.IsTop ∧ startsComment (c :: rest) = true :=
      and_iff_right_of_imp fun comment => here (.inr (.inr comment))
    have ends : n = 0 ∧ (p.Ends c ∨ p.EndsComment) ↔ p.Ends c ∨ p.EndsComment :=
      and_iff_right_of_imp fun ends => here (ends.imp id .inl)
    simp only [topPiecesAt, piecesAt, nest, Option.getD_some, ih later onward, comment, ends]

/-- Whether no item of a style sheet ends inside parentheses. -/
def CutsOutside (s : Text) : Prop :=
  ∀ front c rest, s = front ++ c :: rest → (placeAt front (c :: rest)).Cuts c rest → Paired front

/-- The parentheses of the items are paired just if no item ends inside parentheses. -/
theorem paired_items_iff (paired : Paired s) : (∀ t ∈ items s, Paired t) ↔ CutsOutside s := by
  rw [items_eq_trimAll, ← areLevel_iff (areLed_pieces s), pieces_eq_piecesAt]
  exact areLevel_piecesAt_iff paired

theorem items_eq_topItems_iff (paired : Paired s) : items s = topItems s ↔ CutsOutside s := by
  constructor
  · intro same
    rw [← paired_items_iff paired, same]
    exact (paired_iff s).1 paired
  · intro outside
    rw [items_eq_trimAll, pieces_eq_piecesAt, topItems, topPiecesAt_eq_piecesAt paired outside]

end Sheet

namespace Expand

open Occurrence (anyIn)

/-- A statement is all that comes of it, in one of the two streams, and in the native one if it has no
    call. -/
theorem item_of_braceless {t : Text} (braceless : '{' ∉ t) :
    (item t).native ++ (item t).deferred = [t] ∧ (anyIn t = false → item t = { native := [t] }) := by
  have noRule := Sheet.readRule?_of_braceless braceless
  refine ⟨?_, fun free => by simp [item, noRule, free]⟩
  cases moved : !Sheet.startsComment t && anyIn t <;> simp [item, noRule, moved]

/-- For every style sheet in which each statement and rule has paired parentheses outside strings and
    comments: those of its items are paired just if no item ends inside parentheses, and just then the
    items are the statements and rules. Expanding the style sheet then goes by these, and a statement is
    put out as it is. -/
theorem items_paired_iff (shorten : Bool) (s : Text)
    (paired : ∀ t ∈ Sheet.topItems s, Sheet.Paired t) :
    ((∀ t ∈ Sheet.items s, Sheet.Paired t) ↔ Sheet.CutsOutside s) ∧
    (Sheet.items s = Sheet.topItems s ↔ Sheet.CutsOutside s) ∧
    (Sheet.CutsOutside s →
      (hasToken s = true → sheet shorten s = .ofItems shorten ((Sheet.topItems s).map item)) ∧
      (hasToken s = false → Sheet.items (sheet false s).native = Sheet.topItems s) ∧
      ∀ t ∈ Sheet.topItems s, '{' ∉ t → (item t).native ++ (item t).deferred = [t] ∧
        (anyIn t = false → item t = { native := [t] })) := by
  have whole := (Sheet.paired_iff s).2 paired
  have same := Sheet.items_eq_topItems_iff whole
  refine ⟨Sheet.paired_items_iff whole, same, fun outside => ⟨fun token => ?_, fun unread => ?_,
    fun t _ braceless => item_of_braceless braceless⟩⟩
  · rw [sheet_eq_ofItems shorten token, same.2 outside]
  · have native : (sheet false s).native = Text.trim s := by simp [sheet, unread]
    rw [native, Sheet.items_trim, same.2 outside]

/-- A statement with parentheses in parentheses and in a string, a comment with one, and a rule with a
    semicolon in parentheses. -/
def nestedParens : Text :=
  ("@import url(a(b)) \"(;\" layer(c);" ++
    " /* ) */ .a:not(:is(.b)) \x7b d: if(media(x): e; else: f); \x7d").toList

theorem items_paired_iff_nestedParens :
    (∀ t ∈ Sheet.topItems nestedParens, Sheet.Paired t) ∧ (Sheet.topItems nestedParens).length = 3 ∧
    Sheet.CutsOutside nestedParens ∧
    sheet false nestedParens = .ofItems false ((Sheet.topItems nestedParens).map item) ∧
    item "@import url(a(b)) \"(;\" layer(c);".toList =
      { native := ["@import url(a(b)) \"(;\" layer(c);".toList] } := by
  have paired : ∀ t ∈ Sheet.topItems nestedParens, Sheet.Paired t := by decide +kernel
  obtain ⟨itemsPaired, -, kept⟩ := items_paired_iff false nestedParens paired
  have outside : Sheet.CutsOutside nestedParens := itemsPaired.1 (by decide +kernel)
  obtain ⟨expanded, -, statements⟩ := kept outside
  refine ⟨paired, by decide +kernel, outside, expanded (by decide), ?_⟩
  exact (statements _ (by decide +kernel) (by decide)).2 (by decide)

/-- A statement with a semicolon in parentheses. -/
def dataUrl : Text :=
  "@import url(data:text/css;base64,YQ==);".toList

/-- A block with a brace in parentheses, and one with a comment there. -/
def bracketed : List Text :=
  ["@supports selector(a\x7bb\x7dc) \x7b d \x7b e: f \x7d \x7d".toList,
    "@media (a /* b */) \x7b c \x7b d: e \x7d \x7d".toList]

/-- The statement is taken apart, and the native stream has its halves on two lines. So is what has a
    brace or a comment in parentheses. -/
theorem dataUrl_cut :
    Sheet.topItems dataUrl = [dataUrl] ∧ Sheet.Paired dataUrl ∧
    Sheet.items dataUrl = ["@import url(data:text/css;".toList, "base64,YQ==);".toList] ∧
    (∀ t ∈ Sheet.items dataUrl, ¬Sheet.Paired t) ∧
    (sheet false (dataUrl ++ ".a \x7b color: if(media(x): b; else: c) \x7d".toList)).native =
      ("@import url(data:text/css;\nbase64,YQ==);\n.a \x7b color: c; \x7d\n" ++
        "@media (x) \x7b\n  .a \x7b color: b; \x7d\n\x7d").toList ∧
    ∀ t ∈ bracketed, Sheet.topItems t = [t] ∧ Sheet.Paired t ∧
      ∃ half ∈ Sheet.items t, ¬Sheet.Paired half := by
  decide +kernel

end Expand
end CondCss
