import CondCss.Expand.Sheet
import CondCss.Proofs.Sheet.Quoted

/-!
# Comments in selectors

A comment in the selector of a rule should not change for which elements the rule is rewritten. But a
comment outside all blocks is an item of its own, wherever it stands: it cuts the selector in two. What
stands in front of it becomes an item without a block, and what is generated for the rule has as its
selector only what stands behind it.

`items_commented` gives the items of a rule with a comment in its selector, and `selector_behind_comment`
what comes of them: the whole selector is kept just if nothing but blanks stands in front of the comment.
-/

namespace CondCss
namespace Sheet

variable {p : Place} {c front back body : Text}

/-! ### Cutting a piece in two -/

theorem Place.before_run (p : Place) (t rest : Text) :
    (p.run t rest).before = t.getLast?.or p.before := by
  induction t generalizing p with
  | nil => rfl
  | cons a t ih =>
    rw [Place.run, ih, Place.before_step, List.getLast?_cons]
    cases t.getLast? <;> rfl

/-- A piece that goes on behind its first character starts no comment there and does not end. -/
theorem piecesAt_eq_cons_cons {a : Char} {rest : Text} {later : List Text} (code : p.zone = .code)
    (depth : p.depth = 0) (more : rest ≠ [])
    (whole : piecesAt p (a :: rest) = (a :: rest) :: later) :
    (p.quote = none → startsComment (a :: rest) = false) ∧ ¬p.Ends a ∧
      piecesAt (p.step a rest) rest = rest :: later := by
  rw [piecesAt] at whole
  split at whole
  · cases whole
  · rename_i notComment
    split at whole
    · obtain ⟨same, -⟩ := List.cons.inj whole
      exact absurd (List.cons.inj same).2.symm more
    · rename_i goesOn
      refine ⟨fun closed => ?_, fun ends => goesOn (.inl ends), ?_⟩
      · rw [Bool.eq_false_iff]
        exact fun starts => notComment ⟨⟨closed, depth, code⟩, starts⟩
      · obtain ⟨first, others, shape⟩ := List.exists_cons_of_ne_nil (piecesAt_ne_nil (p.step a rest) rest)
        rw [shape] at whole ⊢
        obtain ⟨same, rfl⟩ := List.cons.inj whole
        rw [(List.cons.inj same).2]

/-- The scan passes over the front of a piece outside all blocks. -/
theorem piecesAt_front {x w : Text} {later : List Text} (code : p.zone = .code) (depth : p.depth = 0)
    (noBrace : '{' ∉ x) (more : w ≠ []) (whole : piecesAt p (x ++ w) = (x ++ w) :: later) :
    (p.run x w).zone = .code ∧ (p.run x w).depth = 0 ∧ piecesAt (p.run x w) w = w :: later ∧
      ∀ w', w'.head? ≠ some '*' → piecesAt p (x ++ w') = Text.prepend x (piecesAt (p.run x w) w') := by
  induction x generalizing p with
  | nil => exact ⟨code, depth, whole, fun _ _ => rfl⟩
  | cons a x ih =>
    obtain ⟨notBrace, noBrace⟩ := not_or.1 (mt List.mem_cons.2 noBrace)
    obtain ⟨notComment, notEnds, onward⟩ :=
      piecesAt_eq_cons_cons code depth (List.append_ne_nil_of_right_ne_nil x more) whole
    have step := Place.step_code code a (x ++ w) notComment
    have code' : (p.step a (x ++ w)).zone = .code := by rw [step]
    have depth' : (p.step a (x ++ w)).depth = 0 := by
      simp [step, depth, Place.depthBehind, Ne.symm notBrace]
    obtain ⟨zone, top, rest, others⟩ := ih code' depth' noBrace onward
    refine ⟨zone, top, rest, fun w' notStar => ?_⟩
    -- Only whether a star follows the slash at the end of the front depends on what follows it.
    have notComment' (closed : p.quote = none) : startsComment (a :: (x ++ w')) = false := by
      cases x with
      | nil =>
        cases w' with
        | nil => simp [startsComment, List.isPrefixOf]
        | cons d w' =>
          have : '*' ≠ d := fun same => notStar (by rw [same]; rfl)
          simp [startsComment, List.isPrefixOf, this]
      | cons b x => simpa [startsComment, List.isPrefixOf] using notComment closed
    have step' : p.step a (x ++ w') = p.step a (x ++ w) := by
      rw [step, Place.step_code code a (x ++ w') notComment']
    have notHere : ¬(p.IsTop ∧ startsComment (a :: (x ++ w')) = true) := by
      rintro ⟨top, starts⟩
      rw [notComment' top.quote] at starts
      cases starts
    have goesOn : ¬(p.Ends a ∨ p.EndsComment) := by
      rintro (ends | ends)
      · exact notEnds ends
      · cases code.symm.trans ends.1
    rw [List.cons_append, piecesAt, if_neg notHere, if_neg goesOn, step', others w' notStar]
    rfl

/-! ### Whole comments -/

/-- A comment that goes up to its first end. -/
def IsComment (c : Text) : Prop :=
  startsComment c = true ∧ commentLength? (c.drop 2) = some (c.length - 2)

instance (c : Text) : Decidable (IsComment c) :=
  inferInstanceAs (Decidable (_ ∧ _))

theorem IsComment.exists_inner (h : IsComment c) :
    ∃ inner, c = '/' :: '*' :: inner ∧ commentLength? inner = some inner.length := by
  obtain ⟨inner, rfl⟩ := exists_eq_of_startsComment h.1
  exact ⟨inner, rfl, h.2⟩

theorem IsComment.trim_eq_self (h : IsComment c) : Text.trim c = c := by
  obtain ⟨inner, rfl, ends⟩ := h.exists_inner
  obtain ⟨x, shape⟩ := exists_of_commentLength? ends
  rw [List.drop_length] at shape
  refine Text.trim_eq_self ?_ ?_
  · rintro _ ⟨rfl⟩
    decide
  · rw [shape, show '/' :: '*' :: (x ++ ['*', '/']) = ('/' :: '*' :: x ++ ['*']) ++ ['/'] by simp,
      List.getLast?_concat]
    rintro _ ⟨rfl⟩
    decide

/-- What is left of a comment outside all blocks is a piece of its own. -/
theorem piecesFrom_comment {inner : Text} (ends : commentLength? inner = some inner.length)
    (before : Option Char) (w : Text) :
    piecesFrom before none 0 .comment (inner ++ w) =
      inner :: piecesFrom (some '/') none 0 .code w := by
  fun_induction commentLength? inner generalizing before with
  | case1 => cases ends
  | case2 rest =>
    obtain rfl : rest = [] := by simpa using ends
    rfl
  | case3 a rest goesOn ih =>
    obtain ⟨n, found, length⟩ := Option.map_eq_some_iff.1 ends
    obtain rfl : n = rest.length := by simpa using length
    have stays (tail : Text) (star : a = '*') (slash : rest ++ w = '/' :: tail) : False := by
      cases rest with
      | nil => cases found
      | cons b rest =>
        obtain ⟨rfl, -⟩ := List.cons.inj slash
        exact goesOn rest star rfl
    rw [List.cons_append, piecesFrom.eq_3 _ _ _ _ _ stays, ih found]
    rfl

theorem piecesAt_comment_append (top : p.IsTop) (h : IsComment c) (w : Text) :
    piecesAt p (c ++ w) = [] :: c :: piecesAt ⟨some '/', none, 0, .code⟩ w := by
  obtain ⟨inner, rfl, ends⟩ := h.exists_inner
  have inside := piecesFrom_comment ends (some '*') w
  rw [piecesFrom_eq_piecesAt, piecesFrom_eq_piecesAt] at inside
  have star : (Place.mk (some '/') none 0 .opening).step '*' (inner ++ w) =
      ⟨some '*', none, 0, .comment⟩ := rfl
  rw [List.cons_append, List.cons_append, piecesAt, if_pos ⟨top, rfl⟩,
    Place.step_of_startsComment top rfl, piecesAt_comment (by simp) (by simp [Place.EndsComment]), star]
  exact congrArg (fun pieces => [] :: Text.consHead '/' (Text.consHead '*' pieces)) inside

/-! ### A comment in a selector -/

/-- A body between braces. -/
def inBraces (body : Text) : Text :=
  '{' :: (body ++ ['}'])

/-- The rule that a selector and a body are, as it is read. -/
def ruleOf (selector body : Text) : Rule :=
  ⟨Text.trim selector, readDeclarations body, Text.trimLeft selector ++ inBraces body⟩

theorem trim_append_inBraces (selector body : Text) :
    Text.trim (selector ++ inBraces body) = Text.trimLeft selector ++ inBraces body := by
  rw [inBraces, Text.trim_append_cons (by decide), Text.trimRight_append_cons (by decide)]
  rfl

theorem readRule?_inBraces {selector : Text} (single : '{' ∉ selector)
    (flat : '{' ∉ withoutComments body) :
    readRule? (Text.trimLeft selector ++ inBraces body) = some (ruleOf selector body) := by
  have single : '{' ∉ Text.trimLeft selector := mt (Text.mem_trimLeft (by decide)).1 single
  have flat : (withoutComments body).contains '{' = false := by simpa using flat
  have trimmed : Text.trim (Text.trimLeft selector) = Text.trim selector := by
    rw [Text.trim, Text.trimLeft_trimLeft, Text.trim]
  simp only [readRule?, inBraces, cutBraces?_block single, flat, trimmed]
  rfl

theorem readRule?_of_braceless {t : Text} (braceless : '{' ∉ t) : readRule? t = none := by
  have uncut : cutBraces? t = none := by
    rw [Option.eq_none_iff_forall_ne_some]
    rintro ⟨selector, body⟩ cut
    obtain ⟨tail, rfl, -⟩ := cutBraces?_eq_some_iff.1 cut
    simp at braceless
  rw [readRule?, uncut]

/-- A rule without nested blocks that is one piece of its own, with a place in its selector that is
    not in a string and not behind a backslash. -/
@[mk_iff]
structure SplitsSelector (front back body : Text) : Prop where
  single : '{' ∉ front ++ back
  flat : '{' ∉ withoutComments body
  whole : pieces (front ++ (back ++ inBraces body)) = [front ++ (back ++ inBraces body), []]
  closed : (placeAt front (back ++ inBraces body)).quote = none
  unescaped : front.getLast? ≠ some '\\'

instance (front back body : Text) : Decidable (SplitsSelector front back body) :=
  decidable_of_iff _ (splitsSelector_iff front back body).symm

theorem items_inBraces (h : SplitsSelector front back body) :
    items (front ++ (back ++ inBraces body)) = [Text.trimLeft (front ++ back) ++ inBraces body] := by
  have trimmed : Text.trim (front ++ (back ++ inBraces body)) =
      Text.trimLeft (front ++ back) ++ inBraces body := by
    rw [← List.append_assoc, trim_append_inBraces]
  have some : Text.trimLeft (front ++ back) ++ inBraces body ≠ [] := by simp [inBraces]
  rw [items, h.whole]
  change trimAll [front ++ (back ++ inBraces body), []] = _
  rw [trimAll_cons, trimmed, if_neg some]
  rfl

/-- The comment takes the place of a cut: the pieces are what stands in front of it, the comment, and
    what stands behind it. -/
theorem pieces_commented (h : SplitsSelector front back body) (comment : IsComment c) :
    pieces (front ++ (c ++ (back ++ inBraces body))) = [front, c, back ++ inBraces body, []] := by
  have whole := h.whole
  rw [pieces_eq_piecesAt] at whole ⊢
  have noBrace : '{' ∉ front := fun brace => h.single (List.mem_append_left back brace)
  have more : back ++ inBraces body ≠ [] := by simp [inBraces]
  obtain ⟨zone, depth, behind, onward⟩ := piecesAt_front rfl rfl noBrace more whole
  have top : (Place.start.run front (back ++ inBraces body)).IsTop := ⟨h.closed, depth, zone⟩
  have notStar : (c ++ (back ++ inBraces body)).head? ≠ some '*' := by
    obtain ⟨inner, rfl, -⟩ := comment.exists_inner
    simp
  -- Behind the comment the scan goes on as it did without it, since no backslash stood in front.
  have same : piecesAt ⟨some '/', none, 0, .code⟩ (back ++ inBraces body) =
      [back ++ inBraces body, []] := by
    have unescaped := Place.before_run .start front (back ++ inBraces body)
    generalize Place.start.run front (back ++ inBraces body) = q at behind top unescaped
    obtain ⟨before, quote, depth, zone⟩ := q
    obtain ⟨rfl, rfl, rfl⟩ : quote = none ∧ depth = 0 ∧ zone = .code :=
      ⟨top.quote, top.depth, top.zone⟩
    have notEscaped : before ≠ some '\\' := by
      rw [show before = front.getLast? by simpa [Place.start] using unescaped]
      exact h.unescaped
    have code (before : Option Char) :=
      piecesFrom_eq_piecesAt before none 0 .code (back ++ inBraces body)
    rw [Region.zone] at code
    rw [← code, piecesFrom_before (by decide), ← piecesFrom_before notEscaped, code, behind]
  rw [onward _ notStar, piecesAt_comment_append top comment, same, Text.prepend_cons, List.append_nil]

theorem items_commented (h : SplitsSelector front back body) (comment : IsComment c) :
    items (front ++ (c ++ (back ++ inBraces body))) =
      trimAll [front] ++ [c, Text.trimLeft back ++ inBraces body] := by
  have someComment : c ≠ [] := by
    obtain ⟨inner, rfl, -⟩ := comment.exists_inner
    simp
  have someRule : Text.trimLeft back ++ inBraces body ≠ [] := by simp [inBraces]
  have rest : trimAll [c, back ++ inBraces body, []] = [c, Text.trimLeft back ++ inBraces body] := by
    rw [trimAll_cons, comment.trim_eq_self, if_neg someComment, trimAll_cons, trim_append_inBraces,
      if_neg someRule]
    rfl
  rw [items, pieces_commented h comment]
  change trimAll [front, c, back ++ inBraces body, []] = _
  rw [trimAll_cons, rest, trimAll_cons]
  split <;> rfl

end Sheet

namespace Expand

/-! ### Rules for a selector -/

/-- A rule for a selector, in blocks. -/
inductive RuleFor (selector : Text) : Text → Prop where
  | rule (rest : Text) : RuleFor selector (selector ++ ' ' :: '{' :: ' ' :: rest)
  | block {inner : Text} (header : Text) (h : RuleFor selector inner) :
      RuleFor selector (wrap header inner)

theorem ruleFor_baseRule (selector : Text) (declarations : List Declaration) :
    RuleFor selector (baseRule selector declarations) := by
  rw [baseRule, List.append_assoc, List.append_assoc]
  exact .rule _

theorem ruleFor_declarationRule (selector property value : Text) :
    RuleFor selector (declarationRule selector property value) := by
  simp only [declarationRule, List.append_assoc]
  exact .rule _

theorem RuleFor.wrapIn {selector inner : Text} (h : RuleFor selector inner) (keyword : Text)
    (expressions : List Text) : RuleFor selector (wrapIn keyword expressions inner) := by
  unfold Expand.wrapIn
  split
  · exact h
  · exact .block _ h

theorem ruleFor_render (selector property : Text) (v : Variant) :
    RuleFor selector (v.render selector property) :=
  ((ruleFor_declarationRule selector property v.value).wrapIn _ _).wrapIn _ _

/-- Whether all that an item gives is about one selector: rules for it, each on lines of its own, and
    findings about it. -/
structure ItemExpansion.IsFor (e : ItemExpansion) (selector : Text) : Prop where
  native : ∀ t ∈ e.native, ∃ rules, t = Text.joinWith ['\n'] rules ∧ ∀ u ∈ rules, RuleFor selector u
  deferred : ∀ t ∈ e.deferred, RuleFor selector t
  diagnostics : ∀ d ∈ e.diagnostics, d.selector = some selector

theorem declaration_isFor (selector property value : Text) :
    (∃ rules, (declaration selector property value).native = Text.joinWith ['\n'] rules ∧
      ∀ u ∈ rules, RuleFor selector u) ∧
    (∀ t ∈ (declaration selector property value).deferred, RuleFor selector t) ∧
    ∀ d ∈ (declaration selector property value).diagnostics, d.selector = some selector := by
  unfold declaration
  split
  · rename_i all _
    refine ⟨⟨_, rfl, fun u member => ?_⟩, by simp, by simp⟩
    obtain ⟨v, -, rfl⟩ := List.mem_map.1 member
    exact ruleFor_render selector property v
  · refine ⟨⟨[], rfl, by simp⟩, ?_, ?_⟩
    · rintro t ⟨rfl⟩
      exact ruleFor_declarationRule selector property value
    · intro d member
      rw [List.mem_singleton.1 member]
      rfl

theorem rule_isFor (r : Rule) : (rule r).IsFor r.selector := by
  constructor
  · intro t member
    rcases List.mem_append.1 member with base | conditional
    · split at base
      · cases base
      · obtain rfl := List.mem_singleton.1 base
        refine ⟨[baseRule r.selector _], List.intercalate_singleton.symm, fun u only => ?_⟩
        rw [List.mem_singleton.1 only]
        exact ruleFor_baseRule r.selector _
    · rw [List.map_map] at conditional
      obtain ⟨d, -, rfl⟩ := List.mem_map.1 (List.mem_filter.1 conditional).1
      exact (declaration_isFor r.selector d.property d.value).1
  · intro t member
    obtain ⟨e, expanded, found⟩ := List.mem_filterMap.1 member
    obtain ⟨d, -, rfl⟩ := List.mem_map.1 expanded
    exact (declaration_isFor r.selector d.property d.value).2.1 t found
  · intro finding member
    obtain ⟨e, expanded, found⟩ := List.mem_flatMap.1 member
    obtain ⟨d, -, rfl⟩ := List.mem_map.1 expanded
    exact (declaration_isFor r.selector d.property d.value).2.2 finding found

/-! ### What comes of a rule with a comment in its selector -/

/-- The result that the items of a style sheet give together. -/
def Report.ofItems (shorten : Bool) (expanded : List ItemExpansion) : Report :=
  let native := Text.trim (Text.joinWith ['\n'] (expanded.flatMap (·.native)))
  { native := if shorten then minify native else native
    deferred := Text.trim (Text.joinWith ['\n'] (expanded.flatMap (·.deferred)))
    hasDeferred := !(expanded.flatMap (·.deferred)).isEmpty
    total := expanded.length
    changed := expanded.countP (·.changed)
    diagnostics := expanded.flatMap (·.diagnostics) }

theorem sheet_eq_ofItems (shorten : Bool) {s : Text} (token : hasToken s = true) :
    sheet shorten s = .ofItems shorten ((Sheet.items s).map item) := by
  simp [sheet, token, Report.ofItems]

theorem hasToken_of_infix {s t : Text} (part : s <:+: t) (token : hasToken s = true) :
    hasToken t = true :=
  Text.hasInfix_iff.2 ((Text.hasInfix_iff.1 token).trans part)

theorem item_inBraces {selector body : Text} (single : '{' ∉ selector)
    (flat : '{' ∉ Sheet.withoutComments body)
    (conditional : (Sheet.readDeclarations body).any isConditional = true) :
    item (Text.trimLeft selector ++ Sheet.inBraces body) = rule (Sheet.ruleOf selector body) := by
  simp [item, Sheet.readRule?_inBraces single flat, Sheet.ruleOf, conditional]

theorem item_comment_of_braceless {c : Text} (comment : Sheet.startsComment c = true)
    (braceless : '{' ∉ c) : item c = { native := [c] } := by
  simp [item, Sheet.readRule?_of_braceless braceless, comment]

/-- What comes of a rule with a call when a comment without braces is put into its selector. Without the
    comment, all that is generated is for the whole selector. With it, what stands in front of the comment
    is an item of its own, the comment is kept, and all that is generated for the rule is for what stands
    behind the comment. Up to blanks this is the whole selector just if nothing stands in front. -/
theorem selector_behind_comment (shorten : Bool) {front back body c : Text}
    (h : Sheet.SplitsSelector front back body) (token : hasToken body = true)
    (conditional : (Sheet.readDeclarations body).any isConditional = true)
    (comment : Sheet.IsComment c) (braceless : '{' ∉ c) :
    let whole := rule (Sheet.ruleOf (front ++ back) body)
    let behind := rule (Sheet.ruleOf back body)
    sheet shorten (front ++ (back ++ Sheet.inBraces body)) = .ofItems shorten [whole] ∧
    whole.IsFor (Text.trim (front ++ back)) ∧
    sheet shorten (front ++ (c ++ (back ++ Sheet.inBraces body))) =
      .ofItems shorten ((Sheet.trimAll [front]).map item ++ [{ native := [c] }, behind]) ∧
    behind.IsFor (Text.trim back) ∧
    (Text.ink (Text.trim back) = Text.ink (Text.trim (front ++ back)) ↔ Text.trim front = []) := by
  have part : body <:+: Sheet.inBraces body := ⟨['{'], ['}'], by simp [Sheet.inBraces]⟩
  have noBrace : '{' ∉ back := fun brace => h.single (List.mem_append_right front brace)
  refine ⟨?_, rule_isFor _, ?_, rule_isFor _, ?_⟩
  · have present : hasToken (front ++ (back ++ Sheet.inBraces body)) = true :=
      hasToken_of_infix (part.trans ⟨front ++ back, [], by simp⟩) token
    rw [sheet_eq_ofItems shorten present, Sheet.items_inBraces h, List.map_singleton,
      item_inBraces h.single h.flat conditional]
  · have present : hasToken (front ++ (c ++ (back ++ Sheet.inBraces body))) = true :=
      hasToken_of_infix (part.trans ⟨front ++ (c ++ back), [], by simp⟩) token
    rw [sheet_eq_ofItems shorten present, Sheet.items_commented h comment, List.map_append,
      List.map_cons, List.map_singleton, item_comment_of_braceless comment.1 braceless,
      item_inBraces noBrace h.flat conditional]
  · rw [Text.ink_trim, Text.ink_trim, Text.ink_append, List.self_eq_append_left, Text.ink_eq_nil,
      Text.trim_eq_nil]

/-- The body of a rule with a call. -/
def coloredBody : Text :=
  " color: if(media(print): red; else: blue); ".toList

theorem selector_behind_comment_descendant :
    Sheet.SplitsSelector ".a ".toList " .b ".toList coloredBody ∧
    sheet false (".a /* x */ .b ".toList ++ Sheet.inBraces coloredBody) =
      .ofItems false [{ native := [".a".toList] }, { native := ["/* x */".toList] },
        rule (Sheet.ruleOf " .b ".toList coloredBody)] ∧
    (rule (Sheet.ruleOf " .b ".toList coloredBody)).IsFor ".b".toList := by
  have splits : Sheet.SplitsSelector ".a ".toList " .b ".toList coloredBody := by decide +kernel
  obtain ⟨-, -, commented, isFor, -⟩ := selector_behind_comment false (c := "/* x */".toList) splits
    (by decide) (by decide +kernel) (by decide) (by decide)
  have stray : (Sheet.trimAll [".a ".toList]).map item = [{ native := [".a".toList] }] := by
    decide +kernel
  rw [stray] at commented
  exact ⟨splits, commented, isFor⟩

/-- Comments that change for what a rule is rewritten: between compound selectors, behind a comma, and
    at the end, where no selector is left. -/
theorem comment_cuts_selector :
    (sheet false (".a .b ".toList ++ Sheet.inBraces coloredBody)).native =
      (".a .b \x7b color: blue; \x7d\n" ++
        "@media (print) \x7b\n  .a .b \x7b color: red; \x7d\n\x7d").toList ∧
    (sheet false (".a /* x */ .b ".toList ++ Sheet.inBraces coloredBody)).native =
      (".a\n/* x */\n.b \x7b color: blue; \x7d\n" ++
        "@media (print) \x7b\n  .b \x7b color: red; \x7d\n\x7d").toList ∧
    (sheet false (".a, /* x */ .b ".toList ++ Sheet.inBraces coloredBody)).native =
      (".a,\n/* x */\n.b \x7b color: blue; \x7d\n" ++
        "@media (print) \x7b\n  .b \x7b color: red; \x7d\n\x7d").toList ∧
    (sheet false (".a .b /* x */ ".toList ++ Sheet.inBraces coloredBody)).native =
      (".a .b\n/* x */\n \x7b color: blue; \x7d\n" ++
        "@media (print) \x7b\n   \x7b color: red; \x7d\n\x7d").toList := by
  decide +kernel

end Expand
end CondCss
