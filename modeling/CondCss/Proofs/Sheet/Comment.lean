import CondCss.Proofs.Sheet.Partition

/-!
# Comments of a style sheet

A comment outside all blocks is an item of its own and goes no further than its first end
(`IsItem.eq_nil_of_commentEnd`). Removing comments takes away what stands from the start of a comment to
its first end. So nothing is removed from a stretch of a comment, and a comment outside all blocks is
read as a rule exactly if a rule stands in it (`readRule?_comment`).
-/

namespace CondCss

namespace Text

theorem cutAt?_eq_some_iff {sep : Char} {s before after : Text} :
    cutAt? sep s = some (before, after) ↔ s = before ++ sep :: after ∧ sep ∉ before := by
  constructor
  · intro h
    refine ⟨cutAt?_eq_some h, ?_⟩
    induction s generalizing before with
    | nil => cases h
    | cons c rest ih =>
      unfold cutAt? at h
      split at h
      case isTrue _ =>
        cases h
        exact List.not_mem_nil
      case isFalse differs =>
        obtain ⟨⟨before', after'⟩, cut, eq⟩ := Option.map_eq_some_iff.1 h
        cases eq
        rw [List.mem_cons, not_or]
        exact ⟨fun same => differs (beq_iff_eq.2 same.symm), ih cut⟩
  · rintro ⟨rfl, h⟩
    exact cutAt?_append_cons h after

end Text

namespace Sheet

/-! ### The end of a comment -/

/-- Every item of a text has a place in it. -/
theorem Laid.exists_isItem {front s t : Text} {before after : List Text}
    (h : Laid front (before ++ t :: after) s) :
    ∃ init rest, s = init ++ (t ++ rest) ∧ IsItem (front ++ init) t rest after := by
  generalize split : before ++ t :: after = items at h
  induction h generalizing before with
  | nil front => simp at split
  | @blank front items c s hc _ ih =>
    obtain ⟨init, rest, rfl, isItem⟩ := ih split
    exact ⟨c :: init, rest, rfl, by simpa using isItem⟩
  | @item front items u s hu _ ih =>
    cases before with
    | nil =>
      obtain ⟨rfl, rfl⟩ := List.cons.inj split
      exact ⟨[], s, rfl, by simpa using hu⟩
    | cons b before =>
      obtain ⟨rfl, rest⟩ := List.cons.inj split
      obtain ⟨init, rest, rfl, isItem⟩ := ih rest
      exact ⟨b ++ init, rest, by simp, by simpa using isItem⟩

/-- A comment with an end in it ends there or before. -/
theorem exists_endsComment {p : Place} (zone : p.zone = .comment) (depth : p.depth = 0)
    (x : Text) {y : Text} (some : y ≠ []) (rest : Text) :
    ∃ init c more, x ++ '*' :: '/' :: y = init ++ c :: more ∧ more ≠ [] ∧
      (p.run init (c :: (more ++ rest))).EndsComment := by
  have ends {p : Place} (zone : p.zone = .comment) (depth : p.depth = 0) (y : Text) :
      (p.run ['*'] ('/' :: (y ++ rest))).EndsComment := by
    simp [Place.run, Place.step, zone, depth, Place.EndsComment]
  -- The induction follows the scan as long as it stays in the comment.
  induction x generalizing p with
  | nil => exact ⟨['*'], '/', y, rfl, some, ends zone depth y⟩
  | cons a x ih =>
    by_cases here : ['*', '/'] <+: a :: (x ++ '*' :: '/' :: y)
    · obtain ⟨tail, shape⟩ := here
      refine ⟨['*'], '/', tail, shape.symm, ?_, ends zone depth tail⟩
      rintro rfl
      have := congrArg List.length shape
      simp only [List.length_append, List.length_cons, List.length_nil] at this
      omega
    · have stays : ['*', '/'].isPrefixOf (a :: (x ++ '*' :: '/' :: y ++ rest)) = false := by
        rw [Bool.eq_false_iff]
        intro starts
        obtain ⟨tail, shape⟩ := List.isPrefixOf_iff_prefix.1 starts
        refine here ?_
        cases x with
        | nil => simp at shape
        | cons b x =>
          simp only [List.cons_append, List.nil_append, List.cons.injEq] at shape
          obtain ⟨rfl, rfl, -⟩ := shape
          exact ⟨x ++ '*' :: '/' :: y, rfl⟩
      have zone' : (p.step a (x ++ '*' :: '/' :: y ++ rest)).zone = .comment := by
        simp only [Place.step, zone, stays]
        rfl
      have depth' : (p.step a (x ++ '*' :: '/' :: y ++ rest)).depth = 0 := by
        rw [Place.depth_step_of_zone_ne (by simp [zone]), depth]
      obtain ⟨init, c, more, shape, nonempty, endsThere⟩ := ih zone' depth'
      refine ⟨a :: init, c, more, by rw [List.cons_append, shape]; rfl, nonempty, ?_⟩
      rw [shape] at endsThere
      simpa [Place.run] using endsThere

theorem run_opening {p : Place} (top : p.IsTop) (rest : Text) :
    p.run ['/', '*'] rest = ⟨some '*', none, 0, .comment⟩ := by
  have opening : p.step '/' ('*' :: rest) = ⟨some '/', none, 0, .opening⟩ :=
    Place.step_of_startsComment top rfl
  simp only [Place.run, List.cons_append, List.nil_append, opening]
  rfl

/-- A comment outside all blocks goes no further than its first end. -/
theorem IsItem.eq_nil_of_commentEnd {front rest x y : Text} {later : List Text}
    (h : IsItem front ('/' :: '*' :: (x ++ '*' :: '/' :: y)) rest later) : y = [] := by
  by_contra goesOn
  obtain ⟨init, c, more, shape, nonempty, ends⟩ :=
    exists_endsComment (p := ⟨some '*', none, 0, .comment⟩) rfl rfl x goesOn rest
  rw [shape] at h
  refine h.whole ('/' :: '*' :: init) c more rfl nonempty (.inr (.inl ?_))
  have top : (Place.start.run front ('/' :: '*' :: (init ++ c :: (more ++ rest)))).IsTop := by
    simpa [placeAt] using h.top
  have place : placeAt (front ++ '/' :: '*' :: init) (c :: (more ++ rest)) =
      (Place.mk (some '*') none 0 .comment).run init (c :: (more ++ rest)) := by
    rw [← run_opening top (init ++ c :: (more ++ rest)), placeAt, Place.run_append]
    rfl
  rwa [place]

/-! ### Removing comments -/

/-- The length of a comment is counted up to its first end. -/
theorem exists_of_commentLength? {s : Text} {n : Nat} (h : commentLength? s = some n) :
    ∃ x, s = x ++ '*' :: '/' :: s.drop n := by
  fun_induction commentLength? s generalizing n with
  | case1 => cases h
  | case2 rest =>
    cases h
    exact ⟨[], rfl⟩
  | case3 c rest _ ih =>
    obtain ⟨m, found, rfl⟩ := Option.map_eq_some_iff.1 h
    obtain ⟨x, split⟩ := ih found
    exact ⟨c :: x, by rw [List.drop_succ_cons, List.cons_append, ← split]⟩

theorem withoutCommentsFrom_eq (skip : Nat) (s : Text) :
    withoutCommentsFrom skip s = withoutComments (s.drop skip) := by
  induction skip generalizing s with
  | zero => rfl
  | succ skip ih =>
    cases s with
    | nil => rfl
    | cons c s => rw [withoutCommentsFrom, ih, List.drop_succ_cons]

theorem withoutComments_comment {inner : Text} {n : Nat} (ends : commentLength? inner = some n) :
    withoutComments ('/' :: '*' :: inner) = withoutComments (inner.drop n) := by
  have starts : startsComment ('/' :: '*' :: inner) = true := rfl
  have rest : ('*' :: inner).drop 1 = inner := rfl
  rw [withoutComments, withoutCommentsFrom, if_pos starts, rest, ends]
  exact withoutCommentsFrom_eq (n + 1) ('*' :: inner)

theorem withoutComments_cons {c : Char} {s : Text} (h : startsComment (c :: s) = false) :
    withoutComments (c :: s) = c :: withoutComments s := by
  simp [withoutComments, withoutCommentsFrom, h]

theorem commentLength?_eq_none {s : Text} (h : Text.hasInfix ['*', '/'] s = false) :
    commentLength? s = none := by
  cases ends : commentLength? s with
  | none => rfl
  | some n =>
    obtain ⟨x, split⟩ := exists_of_commentLength? ends
    have found : ['*', '/'] <:+: s := ⟨x, s.drop n, by simpa using split.symm⟩
    rw [Text.hasInfix_iff.2 found] at h
    cases h

/-- Where no comment ends, none is removed. -/
theorem withoutComments_of_unended {s : Text} (h : Text.hasInfix ['*', '/'] s = false) :
    withoutComments s = s := by
  induction s with
  | nil => rfl
  | cons c rest ih =>
    have later := (Bool.or_eq_false_iff.1 h).2
    cases starts : startsComment (c :: rest) with
    | false => rw [withoutComments_cons starts, ih later]
    | true =>
      have unended : commentLength? (rest.drop 1) = none :=
        commentLength?_eq_none
          (Text.hasInfix_eq_false_of_infix (List.drop_suffix 1 rest).isInfix later)
      rw [withoutComments, withoutCommentsFrom, if_pos starts, unended]

/-! ### Rules in comments -/

/-- The first opening brace of a text and the last closing one behind it, with what stands in front of
    and between them, if no other brace opens there. -/
def Braced (t selector body : Text) : Prop :=
  ∃ tail, t = selector ++ '{' :: (body ++ '}' :: tail) ∧ '{' ∉ selector ∧ '{' ∉ body ∧ '}' ∉ tail

theorem cutBraces?_eq_some_iff {t selector body : Text} :
    cutBraces? t = some (selector, body) ↔
      ∃ tail, t = selector ++ '{' :: (body ++ '}' :: tail) ∧ '{' ∉ selector ∧ '}' ∉ tail := by
  unfold cutBraces?
  constructor
  · intro h
    split at h
    · rename_i before rest cut
      obtain ⟨⟨tail, reversed⟩, cut', eq⟩ := Option.map_eq_some_iff.1 h
      cases eq
      obtain ⟨rfl, noOpening⟩ := Text.cutAt?_eq_some_iff.1 cut
      obtain ⟨parts, noClosing⟩ := Text.cutAt?_eq_some_iff.1 cut'
      have parts := congrArg List.reverse parts
      rw [List.reverse_reverse] at parts
      refine ⟨tail.reverse, ?_, noOpening, by simpa using noClosing⟩
      rw [parts]
      simp
    · cases h
  · rintro ⟨tail, rfl, noOpening, noClosing⟩
    have noClosing : '}' ∉ tail.reverse := by simpa using noClosing
    rw [Text.cutAt?_append_cons noOpening]
    simp [Text.cutAt?_append_cons noClosing]

/-- The declarations between the braces of a text, when comments are not looked for. -/
def declarationsIn (body : Text) : List Declaration :=
  (Scan.splitTopLevel (· == ';') body).filterMap readDeclaration?

/-- A comment outside all blocks is read as a rule exactly if a rule stands in it. -/
theorem readRule?_comment {front c rest : Text} {later : List Text} (h : IsItem front c rest later)
    (comment : startsComment c = true) {r : Rule} :
    readRule? c = some r ↔ ∃ selector body, Braced c selector body ∧
      r = ⟨Text.trim selector, declarationsIn body, c⟩ := by
  -- No comment ends between the braces, since this one ends behind them.
  have unended {selector body tail : Text} (shape : c = selector ++ '{' :: (body ++ '}' :: tail)) :
      withoutComments body = body := by
    refine withoutComments_of_unended (Bool.eq_false_iff.2 fun ends => ?_)
    obtain ⟨x, y, rfl⟩ := Text.hasInfix_iff.1 ends
    obtain ⟨inner, rfl⟩ := List.isPrefixOf_iff_prefix.1 comment
    obtain ⟨opening, rfl⟩ : ∃ opening, selector = '/' :: '*' :: opening := by
      cases selector with
      | nil => simp at shape
      | cons a selector =>
        cases selector with
        | nil => simp at shape
        | cons b selector =>
          simp only [List.cons_append, List.nil_append, List.cons.injEq] at shape
          obtain ⟨rfl, rfl, -⟩ := shape
          exact ⟨selector, rfl⟩
    have item : IsItem front
        ('/' :: '*' :: ((opening ++ '{' :: x) ++ '*' :: '/' :: (y ++ '}' :: tail))) rest later := by
      simpa [shape] using h
    simpa using item.eq_nil_of_commentEnd
  unfold readRule?
  constructor
  · intro read
    split at read
    · rename_i selector body cut
      obtain ⟨tail, shape, noOpening, noClosing⟩ := cutBraces?_eq_some_iff.1 cut
      rw [unended shape] at read
      split at read
      · cases read
      · rename_i flat
        cases read
        refine ⟨selector, body, ⟨tail, shape, noOpening, by simpa using flat, noClosing⟩, ?_⟩
        rw [readDeclarations, unended shape]
        rfl
    · cases read
  · rintro ⟨selector, body, ⟨tail, shape, noOpening, flat, noClosing⟩, rfl⟩
    rw [cutBraces?_eq_some_iff.2 ⟨tail, shape, noOpening, noClosing⟩]
    simp [unended shape, flat, readDeclarations, declarationsIn]

end Sheet

end CondCss
