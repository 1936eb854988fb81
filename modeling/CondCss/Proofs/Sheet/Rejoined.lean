import CondCss.Proofs.Sheet.Quoted

/-!
# Items put together again

A style sheet is cut where nothing is open, so an item can be read by itself: in front of it the scan is
where it is at the start of a text, as far as the item depends on it (`Place.Leads`), and an item that is
followed by others leaves nothing open. So an item is its only item (`items_of_mem_items`), and the items
of a style sheet, each on a line of its own, are the items of a style sheet again
(`items_joinWith_items`). Both hold of every text, well-formed or not (`items_stable`).
-/

namespace CondCss
namespace Sheet

variable {p : Place} {c : Char} {s t rest : Text}

/-! ### One character ahead and one behind -/

namespace Place

/-- A step looks one character ahead. -/
theorem step_cons_congr (p : Place) (c d : Char) (u v : Text) :
    p.step c (d :: u) = p.step c (d :: v) := by
  simp [step, startsComment, List.isPrefixOf]

theorem run_cons_congr (p : Place) (t : Text) (d : Char) (u v : Text) :
    p.run t (d :: u) = p.run t (d :: v) := by
  induction t generalizing p with
  | nil => rfl
  | cons c t ih =>
    have same : p.step c (t ++ d :: u) = p.step c (t ++ d :: v) := by
      cases t with
      | nil => exact step_cons_congr p c d u v
      | cons e t => exact step_cons_congr p c e _ _
    rw [run, run, same, ih]

/-- A character that leads outside everything does so whatever follows it. -/
theorem step_eq_of_isTop (top : (p.step c rest).IsTop) : p.step c [] = p.step c rest := by
  obtain ⟨before, quote, depth, zone⟩ := p
  cases zone with
  | code =>
    have notComment : (quote.isNone && startsComment (c :: rest)) = false := by
      rw [Bool.eq_false_iff]
      intro starts
      have zone := top.zone
      simp [step, starts] at zone
    have alone : startsComment [c] = false := by simp [startsComment, List.isPrefixOf]
    simp [step, notComment, alone]
  | opening => cases top.zone
  | comment =>
    have zone := top.zone
    simp only [step] at zone
    split at zone <;> cases zone
  | closing => rfl

/-- Whether the character in front of a text does not escape a quote at its front. -/
def Unescaped (p : Place) (t : Text) : Prop :=
  p.before = some '\\' → ∀ c ∈ t.head?, Quote.ofChar? c = none

theorem unescaped_step_of_blank (h : Text.isBlank c = true) (p : Place) (rest t : Text) :
    (p.step c rest).Unescaped t := by
  intro escaped
  rw [before_step] at escaped
  exact absurd escaped (Scan.backslash_ne_of_blank h)

/-- Outside everything, a text is read as at the start. -/
theorem step_eq_start (top : p.IsTop) (h : p.Unescaped (c :: t)) (rest : Text) :
    p.step c rest = start.step c rest := by
  obtain ⟨before, quote, depth, zone⟩ := p
  obtain ⟨rfl, rfl, rfl⟩ : quote = none ∧ depth = 0 ∧ zone = .code := ⟨top.quote, top.depth, top.zone⟩
  have next : Quote.next before c none = Quote.next none c none := by
    by_cases escaped : before = some '\\'
    · have noQuote := h escaped c rfl
      rw [Quote.next_of_ofChar?_eq_none noQuote, Quote.next_of_ofChar?_eq_none noQuote]
    · exact Quote.next_before escaped c none
  simp only [step, start, next]
  rfl

theorem run_eq_start (top : p.IsTop) (h : p.Unescaped t) (some : t ≠ []) (rest : Text) :
    p.run t rest = start.run t rest := by
  obtain ⟨c, t, rfl⟩ := List.exists_cons_of_ne_nil some
  rw [run, run, step_eq_start top h]

end Place

theorem piecesAt_eq_pieces (top : p.IsTop) (h : p.Unescaped t) : piecesAt p t = pieces t := by
  rw [pieces_eq_piecesAt]
  cases t with
  | nil => rfl
  | cons c rest =>
    have onward := Place.step_eq_start top h rest
    obtain ⟨before, quote, depth, zone⟩ := p
    obtain ⟨rfl, rfl, rfl⟩ : quote = none ∧ depth = 0 ∧ zone = .code := ⟨top.quote, top.depth, top.zone⟩
    have ends : (Place.mk before none 0 .code).Ends c ↔ Place.start.Ends c := Iff.rfl
    have endsComment : (Place.mk before none 0 .code).EndsComment ↔ Place.start.EndsComment := Iff.rfl
    have atStart : Place.start.IsTop := ⟨rfl, rfl, rfl⟩
    simp only [piecesAt, onward, top, atStart, ends, endsComment]

/-! ### In front of a piece -/

/-- Whether the character in front of a text is one that ends a piece, or a comment starts with the
    text. -/
def Place.Leads (p : Place) (t : Text) : Prop :=
  t = [] ∨ startsComment t = true ∨ p.before ∈ [none, some ';', some '}', some '/']

theorem Place.Leads.unescaped (h : p.Leads t) : p.Unescaped t := by
  rintro escaped c head
  rcases h with rfl | comment | ends
  · cases head
  · obtain ⟨inner, rfl⟩ := exists_eq_of_startsComment comment
    cases head
    decide
  · rw [escaped] at ends
    exact absurd ends (by decide)

theorem Place.unescaped_run_of_blank {lead : Text} (h : p.Unescaped (lead ++ t))
    (hlead : ∀ c ∈ lead, Text.isBlank c = true) (rest : Text) : (p.run lead rest).Unescaped t := by
  induction lead generalizing p with
  | nil => exact h
  | cons c lead ih =>
    obtain ⟨hc, hlead⟩ := List.forall_mem_cons.1 hlead
    exact ih (unescaped_step_of_blank hc p _ _) hlead

/-- Blanks at the front of a piece do not change that. -/
theorem Place.Leads.unescaped_run {lead trail : Text} (h : p.Leads (lead ++ (t ++ trail)))
    (hlead : ∀ c ∈ lead, Text.isBlank c = true) (rest : Text) : (p.run lead rest).Unescaped t := by
  by_cases some : t = []
  · rw [some]
    rintro - c ⟨⟩
  · refine unescaped_run_of_blank (fun escaped c head => h.unescaped escaped c ?_) hlead rest
    rwa [← List.append_assoc, List.head?_append_of_ne_nil _ (by simp [some])]

/-- Pieces that are read one after the other, each outside everything and behind the end of another
    one. -/
def AreLed : Place → List Text → Prop
  | _, [] => True
  | p, t :: later => p.IsTop ∧ p.Leads t ∧ AreLed (p.run t later.flatten) later

/-- A text, read from a place on, and pieces of it that end only where items end, or in front of a comment
    outside all blocks. -/
inductive Splits : Place → Text → List Text → Prop where
  | nil (p : Place) : Splits p [] [[]]
  | comment {p : Place} {c : Char} {rest : Text} {pieces : List Text} (top : p.IsTop)
      (starts : startsComment (c :: rest) = true) (h : Splits (p.step c rest) rest pieces) :
      Splits p (c :: rest) ([] :: Text.consHead c pieces)
  | ends {p : Place} {c : Char} {rest : Text} {pieces : List Text} (ends : p.Ends c ∨ p.EndsComment)
      (h : Splits (p.step c rest) rest pieces) : Splits p (c :: rest) ([c] :: pieces)
  | goesOn {p : Place} {c : Char} {rest : Text} {pieces : List Text}
      (h : Splits (p.step c rest) rest pieces) : Splits p (c :: rest) (Text.consHead c pieces)

theorem splits_piecesAt (p : Place) (s : Text) : Splits p s (piecesAt p s) := by
  induction s generalizing p with
  | nil => exact .nil p
  | cons c rest ih =>
    rw [piecesAt]
    split
    · rename_i comment
      exact .comment comment.1 comment.2 (ih _)
    · split
      · rename_i ends
        exact .ends ends (ih _)
      · exact .goesOn (ih _)

/-- The slash that ends a comment follows its star. -/
theorem head?_of_closing (h : (p.step c rest).zone = .closing) : rest.head? = some '/' := by
  have ends : ['*', '/'].isPrefixOf (c :: rest) = true := by
    unfold Place.step at h
    split at h
    · split at h <;> cases h
    · cases h
    · by_contra goesOn
      rw [if_neg goesOn] at h
      cases h
    · cases h
  obtain ⟨tail, shape⟩ := List.isPrefixOf_iff_prefix.1 ends
  cases shape
  rfl

namespace Splits

variable {pieces : List Text}

theorem ne_nil (h : Splits p s pieces) : pieces ≠ [] := by
  have headed (c : Char) (pieces : List Text) : Text.consHead c pieces ≠ [] := by
    cases pieces <;> simp [Text.consHead]
  cases h with
  | nil => simp
  | comment => simp
  | ends => simp
  | goesOn => exact headed _ _

theorem flatten (h : Splits p s pieces) : pieces.flatten = s := by
  induction h with
  | nil => rfl
  | comment _ _ _ ih => rw [List.flatten_cons, Text.flatten_consHead, ih, List.nil_append]
  | ends _ _ ih => rw [List.flatten_cons, ih, List.singleton_append]
  | goesOn _ ih => rw [Text.flatten_consHead, ih]

/-- The star behind the slash that opens a comment is not cut off. -/
theorem startsComment_head? (h : Splits p rest pieces) (opening : p.zone = .opening)
    (starts : startsComment (c :: rest) = true) (head : t ∈ pieces.head?) :
    startsComment (c :: t) = true := by
  cases h with
  | nil => simp [startsComment, List.isPrefixOf] at starts
  | comment top => cases opening.symm.trans top.zone
  | ends ends => rcases ends with ends | ends <;> cases opening.symm.trans ends.1
  | goesOn h =>
    obtain ⟨u, later, rfl⟩ := List.exists_cons_of_ne_nil h.ne_nil
    cases head
    simpa [startsComment, List.isPrefixOf] using starts

/-- Behind an end nothing is open, and the character in front is one that ends an item. -/
theorem exists_areLed (h : Splits p s pieces) (ready : p.zone = .closing → s.head? = some '/') :
    ∃ t later, pieces = t :: later ∧ AreLed (p.run t later.flatten) later := by
  induction h with
  | nil p => exact ⟨[], [], rfl, trivial⟩
  | @comment p c rest _ top starts h ih =>
    obtain ⟨t, later, rfl, led⟩ := ih head?_of_closing
    have whole : t ++ later.flatten = rest := h.flatten
    refine ⟨[], (c :: t) :: later, rfl, top, .inr (.inl ?_), ?_⟩
    · refine h.startsComment_head? ?_ starts rfl
      rw [Place.step_of_startsComment top starts]
    · change AreLed (p.run (c :: t) later.flatten) later
      rwa [Place.run, whole]
  | @ends p c rest _ ends h ih =>
    obtain ⟨t, later, rfl, led⟩ := ih head?_of_closing
    have step : p.run [c] (t :: later).flatten = p.step c rest := by
      rw [h.flatten]
      rfl
    refine ⟨[c], t :: later, rfl, ?_⟩
    rw [step]
    refine ⟨?_, .inr (.inr ?_), led⟩
    · exact ends.elim Place.isTop_step_of_ends fun h => Place.isTop_step_of_endsComment h c rest
    · rw [Place.before_step]
      rcases ends with ⟨-, -, ⟨rfl, -⟩ | ⟨rfl, -⟩⟩ | ⟨closing, -⟩
      · decide
      · decide
      · cases ready closing
        decide
  | @goesOn p c rest _ h ih =>
    obtain ⟨t, later, rfl, led⟩ := ih head?_of_closing
    have whole : t ++ later.flatten = rest := h.flatten
    exact ⟨c :: t, later, rfl, by rwa [Place.run, whole]⟩

theorem areLed (h : Splits .start s pieces) : AreLed .start pieces := by
  obtain ⟨t, later, rfl, led⟩ := h.exists_areLed fun closing => by cases closing
  exact ⟨⟨rfl, rfl, rfl⟩, .inr (.inr List.mem_cons_self), led⟩

end Splits

theorem areLed_pieces (s : Text) : AreLed .start (pieces s) := by
  rw [pieces_eq_piecesAt]
  exact (splits_piecesAt .start s).areLed

/-! ### A piece by itself -/

theorem items_eq_trimAll (s : Text) : items s = trimAll (pieces s) :=
  rfl

theorem trimAll_append (pieces pieces' : List Text) :
    trimAll (pieces ++ pieces') = trimAll pieces ++ trimAll pieces' := by
  rw [trimAll, List.map_append, List.filter_append]
  rfl

/-- Whether a text ends with a character that ends a piece. -/
def Place.Finishes (p : Place) (t : Text) : Prop :=
  ∃ init c, t = init ++ [c] ∧ ((p.run init [c]).Ends c ∨ (p.run init [c]).EndsComment)

theorem Place.finishes_step (some : rest ≠ []) (h : p.Finishes (c :: rest)) :
    (p.step c rest).Finishes rest := by
  obtain ⟨init, d, shape, ends⟩ := h
  cases init with
  | nil => exact absurd (List.cons.inj shape).2 some
  | cons a init =>
    obtain ⟨rfl, rfl⟩ := List.cons.inj shape
    exact ⟨init, d, rfl, ends⟩

/-- A text without a boundary inside is one piece; one more is empty if it ends with a character that ends
    a piece, and one if a comment starts with it. -/
theorem exists_piecesAt_of_whole (some : t ≠ [])
    (whole : ∀ init c more, t = init ++ c :: more → more ≠ [] →
      ¬(p.run init (c :: more)).Boundary c more) :
    ∃ closing, piecesAt p t =
        (if p.IsTop ∧ startsComment t = true then [[]] else []) ++ t :: closing ∧
      (closing = [] ∨ closing = [[]]) ∧ (p.Finishes t → closing = [[]]) := by
  induction t generalizing p with
  | nil => exact absurd rfl some
  | cons c rest ih =>
    by_cases more : rest = []
    · subst more
      have notComment : ¬(p.IsTop ∧ startsComment [c] = true) := by
        simp [startsComment, List.isPrefixOf]
      by_cases ends : p.Ends c ∨ p.EndsComment
      · refine ⟨[[]], ?_, .inr rfl, fun _ => rfl⟩
        rw [piecesAt, if_neg notComment, if_pos ends, if_neg notComment]
        rfl
      · refine ⟨[], ?_, .inl rfl, ?_⟩
        · rw [piecesAt, if_neg notComment, if_neg ends, if_neg notComment]
          rfl
        · rintro ⟨init, d, shape, endsThere⟩
          cases init with
          | nil =>
            cases shape
            exact absurd endsThere ends
          | cons a init => simp at shape
    · have notBoundary : ¬p.Boundary c rest := whole [] c rest rfl more
      have later : ∀ init d more, rest = init ++ d :: more → more ≠ [] →
          ¬((p.step c rest).run init (d :: more)).Boundary d more := by
        rintro init d behind rfl some
        exact whole (c :: init) d behind rfl some
      obtain ⟨closing, shape, kind, finish⟩ := ih more later
      rw [if_neg fun comment => notBoundary (.inr (.inr comment)), List.nil_append] at shape
      refine ⟨closing, ?_, kind, fun h => finish (p.finishes_step more h)⟩
      have goesOn : ¬(p.Ends c ∨ p.EndsComment) :=
        fun ends => notBoundary (ends.imp id .inl)
      rw [piecesAt, shape, if_neg goesOn]
      split <;> rfl

/-- Outside a block, a place in a piece that is no comment is outside comments. -/
def Place.IsInner (p : Place) : Prop :=
  p.depth = 0 → p.zone = .code

theorem Place.isInner_step (h : p.IsInner) (rest : Text)
    (notComment : ¬(p.IsTop ∧ startsComment (c :: rest) = true)) : (p.step c rest).IsInner := by
  intro depth
  by_cases code : p.zone = .code
  · by_cases starts : (p.quote.isNone && startsComment (c :: rest)) = true
    · obtain ⟨closed, starts⟩ := Bool.and_eq_true_iff.1 starts
      have closed : p.quote = none := Option.isNone_iff_eq_none.1 closed
      rw [Place.step_comment ⟨code, closed⟩ starts] at depth
      exact absurd ⟨⟨closed, depth, code⟩, starts⟩ notComment
    · simp [Place.step, code, starts]
  · rw [Place.depth_step_of_zone_ne code] at depth
    exact absurd (h depth) code

theorem Place.isInner_run (h : p.IsInner) (rest : Text)
    (notComment : ∀ init more, t = init ++ more → more ≠ [] →
      ¬((p.run init (more ++ rest)).IsTop ∧ startsComment (more ++ rest) = true)) :
    (p.run t rest).IsInner := by
  induction t generalizing p with
  | nil => exact h
  | cons c t ih =>
    refine ih (Place.isInner_step h _ (notComment [] (c :: t) rfl (List.cons_ne_nil c t))) ?_
    rintro init more rfl some
    rw [List.append_assoc]
    exact notComment (c :: init) more rfl some

/-- Blanks lead outside everything only from there. -/
theorem Place.isTop_of_run_blank {blanks : Text} (h : ∀ c ∈ blanks, Text.isBlank c = true)
    (inner : p.IsInner) (rest : Text) (top : (p.run blanks rest).IsTop) : p.IsTop := by
  induction blanks generalizing p with
  | nil => exact top
  | cons c blanks ih =>
    obtain ⟨hc, hblanks⟩ := List.forall_mem_cons.1 h
    have plain {d : Char} (hd : Text.isBlank d = false) : c ≠ d := Scan.ne_of_blank hc hd
    have notComment : startsComment (c :: (blanks ++ rest)) = false := by
      simp [startsComment, List.isPrefixOf, (plain (d := '/') (by decide)).symm]
    have step := ih hblanks (Place.isInner_step inner _ fun both => by
      rw [notComment] at both
      cases both.2) top
    have depth : (p.step c (blanks ++ rest)).depth = p.depth := by
      by_cases code : p.zone = .code
      · rw [Place.step_code code c _ fun _ => notComment]
        simp [Place.depthBehind, plain (d := '{') (by decide), plain (d := '}') (by decide)]
      · exact Place.depth_step_of_zone_ne code c _
    have outside : p.depth = 0 := depth.symm.trans step.depth
    have code := inner outside
    have quote := step.quote
    rw [Place.step_code code c _ fun _ => notComment,
      Quote.next_of_ofChar?_eq_none (Scan.ofChar?_of_blank hc)] at quote
    exact ⟨quote, outside, code⟩

/-- A comment that something follows outside everything has an end. -/
theorem Place.finishes_comment (zone : p.zone ≠ .code) (depth : p.depth = 0)
    (ready : p.zone = .closing → t.head? = some '/') (nonempty : t ≠ [])
    (whole : ∀ init c more, t = init ++ c :: more → more ≠ [] →
      ¬(p.run init (c :: (more ++ rest))).EndsComment)
    (top : (p.run t rest).IsTop) :
    ∃ init, t = init ++ ['/'] ∧ (p.run init ('/' :: rest)).EndsComment := by
  induction t generalizing p with
  | nil => exact absurd rfl nonempty
  | cons c t ih =>
    by_cases more : t = []
    · subst more
      have closing : p.zone = .closing := by
        have code := top.zone
        simp only [Place.run, List.nil_append, Place.step] at code
        split at code
        · exact absurd ‹_› zone
        · cases code
        · split at code <;> cases code
        · assumption
      cases ready closing
      exact ⟨[], rfl, closing, depth⟩
    · have notEnds : ¬p.EndsComment := whole [] c t rfl more
      have zone' : (p.step c (t ++ rest)).zone ≠ .code := by
        intro code
        unfold Place.step at code
        split at code
        · exact zone ‹_›
        · cases code
        · simp only at code
          split at code <;> cases code
        · exact notEnds ⟨‹_›, depth⟩
      have ready' (closing : (p.step c (t ++ rest)).zone = .closing) : t.head? = some '/' := by
        have := head?_of_closing closing
        rwa [List.head?_append_of_ne_nil _ more] at this
      obtain ⟨init, rfl, ends⟩ := ih zone' ((Place.depth_step_of_zone_ne zone c _).trans depth) ready' more
        (by
          rintro init d behind rfl some
          have := whole (c :: init) d behind rfl some
          simpa [Place.run] using this)
        top
      exact ⟨c :: init, rfl, by simpa [Place.run] using ends⟩

/-- What a piece is, without the blanks around it, when it is read from the place `p` on and `rest` follows
    it. -/
structure IsCore (p : Place) (t rest : Text) : Prop where
  top : p.IsTop
  unescaped : p.Unescaped t
  nonempty : t ≠ []
  trimmed : Text.trim t = t
  whole : ∀ init c more, t = init ++ c :: more → more ≠ [] →
    ¬(p.run init (c :: (more ++ rest))).Boundary c (more ++ rest)

/-- A boundary of a text alone is one in every text that goes on behind it. -/
theorem Place.boundary_append {init more : Text} (some : more ≠ [])
    (h : (p.run init (c :: more)).Boundary c more) (rest : Text) :
    (p.run init (c :: (more ++ rest))).Boundary c (more ++ rest) := by
  obtain ⟨d, more, rfl⟩ := List.exists_cons_of_ne_nil some
  rw [run_cons_congr p init c _ (d :: more)]
  refine h.imp id (.imp id ?_)
  rintro ⟨top, comment⟩
  refine ⟨?_, startsComment_of_isPrefix (List.prefix_append _ rest) comment⟩
  rwa [List.cons_append, step_cons_congr _ c d _ more]

namespace IsCore

theorem exists_pieces (h : IsCore p t rest) :
    ∃ front closing, pieces t = front ++ t :: closing ∧ trimAll front = [] ∧
      (closing = [] ∨ closing = [[]]) ∧ (p.Finishes t → closing = [[]]) := by
  obtain ⟨closing, shape, kind, finish⟩ := exists_piecesAt_of_whole (p := p) h.nonempty
    fun init c more split some boundary =>
      h.whole init c more split some (Place.boundary_append some boundary rest)
  rw [piecesAt_eq_pieces h.top h.unescaped] at shape
  refine ⟨_, closing, shape, ?_, kind, finish⟩
  split <;> rfl

theorem items_eq (h : IsCore p t rest) : items t = [t] := by
  obtain ⟨front, closing, shape, none, kind, -⟩ := h.exists_pieces
  rw [items_eq_trimAll, shape, trimAll_append, none, trimAll_cons, h.trimmed, if_neg h.nonempty]
  rcases kind with rfl | rfl <;> rfl

theorem stands (h : IsCore p t rest) (finishes : p.Finishes t) : Stands t := by
  refine ⟨h.items_eq, ?_⟩
  obtain ⟨front, closing, shape, -, -, finish⟩ := h.exists_pieces
  rw [shape, finish finishes]
  simp

/-- An item that nothing but blanks separates from what follows outside everything leaves nothing open. -/
theorem isTop_run {blanks : Text} (h : IsCore p t (blanks ++ rest))
    (hblanks : ∀ c ∈ blanks, Text.isBlank c = true)
    (notComment : startsComment (t ++ (blanks ++ rest)) = false)
    (top : (p.run (t ++ blanks) rest).IsTop) : (Place.start.run t []).IsTop := by
  have inner : (p.run t (blanks ++ rest)).IsInner := by
    refine Place.isInner_run (fun _ => h.top.zone) _ fun init more split some both => ?_
    rcases List.eq_nil_or_concat init with rfl | ⟨init, c, rfl⟩
    · obtain rfl : t = more := split
      rw [notComment] at both
      exact absurd both.2 (by decide)
    · rw [List.concat_eq_append, List.append_assoc] at split
      refine h.whole init c more split some (.inr (.inr ?_))
      rw [List.concat_eq_append, Place.run_append] at both
      exact both
  rw [Place.run_append] at top
  have behind := Place.isTop_of_run_blank hblanks inner rest top
  obtain ⟨init, c, rfl⟩ : ∃ init c, t = init ++ [c] :=
    ⟨_, _, (List.dropLast_concat_getLast h.nonempty).symm⟩
  rw [Place.run_append, List.singleton_append, Place.run_cons_congr p init c _ []] at behind
  rw [← Place.run_eq_start h.top h.unescaped h.nonempty, Place.run_append]
  change ((p.run init [c]).step c []).IsTop
  rwa [Place.step_eq_of_isTop behind]

end IsCore

theorem IsPiece.isCore {lead trail : Text} {later : List Text}
    (h : IsPiece p (lead ++ (t ++ trail)) later) (top : p.IsTop)
    (led : p.Leads (lead ++ (t ++ trail))) (hlead : ∀ c ∈ lead, Text.isBlank c = true)
    (nonempty : t ≠ []) (trimmed : Text.trim t = t) :
    IsCore (p.run lead (t ++ (trail ++ later.flatten))) t (trail ++ later.flatten) := by
  refine ⟨isTop_run_of_blank top hlead _, led.unescaped_run hlead _, nonempty, trimmed, ?_⟩
  intro init c more split some
  have inPiece := h.whole (lead ++ init) c (more ++ trail) (by simp [split]) (by simp [some])
  rw [Place.run_append] at inPiece
  simpa [split] using inPiece

/-- A comment that other pieces follow ends with its last character. -/
theorem IsPiece.exists_of_comment {later : List Text} (h : IsPiece p t later) (top : p.IsTop)
    (comment : startsComment t = true) (more : later ≠ []) :
    ∃ init, t = init ++ ['/'] ∧ (p.run init ('/' :: later.flatten)).EndsComment := by
  obtain ⟨inner, rfl⟩ := exists_eq_of_startsComment comment
  have step : p.step '/' ('*' :: inner ++ later.flatten) = ⟨some '/', none, 0, .opening⟩ :=
    Place.step_of_startsComment top rfl
  -- The place behind a part of the comment, with what is left of it in front of the other pieces.
  have inside {init more : Text} (split : '*' :: inner = init ++ more) :
      p.run ('/' :: init) (more ++ later.flatten) =
        (Place.mk (some '/') none 0 .opening).run init (more ++ later.flatten) := by
    rw [Place.run, ← List.append_assoc, ← split, step]
  have whole (init : Text) (c : Char) (more : Text) (split : '*' :: inner = init ++ c :: more)
      (some : more ≠ []) : ¬((Place.mk (Option.some '/') none 0 .opening).run init
        (c :: (more ++ later.flatten))).EndsComment := by
    rw [← List.cons_append, ← inside split]
    intro ends
    exact h.whole ('/' :: init) c more (by rw [split]; rfl) some (.inr (.inl ends))
  have left : ((Place.mk (some '/') none 0 .opening).run ('*' :: inner) later.flatten).IsTop := by
    have behind := h.left more
    rwa [Place.run, step] at behind
  obtain ⟨init, shape, ends⟩ :=
    Place.finishes_comment (by simp) rfl (by simp) (List.cons_ne_nil '*' inner) whole left
  refine ⟨'/' :: init, by rw [shape]; rfl, ?_⟩
  have place := inside shape
  rw [List.singleton_append] at place
  rwa [place]

theorem startsComment_append_of_head? (some : t ≠ []) {u : Text} (notStar : '*' ∉ u.head?) :
    startsComment (t ++ u) = startsComment t := by
  cases t with
  | nil => exact absurd rfl some
  | cons c t =>
    cases u with
    | nil => rw [List.append_nil]
    | cons d u => exact startsComment_append_cons (fun star => notStar (by rw [star]; rfl)) t u

/-- A piece that goes on with a comment has nothing in front of it. -/
theorem IsPiece.lead_eq_nil {lead trail : Text} {later : List Text}
    (h : IsPiece p (lead ++ (t ++ trail)) later) (top : p.IsTop)
    (hlead : ∀ c ∈ lead, Text.isBlank c = true) (nonempty : t ≠ [])
    (comment : startsComment (t ++ (trail ++ later.flatten)) = true) : lead = [] := by
  rcases List.eq_nil_or_concat lead with rfl | ⟨lead, c, rfl⟩
  · rfl
  · rw [List.concat_eq_append] at h hlead
    refine absurd (.inr (.inr ⟨?_, ?_⟩)) (h.whole lead c (t ++ trail) (by simp) (by simp [nonempty]))
    · have behind := isTop_run_of_blank top hlead (t ++ trail ++ later.flatten)
      rwa [Place.run_append] at behind
    · rwa [List.append_assoc]

theorem IsPiece.not_startsComment {lead trail next : Text} {others : List Text}
    (h : IsPiece p (lead ++ (t ++ trail)) (next :: others)) (top : p.IsTop)
    (hlead : ∀ c ∈ lead, Text.isBlank c = true) (htrail : ∀ c ∈ trail, Text.isBlank c = true)
    (nonempty : t ≠ []) (comment : startsComment next = true)
    (notComment : ¬startsComment (lead ++ (t ++ trail)) = true) :
    startsComment (t ++ (trail ++ (next :: others).flatten)) = false := by
  rw [Bool.eq_false_iff]
  intro starts
  obtain rfl := h.lead_eq_nil top hlead nonempty starts
  have notStar : '*' ∉ (trail ++ (next :: others).flatten).head? := by
    obtain ⟨inner, rfl⟩ := exists_eq_of_startsComment comment
    cases trail with
    | nil => simp
    | cons d trail =>
      rintro ⟨rfl⟩
      exact absurd (htrail '*' List.mem_cons_self) (by decide)
  rw [startsComment_append_of_head? nonempty notStar] at starts
  exact notComment (startsComment_of_isPrefix (List.prefix_append t trail) starts)

/-! ### Items as they follow each other -/

/-- Items that are read one after the other, on whatever lines they stand: each is its only item, and it
    leaves nothing open unless it is the last one; if it has no end of its own, a comment follows. -/
inductive Chained : List Text → Prop where
  | nil : Chained []
  | last {t : Text} (alone : items t = [t]) : Chained [t]
  | ended {t : Text} {later : List Text} (stands : Stands t) (h : Chained later) : Chained (t :: later)
  | beforeComment {t next : Text} {later : List Text} (alone : items t = [t])
      (top : (Place.start.run t []).IsTop) (comment : startsComment next = true)
      (h : Chained (next :: later)) : Chained (t :: next :: later)

/-- The end of a piece is the end of its item, since no blank ends a piece. -/
theorem finishes_of_blanks {lead trail init : Text} {later : Text} (nonempty : t ≠ [])
    (htrail : ∀ c ∈ trail, Text.isBlank c = true) (notBlank : Text.isBlank c = false)
    (split : lead ++ (t ++ trail) = init ++ [c])
    (ends : (p.run init (c :: later)).Ends c ∨ (p.run init (c :: later)).EndsComment) :
    (p.run lead (t ++ (trail ++ later))).Finishes t := by
  obtain ⟨rfl, t', rfl, rfl⟩ := concat_of_blanks nonempty htrail notBlank split
  refine ⟨t', c, rfl, ?_⟩
  rw [Place.run_append] at ends
  have same : (p.run lead (t' ++ [c] ++ ([] ++ later))).run t' [c] =
      (p.run lead (t' ++ c :: later)).run t' (c :: later) := by
    rw [List.nil_append, List.append_assoc, List.singleton_append, Place.run_cons_congr]
  rwa [same]

theorem chained_cons {q : Text} {pieces : List Text} (h : IsPiece p q pieces) (top : p.IsTop)
    (led : p.Leads q) (nonempty : Text.trim q ≠ []) (later : Chained (trimAll pieces)) :
    Chained (Text.trim q :: trimAll pieces) := by
  obtain ⟨lead, trail, eq, hlead, htrail⟩ := Text.exists_eq_append_trim q
  have trimmed := Text.trim_trim q
  generalize Text.trim q = t at eq nonempty trimmed
  subst eq
  have core := h.isCore top led hlead nonempty trimmed
  have ofEnd {init : Text} {c : Char} (notBlank : Text.isBlank c = false)
      (split : lead ++ (t ++ trail) = init ++ [c])
      (ends : (p.run init (c :: pieces.flatten)).Ends c ∨
        (p.run init (c :: pieces.flatten)).EndsComment) : Chained (t :: trimAll pieces) :=
    .ended (core.stands (finishes_of_blanks nonempty htrail notBlank split ends)) later
  rcases h.finished with ⟨-, comment⟩ | ⟨init, c, split, ends⟩ | rfl | ⟨next, others, rfl, comment⟩
  · by_cases more : pieces = []
    · subst more
      exact .last core.items_eq
    · obtain ⟨init, split, ends⟩ := h.exists_of_comment top (comment top.zone).2 more
      exact ofEnd (by decide) split (.inr ends)
  · refine ofEnd ?_ split (.inl ends)
    obtain ⟨-, -, ⟨rfl, -⟩ | ⟨rfl, -⟩⟩ := ends <;> decide
  · exact .last core.items_eq
  · by_cases isComment : startsComment (lead ++ (t ++ trail)) = true
    · obtain ⟨init, split, ends⟩ := h.exists_of_comment top isComment (List.cons_ne_nil next others)
      exact ofEnd (by decide) split (.inr ends)
    · have starts := startsComment_trim comment
      have some : Text.trim next ≠ [] := fun empty => by rw [empty] at starts; cases starts
      rw [trimAll_cons, if_neg some] at later ⊢
      have left := h.left (List.cons_ne_nil next others)
      rw [Place.run_append, List.append_assoc] at left
      have goesOn := h.not_startsComment top hlead htrail nonempty comment isComment
      exact .beforeComment core.items_eq (core.isTop_run htrail goesOn left) starts later

theorem chained_trimAll {pieces : List Text} (h : ArePieces p pieces) (led : AreLed p pieces) :
    Chained (trimAll pieces) := by
  induction pieces generalizing p with
  | nil => exact .nil
  | cons q pieces ih =>
    obtain ⟨piece, behind⟩ := h
    obtain ⟨top, ledHere, ledLater⟩ := led
    have later := ih behind ledLater
    rw [trimAll_cons]
    split
    · exact later
    · rename_i nonempty
      exact chained_cons piece top ledHere nonempty later

theorem chained_items (s : Text) : Chained (items s) := by
  have areThose := arePieces_piecesAt .start s
  rw [← pieces_eq_piecesAt] at areThose
  exact chained_trimAll areThose (areLed_pieces s)

/-- An item without an end of its own ends in front of a comment on the next line. -/
theorem items_append_comment (top : (Place.start.run t []).IsTop) {u : Text}
    (comment : startsComment u = true) : items (t ++ '\n' :: u) = items t ++ items u := by
  obtain ⟨init, last, parts, onward⟩ := exists_piecesAt_append .start t
  have topLine : (Place.start.step '\n' u).IsTop := isTop_step_of_blank ⟨rfl, rfl, rfl⟩ (by decide) u
  obtain ⟨rest, shape⟩ : ∃ rest, pieces u = [] :: rest := by
    have head := head?_piecesAt_of_comment (p := .start) ⟨rfl, rfl, rfl⟩ comment
    rw [← pieces_eq_piecesAt] at head
    exact List.head?_eq_some_iff.1 head
  have newLine : pieces ('\n' :: u) = ['\n'] :: rest := by
    have same : piecesAt (Place.start.step '\n' u) u = pieces u :=
      piecesAt_eq_pieces topLine (Place.unescaped_step_of_blank (by decide) _ _ _)
    rw [pieces_eq_piecesAt, piecesAt, same, shape]
    rfl
  rw [items_eq_trimAll, items_eq_trimAll, items_eq_trimAll, pieces_eq_piecesAt, onward '\n' u (by decide),
    piecesAt_of_isTop top (by decide), newLine, shape, pieces_eq_piecesAt, parts]
  have behind : trimAll ([] :: rest) = trimAll rest := rfl
  rw [behind, Text.prepend_cons, trimAll_append, trimAll_append, trimAll_cons, trimAll_cons,
    Text.trim_concat_of_blank (by decide)]
  split <;> simp [trimAll]

namespace Chained

variable {lines : List Text}

theorem alone (h : Chained lines) (member : t ∈ lines) : items t = [t] := by
  induction h with
  | nil => cases member
  | last alone =>
    obtain rfl := List.mem_singleton.1 member
    exact alone
  | ended stands _ ih =>
    rcases List.mem_cons.1 member with rfl | member
    · exact stands.alone
    · exact ih member
  | beforeComment alone _ _ _ ih =>
    rcases List.mem_cons.1 member with rfl | member
    · exact alone
    · exact ih member

/-- Such items are found again, each on a line of its own. -/
theorem items_joinWith (h : Chained lines) : items (Text.joinWith ['\n'] lines) = lines := by
  induction h with
  | nil => rfl
  | last alone => rwa [Text.joinWith, List.intercalate_singleton]
  | @ended t later stands _ ih =>
    cases later with
    | nil =>
      rw [Text.joinWith, List.intercalate_singleton]
      exact stands.alone
    | cons next later =>
      rw [Text.joinWith, List.intercalate_cons_cons, List.append_assoc, List.singleton_append,
        stands.items_append (by decide)]
      exact congrArg (t :: ·) ih
  | @beforeComment t next later alone top comment _ ih =>
    obtain ⟨tail, first⟩ : ∃ tail, Text.joinWith ['\n'] (next :: later) = next ++ tail := by
      cases later with
      | nil => exact ⟨[], by simp [Text.joinWith]⟩
      | cons _ _ => exact ⟨_, by rw [Text.joinWith, List.intercalate_cons_cons, List.append_assoc]⟩
    have starts : startsComment (Text.joinWith ['\n'] (next :: later)) = true := by
      rw [first]
      exact startsComment_of_isPrefix (List.prefix_append next tail) comment
    rw [Text.joinWith, List.intercalate_cons_cons, List.append_assoc, List.singleton_append,
      ← Text.joinWith, items_append_comment top starts, alone, ih]
    rfl

end Chained

/-- An item of a style sheet is its only item. -/
theorem items_of_mem_items (member : t ∈ items s) : items t = [t] :=
  (chained_items s).alone member

/-- The items of a style sheet are found again when each is on a line of its own. -/
theorem items_joinWith_items (s : Text) : items (Text.joinWith ['\n'] (items s)) = items s :=
  (chained_items s).items_joinWith

/-- Taking a style sheet apart is stable, however malformed it is. -/
theorem items_stable (s : Text) :
    (∀ item ∈ items s, items item = [item]) ∧ items (Text.joinWith ['\n'] (items s)) = items s := by
  constructor
  · intro item member
    exact items_of_mem_items member
  · exact items_joinWith_items s

/-- A block that is closed once too often, a backslash in front of a comment, a string in which a comment
    would start, and a comment that never ends. -/
theorem items_stable_stray :
    items "a \x7b \x7d \x7d \\/* x */\"b\": '/*;' ; /*\"".toList =
        ["a \x7b \x7d".toList, "\x7d \\".toList, "/* x */".toList, "\"b\": '/*;' ;".toList,
          "/*\"".toList] ∧
      (∀ item ∈ items "a \x7b \x7d \x7d \\/* x */\"b\": '/*;' ; /*\"".toList, items item = [item]) ∧
        items (Text.joinWith ['\n']
            (items "a \x7b \x7d \x7d \\/* x */\"b\": '/*;' ; /*\"".toList)) =
          items "a \x7b \x7d \x7d \\/* x */\"b\": '/*;' ; /*\"".toList := by
  refine ⟨by decide, ?_⟩
  exact items_stable _

/-! ### Blanks around a style sheet -/

theorem trimAll_eq_nil {pieces : List Text} (h : ∀ c ∈ pieces.flatten, Text.isBlank c = true) :
    trimAll pieces = [] := by
  induction pieces with
  | nil => rfl
  | cons q pieces ih =>
    rw [List.flatten_cons, List.forall_mem_append] at h
    rw [trimAll_cons, if_pos (Text.trim_eq_nil.2 h.1)]
    exact ih h.2

theorem items_append_blanks (s : Text) {blanks : Text} (h : ∀ c ∈ blanks, Text.isBlank c = true) :
    items (s ++ blanks) = items s := by
  cases blanks with
  | nil => rw [List.append_nil]
  | cons d blanks =>
    have plain {c : Char} (hc : Text.isBlank c = false) : d ≠ c :=
      Scan.ne_of_blank (h d List.mem_cons_self) hc
    obtain ⟨init, last, parts, onward⟩ := exists_piecesAt_append .start s
    obtain ⟨q, rest, shape⟩ := List.exists_cons_of_ne_nil
      (piecesAt_ne_nil (Place.start.run s []) (d :: blanks))
    have whole : q ++ rest.flatten = d :: blanks := by
      rw [← List.flatten_cons, ← shape, flatten_piecesAt]
    rw [← whole] at h
    obtain ⟨blankHere, blankBehind⟩ := List.forall_mem_append.1 h
    have here : Text.trim ([] ++ (last ++ q)) = Text.trim last :=
      Text.trim_append_of_blank (by simp) blankHere
    rw [List.nil_append] at here
    rw [items_eq_trimAll, items_eq_trimAll, pieces_eq_piecesAt, pieces_eq_piecesAt,
      onward d blanks ⟨plain (by decide), plain (by decide)⟩, parts, shape, Text.prepend_cons,
      trimAll_append, trimAll_append, trimAll_cons, here, trimAll_eq_nil blankBehind, trimAll_cons]
    rfl

theorem items_trim (s : Text) : items (Text.trim s) = items s := by
  obtain ⟨lead, trail, eq, hlead, htrail⟩ := Text.exists_eq_append_trim s
  have left : Text.trimLeft s = Text.trimLeft (Text.trim s ++ trail) := by
    conv_lhs => rw [eq]
    exact List.dropWhile_append_of_pos hlead
  rw [← items_trimLeft s, left, items_trimLeft, items_append_blanks _ htrail]

end Sheet
end CondCss
