import Mathlib.Tactic.MkIffOfInductiveProp
import CondCss.Proofs.Scan.Closed

/-!
# How a style sheet is cut into items

The scan of a style sheet is followed one character at a time: at every place of the text it knows
the open string, the depth of braces, and whether it is in a comment. An item ends with the brace that
closes its outermost block or with a semicolon outside all braces; a comment outside all braces is an
item of its own; and blanks around items belong to none.

`items_partition` says that the items of a text are what these places make of it: they are the text,
with blanks around them, each begins outside everything, and none goes on behind its end.
-/

namespace CondCss
namespace Sheet

/-! ### Places -/

/-- The part of a comment, if any, in which a place is. -/
inductive Zone where
  /-- Outside every comment. -/
  | code
  /-- Between the slash and the star that open a comment. -/
  | opening
  /-- Inside a comment. -/
  | comment
  /-- Between the star and the slash that end a comment. -/
  | closing
  deriving DecidableEq, Repr

/-- A place in a style sheet, as far as its items depend on it. -/
structure Place where
  /-- The character in front of the place. -/
  before : Option Char
  /-- The open string. -/
  quote : Option Quote
  /-- How many blocks are open. -/
  depth : Nat
  /-- Where the place is in a comment. -/
  zone : Zone
  deriving DecidableEq, Repr

namespace Place

/-- The place in front of a text. -/
def start : Place := ⟨none, none, 0, .code⟩

/-- How many blocks are open behind a character that stands outside strings and comments. A closing
    brace too many closes nothing. -/
def depthBehind (depth : Nat) (c : Char) : Nat :=
  if c == '{' then depth + 1 else if c == '}' then depth - 1 else depth

/-- The place behind the character `c`, when `rest` follows it. -/
def step (p : Place) (c : Char) (rest : Text) : Place :=
  match p.zone with
  | .code =>
    if p.quote.isNone && startsComment (c :: rest) then ⟨some c, none, p.depth, .opening⟩
    else
      let quote := Quote.next p.before c p.quote
      ⟨some c, quote, if quote.isSome then p.depth else depthBehind p.depth c, .code⟩
  | .opening => ⟨some c, none, p.depth, .comment⟩
  | .comment =>
    ⟨some c, none, p.depth, if ['*', '/'].isPrefixOf (c :: rest) then .closing else .comment⟩
  | .closing => ⟨some c, none, p.depth, .code⟩

/-- The place behind a stretch of text, when `rest` follows it. -/
def run (p : Place) : (stretch rest : Text) → Place
  | [], _ => p
  | c :: stretch, rest => (p.step c (stretch ++ rest)).run stretch rest

theorem run_append (p : Place) (s t rest : Text) :
    p.run (s ++ t) rest = (p.run s (t ++ rest)).run t rest := by
  induction s generalizing p with
  | nil => rfl
  | cons c s ih => rw [List.cons_append, run, run, List.append_assoc, ih]

/-- A place outside all strings, blocks and comments. -/
@[mk_iff]
structure IsTop (p : Place) : Prop where
  quote : p.quote = none
  depth : p.depth = 0
  zone : p.zone = .code

instance (p : Place) : Decidable p.IsTop :=
  decidable_of_iff _ (isTop_iff p).symm

/-- Whether a character ends an item: it is the brace that closes the only open block, or a semicolon
    outside all blocks, and stands outside strings and comments. -/
def Ends (p : Place) (c : Char) : Prop :=
  p.zone = .code ∧ p.quote = none ∧ (c = '}' ∧ p.depth = 1 ∨ c = ';' ∧ p.depth = 0)

/-- Whether a character ends a comment outside all blocks. -/
def EndsComment (p : Place) : Prop :=
  p.zone = .closing ∧ p.depth = 0

instance (p : Place) (c : Char) : Decidable (p.Ends c) :=
  inferInstanceAs (Decidable (_ ∧ _))

instance (p : Place) : Decidable p.EndsComment :=
  inferInstanceAs (Decidable (_ ∧ _))

/-- Whether an item cannot go on behind a character: the character ends it, or a comment outside all
    blocks follows. -/
def Boundary (p : Place) (c : Char) (rest : Text) : Prop :=
  p.Ends c ∨ p.EndsComment ∨ ((p.step c rest).IsTop ∧ startsComment rest = true)

/-- Whether a stretch is a comment outside all blocks, or what is left of one. -/
def AtComment (p : Place) (t : Text) : Prop :=
  p.depth = 0 ∧ (p.zone = .code → p.quote = none ∧ startsComment t = true)

theorem step_of_startsComment {p : Place} {c : Char} {rest : Text} (top : p.IsTop)
    (h : startsComment (c :: rest) = true) : p.step c rest = ⟨some c, none, 0, .opening⟩ := by
  simp [step, top.zone, top.quote, top.depth, h]

theorem depth_step_of_zone_ne {p : Place} (h : p.zone ≠ .code) (c : Char) (rest : Text) :
    (p.step c rest).depth = p.depth := by
  unfold step
  split <;> first | rfl | exact absurd ‹_› h

theorem isTop_step_of_ends {p : Place} {c : Char} {rest : Text} (h : p.Ends c) :
    (p.step c rest).IsTop := by
  obtain ⟨code, closed, ⟨rfl, depth⟩ | ⟨rfl, depth⟩⟩ := h
  all_goals simp [isTop_iff, step, code, closed, depth, startsComment, List.isPrefixOf, Quote.next,
    Quote.ofChar?, depthBehind]

theorem isTop_step_of_endsComment {p : Place} (h : p.EndsComment) (c : Char) (rest : Text) :
    (p.step c rest).IsTop := by
  simp [isTop_iff, step, h.1, h.2]

end Place

/-! ### Pieces, one character at a time -/

/-- The pieces of a text that starts at the place `p`. -/
def piecesAt (p : Place) : Text → List Text
  | [] => [[]]
  | c :: rest =>
    let onward := piecesAt (p.step c rest) rest
    if p.IsTop ∧ startsComment (c :: rest) = true then [] :: Text.consHead c onward
    else if p.Ends c ∨ p.EndsComment then [c] :: onward
    else Text.consHead c onward

/-- The zone that a region of the scan is. -/
def Region.zone : Region → Zone
  | code => .code
  | opening => .opening
  | comment => .comment

section Reading

variable {before : Option Char} {quote : Option Quote} {depth : Nat} {c : Char} {rest : Text}

/-- What is read at a character outside comments that starts none. -/
theorem piecesAt_code (notComment : ¬(quote.isNone && startsComment (c :: rest)) = true) :
    piecesAt ⟨before, quote, depth, .code⟩ (c :: rest) =
      let onward := piecesAt ⟨some c, Quote.next before c quote,
        if (Quote.next before c quote).isSome then depth else Place.depthBehind depth c, .code⟩ rest
      if (Place.mk before quote depth .code).Ends c then [c] :: onward
      else Text.consHead c onward := by
  have notHere : ¬((Place.mk before quote depth .code).IsTop ∧ startsComment (c :: rest) = true) := by
    rintro ⟨⟨rfl, -, -⟩, comment⟩
    exact notComment comment
  have notComment' : ¬(Place.mk before quote depth .code).EndsComment := fun h => by cases h.1
  simp only [piecesAt, if_neg notHere, or_iff_left notComment', Place.step, if_neg notComment]

/-- Nothing ends in a string; outside strings the character and the depth decide. -/
theorem ends_iff : (Place.mk before quote depth .code).Ends c ↔
    (Quote.next before c quote).isSome = false ∧ (c = '}' ∧ depth = 1 ∨ c = ';' ∧ depth = 0) := by
  have same (char : c = '}' ∧ depth = 1 ∨ c = ';' ∧ depth = 0) : Quote.next before c quote = quote := by
    refine Quote.next_of_ofChar?_eq_none ?_ before quote
    rcases char with ⟨rfl, -⟩ | ⟨rfl, -⟩ <;> decide
  constructor
  · rintro ⟨-, closed, char⟩
    obtain rfl : quote = none := closed
    exact ⟨by rw [same char]; rfl, char⟩
  · rintro ⟨closed, char⟩
    rw [same char] at closed
    exact ⟨rfl, by simpa using closed, char⟩

/-- What is read at a character of a comment. -/
theorem piecesAt_comment {p : Place} (zone : p.zone ≠ .code) (goesOn : ¬p.EndsComment) :
    piecesAt p (c :: rest) = Text.consHead c (piecesAt (p.step c rest) rest) := by
  have notTop : ¬(p.IsTop ∧ startsComment (c :: rest) = true) := fun h => zone h.1.zone
  have notEnds : ¬p.Ends c := fun h => zone h.1
  simp only [piecesAt, if_neg notTop, if_neg (not_or.2 ⟨notEnds, goesOn⟩)]

/-- A comment is looked for outside strings, and cut off outside blocks. -/
theorem piecesAt_startsComment (h : startsComment (c :: rest) = true) :
    piecesAt ⟨before, none, depth, .code⟩ (c :: rest) =
      let onward := Text.consHead c (piecesAt ⟨some c, none, depth, .opening⟩ rest)
      if depth = 0 then [] :: onward else onward := by
  have notEnds : ¬(Place.mk before none depth .code).Ends c := by
    rintro ⟨-, -, ⟨rfl, -⟩ | ⟨rfl, -⟩⟩ <;> cases h
  have notEndsComment : ¬(Place.mk before none depth .code).EndsComment := fun h => by cases h.1
  simp [piecesAt, Place.isTop_iff, h, notEnds, notEndsComment, Place.step]

end Reading

/-- No comment ends where the scan of one goes on. -/
theorem isPrefixOf_end_eq_false {c : Char} {rest : Text}
    (goesOn : ∀ tail, c = '*' → rest = '/' :: tail → False) :
    ['*', '/'].isPrefixOf (c :: rest) = false := by
  rw [Bool.eq_false_iff]
  intro ends
  obtain ⟨tail, shape⟩ := List.isPrefixOf_iff_prefix.1 ends
  cases shape
  exact goesOn tail rfl rfl

/-- The two ways to cut a text into pieces are the same. -/
theorem piecesFrom_eq_piecesAt (before : Option Char) (quote : Option Quote) (depth : Nat)
    (region : Region) (s : Text) :
    piecesFrom before quote depth region s = piecesAt ⟨before, quote, depth, region.zone⟩ s := by
  fun_induction piecesFrom before quote depth region s with
  | case1 => rfl
  | case2 before quote depth rest outermost ih =>
    rw [piecesAt_comment (by simp [Region.zone]) (by simp [Region.zone, Place.EndsComment]), ih]
    simp_all [piecesAt, Place.step, Region.zone, Place.isTop_iff, Place.EndsComment, Text.consHead]
  | case3 before quote depth rest inner ih =>
    rw [piecesAt_comment (by simp [Region.zone]) (by simp [Region.zone, Place.EndsComment]), ih]
    simp_all [piecesAt, Place.step, Region.zone, Place.isTop_iff, Place.EndsComment, Text.consHead,
      Place.Ends]
  | case4 before quote depth c rest goesOn ih =>
    have notEnds := isPrefixOf_end_eq_false goesOn
    rw [piecesAt_comment (by simp [Region.zone]) (by simp [Region.zone, Place.EndsComment]), ih]
    simp [Region.zone, Place.step, notEnds]
  | case5 before quote depth c rest ih =>
    rw [piecesAt_comment (by simp [Region.zone]) (by simp [Region.zone, Place.EndsComment]), ih]
    rfl
  | case6 before quote depth c rest comment onward outermost ih =>
    simp_all +zetaDelta [Region.zone, piecesAt_startsComment]
  | case7 before quote depth c rest comment onward inner ih =>
    simp_all +zetaDelta [Region.zone, piecesAt_startsComment]
  | case8 before quote depth c rest notComment quote' inString ih =>
    simp_all +zetaDelta [Region.zone, piecesAt_code, ends_iff]
  | case9 before quote depth c rest notComment quote' outsideString opening ih =>
    simp_all +zetaDelta [Region.zone, piecesAt_code, ends_iff, Place.depthBehind]
  | case10 before quote depth c rest notComment quote' outsideString _ closing outermost ih =>
    simp_all +zetaDelta [Region.zone, piecesAt_code, ends_iff, Place.depthBehind]
  | case11 before quote depth c rest notComment quote' outsideString _ closing inner ih =>
    simp_all +zetaDelta [Region.zone, piecesAt_code, ends_iff, Place.depthBehind]
  | case12 before quote depth c rest notComment quote' outsideString _ _ ends ih =>
    simp_all +zetaDelta [Region.zone, piecesAt_code, ends_iff, Place.depthBehind]
  | case13 before quote depth c rest notComment quote' outsideString notOpening notClosing goesOn ih =>
    simp_all +zetaDelta [Region.zone, piecesAt_code, ends_iff, Place.depthBehind]

theorem piecesAt_ne_nil (p : Place) (s : Text) : piecesAt p s ≠ [] := by
  cases s with
  | nil => simp [piecesAt]
  | cons c rest =>
    have headed (pieces : List Text) : Text.consHead c pieces ≠ [] := by
      cases pieces <;> simp [Text.consHead]
    simp only [piecesAt]
    split
    · simp
    · split
      · simp
      · exact headed _

theorem flatten_piecesAt (p : Place) (s : Text) : (piecesAt p s).flatten = s := by
  induction s generalizing p with
  | nil => rfl
  | cons c rest ih =>
    simp only [piecesAt]
    split
    · rw [List.flatten_cons, Text.flatten_consHead, ih]
      rfl
    · split
      · rw [List.flatten_cons, ih]
        rfl
      · rw [Text.flatten_consHead, ih]

/-- Outside everything, the piece in front of a comment ends at once. -/
theorem head?_piecesAt_of_comment {p : Place} {s : Text} (top : p.IsTop)
    (h : startsComment s = true) : (piecesAt p s).head? = some [] := by
  cases s with
  | nil => cases h
  | cons c rest => simp [piecesAt, top, h]

theorem isPrefix_of_mem_head? {p : Place} {s t : Text} (h : t ∈ (piecesAt p s).head?) : t <+: s := by
  obtain ⟨later, eq⟩ := List.head?_eq_some_iff.1 h
  have := flatten_piecesAt p s
  rw [eq, List.flatten_cons] at this
  exact ⟨_, this⟩

theorem startsComment_of_isPrefix {s t : Text} (h : t <+: s) (comment : startsComment t = true) :
    startsComment s = true :=
  List.isPrefixOf_iff_prefix.2 ((List.isPrefixOf_iff_prefix.1 comment).trans h)

/-- The first piece from a place outside comments on starts none. -/
theorem not_atComment_head? {p : Place} {s t : Text} (code : p.zone = .code)
    (h : t ∈ (piecesAt p s).head?) : ¬p.AtComment t := by
  rintro ⟨depth, comment⟩
  obtain ⟨closed, starts⟩ := comment code
  have starts' := startsComment_of_isPrefix (isPrefix_of_mem_head? h) starts
  rw [head?_piecesAt_of_comment ⟨closed, depth, code⟩ starts'] at h
  cases h
  cases starts

/-- The star behind the slash that opens a comment goes to the same piece. -/
theorem startsComment_of_mem_head? {p : Place} {c : Char} {rest t : Text}
    (h : startsComment (c :: rest) = true) (opening : p.zone = .opening)
    (head : t ∈ (piecesAt p rest).head?) : startsComment (c :: t) = true := by
  cases rest with
  | nil => simp [startsComment, List.isPrefixOf] at h
  | cons d rest =>
    rw [piecesAt_comment (by simp [opening]) (by simp [Place.EndsComment, opening])] at head
    obtain ⟨u, later, eq⟩ := List.exists_cons_of_ne_nil (piecesAt_ne_nil (p.step d rest) rest)
    rw [eq] at head
    cases head
    simpa [startsComment, List.isPrefixOf] using h

/-! ### What the pieces are -/

/-- What a piece of a style sheet is that is read from the place `p` on, with other pieces behind
    it. -/
structure IsPiece (p : Place) (t : Text) (later : List Text) : Prop where
  /-- Only the last piece and a piece in front of a comment have no end of their own. -/
  finished : p.AtComment t ∨ (∃ init c, t = init ++ [c] ∧ (p.run init (c :: later.flatten)).Ends c) ∨
    later = [] ∨ ∃ next others, later = next :: others ∧ startsComment next = true
  /-- No piece goes on behind its end. -/
  whole : ∀ init c more, t = init ++ c :: more → more ≠ [] →
    ¬(p.run init (c :: (more ++ later.flatten))).Boundary c (more ++ later.flatten)
  /-- What follows a piece begins outside everything. -/
  left : later ≠ [] → (p.run t later.flatten).IsTop

/-- Pieces that are read one after the other. -/
def ArePieces : Place → List Text → Prop
  | _, [] => True
  | p, t :: later => IsPiece p t later ∧ ArePieces (p.run t later.flatten) later

section Pieces

variable {p : Place} {c : Char} {pieces : List Text}

theorem arePieces_empty (p : Place) : ArePieces p [[]] :=
  ⟨⟨.inr (.inr (.inl rfl)), fun init c more h => by simp at h, fun h => absurd rfl h⟩, trivial⟩

/-- A character goes to the first piece if that one is not finished in front of it. -/
theorem ArePieces.consHead (h : ArePieces (p.step c pieces.flatten) pieces) (nonempty : pieces ≠ [])
    (comment : ∀ t ∈ pieces.head?, (p.step c pieces.flatten).AtComment t → p.AtComment (c :: t))
    (inner : p.Boundary c pieces.flatten → pieces.head? = some []) :
    ArePieces p (Text.consHead c pieces) := by
  obtain ⟨t, later, rfl⟩ := List.exists_cons_of_ne_nil nonempty
  obtain ⟨⟨finished, whole, left⟩, behind⟩ := h
  refine ⟨⟨?_, ?_, left⟩, behind⟩
  · rcases finished with isComment | ⟨init, d, rfl, ends⟩ | last | next
    · exact .inl (comment t rfl isComment)
    · refine .inr (.inl ⟨c :: init, d, rfl, ?_⟩)
      simpa [Place.run] using ends
    · exact .inr (.inr (.inl last))
    · exact .inr (.inr (.inr next))
  · intro init d more split some
    cases init with
    | nil =>
      obtain ⟨rfl, rfl⟩ := List.cons.inj split
      exact fun boundary => some (Option.some.inj (inner boundary))
    | cons x init =>
      obtain ⟨rfl, rfl⟩ := List.cons.inj split
      simpa [Place.run] using whole init d more rfl some

/-- A character that ends a piece. -/
theorem ArePieces.cut (h : ArePieces (p.step c pieces.flatten) pieces)
    (ends : p.Ends c ∨ p.EndsComment) : ArePieces p ([c] :: pieces) := by
  refine ⟨⟨?_, fun init d more split some => ?_, fun _ => ?_⟩, h⟩
  · rcases ends with ends | ends
    · exact .inr (.inl ⟨[], c, rfl, ends⟩)
    · exact .inl ⟨ends.2, fun code => by rw [ends.1] at code; cases code⟩
  · cases init with
    | nil => exact absurd (List.cons.inj split).2.symm some
    | cons x init => simp at split
  · rcases ends with ends | ends
    · exact Place.isTop_step_of_ends ends
    · exact Place.isTop_step_of_endsComment ends c _

/-- A character belongs to the comment that goes on behind it, unless the comment only starts there. -/
theorem atComment_cons {rest t : Text} (notHere : ¬(p.IsTop ∧ startsComment (c :: rest) = true))
    (head : t ∈ (piecesAt (p.step c rest) rest).head?) (h : (p.step c rest).AtComment t) :
    p.AtComment (c :: t) := by
  by_cases code : p.zone = .code
  · exfalso
    by_cases starts : (p.quote.isNone && startsComment (c :: rest)) = true
    · have depth : (p.step c rest).depth = p.depth := by simp [Place.step, code, starts]
      obtain ⟨closed, starts⟩ := Bool.and_eq_true_iff.1 starts
      exact notHere ⟨⟨Option.isNone_iff_eq_none.1 closed, depth ▸ h.1, code⟩, starts⟩
    · have code' : (p.step c rest).zone = .code := by simp [Place.step, code, starts]
      exact not_atComment_head? code' head h
  · exact ⟨Place.depth_step_of_zone_ne code c rest ▸ h.1, fun h => absurd h code⟩

end Pieces

/-- The pieces of a text are what its places make of them. -/
theorem arePieces_piecesAt (p : Place) (s : Text) : ArePieces p (piecesAt p s) := by
  induction s generalizing p with
  | nil => exact arePieces_empty p
  | cons c rest ih =>
    have onward : ArePieces (p.step c (piecesAt (p.step c rest) rest).flatten)
        (piecesAt (p.step c rest) rest) := by
      rw [flatten_piecesAt]
      exact ih _
    have nonempty := piecesAt_ne_nil (p.step c rest) rest
    simp only [piecesAt]
    split
    · rename_i comment
      obtain ⟨top, starts⟩ := comment
      have step := Place.step_of_startsComment top starts
      have headed {t : Text} (head : t ∈ (piecesAt (p.step c rest) rest).head?) :
          startsComment (c :: t) = true :=
        startsComment_of_mem_head? starts (by rw [step]) head
      have isComment : ArePieces p (Text.consHead c (piecesAt (p.step c rest) rest)) := by
        refine onward.consHead nonempty ?_ ?_
        · intro t head _
          exact ⟨top.depth, fun _ => ⟨top.quote, headed head⟩⟩
        · rw [flatten_piecesAt]
          rintro (⟨-, -, ⟨rfl, -⟩ | ⟨rfl, -⟩⟩ | ⟨closing, -⟩ | ⟨behind, -⟩)
          · cases starts
          · cases starts
          · rw [top.zone] at closing
            cases closing
          · rw [step] at behind
            cases behind.zone
      refine ⟨⟨.inr (.inr (.inr ?_)), fun init d more h => by simp at h, fun _ => top⟩, isComment⟩
      obtain ⟨t, later, eq⟩ := List.exists_cons_of_ne_nil nonempty
      exact ⟨c :: t, later, by rw [eq]; rfl, headed (by rw [eq]; rfl)⟩
    · rename_i notComment
      split
      · rename_i ends
        exact onward.cut ends
      · rename_i goesOn
        obtain ⟨notEnds, notEndsComment⟩ := not_or.1 goesOn
        refine onward.consHead nonempty ?_ ?_
        · rw [flatten_piecesAt]
          intro t head isComment
          exact atComment_cons notComment head isComment
        · rw [flatten_piecesAt]
          rintro (ends | ends | ⟨top, starts⟩)
          · exact absurd ends notEnds
          · exact absurd ends notEndsComment
          · exact head?_piecesAt_of_comment top starts

/-! ### Items -/

/-- The place in a text between `front` and `rest`. -/
def placeAt (front rest : Text) : Place :=
  Place.start.run front rest

/-- What an item of a style sheet is that stands between `front` and `rest`, with other items behind
    it. -/
structure IsItem (front t rest : Text) (later : List Text) : Prop where
  nonempty : t ≠ []
  trimmed : Text.trim t = t
  /-- It begins outside all strings, blocks and comments. -/
  top : (placeAt front (t ++ rest)).IsTop
  /-- It is a comment, or ends with the brace that closes its block or with a semicolon outside all
      blocks, or is the last one, or stands in front of a comment. -/
  finished : startsComment t = true ∨
    (∃ init c, t = init ++ [c] ∧ (placeAt (front ++ init) (c :: rest)).Ends c) ∨
    later = [] ∨ ∃ next others, later = next :: others ∧ startsComment next = true
  /-- It does not go on behind such an end, nor beyond a comment. -/
  whole : ∀ init c more, t = init ++ c :: more → more ≠ [] →
    ¬(placeAt (front ++ init) (c :: (more ++ rest))).Boundary c (more ++ rest)

/-- A text behind `front` that consists of items and of blanks around them. -/
inductive Laid : (front : Text) → (items : List Text) → Text → Prop where
  | nil (front : Text) : Laid front [] []
  | blank {front : Text} {items : List Text} {c : Char} {s : Text} (hc : Text.isBlank c = true)
      (h : Laid (front ++ [c]) items s) : Laid front items (c :: s)
  | item {front : Text} {items : List Text} {t s : Text} (ht : IsItem front t s items)
      (h : Laid (front ++ t) items s) : Laid front (t :: items) (t ++ s)

theorem Laid.blanks {front lead s : Text} {items : List Text}
    (hlead : ∀ c ∈ lead, Text.isBlank c = true) (h : Laid (front ++ lead) items s) :
    Laid front items (lead ++ s) := by
  induction lead generalizing front with
  | nil => rwa [List.append_nil] at h
  | cons c lead ih =>
    obtain ⟨hc, hlead⟩ := List.forall_mem_cons.1 hlead
    refine .blank hc (ih hlead ?_)
    rwa [List.append_assoc]

theorem isTop_step_of_blank {p : Place} {c : Char} (top : p.IsTop) (hc : Text.isBlank c = true)
    (rest : Text) : (p.step c rest).IsTop := by
  have noQuote : Quote.ofChar? c = none :=
    Quote.ofChar?_eq_none (Scan.ne_of_blank hc (by decide)) (Scan.ne_of_blank hc (by decide))
  have notSlash : '/' ≠ c := (Scan.ne_of_blank hc (by decide)).symm
  have notOpening : c ≠ '{' := Scan.ne_of_blank hc (by decide)
  have notClosing : c ≠ '}' := Scan.ne_of_blank hc (by decide)
  simp [Place.isTop_iff, Place.step, top.zone, top.quote, top.depth, startsComment, List.isPrefixOf,
    notSlash, Quote.next_of_ofChar?_eq_none noQuote, Place.depthBehind, notOpening, notClosing]

/-- Blanks lead from a place outside everything to another one. -/
theorem isTop_run_of_blank {p : Place} {lead : Text} (top : p.IsTop)
    (hlead : ∀ c ∈ lead, Text.isBlank c = true) (rest : Text) : (p.run lead rest).IsTop := by
  induction lead generalizing p with
  | nil => exact top
  | cons c lead ih =>
    obtain ⟨hc, hlead⟩ := List.forall_mem_cons.1 hlead
    exact ih (isTop_step_of_blank top hc _) hlead

theorem startsComment_trim {t : Text} (h : startsComment t = true) :
    startsComment (Text.trim t) = true := by
  obtain ⟨rest, rfl⟩ := List.isPrefixOf_iff_prefix.1 h
  rw [Text.trim, List.cons_append, Text.trimLeft_of_not_blank (by decide),
    Text.trimRight_of_not_blank (by decide), List.cons_append,
    Text.trimRight_of_not_blank (by decide)]
  rfl

/-- Pieces without blanks at their ends, as far as they are not empty. -/
def trimAll (pieces : List Text) : List Text :=
  (pieces.map Text.trim).filter (!·.isEmpty)

theorem trimAll_cons (t : Text) (pieces : List Text) :
    trimAll (t :: pieces) = if Text.trim t = [] then trimAll pieces else Text.trim t :: trimAll pieces := by
  by_cases h : Text.trim t = [] <;> simp [trimAll, h]

/-- A text that ends with no blank has none behind its trimmed form. -/
theorem concat_of_blanks {lead t trail init : Text} {c : Char} (nonempty : t ≠ [])
    (htrail : ∀ c ∈ trail, Text.isBlank c = true) (notBlank : Text.isBlank c = false)
    (h : lead ++ (t ++ trail) = init ++ [c]) : trail = [] ∧ ∃ t', t = t' ++ [c] ∧ init = lead ++ t' := by
  rcases List.eq_nil_or_concat trail with rfl | ⟨trail, d, rfl⟩
  · obtain ⟨t', d, rfl⟩ := (List.eq_nil_or_concat t).resolve_left nonempty
    rw [List.append_nil, List.concat_eq_append, ← List.append_assoc] at h
    obtain ⟨rfl, same⟩ := List.append_inj' h rfl
    cases same
    exact ⟨rfl, t', List.concat_eq_append, rfl⟩
  · rw [← List.append_assoc, List.concat_eq_append, ← List.append_assoc] at h
    obtain ⟨-, same⟩ := List.append_inj' h rfl
    cases same
    rw [htrail c (by simp)] at notBlank
    cases notBlank

/-- A piece that is not blank is an item, without the blanks around it. -/
theorem IsPiece.isItem {front lead t trail : Text} {later : List Text}
    (h : IsPiece (placeAt front (lead ++ (t ++ trail) ++ later.flatten)) (lead ++ (t ++ trail)) later)
    (top : (placeAt front (lead ++ (t ++ trail) ++ later.flatten)).IsTop)
    (hlead : ∀ c ∈ lead, Text.isBlank c = true) (htrail : ∀ c ∈ trail, Text.isBlank c = true)
    (nonempty : t ≠ []) (trimmed : Text.trim t = t) :
    IsItem (front ++ lead) t (trail ++ later.flatten) (trimAll later) := by
  have place (init rest : Text) : placeAt (front ++ lead ++ init) rest =
      (placeAt front (lead ++ init ++ rest)).run (lead ++ init) rest := by
    rw [placeAt, placeAt, List.append_assoc, Place.run_append]
  refine ⟨nonempty, trimmed, ?_, ?_, ?_⟩
  · have := isTop_run_of_blank top hlead (t ++ (trail ++ later.flatten))
    rw [← List.append_nil (front ++ lead), place, List.append_nil]
    simpa using this
  · rcases h.finished with ⟨-, comment⟩ | ⟨init, c, split, ends⟩ | rfl | ⟨next, others, rfl, comment⟩
    · have starts := startsComment_trim (comment top.zone).2
      rw [Text.trim_append_of_blank hlead htrail, trimmed] at starts
      exact .inl starts
    · refine .inr (.inl ?_)
      have notBlank : Text.isBlank c = false := by
        obtain ⟨-, -, ⟨rfl, -⟩ | ⟨rfl, -⟩⟩ := ends <;> decide
      obtain ⟨rfl, t', rfl, rfl⟩ := concat_of_blanks nonempty htrail notBlank split
      refine ⟨t', c, rfl, ?_⟩
      rw [place]
      simpa using ends
    · exact .inr (.inr (.inl rfl))
    · have starts := startsComment_trim comment
      have some : Text.trim next ≠ [] := fun empty => by rw [empty] at starts; cases starts
      exact .inr (.inr (.inr ⟨_, _, by rw [trimAll_cons, if_neg some], starts⟩))
  · rintro init c more rfl some
    rw [place]
    have := h.whole (lead ++ init) c (more ++ trail) (by simp) (by simp [some])
    simpa using this

theorem laid_of_arePieces {front : Text} {pieces : List Text}
    (h : ArePieces (placeAt front pieces.flatten) pieces)
    (top : pieces ≠ [] → (placeAt front pieces.flatten).IsTop) :
    Laid front (trimAll pieces) pieces.flatten := by
  induction pieces generalizing front with
  | nil => exact .nil front
  | cons q pieces ih =>
    obtain ⟨piece, behind⟩ := h
    have place : (placeAt front (q :: pieces).flatten).run q pieces.flatten =
        placeAt (front ++ q) pieces.flatten := by
      rw [placeAt, placeAt, Place.run_append, List.flatten_cons]
    rw [place] at behind
    have later : Laid (front ++ q) (trimAll pieces) pieces.flatten :=
      ih behind fun some => place ▸ piece.left some
    obtain ⟨lead, trail, eq, hlead, htrail⟩ := Text.exists_eq_append_trim q
    rw [trimAll_cons, List.flatten_cons]
    split
    · rename_i empty
      have blank : ∀ c ∈ q, Text.isBlank c = true := by
        rw [eq, empty]
        simpa using fun c hc => hc.elim (hlead c) (htrail c)
      exact later.blanks blank
    · rename_i nonempty
      have trimmed := Text.trim_trim q
      generalize Text.trim q = t at eq nonempty trimmed
      subst eq
      have item := piece.isItem (top (by simp)) hlead htrail nonempty trimmed
      rw [List.append_assoc, List.append_assoc]
      refine Laid.blanks hlead (.item item (.blanks htrail ?_))
      simpa using later

/-- The items of a style sheet, with the blanks around them, are its text. -/
theorem laid_items (s : Text) : Laid [] (items s) s := by
  have pieces := arePieces_piecesAt .start s
  have laid : Laid [] (trimAll (piecesAt .start s)) (piecesAt .start s).flatten :=
    laid_of_arePieces pieces fun _ => ⟨rfl, rfl, rfl⟩
  have same : items s = trimAll (piecesAt .start s) := by
    rw [items, Sheet.pieces, piecesFrom_eq_piecesAt]
    rfl
  rw [flatten_piecesAt, ← same] at laid
  exact laid

/-! ### The gaps between items -/

/-- An item with the blanks in front of it. -/
structure Slot where
  /-- The blanks. -/
  gap : Text
  /-- The item. -/
  item : Text
  deriving DecidableEq, Repr

/-- The text of items with their blanks. -/
def textOf (slots : List Slot) : Text :=
  slots.flatMap fun slot => slot.gap ++ slot.item

theorem textOf_cons (slot : Slot) (slots : List Slot) :
    textOf (slot :: slots) = slot.gap ++ slot.item ++ textOf slots :=
  List.flatMap_cons

theorem Laid.exists_slots {front s : Text} {items : List Text} (h : Laid front items s) :
    ∃ (slots : List Slot) (last : Text), s = textOf slots ++ last ∧ slots.map (·.item) = items ∧
      (∀ slot ∈ slots, ∀ c ∈ slot.gap, Text.isBlank c = true) ∧
      (∀ c ∈ last, Text.isBlank c = true) ∧
      ∀ before slot after, slots = before ++ slot :: after →
        IsItem (front ++ (textOf before ++ slot.gap)) slot.item (textOf after ++ last)
          (after.map (·.item)) := by
  induction h with
  | nil front => exact ⟨[], [], rfl, rfl, by simp, by simp, fun before slot after h => by simp at h⟩
  | @blank front items c s hc _ ih =>
    obtain ⟨slots, last, rfl, rfl, gaps, behind, areItems⟩ := ih
    cases slots with
    | nil =>
      refine ⟨[], c :: last, rfl, rfl, by simp, ?_, fun before slot after h => by simp at h⟩
      exact List.forall_mem_cons.2 ⟨hc, behind⟩
    | cons first slots =>
      obtain ⟨gap, later⟩ := List.forall_mem_cons.1 gaps
      refine ⟨⟨c :: first.gap, first.item⟩ :: slots, last, ?_, rfl, ?_, behind, ?_⟩
      · simp [textOf_cons]
      · exact List.forall_mem_cons.2 ⟨List.forall_mem_cons.2 ⟨hc, gap⟩, later⟩
      · intro before slot after split
        cases before with
        | nil =>
          obtain ⟨rfl, rfl⟩ := List.cons.inj split
          simpa [textOf] using areItems [] first slots rfl
        | cons b before =>
          obtain ⟨rfl, rfl⟩ := List.cons.inj split
          simpa [textOf_cons] using areItems (first :: before) slot after rfl
  | @item front items t s ht _ ih =>
    obtain ⟨slots, last, rfl, rfl, gaps, behind, areItems⟩ := ih
    refine ⟨⟨[], t⟩ :: slots, last, by simp [textOf_cons], rfl, ?_, behind, ?_⟩
    · exact List.forall_mem_cons.2 ⟨by simp, gaps⟩
    · intro before slot after split
      cases before with
      | nil =>
        obtain ⟨rfl, rfl⟩ := List.cons.inj split
        simpa [textOf] using ht
      | cons b before =>
        obtain ⟨rfl, rfl⟩ := List.cons.inj split
        simpa [textOf_cons] using areItems before slot after rfl

/-- A style sheet is its items with blanks in front of each and behind the last. Each item begins
    outside all strings, blocks and comments and has no blanks at its ends. It is a comment, or it
    ends with the brace that closes its block or with a semicolon outside all blocks; otherwise it is
    the last one or stands in front of a comment. None goes on behind its end. -/
theorem items_partition (s : Text) :
    ∃ (slots : List Slot) (last : Text), s = textOf slots ++ last ∧
      slots.map (·.item) = items s ∧
      (∀ slot ∈ slots, ∀ c ∈ slot.gap, Text.isBlank c = true) ∧
      (∀ c ∈ last, Text.isBlank c = true) ∧
      ∀ before slot after, slots = before ++ slot :: after →
        IsItem (textOf before ++ slot.gap) slot.item (textOf after ++ last)
          (after.map (·.item)) :=
  (laid_items s).exists_slots

end Sheet
end CondCss
