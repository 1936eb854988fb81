import CondCss.Proofs.Scan.Strings
import CondCss.Proofs.Sheet.Comment
import CondCss.Proofs.Sheet.Standing

/-!
# Strings and comments of a rule

A style sheet is cut into items with regard to strings and comments, but a rule is read from its item
by looking for braces and for comments alone. `codeAt` is a text without the comments that start outside
strings, and `stringsAt` lists its strings, both as the scan for items finds them. Where no string holds
an opening brace or the start of a comment, the two readings agree: removing all comments leaves the code
(`withoutComments_eq_codeAt`), and a brace is left in it just if one opens a block
(`brace_mem_codeAt_iff`). The strings are then those of the declarations (`strings_codeAt`).
-/

namespace CondCss
namespace Sheet

open Scan

variable {p : Place} {c : Char} {t rest : Text}

theorem exists_eq_of_startsComment (h : startsComment t = true) : ∃ inner, t = '/' :: '*' :: inner := by
  obtain ⟨inner, shape⟩ := List.isPrefixOf_iff_prefix.1 h
  exact ⟨inner, shape.symm⟩

namespace Place

/-- Outside comments and strings. -/
def InCode (p : Place) : Prop :=
  p.zone = .code ∧ p.quote = none

instance (p : Place) : Decidable p.InCode :=
  inferInstanceAs (Decidable (_ ∧ _))

theorem step_comment (code : p.InCode) (starts : startsComment (c :: rest) = true) :
    p.step c rest = ⟨some c, none, p.depth, .opening⟩ := by
  simp [step, code.1, code.2, starts]

theorem step_code (code : p.zone = .code) (c : Char) (rest : Text)
    (notComment : p.quote = none → startsComment (c :: rest) = false) :
    p.step c rest = ⟨some c, Quote.next p.before c p.quote,
      if (Quote.next p.before c p.quote).isSome then p.depth else depthBehind p.depth c, .code⟩ := by
  have notHere : ¬(p.quote.isNone && startsComment (c :: rest)) = true := by
    rw [Bool.and_eq_true, Option.isNone_iff_eq_none]
    rintro ⟨closed, starts⟩
    rw [notComment closed] at starts
    cases starts
  simp [step, code, notHere]

theorem before_step (p : Place) (c : Char) (rest : Text) : (p.step c rest).before = some c := by
  unfold step
  split
  · split <;> rfl
  · rfl
  · rfl
  · rfl

/-- In a comment no string is open. -/
theorem quote_step_of_zone_ne (zone : p.zone ≠ .code) (c : Char) (rest : Text) :
    (p.step c rest).quote = none := by
  unfold step
  split
  · exact absurd ‹_› zone
  · rfl
  · rfl
  · rfl

theorem run_append_cons {d : Char} (hd : d ≠ '*' ∧ d ≠ '/') (p : Place) (t u : Text) :
    p.run t (d :: u) = p.run t [] := by
  induction t generalizing p with
  | nil => rfl
  | cons c t ih => rw [run, run, step_append_cons hd, ih, List.append_nil]

end Place

/-! ### Code and strings -/

/-- A text, read from a place on, without its comments. -/
def codeAt (p : Place) : Text → Text
  | [] => []
  | c :: rest =>
    let later := codeAt (p.step c rest) rest
    if p.zone = .code ∧ (p.step c rest).zone = .code then c :: later else later

/-- The strings of a text, read from a place on; when one is open there, what is left of it comes
    first. -/
def stringsAt (p : Place) : Text → List Text
  | [] => if p.quote.isSome then [[]] else []
  | c :: rest =>
    let later := stringsAt (p.step c rest) rest
    if (p.step c rest).quote.isSome then Text.consHead c later
    else if p.quote.isSome then [c] :: later
    else later

/-- No string holds an opening brace or the start of a comment. -/
def Quiet (p : Place) (t : Text) : Prop :=
  ∀ text ∈ stringsAt p t, '{' ∉ text ∧ Text.hasInfix ['/', '*'] text = false

instance (p : Place) (t : Text) : Decidable (Quiet p t) :=
  inferInstanceAs (Decidable (∀ text ∈ stringsAt p t, _))

theorem exists_stringsAt (opened : p.quote.isSome = true) (t : Text) :
    ∃ text texts, stringsAt p t = text :: texts := by
  cases t with
  | nil => exact ⟨[], [], by simp [stringsAt, opened]⟩
  | cons c t =>
    rw [stringsAt]
    split
    · cases stringsAt (p.step c t) t with
      | nil => exact ⟨[c], [], rfl⟩
      | cons text texts => exact ⟨c :: text, texts, rfl⟩
    · exact ⟨[c], _, rfl⟩

theorem Quiet.later (h : Quiet p (c :: rest)) : Quiet (p.step c rest) rest := by
  unfold Quiet at h
  rw [stringsAt] at h
  split at h
  · rename_i opened
    obtain ⟨text, texts, shape⟩ := exists_stringsAt opened rest
    rw [shape] at h
    obtain ⟨⟨noBrace, noComment⟩, others⟩ := List.forall_mem_cons.1 h
    rw [Quiet, shape]
    refine List.forall_mem_cons.2 ⟨⟨fun brace => noBrace (List.mem_cons_of_mem _ brace), ?_⟩, others⟩
    exact (Bool.or_eq_false_iff.1 noComment).2
  · split at h
    · exact (List.forall_mem_cons.1 h).2
    · exact h

/-- A character that is no quote goes to the string in which it stands. -/
theorem exists_stringsAt_cons (code : p.zone = .code) (opened : p.quote.isSome = true)
    (hc : Quote.ofChar? c = none) (rest : Text) :
    (p.step c rest).zone = .code ∧ (p.step c rest).quote.isSome = true ∧
      ∃ text texts, stringsAt p (c :: rest) = (c :: text) :: texts ∧
        stringsAt (p.step c rest) rest = text :: texts := by
  have notClosed : p.quote ≠ none := Option.isSome_iff_ne_none.1 opened
  have step := Place.step_code code c rest fun closed => absurd closed notClosed
  rw [Quote.next_of_ofChar?_eq_none hc] at step
  have still : (p.step c rest).quote.isSome = true := by rw [step]; exact opened
  obtain ⟨text, texts, shape⟩ := exists_stringsAt still rest
  refine ⟨by rw [step], still, text, texts, ?_, shape⟩
  rw [stringsAt, if_pos still, shape]
  rfl

theorem Quiet.here (h : Quiet p (c :: rest)) (code : p.zone = .code) (opened : p.quote.isSome = true) :
    c ≠ '{' ∧ startsComment (c :: rest) = false := by
  constructor
  · rintro rfl
    obtain ⟨-, -, text, texts, shape, -⟩ := exists_stringsAt_cons (c := '{') code opened (by decide) rest
    exact (h _ (shape ▸ List.mem_cons_self)).1 List.mem_cons_self
  · rw [Bool.eq_false_iff]
    intro starts
    obtain ⟨inner, shape⟩ := exists_eq_of_startsComment starts
    cases shape
    obtain ⟨code', still, text, texts, slash, behind⟩ :=
      exists_stringsAt_cons (c := '/') code opened (by decide) ('*' :: inner)
    obtain ⟨-, -, text', texts', star, -⟩ :=
      exists_stringsAt_cons (c := '*') code' still (by decide) inner
    cases behind.symm.trans star
    have noComment := (h _ (slash ▸ List.mem_cons_self)).2
    simp [Text.hasInfix, List.isPrefixOf] at noComment

/-! ### Comments -/

theorem codeAt_of_zone_ne (zone : p.zone ≠ .code) (c : Char) (rest : Text) :
    codeAt p (c :: rest) = codeAt (p.step c rest) rest := by
  rw [codeAt, if_neg fun both => zone both.1]

theorem stringsAt_of_zone_ne (zone : p.zone ≠ .code) (closed : p.quote = none) (c : Char)
    (rest : Text) : stringsAt p (c :: rest) = stringsAt (p.step c rest) rest := by
  simp [stringsAt, Place.quote_step_of_zone_ne zone, closed]

/-- From inside a comment, what counts is what stands behind its end. -/
theorem exists_commentLength? {before : Option Char} {depth : Nat}
    (ended : ((Place.mk before none depth .comment).run t []).zone = .code) :
    ∃ n, commentLength? t = some n ∧
      codeAt ⟨before, none, depth, .comment⟩ t = codeAt ⟨some '/', none, depth, .code⟩ (t.drop n) ∧
      stringsAt ⟨before, none, depth, .comment⟩ t =
        stringsAt ⟨some '/', none, depth, .code⟩ (t.drop n) ∧
      (Place.mk before none depth .comment).run t [] =
        (Place.mk (some '/') none depth .code).run (t.drop n) [] := by
  fun_induction commentLength? t generalizing before with
  | case1 => cases ended
  | case2 rest =>
    have star : (Place.mk before none depth .comment).step '*' ('/' :: rest) =
        ⟨some '*', none, depth, .closing⟩ := rfl
    have slash : (Place.mk (some '*') none depth .closing).step '/' rest =
        ⟨some '/', none, depth, .code⟩ := rfl
    refine ⟨2, rfl, ?_, ?_, ?_⟩
    · rw [codeAt_of_zone_ne (by simp), star, codeAt_of_zone_ne (by simp), slash]
      rfl
    · rw [stringsAt_of_zone_ne (by simp) rfl, star, stringsAt_of_zone_ne (by simp) rfl, slash]
      rfl
    · rw [Place.run, List.append_nil, star, Place.run, List.append_nil, slash]
      rfl
  | case3 c rest goesOn ih =>
    have stays := isPrefixOf_end_eq_false goesOn
    have step : (Place.mk before none depth .comment).step c rest =
        ⟨some c, none, depth, .comment⟩ := by
      simp only [Place.step, stays]
      rfl
    rw [Place.run, List.append_nil, step] at ended
    obtain ⟨n, found, sameCode, sameStrings, sameEnd⟩ := ih ended
    refine ⟨n + 1, by rw [found]; rfl, ?_, ?_, ?_⟩
    · rw [codeAt_of_zone_ne (by simp), step, sameCode]
      rfl
    · rw [stringsAt_of_zone_ne (by simp) rfl, step, sameStrings]
      rfl
    · rw [Place.run, List.append_nil, step, sameEnd]
      rfl

/-- A whole comment in code is passed over. -/
theorem exists_of_startsComment (code : p.InCode) {inner : Text}
    (ended : (p.run ('/' :: '*' :: inner) []).zone = .code) :
    ∃ n, commentLength? inner = some n ∧
      codeAt p ('/' :: '*' :: inner) = codeAt ⟨some '/', none, p.depth, .code⟩ (inner.drop n) ∧
      stringsAt p ('/' :: '*' :: inner) =
        stringsAt ⟨some '/', none, p.depth, .code⟩ (inner.drop n) ∧
      p.run ('/' :: '*' :: inner) [] =
        (Place.mk (some '/') none p.depth .code).run (inner.drop n) [] := by
  have slash : p.step '/' ('*' :: inner) = ⟨some '/', none, p.depth, .opening⟩ :=
    Place.step_comment code rfl
  have star : (Place.mk (some '/') none p.depth .opening).step '*' inner =
      ⟨some '*', none, p.depth, .comment⟩ := rfl
  have sameRun : p.run ('/' :: '*' :: inner) [] =
      (Place.mk (some '*') none p.depth .comment).run inner [] := by
    rw [Place.run, List.append_nil, slash, Place.run, List.append_nil, star]
  rw [sameRun] at ended
  obtain ⟨n, found, sameCode, sameStrings, sameEnd⟩ := exists_commentLength? ended
  refine ⟨n, found, ?_, ?_, sameRun.trans sameEnd⟩
  · have skipped : ¬(p.zone = .code ∧ (p.step '/' ('*' :: inner)).zone = .code) := by simp [slash]
    rw [codeAt, if_neg skipped, slash, codeAt_of_zone_ne (by simp), star, sameCode]
  · have skipped : stringsAt p ('/' :: '*' :: inner) =
        stringsAt ⟨some '/', none, p.depth, .opening⟩ ('*' :: inner) := by
      simp [stringsAt, slash, code.2]
    rw [skipped, stringsAt_of_zone_ne (by simp) rfl, star, sameStrings]

/-- Without comments in strings, removing all comments leaves the code. -/
theorem withoutComments_eq_codeAt (code : p.zone = .code) (quiet : Quiet p t)
    (ended : (p.run t []).zone = .code) : withoutComments t = codeAt p t := by
  -- A comment is passed over at once, so the induction is on the length of what is left.
  induction length : t.length using Nat.strongRecOn generalizing t p with
  | ind n ih =>
    subst length
    cases t with
    | nil => rfl
    | cons c rest =>
      cases starts : startsComment (c :: rest) with
      | false =>
        have step := Place.step_code code c rest fun _ => starts
        have code' : (p.step c rest).zone = .code := by rw [step]
        rw [Place.run, List.append_nil] at ended
        rw [withoutComments_cons starts, codeAt, if_pos ⟨code, code'⟩,
          ih rest.length (by simp) code' quiet.later ended rfl]
      | true =>
        have closed : p.quote = none := by
          by_contra opened
          have free := (quiet.here code (Option.isSome_iff_ne_none.2 opened)).2
          rw [starts] at free
          cases free
        obtain ⟨inner, shape⟩ := exists_eq_of_startsComment starts
        cases shape
        obtain ⟨m, found, sameCode, sameStrings, sameEnd⟩ := exists_of_startsComment ⟨code, closed⟩ ended
        have shorter : (inner.drop m).length < ('/' :: '*' :: inner).length := by
          rw [List.length_drop, List.length_cons, List.length_cons]
          omega
        have quiet' : Quiet ⟨some '/', none, p.depth, .code⟩ (inner.drop m) := by
          rw [Quiet, ← sameStrings]
          exact quiet
        rw [withoutComments_comment found, sameCode,
          ih _ shorter rfl quiet' (sameEnd ▸ ended) rfl]

/-! ### Braces in the code -/

/-- A brace is left in the code only where it opens a block. -/
theorem brace_mem_codeAt_iff (quiet : Quiet p t) :
    '{' ∈ codeAt p t ↔
      ∃ front back, t = front ++ '{' :: back ∧ (p.run front ('{' :: back)).InCode := by
  induction t generalizing p with
  | nil => simp [codeAt]
  | cons c rest ih =>
    have onward := ih quiet.later
    have here : (p.zone = .code ∧ (p.step c rest).zone = .code ∧ c = '{') ↔ c = '{' ∧ p.InCode := by
      constructor
      · rintro ⟨code, -, rfl⟩
        refine ⟨rfl, code, ?_⟩
        by_contra opened
        exact (quiet.here code (Option.isSome_iff_ne_none.2 opened)).1 rfl
      · rintro ⟨rfl, code, closed⟩
        have step := Place.step_code code '{' rest fun _ => rfl
        exact ⟨code, by rw [step], rfl⟩
    have cons : '{' ∈ codeAt p (c :: rest) ↔
        (c = '{' ∧ p.InCode) ∨ '{' ∈ codeAt (p.step c rest) rest := by
      rw [← here, codeAt]
      split
      · rename_i both
        simp only [List.mem_cons, both.1, both.2, true_and, eq_comm]
      · rename_i skipped
        rw [or_iff_right]
        exact fun both => skipped ⟨both.1, both.2.1⟩
    rw [cons, onward]
    constructor
    · rintro (⟨rfl, code⟩ | ⟨front, back, rfl, code⟩)
      · exact ⟨[], rest, rfl, code⟩
      · exact ⟨c :: front, back, rfl, code⟩
    · rintro ⟨front, back, shape, code⟩
      cases front with
      | nil =>
        cases shape
        exact .inl ⟨rfl, code⟩
      | cons d front =>
        cases shape
        exact .inr ⟨front, back, rfl, code⟩

/-! ### Strings in the code -/

theorem next_congr {before before' : Option Char} (same : before = some '\\' ↔ before' = some '\\')
    (c : Char) (quote : Option Quote) : Quote.next before c quote = Quote.next before' c quote := by
  by_cases escaped : before = some '\\'
  · rw [escaped, same.1 escaped]
  · rw [Quote.next_before escaped, Quote.next_before fun escaped' => escaped (same.2 escaped')]

/-- Where no comment stands right behind a backslash, the strings of the code are those of the text. -/
theorem strings_codeAt {before : Option Char} (code : p.zone = .code)
    (same : before = some '\\' ↔ p.before = some '\\')
    (notHere : p.before = some '\\' → startsComment t = false)
    (absent : Text.hasInfix ['\\', '/', '*'] t = false) (ended : (p.run t []).zone = .code) :
    stringsFrom before p.quote (codeAt p t) = stringsAt p t ∧
      (endOf before p.quote 0 (codeAt p t)).1 = (p.run t []).quote := by
  induction length : t.length using Nat.strongRecOn generalizing t p before with
  | ind n ih =>
    subst length
    cases t with
    | nil => exact ⟨rfl, rfl⟩
    | cons c rest =>
      by_cases comment : p.quote = none ∧ startsComment (c :: rest) = true
      · obtain ⟨closed, starts⟩ := comment
        have plain : before ≠ some '\\' := fun escaped => by
          rw [notHere (same.1 escaped)] at starts
          cases starts
        obtain ⟨inner, shape⟩ := exists_eq_of_startsComment starts
        cases shape
        obtain ⟨m, -, sameCode, sameStrings, sameEnd⟩ := exists_of_startsComment ⟨code, closed⟩ ended
        have shorter : (inner.drop m).length < ('/' :: '*' :: inner).length := by
          rw [List.length_drop, List.length_cons, List.length_cons]
          omega
        have part : inner.drop m <:+: '/' :: '*' :: inner :=
          ((List.drop_suffix m inner).trans
            ((List.suffix_cons '*' inner).trans (List.suffix_cons '/' _))).isInfix
        rw [sameCode, sameStrings, sameEnd, closed]
        exact ih _ shorter (p := ⟨some '/', none, p.depth, .code⟩) rfl
          (by simp [plain]) (by simp) (Text.hasInfix_eq_false_of_infix part absent)
          (sameEnd ▸ ended) rfl
      · have step := Place.step_code code c rest fun closed =>
          Bool.eq_false_iff.2 fun starts => comment ⟨closed, starts⟩
        have code' : (p.step c rest).zone = .code := by rw [step]
        have quote' : (p.step c rest).quote = Quote.next before c p.quote := by
          rw [step, next_congr same]
        obtain ⟨notHere', absent'⟩ := Bool.or_eq_false_iff.1 absent
        rw [Place.run, List.append_nil] at ended ⊢
        have before' : some c = some '\\' ↔ (p.step c rest).before = some '\\' := by rw [step]
        have next : (p.step c rest).before = some '\\' → startsComment rest = false := by
          rw [← before']
          rintro ⟨rfl⟩
          simpa [startsComment, List.isPrefixOf] using notHere'
        obtain ⟨sameStrings, sameEnd⟩ := ih rest.length (by simp) code' before' next absent' ended rfl
        rw [codeAt, if_pos ⟨code, code'⟩, stringsAt, stringsFrom, ← quote', sameStrings, endOf,
          ← quote', endOf_depth _ _ _ 0]
        exact ⟨rfl, sameEnd⟩

/-- The strings of a fragment are those of its property and of its value. -/
theorem strings_readDeclaration? {fragment : Text} {d : Declaration}
    (closed : (endOf none none 0 fragment).1 = none) (read : readDeclaration? fragment = some d) :
    strings fragment = strings d.property ++ strings d.value := by
  obtain ⟨property, value, rfl, closedProperty, -, rfl, -, -⟩ := readDeclaration?_eq_some read
  rw [endOf_append_sep isSeparator_colon closedProperty] at closed
  have ends : (endOf none none 0 property).1 = none := by rw [closedProperty]
  rw [strings_append_cons (by decide) (by decide) ends]
  simp only [strings_trim ends, strings_trim closed]

/-! ### Rules -/

/-- A text of the form `selector { body }`, where the brace behind the selector stands outside
    everything, and the last character closes the only block that is open in front of it. -/
structure IsRuleText (t selector body : Text) : Prop where
  shape : t = selector ++ '{' :: (body ++ ['}'])
  opens : (placeAt selector ('{' :: (body ++ ['}']))).IsTop
  closes : (placeAt (selector ++ '{' :: body) ['}']).Ends '}'

/-- A block opens at a position of the body. -/
def OpensAt (selector body : Text) (pos : Nat) : Prop :=
  body[pos]? = some '{' ∧
    (placeAt (selector ++ '{' :: body.take pos) (body.drop pos ++ ['}'])).InCode

instance (selector body : Text) (pos : Nat) : Decidable (OpensAt selector body pos) :=
  inferInstanceAs (Decidable (_ ∧ _))

/-- The place behind the brace that opens a rule. -/
def inBody : Place := ⟨some '{', none, 1, .code⟩

theorem IsRuleText.placeAt_body {selector body : Text} (h : IsRuleText t selector body)
    (front : Text) {back : Text} {d : Char} (hd : d ≠ '*' ∧ d ≠ '/')
    (split : body ++ ['}'] = front ++ d :: back) :
    placeAt (selector ++ '{' :: front) (d :: back) = inBody.run front [] := by
  have opens := h.opens
  rw [split] at opens
  have opened : (placeAt selector ('{' :: (front ++ d :: back))).step '{' (front ++ d :: back) =
      inBody := by
    rw [Place.step_code opens.zone '{' _ fun _ => rfl, opens.quote, opens.depth]
    rfl
  have whole : placeAt (selector ++ '{' :: front) (d :: back) =
      ((placeAt selector ('{' :: (front ++ d :: back))).step '{' (front ++ d :: back)).run front
        (d :: back) := by
    rw [placeAt, Place.run_append]
    rfl
  rw [whole, opened, Place.run_append_cons hd]

theorem IsRuleText.run_body {selector body : Text} (h : IsRuleText t selector body) :
    (inBody.run body []).InCode := by
  rw [← h.placeAt_body body (by decide) rfl]
  exact ⟨h.closes.1, h.closes.2.1⟩

theorem IsRuleText.opensAt_iff {selector body : Text} (h : IsRuleText t selector body)
    (quiet : Quiet inBody body) :
    (∃ pos < body.length, OpensAt selector body pos) ↔ '{' ∈ codeAt inBody body := by
  have place {front back : Text} (split : body = front ++ '{' :: back) :
      placeAt (selector ++ '{' :: front) ('{' :: (back ++ ['}'])) =
        inBody.run front ('{' :: back) := by
    rw [h.placeAt_body front (by decide) (by rw [split]; simp), Place.run_append_cons (by decide)]
  rw [brace_mem_codeAt_iff quiet]
  constructor
  · rintro ⟨pos, inside, brace, code⟩
    have behind : body.drop pos = '{' :: body.drop (pos + 1) := by
      rw [List.drop_eq_getElem_cons inside]
      rw [List.getElem?_eq_getElem inside] at brace
      rw [Option.some.inj brace]
    have split : body = body.take pos ++ '{' :: body.drop (pos + 1) := by
      rw [← behind, List.take_append_drop]
    rw [behind, List.cons_append, place split] at code
    exact ⟨_, _, split, code⟩
  · rintro ⟨front, back, split, code⟩
    rw [← place split] at code
    refine ⟨front.length, by simp [split], by simp [split], ?_⟩
    simpa [split] using code

/-- The fragments of a body between semicolons, without the comments that start outside strings. -/
def fragments (body : Text) : List Text :=
  splitTopLevel (· == ';') (codeAt inBody body)

/-- How a rule is read whose selector has no other opening brace, and none of whose strings holds one or
    the start of a comment. It is no rule just if a block opens in it; else its declarations are those of
    its fragments; and where no comment stands right behind a backslash, its strings are those of the
    fragments, and those of a fragment are those of its declaration. -/
theorem readRule?_of_quiet {selector body : Text} (h : IsRuleText t selector body)
    (single : '{' ∉ selector) (quiet : Quiet inBody body) :
    (readRule? t = none ↔ ∃ pos < body.length, OpensAt selector body pos) ∧
    (∀ r, readRule? t = some r →
      r = ⟨Text.trim selector, (fragments body).filterMap readDeclaration?, t⟩) ∧
    (Text.hasInfix ['\\', '/', '*'] body = false →
      (fragments body).flatMap strings = stringsAt inBody body ∧
      ∀ fragment ∈ fragments body, ∀ d, readDeclaration? fragment = some d →
        strings fragment = strings d.property ++ strings d.value) := by
  have ended := h.run_body
  have cut : cutBraces? t = some (selector, body) :=
    cutBraces?_eq_some_iff.2 ⟨[], h.shape, single, List.not_mem_nil⟩
  have code : withoutComments body = codeAt inBody body := withoutComments_eq_codeAt rfl quiet ended.1
  have read : readRule? t = if '{' ∈ codeAt inBody body then none
      else some ⟨Text.trim selector, (fragments body).filterMap readDeclaration?, t⟩ := by
    simp only [readRule?, cut, readDeclarations, code, List.contains_iff_mem, fragments]
  refine ⟨?_, fun r isRule => ?_, fun absent => ?_⟩
  · rw [h.opensAt_iff quiet, read]
    split
    · simp [*]
    · simp [*]
  · rw [read] at isRule
    split at isRule
    · cases isRule
    · exact (Option.some.inj isRule).symm
  · have ofCode : strings (codeAt inBody body) = stringsAt inBody body ∧
        (endOf none none 0 (codeAt inBody body)).1 = (inBody.run body []).quote :=
      strings_codeAt rfl (by decide) (fun escaped => absurd escaped (by decide)) absent ended.1
    have notEscaped : (none : Option Char) ≠ some '\\' := by decide
    obtain ⟨ofFragments, closed⟩ :=
      strings_splitTopLevelFrom isSeparator_semicolon notEscaped (codeAt inBody body)
    refine ⟨ofFragments.trans ofCode.1, fun fragment member d isDeclaration => ?_⟩
    exact strings_readDeclaration? (closed (ofCode.2.trans ended.2) fragment member) isDeclaration

/-- A body with a closing brace in a string, and with a brace and a quote in a comment. -/
def bracesInString : Text :=
  " content: \"\x7d; b\"; /* \" \x7b */ c: d; ".toList

theorem readRule?_of_quiet_bracesInString :
    (∀ pos < bracesInString.length, ¬OpensAt ".a ".toList bracesInString pos) ∧
      readRule? (".a ".toList ++ '{' :: (bracesInString ++ ['}'])) ≠ none ∧
      (fragments bracesInString).flatMap strings = ["\"\x7d; b\"".toList] := by
  have form : IsRuleText (".a ".toList ++ '{' :: (bracesInString ++ ['}'])) ".a ".toList
      bracesInString := ⟨rfl, by decide, by decide⟩
  obtain ⟨isNone, -, kept⟩ := readRule?_of_quiet form (by decide) (by decide)
  have closed : ∀ pos < bracesInString.length, ¬OpensAt ".a ".toList bracesInString pos := by
    decide +kernel
  refine ⟨closed, fun unread => ?_, (kept (by decide)).1.trans (by decide)⟩
  obtain ⟨pos, inside, opens⟩ := isNone.1 unread
  exact closed pos inside opens

/-- A body with an opening brace in a string. -/
def braceInString : Text :=
  " content: \"\x7b\"; ".toList

/-- A rule with a comment in a string. -/
def commentInString : Text :=
  ".a \x7b content: \"/* b */\"; \x7d".toList

/-- A selector with an opening brace in a string. -/
def bracedSelector : Text :=
  "a[b=\"\x7b\"] ".toList

/-- Strings of a rule that are not read as such: with an opening brace in one, the rule is none,
    though no block opens in it; a comment is taken out of one; and the selector ends in one. -/
theorem strings_misread :
    (readRule? (".a ".toList ++ '{' :: (braceInString ++ ['}'])) = none ∧
      IsRuleText (".a ".toList ++ '{' :: (braceInString ++ ['}'])) ".a ".toList braceInString ∧
      ∀ pos < braceInString.length, ¬OpensAt ".a ".toList braceInString pos) ∧
    (readRule? commentInString =
        some ⟨".a".toList, [⟨"content".toList, "\"\"".toList⟩], commentInString⟩ ∧
      stringsAt inBody " content: \"/* b */\"; ".toList = ["\"/* b */\"".toList]) ∧
    (readRule? (bracedSelector ++ "\x7b c: d; \x7d".toList) = none ∧
      ∀ pos < 7, ¬OpensAt bracedSelector " c: d; ".toList pos) := by
  have form : IsRuleText (".a ".toList ++ '{' :: (braceInString ++ ['}'])) ".a ".toList
      braceInString := ⟨rfl, by decide, by decide⟩
  refine ⟨⟨by decide +kernel, form, by decide +kernel⟩, ⟨by decide +kernel, by decide +kernel⟩, ?_⟩
  exact ⟨by decide +kernel, by decide +kernel⟩

end Sheet
end CondCss
