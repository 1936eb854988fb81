import CondCss.Proofs.Text.Blanks

/-!
# Scanning past a closed stretch

A stretch of text is closed when every string and every parenthesis that opens in it also ends in it.
Which of its characters stand outside strings, and how deep in parentheses, is then the same wherever
the stretch stands. A scan passes over it as long as none of these characters is what it looks for, so
what is printed from closed stretches with separators between them is cut into these stretches again.
-/

namespace CondCss

theorem Text.intercalate_consHead (sep : Text) (c : Char) {pieces : List Text} (some : pieces ≠ []) :
    sep.intercalate (Text.consHead c pieces) = c :: sep.intercalate pieces := by
  obtain ⟨piece, pieces, rfl⟩ := List.exists_cons_of_ne_nil some
  cases pieces with
  | nil => simp [Text.consHead]
  | cons next pieces => simp [Text.consHead, List.intercalate_cons_cons]

theorem Quote.ofChar?_eq_none {c : Char} (single : c ≠ '\'') (double : c ≠ '"') :
    Quote.ofChar? c = none := by
  simp [Quote.ofChar?, single, double]

/-- A character that is no quote opens and ends no string. -/
theorem Quote.next_of_ofChar?_eq_none {c : Char} (h : Quote.ofChar? c = none) (before : Option Char)
    (quote : Option Quote) : Quote.next before c quote = quote := by
  simp [Quote.next, h]

/-- Of the character in front of a quote it only matters whether it is a backslash. -/
theorem Quote.next_before {before : Option Char} (h : before ≠ some '\\') (c : Char)
    (quote : Option Quote) : Quote.next before c quote = Quote.next none c quote := by
  unfold Quote.next
  split
  · rfl
  · simp [h]

namespace Scan

/-- The depth of parentheses after a character, which counts only outside strings. -/
def depthAfter (before : Option Char) (quote : Option Quote) (c : Char) (depth : Int) : Int :=
  if (Quote.next before c quote).isSome then depth
  else if c == '(' then depth + 1
  else if c == ')' then depth - 1
  else depth

/-- A character outside strings that is no blank, with the depth of parentheses in front of it. -/
def mark (before : Option Char) (quote : Option Quote) (depth : Int) (c : Char) : List (Char × Int) :=
  if (Quote.next before c quote).isSome || Text.isBlank c then [] else [(c, depth)]

/-- The characters outside strings that are no blanks, each with the depth of parentheses in front of
    it. -/
def outside (before : Option Char) (quote : Option Quote) (depth : Int) : Text → List (Char × Int)
  | [] => []
  | c :: rest =>
    mark before quote depth c ++
      outside (some c) (Quote.next before c quote) (depthAfter before quote c depth) rest

/-- The open string and the depth of parentheses at the end of a text. -/
def endOf (before : Option Char) (quote : Option Quote) (depth : Int) : Text → Option Quote × Int
  | [] => (quote, depth)
  | c :: rest =>
    endOf (some c) (Quote.next before c quote) (depthAfter before quote c depth) rest

variable {before : Option Char} {quote : Option Quote} {depth depth' : Int} {t rest : Text}

theorem depthAfter_before (h : before ≠ some '\\') (quote : Option Quote) (c : Char) (depth : Int) :
    depthAfter before quote c depth = depthAfter none quote c depth := by
  unfold depthAfter
  rw [Quote.next_before h]

theorem mark_before (h : before ≠ some '\\') (quote : Option Quote) (depth : Int) (c : Char) :
    mark before quote depth c = mark none quote depth c := by
  unfold mark
  rw [Quote.next_before h]

theorem mark_eq_singleton {c : Char} (outsideString : ¬(Quote.next before c quote).isSome = true)
    (notBlank : Text.isBlank c = false) : mark before quote depth c = [(c, depth)] := by
  rw [mark, if_neg]
  simpa [notBlank] using outsideString

theorem outside_before (h : before ≠ some '\\') (quote : Option Quote) (depth : Int) (t : Text) :
    outside before quote depth t = outside none quote depth t := by
  cases t with
  | nil => rfl
  | cons c rest => simp only [outside, mark_before h, Quote.next_before h, depthAfter_before h]

theorem endOf_before (h : before ≠ some '\\') (quote : Option Quote) (depth : Int) (t : Text) :
    endOf before quote depth t = endOf none quote depth t := by
  cases t with
  | nil => rfl
  | cons c rest => simp only [endOf, Quote.next_before h, depthAfter_before h]

/-- What is outside strings in two stretches with a character between them that is no quote. -/
theorem outside_append_cons {c : Char} (hc : Quote.ofChar? c = none)
    (h : endOf before quote depth t = (none, depth')) :
    outside before quote depth (t ++ c :: rest) = outside before quote depth t ++
      (mark none none depth' c ++
        outside (some c) none (depthAfter none none c depth') rest) := by
  induction t generalizing before quote depth with
  | nil =>
    obtain ⟨rfl, rfl⟩ := Prod.mk.inj h
    simp [outside, mark, depthAfter, Quote.next_of_ofChar?_eq_none hc]
  | cons x t ih =>
    rw [List.cons_append, outside, outside, List.append_assoc, ih h]

theorem endOf_append_cons {c : Char} (hc : Quote.ofChar? c = none)
    (h : endOf before quote depth t = (none, depth')) :
    endOf before quote depth (t ++ c :: rest) =
      endOf (some c) none (depthAfter none none c depth') rest := by
  induction t generalizing before quote depth with
  | nil =>
    obtain ⟨rfl, rfl⟩ := Prod.mk.inj h
    simp [endOf, depthAfter, Quote.next_of_ofChar?_eq_none hc]
  | cons x t ih => exact ih h

/-- Which characters are outside strings does not depend on parentheses. -/
theorem outside_depth (before : Option Char) (quote : Option Quote) (depth depth' : Int) (t : Text) :
    (outside before quote depth t).map Prod.fst = (outside before quote depth' t).map Prod.fst := by
  induction t generalizing before quote depth depth' with
  | nil => rfl
  | cons c t ih =>
    have here : (mark before quote depth c).map Prod.fst =
        (mark before quote depth' c).map Prod.fst := by
      unfold mark
      split <;> rfl
    rw [outside, outside, List.map_append, List.map_append, here, ih]

theorem endOf_depth (before : Option Char) (quote : Option Quote) (depth depth' : Int) (t : Text) :
    (endOf before quote depth t).1 = (endOf before quote depth' t).1 := by
  induction t generalizing before quote depth depth' with
  | nil => rfl
  | cons c t ih => exact ih _ _ _ _

/-! ### One step of a scan for separators -/

/-- Whether a scan for separators cuts at a character: it stands outside strings and parentheses and is no
    parenthesis itself. -/
structure CutsAt (isSep : Char → Bool) (before : Option Char) (quote : Option Quote) (depth : Int)
    (c : Char) : Prop where
  quote : Quote.next before c quote = none
  isSep : isSep c = true
  opening : c ≠ '('
  closing : c ≠ ')'
  depth : depth = 0

variable {isSep : Char → Bool} {c : Char}

theorem cutsAt_iff : CutsAt isSep before quote depth c ↔
    Quote.next before c quote = none ∧ isSep c = true ∧ c ≠ '(' ∧ c ≠ ')' ∧ depth = 0 := by
  constructor
  · rintro ⟨quote, isSep, opening, closing, depth⟩
    exact ⟨quote, isSep, opening, closing, depth⟩
  · rintro ⟨quote, isSep, opening, closing, depth⟩
    exact ⟨quote, isSep, opening, closing, depth⟩

instance : Decidable (CutsAt isSep before quote depth c) :=
  decidable_of_iff _ cutsAt_iff.symm

/-- What a scan makes of its next character, from what it does when it cuts there and when it goes on at
    another depth. -/
theorem step_eq {α : Type} (cut : α) (onward : Int → α) :
    (if (Quote.next before c quote).isSome then onward depth
      else if c == '(' then onward (depth + 1)
      else if c == ')' then onward (depth - 1)
      else if isSep c && depth == 0 then cut
      else onward depth) =
    if CutsAt isSep before quote depth c then cut else onward (depthAfter before quote c depth) := by
  rw [depthAfter]
  cases inString : Quote.next before c quote with
  | some opened =>
    have pass : ¬CutsAt isSep before quote depth c := by
      intro cuts
      cases inString.symm.trans cuts.quote
    rw [if_neg pass]
    rfl
  | none =>
    by_cases opening : c = '('
    · have pass : ¬CutsAt isSep before quote depth c := fun cuts => cuts.opening opening
      rw [if_neg pass]
      simp [opening]
    · by_cases closing : c = ')'
      · have pass : ¬CutsAt isSep before quote depth c := fun cuts => cuts.closing closing
        rw [if_neg pass]
        simp [closing]
      · simp [cutsAt_iff, inString, opening, closing]

theorem cutTopLevel?_step (isSep : Char → Bool) (before : Option Char) (quote : Option Quote) (depth : Int)
    (c : Char) (rest : Text) :
    cutTopLevel? isSep before quote depth (c :: rest) =
      if CutsAt isSep before quote depth c then some ([], rest)
      else (cutTopLevel? isSep (some c) (Quote.next before c quote)
        (depthAfter before quote c depth) rest).map fun parts => (c :: parts.1, parts.2) := by
  apply step_eq

theorem splitTopLevelFrom_step (isSep : Char → Bool) (before : Option Char) (quote : Option Quote)
    (depth : Int) (c : Char) (rest : Text) :
    splitTopLevelFrom isSep before quote depth (c :: rest) =
      if CutsAt isSep before quote depth c then [] :: splitTopLevelFrom isSep (some c) none 0 rest
      else Text.consHead c (splitTopLevelFrom isSep (some c) (Quote.next before c quote)
        (depthAfter before quote c depth) rest) := by
  apply step_eq

theorem splitTopLevelFrom_ne_nil (isSep : Char → Bool) (before : Option Char) (quote : Option Quote)
    (depth : Int) (t : Text) : splitTopLevelFrom isSep before quote depth t ≠ [] := by
  cases t with
  | nil => exact List.cons_ne_nil _ _
  | cons c t =>
    rw [splitTopLevelFrom_step]
    split
    · exact List.cons_ne_nil _ _
    · unfold Text.consHead
      split <;> exact List.cons_ne_nil _ _

/-- Pieces with their separators again are the text. -/
theorem intercalate_splitTopLevelFrom (sep : Char) (before : Option Char) (quote : Option Quote)
    (depth : Int) (t : Text) :
    [sep].intercalate (splitTopLevelFrom (· == sep) before quote depth t) = t := by
  induction t generalizing before quote depth with
  | nil => rfl
  | cons c t ih =>
    rw [splitTopLevelFrom_step]
    split
    · rename_i cuts
      obtain ⟨piece, pieces, shape⟩ :=
        List.exists_cons_of_ne_nil (splitTopLevelFrom_ne_nil (· == sep) (some c) none 0 t)
      have later := ih (some c) none 0
      rw [shape] at later ⊢
      rw [List.intercalate_cons_cons, later, beq_iff_eq.1 cuts.isSep]
      rfl
    · rw [Text.intercalate_consHead _ _ (splitTopLevelFrom_ne_nil _ _ _ _ t), ih]

/-- A text without a separator at the top level is one piece. -/
theorem splitTopLevelFrom_of_uncut (uncut : cutTopLevel? isSep before quote depth t = none) :
    splitTopLevelFrom isSep before quote depth t = [t] := by
  induction t generalizing before quote depth with
  | nil => rfl
  | cons c t ih =>
    rw [cutTopLevel?_step] at uncut
    split at uncut
    · cases uncut
    · rename_i pass
      rw [splitTopLevelFrom_step, if_neg pass, ih (Option.map_eq_none_iff.1 uncut)]
      rfl

/-- A text is cut off in front of its first separator, and the rest is split in turn. -/
theorem splitTopLevelFrom_of_cut {sep : Char} {head tail : Text}
    (cut : cutTopLevel? (· == sep) before quote depth t = some (head, tail)) :
    t = head ++ sep :: tail ∧ splitTopLevelFrom (· == sep) before quote depth t =
      head :: splitTopLevelFrom (· == sep) (some sep) none 0 tail := by
  induction t generalizing before quote depth head with
  | nil => cases cut
  | cons c t ih =>
    rw [cutTopLevel?_step] at cut
    rw [splitTopLevelFrom_step]
    split at cut
    · rename_i cuts
      cases cut
      rw [if_pos cuts, beq_iff_eq.1 cuts.isSep]
      exact ⟨rfl, rfl⟩
    · rename_i pass
      obtain ⟨⟨head', tail'⟩, cut', eq⟩ := Option.map_eq_some_iff.1 cut
      cases eq
      obtain ⟨shape, later⟩ := ih cut'
      rw [if_neg pass, later]
      exact ⟨by rw [shape]; rfl, rfl⟩

/-! ### Blanks -/

/-- Two texts, each behind a character, that a scan does not tell apart. -/
def SameScan (before : Option Char) (s : Text) (before' : Option Char) (t : Text) : Prop :=
  ∀ (quote : Option Quote) (depth : Int), outside before quote depth s = outside before' quote depth t ∧
    endOf before quote depth s = endOf before' quote depth t

theorem SameScan.refl (before : Option Char) (t : Text) : SameScan before t before t :=
  fun _ _ => ⟨rfl, rfl⟩

theorem SameScan.symm {before before' : Option Char} {s t : Text} (h : SameScan before s before' t) :
    SameScan before' t before s :=
  fun quote depth => ⟨(h quote depth).1.symm, (h quote depth).2.symm⟩

theorem SameScan.trans {before before' before'' : Option Char} {s t u : Text}
    (h : SameScan before s before' t) (h' : SameScan before' t before'' u) :
    SameScan before s before'' u :=
  fun quote depth => ⟨(h quote depth).1.trans (h' quote depth).1,
    (h quote depth).2.trans (h' quote depth).2⟩

theorem SameScan.cons {c : Char} {s t : Text} (h : SameScan (some c) s (some c) t)
    (before : Option Char) : SameScan before (c :: s) before (c :: t) := by
  intro quote depth
  obtain ⟨sameOutside, sameEnd⟩ := h (Quote.next before c quote) (depthAfter before quote c depth)
  rw [outside, outside, endOf, endOf, sameOutside, sameEnd]
  exact ⟨rfl, rfl⟩

theorem sameScan_before {before' : Option Char} (h : before ≠ some '\\') (h' : before' ≠ some '\\')
    (t : Text) : SameScan before t before' t := by
  intro quote depth
  rw [outside_before h, outside_before h', endOf_before h, endOf_before h']
  exact ⟨rfl, rfl⟩

theorem ne_of_blank {c d : Char} (hc : Text.isBlank c = true) (hd : Text.isBlank d = false) :
    c ≠ d := by
  rintro rfl
  exact absurd (hd.symm.trans hc) Bool.false_ne_true

theorem backslash_ne_of_blank {c : Char} (hc : Text.isBlank c = true) : some c ≠ some '\\' :=
  fun h => ne_of_blank hc (by decide) (Option.some.inj h)

/-- A scan passes over a blank. -/
theorem sameScan_blank {c : Char} (hc : Text.isBlank c = true) (before : Option Char) (t : Text) :
    SameScan before (c :: t) none t := by
  intro quote depth
  have noQuote : Quote.ofChar? c = none :=
    Quote.ofChar?_eq_none (ne_of_blank hc (by decide)) (ne_of_blank hc (by decide))
  have noMark : mark before quote depth c = [] := by simp [mark, hc]
  have sameDepth : depthAfter before quote c depth = depth := by
    have notOpening : c ≠ '(' := ne_of_blank hc (by decide)
    have notClosing : c ≠ ')' := ne_of_blank hc (by decide)
    simp [depthAfter, notOpening, notClosing]
  rw [outside, endOf, noMark, sameDepth, Quote.next_of_ofChar?_eq_none noQuote, List.nil_append]
  exact sameScan_before (backslash_ne_of_blank hc) (by decide) t quote depth

theorem sameScan_trimLeft (h : before ≠ some '\\') (t : Text) :
    SameScan before (Text.trimLeft t) before t := by
  induction t with
  | nil => exact .refl _ _
  | cons c t ih =>
    cases hc : Text.isBlank c with
    | false =>
      rw [Text.trimLeft_of_not_blank hc]
      exact .refl _ _
    | true =>
      rw [Text.trimLeft_of_blank hc]
      exact ih.trans ((sameScan_before h (by decide) t).trans (sameScan_blank hc before t).symm)

theorem sameScan_trimRight (before : Option Char) (t : Text) :
    SameScan before (Text.trimRight t) before t := by
  induction t generalizing before with
  | nil => exact .refl _ _
  | cons c t ih =>
    rw [Text.trimRight_cons]
    split
    · rename_i gone
      have empty : SameScan before [] none [] := fun _ _ => ⟨rfl, rfl⟩
      have rest : SameScan none [] none t := gone.1 ▸ ih none
      exact empty.trans (rest.trans (sameScan_blank gone.2 before t).symm)
    · exact (ih (some c)).cons before

/-- A scan does not tell how many blanks there are. -/
theorem sameScan_collapse (before : Option Char) (t : Text) :
    SameScan before (Text.collapse t) before t := by
  induction t generalizing before with
  | nil => exact .refl _ _
  | cons c t ih =>
    cases hc : Text.isBlank c with
    | false =>
      rw [Text.collapse_of_not_blank hc]
      exact (ih (some c)).cons before
    | true =>
      rw [Text.collapse_of_blank hc, ← Text.trimLeft_collapse]
      have rest : SameScan none (Text.trimLeft (Text.collapse t)) none t :=
        (sameScan_trimLeft (by decide) _).trans (ih none)
      exact (sameScan_blank (by decide) before _).trans
        (rest.trans (sameScan_blank hc before t).symm)

theorem sameScan_trim (t : Text) : SameScan none (Text.trim t) none t :=
  (sameScan_trimRight none _).trans (sameScan_trimLeft (by decide) t)

/-! ### Separators -/

/-- A character that can separate stretches: neither a blank, nor a quote, nor a backslash, nor a
    parenthesis. -/
structure IsSeparator (c : Char) : Prop where
  blank : Text.isBlank c = false
  quote : Quote.ofChar? c = none
  backslash : some c ≠ some '\\'
  opening : c ≠ '('
  closing : c ≠ ')'

theorem IsSeparator.depthAfter {c : Char} (h : IsSeparator c) (before : Option Char)
    (quote : Option Quote) (depth : Int) : depthAfter before quote c depth = depth := by
  simp [Scan.depthAfter, h.opening, h.closing]

theorem isSeparator_semicolon : IsSeparator ';' := ⟨by decide, by decide, by decide, by decide, by decide⟩

theorem isSeparator_colon : IsSeparator ':' := ⟨by decide, by decide, by decide, by decide, by decide⟩

/-- What two stretches and a separator between them have outside strings. -/
theorem outside_append_sep {sep : Char} (hsep : IsSeparator sep)
    (closed : endOf none none 0 t = (none, 0)) :
    outside none none 0 (t ++ sep :: rest) =
      outside none none 0 t ++ (sep, 0) :: outside none none 0 rest := by
  rw [outside_append_cons hsep.quote closed, hsep.depthAfter,
    outside_before hsep.backslash, mark_eq_singleton ?_ hsep.blank]
  · rfl
  · rw [Quote.next_of_ofChar?_eq_none hsep.quote]
    exact Bool.false_ne_true

theorem endOf_append_sep {sep : Char} (hsep : IsSeparator sep)
    (closed : endOf none none 0 t = (none, 0)) :
    endOf none none 0 (t ++ sep :: rest) = endOf none none 0 rest := by
  rw [endOf_append_cons hsep.quote closed, hsep.depthAfter, endOf_before hsep.backslash]

/-- A scan for a separator passes over a character that is no separator at the top level. -/
theorem not_cutsAt {sep c : Char} (hsep : IsSeparator sep) (pass : (sep, 0) ∉ mark before quote depth c) :
    ¬CutsAt (· == sep) before quote depth c := by
  rintro ⟨outsideString, isSep, -, -, rfl⟩
  obtain rfl := beq_iff_eq.1 isSep
  apply pass
  rw [mark_eq_singleton (by simp [outsideString]) hsep.blank]
  exact List.mem_cons_self

theorem splitTopLevelFrom_cons {sep c : Char}
    (hsep : IsSeparator sep) (pass : (sep, 0) ∉ mark before quote depth c) :
    splitTopLevelFrom (· == sep) before quote depth (c :: rest) =
      Text.consHead c (splitTopLevelFrom (· == sep) (some c) (Quote.next before c quote)
        (depthAfter before quote c depth) rest) := by
  rw [splitTopLevelFrom_step, if_neg (not_cutsAt hsep pass)]

theorem cutTopLevel?_cons {sep c : Char}
    (hsep : IsSeparator sep) (pass : (sep, 0) ∉ mark before quote depth c) :
    cutTopLevel? (· == sep) before quote depth (c :: rest) =
      (cutTopLevel? (· == sep) (some c) (Quote.next before c quote)
        (depthAfter before quote c depth) rest).map fun parts => (c :: parts.1, parts.2) := by
  rw [cutTopLevel?_step, if_neg (not_cutsAt hsep pass)]

theorem splitTopLevelFrom_before {isSep : Char → Bool} (h : before ≠ some '\\')
    (quote : Option Quote) (depth : Int) (t : Text) :
    splitTopLevelFrom isSep before quote depth t = splitTopLevelFrom isSep none quote depth t := by
  cases t with
  | nil => rfl
  | cons c t => simp only [splitTopLevelFrom, Quote.next_before h]

/-- Splitting passes over a closed stretch that has no separator at the top level. -/
theorem splitTopLevelFrom_append_sep {sep : Char} (hsep : IsSeparator sep)
    (closed : endOf before quote depth t = (none, 0))
    (free : (sep, 0) ∉ outside before quote depth t) :
    splitTopLevelFrom (· == sep) before quote depth (t ++ sep :: rest) =
      t :: splitTopLevelFrom (· == sep) (some sep) none 0 rest := by
  induction t generalizing before quote depth with
  | nil =>
    obtain ⟨rfl, rfl⟩ := Prod.mk.inj closed
    simp [splitTopLevelFrom, Quote.next_of_ofChar?_eq_none hsep.quote, hsep.opening, hsep.closing]
  | cons c t ih =>
    rw [outside, List.mem_append, not_or] at free
    rw [List.cons_append, splitTopLevelFrom_cons hsep free.1, ih closed free.2]
    rfl

/-- A stretch without a separator at the top level is one piece. -/
theorem splitTopLevelFrom_of_free {sep : Char} (hsep : IsSeparator sep)
    (free : (sep, 0) ∉ outside before quote depth t) :
    splitTopLevelFrom (· == sep) before quote depth t = [t] := by
  induction t generalizing before quote depth with
  | nil => rfl
  | cons c t ih =>
    rw [outside, List.mem_append, not_or] at free
    rw [splitTopLevelFrom_cons hsep free.1, ih free.2]
    rfl

/-- Closed stretches with separators between them are split into these stretches. -/
theorem splitTopLevelFrom_intercalate {sep : Char} (hsep : IsSeparator sep) {stretches : List Text}
    (nonempty : stretches ≠ []) (hbefore : before ≠ some '\\')
    (closed : ∀ t ∈ stretches, endOf none none 0 t = (none, 0))
    (free : ∀ t ∈ stretches, (sep, 0) ∉ outside none none 0 t) :
    splitTopLevelFrom (· == sep) before none 0 ([sep].intercalate stretches) = stretches := by
  induction stretches generalizing before with
  | nil => exact absurd rfl nonempty
  | cons t stretches ih =>
    have free := List.forall_mem_cons.1 free
    have closed := List.forall_mem_cons.1 closed
    have freeHere : (sep, 0) ∉ outside before none 0 t := by
      rw [outside_before hbefore]
      exact free.1
    cases stretches with
    | nil =>
      rw [List.intercalate_singleton]
      exact splitTopLevelFrom_of_free hsep freeHere
    | cons t' stretches =>
      have closedHere : endOf before none 0 t = (none, 0) := by
        rw [endOf_before hbefore]
        exact closed.1
      rw [List.intercalate_cons_cons, List.append_assoc, List.singleton_append,
        splitTopLevelFrom_append_sep hsep closedHere freeHere,
        ih (List.cons_ne_nil _ _) hsep.backslash closed.2 free.2]

/-- A cut passes over a closed stretch that has no separator at the top level. -/
theorem cutTopLevel?_append_sep {sep : Char} (hsep : IsSeparator sep)
    (closed : endOf before quote depth t = (none, 0))
    (free : (sep, 0) ∉ outside before quote depth t) :
    cutTopLevel? (· == sep) before quote depth (t ++ sep :: rest) = some (t, rest) := by
  induction t generalizing before quote depth with
  | nil =>
    obtain ⟨rfl, rfl⟩ := Prod.mk.inj closed
    simp [cutTopLevel?, Quote.next_of_ofChar?_eq_none hsep.quote, hsep.opening, hsep.closing]
  | cons c t ih =>
    rw [outside, List.mem_append, not_or] at free
    rw [List.cons_append, cutTopLevel?_cons hsep free.1, ih closed free.2]
    rfl

/-- Only the separator itself, outside strings and parentheses, is a separator at the top level. -/
theorem eq_of_mem_mark {sep c : Char} (hsep : IsSeparator sep)
    (h : (sep, 0) ∈ mark before quote depth c) : sep = c ∧ 0 = depth ∧ none = quote := by
  unfold mark at h
  split at h
  · exact absurd h List.not_mem_nil
  · rename_i notMarked
    obtain ⟨rfl, rfl⟩ := Prod.mk.inj (List.mem_singleton.1 h)
    have closed : quote = none := by
      simpa [Quote.next_of_ofChar?_eq_none hsep.quote, hsep.blank] using notMarked
    exact ⟨rfl, rfl, closed.symm⟩

/-- There is no cut exactly if there is no separator at the top level. -/
theorem cutTopLevel?_eq_none {sep : Char} (hsep : IsSeparator sep) :
    cutTopLevel? (· == sep) before quote depth t = none ↔ (sep, 0) ∉ outside before quote depth t := by
  induction t generalizing before quote depth with
  | nil => exact iff_of_true rfl List.not_mem_nil
  | cons c t ih =>
    rw [outside, List.mem_append, not_or]
    by_cases here : (sep, 0) ∈ mark before quote depth c
    · refine iff_of_false ?_ fun both => both.1 here
      obtain ⟨rfl, rfl, rfl⟩ := eq_of_mem_mark hsep here
      have cut : cutTopLevel? (· == sep) before none 0 (sep :: t) = some ([], t) :=
        cutTopLevel?_append_sep hsep (t := []) rfl List.not_mem_nil
      rw [cut]
      exact Option.some_ne_none _
    · rw [cutTopLevel?_cons hsep here, Option.map_eq_none_iff, ih, and_iff_right here]

/-- What stands in front of a separator at the top level is closed and has none. -/
theorem cutTopLevel?_inv {sep : Char} (hsep : IsSeparator sep) {head tail : Text}
    (h : cutTopLevel? (· == sep) before quote depth t = some (head, tail)) :
    t = head ++ sep :: tail ∧ endOf before quote depth head = (none, 0) ∧
      (sep, 0) ∉ outside before quote depth head := by
  induction t generalizing before quote depth head with
  | nil => cases h
  | cons c t ih =>
    by_cases here : (sep, 0) ∈ mark before quote depth c
    · obtain ⟨rfl, rfl, rfl⟩ := eq_of_mem_mark hsep here
      have cut : cutTopLevel? (· == sep) before none 0 (sep :: t) = some ([], t) :=
        cutTopLevel?_append_sep hsep (t := []) rfl List.not_mem_nil
      cases cut.symm.trans h
      exact ⟨rfl, rfl, List.not_mem_nil⟩
    · rw [cutTopLevel?_cons hsep here] at h
      obtain ⟨⟨head', tail'⟩, cut, eq⟩ := Option.map_eq_some_iff.1 h
      cases eq
      obtain ⟨rfl, closed, free⟩ := ih cut
      refine ⟨rfl, closed, ?_⟩
      rw [outside, List.mem_append, not_or]
      exact ⟨here, free⟩

/-! ### Parentheses -/

/-- A stretch that closes no parenthesis from before it, if there are `depth` open ones. -/
def Within (before : Option Char) (quote : Option Quote) (depth : Int) (t : Text) : Prop :=
  ∀ d, (')', d) ∈ outside before quote depth t → 0 < d

/-- Whether a character closes the parenthesis that is open in front of the scan. -/
def ClosesAt (before : Option Char) (quote : Option Quote) (depth : Nat) (c : Char) : Prop :=
  Quote.next before c quote = none ∧ c = ')' ∧ depth = 0

instance {depth : Nat} : Decidable (ClosesAt before quote depth c) :=
  inferInstanceAs (Decidable (_ ∧ _ ∧ _))

theorem cutParenFrom?_step (before : Option Char) (quote : Option Quote) (depth : Nat) (c : Char)
    (rest : Text) :
    cutParenFrom? before quote depth (c :: rest) =
      if ClosesAt before quote depth c then some ([], rest)
      else (cutParenFrom? (some c) (Quote.next before c quote)
        (depthAfter before quote c depth).toNat rest).map fun parts => (c :: parts.1, parts.2) := by
  rw [cutParenFrom?.eq_def, depthAfter]
  dsimp only
  cases inString : Quote.next before c quote with
  | some opened =>
    have pass : ¬ClosesAt before quote depth c := by
      intro closes
      cases inString.symm.trans closes.1
    rw [if_neg pass]
    rfl
  | none =>
    by_cases opening : c = '('
    · obtain rfl := opening
      have pass : ¬ClosesAt before quote depth '(' := by
        intro closes
        exact absurd closes.2.1 (by decide)
      rw [if_neg pass]
      rfl
    · by_cases closing : c = ')'
      · obtain rfl := closing
        cases depth with
        | zero =>
          have closes : ClosesAt before quote 0 ')' := ⟨inString, rfl, rfl⟩
          rw [if_pos closes]
          rfl
        | succ depth => simp [ClosesAt]
      · simp [ClosesAt, opening, closing]

/-- As long as the open parenthesis is not closed, the depth in it is a number of parentheses. -/
theorem toNat_depthAfter {depth : Nat} {c : Char} (pass : ¬ClosesAt before quote depth c) :
    ((depthAfter before quote c depth).toNat : Int) = depthAfter before quote c depth := by
  apply Int.toNat_of_nonneg
  unfold depthAfter
  split
  · omega
  · rename_i outsideString
    split
    · omega
    · split
      · rename_i closing
        have positive : depth ≠ 0 := by
          intro zero
          exact pass ⟨by simpa using outsideString, beq_iff_eq.1 closing, zero⟩
        omega
      · omega

/-- The end of a parenthesis is found behind a closed stretch. -/
theorem cutParenFrom?_append {depth : Nat} (closed : endOf before quote depth t = (none, 0))
    (within : Within before quote depth t) :
    cutParenFrom? before quote depth (t ++ ')' :: rest) = some (t, rest) := by
  induction t generalizing before quote depth with
  | nil =>
    obtain ⟨rfl, zero⟩ := Prod.mk.inj closed
    obtain rfl : depth = 0 := by omega
    rfl
  | cons c t ih =>
    have pass : ¬ClosesAt before quote depth c := by
      rintro ⟨outsideString, rfl, zero⟩
      have positive : 0 < (depth : Int) := by
        apply within
        rw [outside, mark_eq_singleton (by simp [outsideString]) (by decide)]
        exact List.mem_cons_self
      omega
    have later : cutParenFrom? (some c) (Quote.next before c quote)
        (depthAfter before quote c depth).toNat (t ++ ')' :: rest) = some (t, rest) := by
      apply ih
      · rw [toNat_depthAfter pass]
        exact closed
      · rw [toNat_depthAfter pass]
        exact fun d member => within d (List.mem_append_right _ member)
    rw [List.cons_append, cutParenFrom?_step, if_neg pass, later]
    rfl

theorem cutParen?_append (closed : endOf (some '(') none 0 t = (none, 0))
    (within : Within (some '(') none 0 t) : cutParen? (t ++ ')' :: rest) = some (t, rest) := by
  unfold cutParen?
  exact cutParenFrom?_append closed within

/-- What stands in front of the end of a parenthesis is a closed stretch. -/
theorem cutParenFrom?_eq_some {depth : Nat} {s head tail : Text}
    (h : cutParenFrom? before quote depth s = some (head, tail)) :
    s = head ++ ')' :: tail ∧ endOf before quote depth head = (none, 0) ∧
      Within before quote depth head := by
  induction s generalizing before quote depth head with
  | nil => cases h
  | cons c s ih =>
    rw [cutParenFrom?_step] at h
    split at h
    · rename_i closes
      obtain ⟨outsideString, rfl, rfl⟩ := closes
      cases h
      rw [Quote.next_of_ofChar?_eq_none (by decide)] at outsideString
      refine ⟨rfl, by rw [endOf, outsideString]; rfl, ?_⟩
      exact fun d member => absurd member List.not_mem_nil
    · rename_i pass
      obtain ⟨⟨head', tail'⟩, cut, eq⟩ := Option.map_eq_some_iff.1 h
      cases eq
      obtain ⟨rfl, closed, within⟩ := ih cut
      rw [toNat_depthAfter pass] at closed within
      refine ⟨rfl, closed, fun d member => ?_⟩
      rw [outside] at member
      rcases List.mem_append.1 member with here | there
      · by_contra notPositive
        unfold mark at here
        split at here
        · exact absurd here List.not_mem_nil
        · rename_i notMarked
          obtain ⟨rfl, rfl⟩ := Prod.mk.inj (List.mem_singleton.1 here)
          refine pass ⟨?_, rfl, by omega⟩
          cases inString : Quote.next before ')' quote with
          | none => rfl
          | some opened => exact absurd (by rw [inString]; rfl) notMarked
      · exact within d there

/-- The position at which a parenthesis is closed is where it is cut. -/
theorem closingParen_of_charBefore? {s : Text} {start : Nat} (opened : Text.charBefore? s start = some '(') :
    closingParen s start =
      match cutParen? (s.drop start) with
      | some (inside, _) => .ok (start + inside.length)
      | none => .error ⟨start⟩ := by
  rw [closingParen, opened]
  rfl

/-- In a parenthesis that is not closed, no more parentheses are closed than opened. -/
theorem nonneg_endOf_of_uncut {depth : Nat} {s : Text} (uncut : cutParenFrom? before quote depth s = none) :
    0 ≤ (endOf before quote depth s).2 := by
  induction s generalizing before quote depth with
  | nil => exact Int.natCast_nonneg depth
  | cons c s ih =>
    rw [cutParenFrom?_step] at uncut
    split at uncut
    · cases uncut
    · rename_i pass
      have later := ih (Option.map_eq_none_iff.1 uncut)
      rwa [toNat_depthAfter pass] at later

end Scan
end CondCss
