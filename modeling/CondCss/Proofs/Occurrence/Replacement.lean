import CondCss.Proofs.Scan.Closed

/-!
# Replacing calls

Replacing the calls of a text is one pass over it (`replaceAll_allIn`). At a character that can be no
part of a call and of no name, the two sides are replaced one by one, as long as every call in front
of it is closed (`mapCallsFrom_append_cons`).
-/

namespace CondCss

namespace Text

variable {s rest : Text} {c : Char} {cursor pos stop : Nat}

/-- A stretch of a text in two parts. -/
theorem take_drop_append (first : cursor ≤ pos) (second : pos ≤ stop) :
    (s.drop cursor).take (pos - cursor) ++ (s.drop pos).take (stop - pos) =
      (s.drop cursor).take (stop - cursor) := by
  have lengths : stop - cursor = (pos - cursor) + (stop - pos) := by omega
  rw [lengths, List.take_add, List.drop_drop, Nat.add_sub_cancel' first]

/-- The character behind a stretch can be taken with it. -/
theorem take_succ_append (here : s.drop pos = c :: rest) (le : cursor ≤ pos) (back : Text) :
    (s.drop cursor).take (pos + 1 - cursor) ++ back =
      (s.drop cursor).take (pos - cursor) ++ c :: back := by
  rw [← take_drop_append le (Nat.le_succ pos), here, Nat.succ_eq_add_one, Nat.add_sub_cancel_left,
    List.append_assoc]
  rfl

end Text

namespace Occurrence

/-- A text at position `before` with every closed call replaced by what `f` makes of its content; the
    first `skip` characters belong to an earlier call. -/
def mapCallsFrom (f : Text → Text) (before : Option Char) (skip : Nat) : Text → Text
  | [] => []
  | c :: rest =>
    match skip with
    | skip + 1 => mapCallsFrom f (some c) skip rest
    | 0 =>
      if isCandidate before (c :: rest) then
        match Scan.cutParen? (rest.drop 2) with
        | some (content, _) =>
          f content ++ mapCallsFrom f (some c) (content.length + token.length) rest
        | none => c :: mapCallsFrom f (some c) 0 rest
      else c :: mapCallsFrom f (some c) 0 rest

/-- A text with every closed call replaced by what `f` makes of its content. -/
def mapCalls (f : Text → Text) (s : Text) : Text :=
  mapCallsFrom f none 0 s

/-- Whether every call of a text is closed, except those inside another one. -/
def callsClosedFrom (before : Option Char) (skip : Nat) : Text → Bool
  | [] => true
  | c :: rest =>
    match skip with
    | skip + 1 => callsClosedFrom (some c) skip rest
    | 0 =>
      if isCandidate before (c :: rest) then
        match Scan.cutParen? (rest.drop 2) with
        | some (content, _) => callsClosedFrom (some c) (content.length + token.length) rest
        | none => false
      else callsClosedFrom (some c) 0 rest

/-- Whether every call of a text is closed, except those inside another one. -/
def callsClosed (s : Text) : Bool :=
  callsClosedFrom none 0 s

variable {f : Text → Text} {before : Option Char} {c : Char} {s t rest content tail : Text}

/-- Where a closed call starts, it stands whole. -/
theorem eq_call_of_isCandidate (call : isCandidate before (c :: rest) = true)
    (closed : Scan.cutParen? (rest.drop 2) = some (content, tail)) :
    c = 'i' ∧ rest = 'f' :: '(' :: (content ++ ')' :: tail) := by
  obtain ⟨more, shape⟩ := List.isPrefixOf_iff_prefix.1 (Bool.and_eq_true_iff.1 call).1
  have shape : 'i' :: 'f' :: '(' :: more = c :: rest := shape
  obtain ⟨rfl, rfl⟩ := List.cons.inj shape
  have inside : more = content ++ ')' :: tail := (Scan.cutParenFrom?_eq_some closed).1
  rw [inside]
  exact ⟨rfl, rfl⟩

/-! ### Replacing as one pass -/

/-- What replaces each call. -/
def edits (f : Text → Text) (calls : List Occurrence) : List (Text.Span × Text) :=
  calls.map fun o => (o.span, f o.content)

theorem drop_succ_of_cons {pos : Nat} (here : s.drop pos = c :: rest) :
    s.drop (pos + 1) = rest ∧ Text.charBefore? s (pos + 1) = some c := by
  constructor
  · rw [← List.drop_drop, here]
    rfl
  · rw [Text.charBefore?, ← List.head?_drop, here]
    rfl

/-- Replacing the calls from a position on keeps what is left in front of it. -/
theorem substituteFrom_edits (f : Text → Text) (s : Text) {pos skip cursor : Nat}
    (here : s.drop pos = t) (le : cursor ≤ pos + skip) :
    Text.substituteFrom s cursor (edits f (allFrom before pos skip t)) =
      (s.drop cursor).take (pos + skip - cursor) ++ mapCallsFrom f before skip t := by
  fun_induction allFrom before pos skip t generalizing cursor with
  | case1 before pos skip =>
    have all : (s.drop cursor).take (pos + skip - cursor) = s.drop cursor := by
      have atEnd := List.drop_eq_nil_iff.1 here
      refine List.take_of_length_le ?_
      rw [List.length_drop]
      omega
    rw [all, mapCallsFrom, List.append_nil]
    rfl
  | case2 before pos c rest skip ih =>
    have onward : pos + (skip + 1) = pos + 1 + skip := by omega
    rw [onward] at le ⊢
    exact ih (drop_succ_of_cons here).1 le
  | case3 before pos c rest call content tail cut ih =>
    -- The edit takes the text up to the call, and goes on behind it.
    have later := ih (drop_succ_of_cons here).1 (Nat.le_refl _)
    have stop : pos + 1 + (content.length + token.length) =
        pos + token.length + content.length + 1 := by omega
    rw [stop, Nat.sub_self, List.take_zero, List.nil_append] at later
    simp only [mapCallsFrom, call, cut, if_true]
    rw [← later, ← List.append_assoc]
    rfl
  | case4 before pos c rest call cut ih =>
    have later := ih (drop_succ_of_cons here).1 (Nat.le_succ_of_le le)
    simp only [mapCallsFrom, call, cut, if_true]
    exact later.trans (Text.take_succ_append here le _)
  | case5 before pos c rest call ih =>
    have later := ih (drop_succ_of_cons here).1 (Nat.le_succ_of_le le)
    simp only [mapCallsFrom, call, Bool.false_eq_true, if_false]
    exact later.trans (Text.take_succ_append here le _)

theorem substituteFrom_edits_allIn (f : Text → Text) (s : Text) :
    Text.substituteFrom s 0 (edits f (allIn s)) = mapCalls f s :=
  substituteFrom_edits f s rfl (Nat.le_refl 0)

/-- Replacing all calls of a text is one pass over it. -/
theorem replaceAll_allIn (f : Text → Text) (s : Text) :
    replaceAll s (allIn s) ((allIn s).map fun o => f o.content) = mapCalls f s := by
  have pairs : ((allIn s).map span).zip ((allIn s).map fun o => f o.content) = edits f (allIn s) := by
    rw [List.zip_map', edits]
  rw [replaceAll, Text.substitute, pairs]
  exact substituteFrom_edits_allIn f s

/-! ### Texts without calls -/

theorem mapCallsFrom_of_startsAfter (h : startsAfter before t = false) :
    mapCallsFrom f before 0 t = t := by
  induction t generalizing before with
  | nil => rfl
  | cons c rest ih =>
    obtain ⟨notHere, notLater⟩ := Bool.or_eq_false_iff.1 h
    simp only [mapCallsFrom, notHere, Bool.false_eq_true, if_false]
    rw [ih notLater]

/-- A text without a call stays as it is. -/
theorem mapCalls_of_anyIn (h : anyIn t = false) : mapCalls f t = t :=
  mapCallsFrom_of_startsAfter h

theorem callsClosedFrom_of_startsAfter (h : startsAfter before t = false) :
    callsClosedFrom before 0 t = true := by
  induction t generalizing before with
  | nil => rfl
  | cons c rest ih =>
    obtain ⟨notHere, notLater⟩ := Bool.or_eq_false_iff.1 h
    simp only [callsClosedFrom, notHere, Bool.false_eq_true, if_false]
    exact ih notLater

theorem callsClosed_of_anyIn (h : anyIn t = false) : callsClosed t = true :=
  callsClosedFrom_of_startsAfter h

/-- So does a text in which every call is replaced by itself. -/
theorem mapCallsFrom_eq_drop {pos skip : Nat}
    (same : ∀ o ∈ allFrom before pos skip t, f o.content = o.fullText) :
    mapCallsFrom f before skip t = t.drop skip := by
  fun_induction allFrom before pos skip t with
  | case1 before pos skip => simp [mapCallsFrom]
  | case2 before pos c rest skip ih => exact ih same
  | case3 before pos c rest call content tail cut ih =>
    obtain ⟨here, later⟩ := List.forall_mem_cons.1 same
    simp only [mapCallsFrom, call, cut, if_true]
    rw [ih later, here]
    obtain ⟨rfl, rfl⟩ := eq_call_of_isCandidate call cut
    simp [fullText, token]
  | case4 before pos c rest call cut ih =>
    simp only [mapCallsFrom, call, cut, if_true]
    rw [ih same]
    rfl
  | case5 before pos c rest call ih =>
    simp only [mapCallsFrom, call, Bool.false_eq_true, if_false]
    rw [ih same]
    rfl

theorem mapCalls_eq_self (same : ∀ o ∈ allIn s, f o.content = o.fullText) : mapCalls f s = s :=
  mapCallsFrom_eq_drop same

/-! ### Cutting a text between calls -/

/-- A character that is no part of a call's start and of no name. -/
structure IsBoundary (c : Char) : Prop where
  token : c ∉ token
  ident : Text.isIdentChar c = false

theorem isBoundary_colon : IsBoundary ':' := ⟨by decide, by decide⟩

theorem isBoundary_opening : IsBoundary '{' := ⟨by decide, by decide⟩

theorem isBoundary_closing : IsBoundary '}' := ⟨by decide, by decide⟩

theorem isBoundary_semicolon : IsBoundary ';' := ⟨by decide, by decide⟩

theorem isCandidate_before (h : Text.isIdentChar c = false) (t : Text) :
    isCandidate (some c) t = isCandidate none t := by
  simp [isCandidate, h]

theorem mapCallsFrom_before (h : Text.isIdentChar c = false) (t : Text) :
    mapCallsFrom f (some c) 0 t = mapCalls f t := by
  cases t with
  | nil => rfl
  | cons d t => simp only [mapCalls, mapCallsFrom, isCandidate_before h]

theorem callsClosedFrom_before (h : Text.isIdentChar c = false) (t : Text) :
    callsClosedFrom (some c) 0 t = callsClosed t := by
  cases t with
  | nil => rfl
  | cons d t => simp only [callsClosed, callsClosedFrom, isCandidate_before h]

theorem startsAfter_before (h : Text.isIdentChar c = false) (t : Text) :
    startsAfter (some c) t = anyIn t := by
  cases t with
  | nil => rfl
  | cons d t => simp only [anyIn, startsAfter, isCandidate_before h]

/-- No call starts in front of a boundary and goes on behind its first letters. -/
theorem isCandidate_append_cons (h : IsBoundary c) (before : Option Char) (t rest : Text) :
    isCandidate before (t ++ c :: rest) = isCandidate before t := by
  obtain ⟨notI, notF, notParen⟩ : c ≠ 'i' ∧ c ≠ 'f' ∧ c ≠ '(' := by
    simpa [Occurrence.token] using h.token
  have same : Occurrence.token.isPrefixOf (t ++ c :: rest) = Occurrence.token.isPrefixOf t := by
    match t with
    | [] => simp [Occurrence.token, List.isPrefixOf, notI.symm]
    | [x] => simp [Occurrence.token, List.isPrefixOf, notF.symm]
    | [x, y] => simp [Occurrence.token, List.isPrefixOf, notParen.symm]
    | x :: y :: z :: t => simp [Occurrence.token, List.isPrefixOf]
  rw [isCandidate, isCandidate, same]

theorem not_isCandidate_boundary (h : IsBoundary c) (before : Option Char) (rest : Text) :
    isCandidate before (c :: rest) = false :=
  isCandidate_append_cons h before [] rest

theorem startsAfter_append_cons (h : IsBoundary c) (before : Option Char) (t rest : Text) :
    startsAfter before (t ++ c :: rest) = (startsAfter before t || anyIn rest) := by
  induction t generalizing before with
  | nil =>
    simp only [List.nil_append, startsAfter, not_isCandidate_boundary h, startsAfter_before h.ident]
  | cons x t ih =>
    have here := isCandidate_append_cons h before (x :: t) rest
    rw [List.cons_append] at here ⊢
    rw [startsAfter, here, ih, startsAfter, Bool.or_assoc]

/-- A closed call is closed in the same place in a longer text. -/
theorem cutParen?_drop_append (call : isCandidate before (c :: t) = true)
    (closed : Scan.cutParen? (t.drop 2) = some (content, tail)) (rest : Text) :
    Scan.cutParen? ((t ++ rest).drop 2) = some (content, tail ++ rest) := by
  obtain ⟨shape, isClosed, within⟩ := Scan.cutParenFrom?_eq_some closed
  obtain ⟨-, rfl⟩ := eq_call_of_isCandidate call closed
  have longer : (('f' :: '(' :: (content ++ ')' :: tail)) ++ rest).drop 2 =
      content ++ ')' :: (tail ++ rest) := by simp
  rw [longer]
  exact Scan.cutParen?_append isClosed within

theorem length_of_call (call : isCandidate before (c :: t) = true)
    (closed : Scan.cutParen? (t.drop 2) = some (content, tail)) :
    content.length + token.length ≤ t.length := by
  obtain ⟨-, rfl⟩ := eq_call_of_isCandidate call closed
  simp [token]

/-- At a boundary the two sides of a text are replaced one by one, if every call in front of it is
    closed. -/
theorem mapCallsFrom_append_cons (h : IsBoundary c) {skip : Nat} (inside : skip ≤ t.length)
    (closed : callsClosedFrom before skip t = true) :
    mapCallsFrom f before skip (t ++ c :: rest) =
      mapCallsFrom f before skip t ++ c :: mapCalls f rest := by
  fun_induction callsClosedFrom before skip t with
  | case1 before skip =>
    obtain rfl : skip = 0 := Nat.le_zero.1 inside
    simp only [List.nil_append, mapCallsFrom, not_isCandidate_boundary h, Bool.false_eq_true,
      if_false, mapCallsFrom_before h.ident]
  | case2 before x t skip ih => exact ih (Nat.le_of_succ_le_succ inside) closed
  | case3 before x t call content tail cut ih =>
    have here := isCandidate_append_cons h before (x :: t) rest
    rw [List.cons_append] at here ⊢
    simp only [mapCallsFrom, here, call, cut, if_true, cutParen?_drop_append call cut]
    rw [ih (length_of_call call cut) closed, List.append_assoc]
  | case4 before x t call cut => cases closed
  | case5 before x t call ih =>
    have here := isCandidate_append_cons h before (x :: t) rest
    rw [List.cons_append] at here ⊢
    simp only [mapCallsFrom, here, call, Bool.false_eq_true, if_false]
    rw [ih (Nat.zero_le _) closed]
    rfl

theorem mapCalls_append_cons (h : IsBoundary c) (closed : callsClosed t = true) :
    mapCalls f (t ++ c :: rest) = mapCalls f t ++ c :: mapCalls f rest :=
  mapCallsFrom_append_cons h (Nat.zero_le _) closed

theorem callsClosedFrom_append_cons (h : IsBoundary c) {skip : Nat} (inside : skip ≤ t.length)
    (closed : callsClosedFrom before skip t = true) :
    callsClosedFrom before skip (t ++ c :: rest) = callsClosed rest := by
  fun_induction callsClosedFrom before skip t with
  | case1 before skip =>
    obtain rfl : skip = 0 := Nat.le_zero.1 inside
    simp only [List.nil_append, callsClosedFrom, not_isCandidate_boundary h, Bool.false_eq_true,
      if_false, callsClosedFrom_before h.ident]
  | case2 before x t skip ih => exact ih (Nat.le_of_succ_le_succ inside) closed
  | case3 before x t call content tail cut ih =>
    have here := isCandidate_append_cons h before (x :: t) rest
    rw [List.cons_append] at here ⊢
    simp only [callsClosedFrom, here, call, if_true, cutParen?_drop_append call cut]
    exact ih (length_of_call call cut) closed
  | case4 before x t call cut => cases closed
  | case5 before x t call ih =>
    have here := isCandidate_append_cons h before (x :: t) rest
    rw [List.cons_append] at here ⊢
    simp only [callsClosedFrom, here, call, Bool.false_eq_true, if_false]
    exact ih (Nat.zero_le _) closed

theorem callsClosed_append_cons (h : IsBoundary c) (closed : callsClosed t = true) :
    callsClosed (t ++ c :: rest) = callsClosed rest :=
  callsClosedFrom_append_cons h (Nat.zero_le _) closed

/-! ### Blanks around calls -/

/-- The codes of the blanks. -/
def blankCodes : List Text.CodePoint :=
  [0x09, 0x0A, 0x0B, 0x0C, 0x0D, 0x1C, 0x1D, 0x1E, 0x1F, 0x20, 0x85, 0xA0, 0x1680, 0x2000, 0x2001,
    0x2002, 0x2003, 0x2004, 0x2005, 0x2006, 0x2007, 0x2008, 0x2009, 0x200A, 0x2028, 0x2029, 0x202F,
    0x205F, 0x3000]

theorem toNat_mem_blankCodes (h : Text.isBlank c = true) : c.toNat ∈ blankCodes := by
  simp only [blankCodes, List.mem_cons, List.not_mem_nil, or_false]
  simp only [Text.isBlank] at h
  split at h
  · simp only [Bool.or_eq_true, Bool.and_eq_true, decide_eq_true_eq] at h
    omega
  · simp only [Bool.or_eq_true, Bool.and_eq_true, decide_eq_true_eq, beq_iff_eq] at h
    omega

theorem isBoundary_of_blank (h : Text.isBlank c = true) : IsBoundary c := by
  refine ⟨?_, ?_⟩
  · simp only [token, List.mem_cons, List.not_mem_nil, or_false, not_or]
    exact ⟨Scan.ne_of_blank h (by decide), Scan.ne_of_blank h (by decide),
      Scan.ne_of_blank h (by decide)⟩
  · have none : ∀ n ∈ blankCodes, Text.isIdentChar (Char.ofNat n) = false := by
      decide +kernel
    rw [← Char.ofNat_toNat c]
    exact none c.toNat (toNat_mem_blankCodes h)

theorem mapCalls_cons (h : IsBoundary c) (rest : Text) :
    mapCalls f (c :: rest) = c :: mapCalls f rest :=
  mapCalls_append_cons (t := []) h rfl

theorem callsClosed_cons (h : IsBoundary c) (rest : Text) :
    callsClosed (c :: rest) = callsClosed rest :=
  callsClosed_append_cons (t := []) h rfl

theorem anyIn_cons (h : IsBoundary c) (rest : Text) : anyIn (c :: rest) = anyIn rest := by
  have := startsAfter_append_cons h none [] rest
  simpa [anyIn, startsAfter] using this

theorem anyIn_of_blank {back : Text} (h : ∀ c ∈ back, Text.isBlank c = true) : anyIn back = false := by
  induction back with
  | nil => rfl
  | cons c back ih =>
    obtain ⟨hc, hback⟩ := List.forall_mem_cons.1 h
    rw [anyIn_cons (isBoundary_of_blank hc), ih hback]

theorem anyIn_trim (t : Text) : anyIn (Text.trim t) = anyIn t := by
  obtain ⟨front, back, eq, hfront, hback⟩ := Text.exists_eq_append_trim t
  have behind (s : Text) : anyIn (s ++ back) = anyIn s := by
    cases back with
    | nil => rw [List.append_nil]
    | cons c back =>
      obtain ⟨hc, hback⟩ := List.forall_mem_cons.1 hback
      rw [anyIn, startsAfter_append_cons (isBoundary_of_blank hc), anyIn_of_blank hback,
        Bool.or_false]
      rfl
  have before (s : Text) : anyIn (front ++ s) = anyIn s := by
    clear eq
    induction front with
    | nil => rfl
    | cons c front ih =>
      obtain ⟨hc, hfront⟩ := List.forall_mem_cons.1 hfront
      rw [List.cons_append, anyIn_cons (isBoundary_of_blank hc), ih hfront]
  have same := before (Text.trim t ++ back)
  rw [← eq, behind] at same
  exact same.symm

/-- Blanks behind a text have no part in its calls. -/
theorem mapCalls_append_of_blank {back : Text} (h : ∀ c ∈ back, Text.isBlank c = true)
    (closed : callsClosed t = true) :
    mapCalls f (t ++ back) = mapCalls f t ++ back ∧ callsClosed (t ++ back) = true := by
  cases back with
  | nil => simp [closed]
  | cons c back =>
    obtain ⟨hc, hback⟩ := List.forall_mem_cons.1 h
    have boundary := isBoundary_of_blank hc
    rw [mapCalls_append_cons boundary closed, callsClosed_append_cons boundary closed,
      mapCalls_of_anyIn (anyIn_of_blank hback), callsClosed_of_anyIn (anyIn_of_blank hback)]
    exact ⟨rfl, rfl⟩

/-- Nor have blanks in front of it. -/
theorem mapCalls_of_blank_append {front : Text} (h : ∀ c ∈ front, Text.isBlank c = true) (t : Text) :
    mapCalls f (front ++ t) = front ++ mapCalls f t ∧ callsClosed (front ++ t) = callsClosed t := by
  induction front with
  | nil => exact ⟨rfl, rfl⟩
  | cons c front ih =>
    obtain ⟨hc, hfront⟩ := List.forall_mem_cons.1 h
    have boundary := isBoundary_of_blank hc
    obtain ⟨same, closed⟩ := ih hfront
    rw [List.cons_append, mapCalls_cons boundary, callsClosed_cons boundary, same, closed]
    exact ⟨rfl, rfl⟩

end Occurrence
end CondCss
