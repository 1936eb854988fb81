import CondCss.Proofs.Conditional.Parts

/-!
# Reading strictly and with literals

A content is read strictly or with literals allowed. The two readings of a part differ only where the
condition is a literal: the strict one refuses it (`readPart_strict`). So the strict reading of a content
follows from the one with literals. If that one succeeds, the strict one succeeds with the same
conditional, or fails at its first literal (`parse_strict_of_ok`); if that one fails, so does the strict
one, perhaps at a literal before (`parse_strict_of_error`).
-/

namespace CondCss
namespace Conditional

/-! ### Parts -/

/-- What the strict reading makes of a part that is read with literals: it refuses a literal. -/
def Part.refuseLiteral : Part → Except Error Part
  | .clause ⟨.literal, condition, _⟩ => .error (.unknownCondition condition)
  | part => .ok part

variable {content : Text} {c : Conditional}

/-- The strict reading of a condition. -/
theorem readCondition_strict (condition : Text) :
    readCondition .strict condition = (readCondition .literal condition).bind fun r =>
      if r.1 = .literal then .error (.unknownCondition r.2) else .ok r := by
  unfold readCondition
  cases function : readFunction? condition with
  | none => rfl
  | some found =>
    have notLiteral : found.1 ≠ .literal := ne_literal_of_readFunction? function
    simp only
    split
    · simp [Except.bind, notLiteral]
    · rfl
    · rfl

/-- The strict reading of a part. -/
theorem readPart_strict (part : Text) :
    readPart .strict part = (readPart .literal part).bind Part.refuseLiteral := by
  unfold readPart
  cases readElse? part with
  | some value => rfl
  | none =>
    cases Scan.cut? (· == ':') part with
    | none => rfl
    | some parts =>
      simp only [readCondition_strict]
      cases readCondition .literal (Text.trim parts.1) with
      | error e => rfl
      | ok r =>
        obtain ⟨kind, expression⟩ := r
        cases kind <;> rfl

/-- The first literal among clauses. -/
def firstLiteral? (clauses : List Clause) : Option Clause :=
  clauses.find? (·.kind == .literal)

theorem firstLiteral?_eq_none {clauses : List Clause} :
    firstLiteral? clauses = none ↔ ∀ clause ∈ clauses, clause.kind ≠ .literal := by
  simp [firstLiteral?]

/-- Parts are refused at the first literal. -/
theorem mapM_refuseLiteral (ps : List Part) :
    ps.mapM Part.refuseLiteral =
      match firstLiteral? (ps.filterMap Part.clause?) with
      | some l => .error (.unknownCondition l.expression)
      | none => .ok ps := by
  induction ps with
  | nil => rfl
  | cons p ps ih =>
    rw [List.mapM_cons, ih]
    have onward (first : p.refuseLiteral = .ok p)
        (same : firstLiteral? ((p :: ps).filterMap Part.clause?) =
          firstLiteral? (ps.filterMap Part.clause?)) :
        (p.refuseLiteral.bind fun first =>
          Except.bind (match firstLiteral? (ps.filterMap Part.clause?) with
            | some l => .error (.unknownCondition l.expression)
            | none => .ok ps) fun rest => .ok (first :: rest)) =
          match firstLiteral? ((p :: ps).filterMap Part.clause?) with
          | some l => .error (.unknownCondition l.expression)
          | none => .ok (p :: ps) := by
      rw [first, same]
      cases firstLiteral? (ps.filterMap Part.clause?) <;> rfl
    cases p with
    | otherwise value => exact onward rfl rfl
    | clause clause =>
      obtain ⟨kind, expression, value⟩ := clause
      cases kind with
      | literal => rfl
      | style | media | supports => exact onward rfl rfl

/-! ### Contents -/

/-- What the parts of a content make, once they are read. -/
def ofParts (content : Text) (ps : List Part) : Except Error Conditional :=
  if (ps.filterMap Part.clause?).isEmpty then .error (.noClause content)
  else .ok ⟨ps.filterMap Part.clause?, (ps.filterMap Part.otherwise?).getLast?⟩

theorem parse_eq (mode : Mode) (content : Text) :
    parse mode content = ((parts content).mapM (readPart mode)).bind (ofParts content) := by
  unfold parse
  cases (parts content).mapM (readPart mode) with
  | error e => rfl
  | ok ps =>
    change (if (ps.filterMap Part.clause?).isEmpty = true then _ else _) = ofParts content ps
    unfold ofParts
    split <;> rfl

theorem mapM_readPart_strict (ls : List Text) :
    ls.mapM (readPart .strict) = ls.mapM fun part => (readPart .literal part).bind Part.refuseLiteral :=
  congrArg ls.mapM (funext readPart_strict)

/-- What is read with literals is read strictly in the same way, unless it has a literal. -/
theorem parse_strict_of_ok (h : parse .literal content = .ok c) :
    parse .strict content =
      match firstLiteral? c.clauses with
      | some l => .error (.unknownCondition l.expression)
      | none => .ok c := by
  obtain ⟨ps, read, isClauses, -, -⟩ := parse_eq_ok h
  rw [parse_eq, mapM_readPart_strict, mapM_bind_of_ok read, mapM_refuseLiteral, ← isClauses]
  rw [parse_eq, read] at h
  cases firstLiteral? c.clauses with
  | some l => rfl
  | none => exact h

/-- What cannot be read with literals cannot be read strictly. -/
theorem parse_strict_of_error {e : Error} (h : parse .literal content = .error e) :
    parse .strict content = .error e ∨
      ∃ condition, parse .strict content = .error (.unknownCondition condition) := by
  rw [parse_eq] at h ⊢
  rw [mapM_readPart_strict]
  cases read : (parts content).mapM (readPart .literal) with
  | error e' =>
    rw [read] at h
    cases h
    rcases mapM_bind_of_error (g := Part.refuseLiteral) read with same | ⟨p, e'', refused, before⟩
    · exact .inl (by rw [same]; rfl)
    · refine .inr ?_
      obtain ⟨condition, rfl⟩ : ∃ condition, e'' = .unknownCondition condition := by
        unfold Part.refuseLiteral at refused
        split at refused
        · cases refused
          exact ⟨_, rfl⟩
        · cases refused
      exact ⟨condition, by rw [before]; rfl⟩
  | ok ps =>
    -- Without clauses there is no literal either.
    rw [read] at h
    change ofParts content ps = .error e at h
    have none : ps.filterMap Part.clause? = [] := by
      unfold ofParts at h
      split at h
      · rename_i empty
        exact List.isEmpty_iff.1 empty
      · cases h
    left
    rw [mapM_bind_of_ok read, mapM_refuseLiteral, none]
    exact h

/-- What can be read strictly is read in the same way with literals. -/
theorem parse_literal (h : parse .strict content = .ok c) : parse .literal content = .ok c := by
  cases read : parse .literal content with
  | error e =>
    rcases parse_strict_of_error read with fails | ⟨condition, fails⟩
    · cases h.symm.trans fails
    · cases h.symm.trans fails
  | ok c' =>
    have strict := parse_strict_of_ok read
    rw [h] at strict
    split at strict
    · cases strict
    · cases strict
      rfl

end Conditional
end CondCss
