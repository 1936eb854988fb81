import CondCss.Expand.Sheet
import CondCss.Proofs.Sheet.Comment

/-!
# Comments outside all blocks

A comment outside all blocks should be kept as it is, whatever stands in it. It is, unless a rule stands
in it: the first brace of the comment opens a block without further braces. Such a comment is read as a
rule, with the comment up to the brace as its selector, and it is rewritten if a declaration between the
braces has a call.

`comment_kept_iff` says so of every comment of every style sheet, and `commentedRule_rewritten` is a
comment that is taken apart.
-/

namespace CondCss
namespace Expand

/-- What a report has of items around the item `c`, with `c` itself in the native stream as it is, and
    nothing else of it. -/
structure Report.Keeps (r : Report) (shorten : Bool) (front : List Text) (c : Text)
    (back : List Text) : Prop where
  native : r.native =
    let native := Text.trim (Text.joinWith ['\n'] (front.flatMap (fun i => (item i).native) ++
      c :: back.flatMap fun i => (item i).native))
    if shorten then minify native else native
  deferred : r.deferred =
    Text.trim (Text.joinWith ['\n'] ((front ++ back).flatMap fun i => (item i).deferred))
  diagnostics : r.diagnostics = (front ++ back).flatMap fun i => (item i).diagnostics
  changed : r.changed = (front ++ back).countP fun i => (item i).changed

/-- Whether a rule stands in a text and one of its declarations has a call. -/
def HoldsCall (c : Text) : Prop :=
  ∃ selector body, Sheet.Braced c selector body ∧
    ∃ d ∈ Sheet.declarationsIn body, Occurrence.anyIn d.value = true

theorem sheet_keeps {shorten : Bool} {s c : Text} {front back : List Text}
    (token : hasToken s = true) (split : Sheet.items s = front ++ c :: back)
    (kept : item c = { native := [c] }) : (sheet shorten s).Keeps shorten front c back := by
  constructor <;>
    simp [sheet, token, split, kept, List.flatMap_append, List.flatMap_cons, List.flatMap_map,
      List.countP_append, List.countP_map, Function.comp_def]

/-- Nothing of an item is kept as it is that counts as changed. -/
theorem not_keeps_of_changed {shorten : Bool} {s c : Text} {front back : List Text}
    (token : hasToken s = true) (split : Sheet.items s = front ++ c :: back)
    (changed : (item c).changed = true) : ¬(sheet shorten s).Keeps shorten front c back := by
  intro keeps
  have := keeps.changed
  simp only [sheet, token, split] at this
  simp [List.countP_append, List.countP_map, changed, Function.comp_def] at this

theorem item_comment {front c rest : Text} {later : List Text}
    (h : Sheet.IsItem front c rest later) (comment : Sheet.startsComment c = true) :
    (HoldsCall c → (item c).changed = true) ∧ (¬HoldsCall c → item c = { native := [c] }) := by
  constructor
  · rintro ⟨selector, body, braced, d, member, call⟩
    have read := (Sheet.readRule?_comment h comment).2 ⟨selector, body, braced, rfl⟩
    have some : (Sheet.declarationsIn body).any isConditional = true :=
      List.any_eq_true.2 ⟨d, member, call⟩
    simp [item, read, some, rule]
  · intro none
    cases read : Sheet.readRule? c with
    | none => simp [item, read, comment]
    | some r =>
      obtain ⟨selector, body, braced, rfl⟩ := (Sheet.readRule?_comment h comment).1 read
      have plain : (Sheet.declarationsIn body).any isConditional = false := by
        rw [List.any_eq_false]
        intro d member call
        exact none ⟨selector, body, braced, d, member, call⟩
      simp [item, read, plain]

/-- A comment outside all blocks is read as it is exactly if no rule stands in it. The native stream
    has it as it is, between what the items around it give, and nothing else comes of it, exactly if no
    rule with a call stands in it. Without the letters of a call the whole style sheet is kept, and so is
    the comment in its place. -/
theorem comment_kept_iff (shorten : Bool) (s c : Text) (front back : List Text)
    (split : Sheet.items s = front ++ c :: back) (comment : Sheet.startsComment c = true) :
    (Sheet.read s = front.map Sheet.readItem ++ .block c :: back.map Sheet.readItem ↔
      ¬∃ selector body, Sheet.Braced c selector body) ∧
    (hasToken s = true → ((sheet shorten s).Keeps shorten front c back ↔ ¬HoldsCall c)) ∧
    (hasToken s = false →
      sheet shorten s =
        { native := if shorten then minify s else Text.trim s, total := (Sheet.items s).length } ∧
      ∃ before after, s = before ++ (c ++ after) ∧ Sheet.IsItem before c after back) := by
  have laid := Sheet.laid_items s
  rw [split] at laid
  obtain ⟨before, after, place, isItem⟩ := laid.exists_isItem
  rw [List.nil_append] at isItem
  refine ⟨?_, fun token => ?_, fun noToken => ⟨by simp [sheet, noToken], before, after, place, isItem⟩⟩
  · have same : Sheet.read s = front.map Sheet.readItem ++ .block c :: back.map Sheet.readItem ↔
        Sheet.readRule? c = none := by
      simp only [Sheet.read, split, List.map_append, List.map_cons, List.append_cancel_left_eq,
        List.cons.injEq, and_true, Sheet.readItem]
      cases Sheet.readRule? c <;> simp
    rw [same, Option.eq_none_iff_forall_ne_some]
    constructor
    · rintro none ⟨selector, body, braced⟩
      exact none _ ((Sheet.readRule?_comment isItem comment).2 ⟨selector, body, braced, rfl⟩)
    · intro none r read
      obtain ⟨selector, body, braced, -⟩ := (Sheet.readRule?_comment isItem comment).1 read
      exact none ⟨selector, body, braced⟩
  · obtain ⟨changes, stays⟩ := item_comment isItem comment
    constructor
    · intro keeps holdsCall
      exact not_keeps_of_changed token split (changes holdsCall) keeps
    · intro none
      exact sheet_keeps token split (stays none)

/-- A comment with the letters of a call. -/
def mention : Text :=
  "/* uses if(media(x): a) */".toList

/-- A rule with a call. -/
def colored : Text :=
  ".a \x7b color: if(media(print): black; else: red); \x7d".toList

theorem comment_kept_iff_mention :
    Sheet.items (mention ++ colored) = [] ++ mention :: [colored] ∧
    Sheet.startsComment mention = true ∧ hasToken (mention ++ colored) = true ∧
    Sheet.read (mention ++ colored) = .block mention :: [Sheet.readItem colored] ∧
    (sheet false (mention ++ colored)).Keeps false [] mention [colored] := by
  have split : Sheet.items (mention ++ colored) = [] ++ mention :: [colored] := by decide +kernel
  have comment : Sheet.startsComment mention = true := by decide
  have token : hasToken (mention ++ colored) = true := by decide
  have unbraced {selector body : Text} : ¬Sheet.Braced mention selector body := by
    rintro ⟨tail, shape, -⟩
    have : '{' ∈ mention := by rw [shape]; simp
    revert this
    decide
  obtain ⟨read, keeps, -⟩ :=
    comment_kept_iff false (mention ++ colored) mention [] [colored] split comment
  refine ⟨split, comment, token, read.2 ?_, (keeps token).2 ?_⟩
  · rintro ⟨selector, body, braced⟩
    exact unbraced braced
  · rintro ⟨selector, body, braced, -⟩
    exact unbraced braced

/-- A rule with a call, in a comment. -/
def commentedRule : Text :=
  "/* .a \x7b color: if(media(x): b; else: c) \x7d */".toList

/-- The comment is taken apart: the native stream has its beginning twice, and no end of it. -/
theorem commentedRule_rewritten :
    Sheet.items commentedRule = [commentedRule] ∧ Sheet.startsComment commentedRule = true ∧
    Sheet.read commentedRule ≠ [.block commentedRule] ∧
    (sheet false commentedRule).native =
      ("/* .a \x7b color: c; \x7d\n" ++
        "@media (x) \x7b\n  /* .a \x7b color: b; \x7d\n\x7d").toList ∧
    (sheet false commentedRule).changed = 1 := by
  decide +kernel

end Expand
end CondCss
