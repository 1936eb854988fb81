import CondCss.Scan
import CondCss.Text.WordChar

/-!
# Occurrences of `if(...)`

An occurrence is a call of `if` in a larger text, from the `i` to the parenthesis that closes it.
The letters `if(` at the end of a longer name, as in `my-if(`, are none. A call that is never closed
is skipped; a call inside another one is part of it.
-/

namespace CondCss

/-- One `if(...)` in a larger text. -/
structure Occurrence where
  /-- Position of the `i`. -/
  start : Nat
  /-- The text between the parentheses. -/
  content : Text
  deriving DecidableEq, Repr

namespace Occurrence

/-- The name of the function and the parenthesis after it. -/
def token : Text := ['i', 'f', '(']

/-- The whole call. -/
def fullText (o : Occurrence) : Text :=
  token ++ o.content ++ [')']

/-- The position after the closing parenthesis. -/
def stop (o : Occurrence) : Nat :=
  o.start + token.length + o.content.length + 1

/-- Whether a call of `if` starts with `s`, when `before` is the character in front of it. -/
def isCandidate (before : Option Char) (s : Text) : Bool :=
  token.isPrefixOf s && !before.any Text.isIdentChar

/-- Whether some call of `if` starts in a text, closed or not, after the character `before`. -/
def startsAfter (before : Option Char) : Text → Bool
  | [] => false
  | c :: rest => isCandidate before (c :: rest) || startsAfter (some c) rest

/-- Whether a text has a call of `if`, closed or not. -/
def anyIn (s : Text) : Bool :=
  startsAfter none s

/-- The closed calls in a text at position `pos`, of which the first `skip` characters belong to an
    earlier call. -/
def allFrom (before : Option Char) (pos skip : Nat) : Text → List Occurrence
  | [] => []
  | c :: rest =>
    match skip with
    | skip + 1 => allFrom (some c) (pos + 1) skip rest
    | 0 =>
      if isCandidate before (c :: rest) then
        match Scan.cutParen? (rest.drop 2) with
        | some (content, _) =>
          ⟨pos, content⟩ :: allFrom (some c) (pos + 1) (content.length + token.length) rest
        | none => allFrom (some c) (pos + 1) 0 rest
      else allFrom (some c) (pos + 1) 0 rest

/-- Every closed call in a text that is not inside another one, from left to right. -/
def allIn (s : Text) : List Occurrence :=
  allFrom none 0 0 s

end Occurrence

namespace Text

/-- A stretch of a text, from `start` up to `stop`. -/
structure Span where
  /-- Position of the first character. -/
  start : Nat
  /-- Position after the last character. -/
  stop : Nat
  deriving DecidableEq, Repr

/-- What is left of `s` from `cursor` on, with each span replaced by its text. The spans come in
    order and do not overlap. -/
def substituteFrom (s : Text) (cursor : Nat) : List (Span × Text) → Text
  | [] => s.drop cursor
  | (span, replacement) :: edits =>
    (s.drop cursor).take (span.start - cursor) ++ replacement ++ substituteFrom s span.stop edits

/-- Replaces each span by its text; spans or texts without a partner are ignored. -/
def substitute (s : Text) (spans : List Span) (replacements : List Text) : Text :=
  substituteFrom s 0 (spans.zip replacements)

end Text

/-- The stretch of text that an occurrence covers. -/
def Occurrence.span (o : Occurrence) : Text.Span :=
  ⟨o.start, o.stop⟩

/-- Replaces each occurrence in `s` by its text. -/
def Occurrence.replaceAll (s : Text) (occurrences : List Occurrence) (replacements : List Text) :
    Text :=
  Text.substitute s (occurrences.map Occurrence.span) replacements

end CondCss
