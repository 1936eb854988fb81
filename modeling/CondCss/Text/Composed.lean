import CondCss.Text.CombiningClass
import CondCss.Text.Composite

/-!
# Composed texts

Texts that look the same may differ in how letters and marks are put together. A text is composed
when it uses composites wherever there are any. To compose a text, all composites are taken apart,
the marks after each letter are put in order, and what has a composite is put together again.
-/

namespace CondCss
namespace Text

/-- How often a composite can be taken apart: composites of composites go no deeper. -/
def compositeDepth : Nat := 3

/-- Takes a character apart, at most so often. -/
def decomposeChar : (depth : Nat) → CodePoint → List CodePoint
  | 0, c => [c]
  | depth + 1, c =>
    match parts? c with
    | some (first, second) => decomposeChar depth first ++ [second]
    | none => [c]

/-- Takes all composites of a text apart. -/
def decompose (s : List CodePoint) : List CodePoint :=
  s.flatMap (decomposeChar compositeDepth)

/-- Puts a mark in front of the marks of greater classes among those that follow. -/
def insertMark (c : CodePoint) : List CodePoint → List CodePoint
  | [] => [c]
  | d :: rest =>
    if combiningClass d != 0 && combiningClass d < combiningClass c then d :: insertMark c rest
    else c :: d :: rest

/-- Orders the marks after each letter by their classes; marks of one class keep their order. -/
def orderMarks (s : List CodePoint) : List CodePoint :=
  s.foldr (fun c rest => if combiningClass c == 0 then c :: rest else insertMark c rest) []

/-- Whether a mark is attached to a letter, although the marks `between` stand between them. -/
def reaches (between : List CodePoint) (c : CodePoint) : Bool :=
  between.getLast?.all fun last => combiningClass last < combiningClass c

/-- Puts together what follows the letter `base` and the marks `between` that stay. -/
def composeAfter (base : CodePoint) (between : List CodePoint) :
    List CodePoint → List CodePoint
  | [] => base :: between
  | c :: rest =>
    match if reaches between c then composite? base c else none with
    | some whole => composeAfter whole between rest
    | none =>
      if combiningClass c == 0 then base :: between ++ composeAfter c [] rest
      else composeAfter base (between ++ [c]) rest

/-- Puts together what has a composite. Marks at the start have no letter. -/
def compose : List CodePoint → List CodePoint
  | [] => []
  | c :: rest => if combiningClass c == 0 then composeAfter c [] rest else c :: compose rest

/-- Whether a text is composed. -/
def isComposed (s : List CodePoint) : Bool :=
  !s.any isReplaced && compose (orderMarks (decompose s)) == s

end Text
end CondCss
