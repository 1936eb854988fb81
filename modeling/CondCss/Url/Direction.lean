import CondCss.Text.Mark
import CondCss.Url.LabelChar

/-!
# Writing directions

Letters are written from left to right or from right to left. A label that has letters or numerals
of the second kind must keep to one direction, so that it looks the same wherever it is shown.
-/

namespace CondCss
namespace Url

open Text (CodePoint)

/-- The directions of characters. -/
inductive Direction where
  /-- A letter written from left to right. -/
  | leftToRight
  /-- A letter written from right to left. -/
  | rightToLeft
  /-- An Arabic letter. -/
  | arabicLetter
  /-- A European digit. -/
  | europeanNumber
  /-- An Arabic digit. -/
  | arabicNumber
  /-- A mark, which follows the character before it. -/
  | mark
  /-- Any other character. -/
  | neutral
  deriving DecidableEq, Repr

/-- The characters of labels that are not written from left to right, marks apart, as closed ranges.
    Where a range holds characters that no label has, they do not matter. -/
def directionRanges : List (Nat × Nat × Direction) :=
  [ (0x2D, 0x2D, .neutral), (0x30, 0x39, .europeanNumber), (0xB7, 0xB7, .neutral),
    (0x2B9, 0x2BA, .neutral), (0x2C6, 0x2CF, .neutral), (0x2EC, 0x2EC, .neutral),
    (0x375, 0x375, .neutral), (0x5D0, 0x5F4, .rightToLeft), (0x620, 0x64A, .arabicLetter),
    (0x660, 0x669, .arabicNumber), (0x66E, 0x6EF, .arabicLetter),
    (0x6F0, 0x6F9, .europeanNumber), (0x6FA, 0x7B1, .arabicLetter),
    (0x7C0, 0x858, .rightToLeft), (0x860, 0x8C9, .arabicLetter), (0x200C, 0x200D, .neutral),
    (0x2E2F, 0x2E2F, .neutral), (0x30FB, 0x30FB, .neutral), (0xA67F, 0xA67F, .neutral),
    (0xA717, 0xA71F, .neutral), (0xA788, 0xA788, .neutral), (0xFE73, 0xFE73, .arabicLetter),
    (0x10800, 0x10CF2, .rightToLeft), (0x10D00, 0x10D23, .arabicLetter),
    (0x10D30, 0x10D39, .arabicNumber), (0x10E80, 0x10F27, .rightToLeft),
    (0x10F30, 0x10F45, .arabicLetter), (0x10F70, 0x10FF6, .rightToLeft),
    (0x1E800, 0x1E959, .rightToLeft) ]

/-- Nonspacing marks that are written from left to right all the same. -/
def leftToRightMarks : List CodePoint := [0xCBF, 0xCC6, 0x11A07, 0x11A08, 0x11C3F]

/-- The direction of a character of a label. -/
def direction (n : CodePoint) : Direction :=
  if Text.isNonspacing n && !leftToRightMarks.contains n then .mark
  else match directionRanges.find? fun (first, last, _) => first ≤ n && n ≤ last with
    | some (_, _, d) => d
    | none => .leftToRight

namespace Direction

/-- Letters written from right to left. -/
def isBackward : Direction → Bool
  | rightToLeft | arabicLetter => true
  | _ => false

/-- What makes the rules on directions apply to a label. -/
def isMixing (d : Direction) : Bool :=
  d.isBackward || d == arabicNumber

/-- Digits. -/
def isNumber (d : Direction) : Bool :=
  d == europeanNumber || d == arabicNumber

/-- Whether a direction may occur in a label that is written from right to left, or from left to
    right. -/
def fits (backward : Bool) (d : Direction) : Bool :=
  if backward then d != leftToRight else !d.isMixing

/-- Whether a label that is written from right to left, or from left to right, may end in a
    direction; marks at the end are looked through. -/
def mayEnd (backward : Bool) (d : Direction) : Bool :=
  if backward then d.isBackward || d.isNumber else d == leftToRight || d == europeanNumber

end Direction

/-- What is wrong with the directions in a label. -/
inductive DirectionError where
  /-- The direction of the character at a position, counted from one, is not known. -/
  | unknown (position : Nat)
  /-- The first character is no letter. -/
  | start
  /-- The character at a position, counted from one, has a direction that does not fit. -/
  | stray (backward : Bool) (position : Nat)
  /-- There are digits of both kinds. -/
  | mixedDigits
  /-- The last character that is no mark is neither a letter nor a digit. -/
  | ending
  deriving DecidableEq, Repr

/-- Looks at directions in order, after those `before` them: each must fit, and digits must be of
    one kind when the label is written from right to left. -/
def checkDirectionsFrom (backward : Bool) (before : List Direction) :
    List Direction → Option DirectionError
  | [] => none
  | d :: rest =>
    if !d.fits backward then some (.stray backward (before.length + 1))
    else if backward && d.isNumber && before.any (fun b => b.isNumber && b != d) then
      some .mixedDigits
    else checkDirectionsFrom backward (d :: before) rest

/-- What is wrong with a list of directions, of which some are not from left to right. -/
def checkDirections (directions : List Direction) : Option DirectionError :=
  let first := directions.headD .neutral
  let backward := first.isBackward
  if !backward && first != .leftToRight then some .start
  else (checkDirectionsFrom backward [] directions).orElse fun _ =>
    if (directions.reverse.find? (· != .mark)).any (·.mayEnd backward) then none else some .ending

/-- What is wrong with the directions in a label. All of them must be known. A label without letters
    or numerals from right to left has nothing more to keep to. -/
def directionError? (label : List CodePoint) : Option DirectionError :=
  let directions := label.map direction
  match label.findIdx? isUnknown with
  | some i => some (.unknown (i + 1))
  | none => if directions.any Direction.isMixing then checkDirections directions else none

end Url
end CondCss
