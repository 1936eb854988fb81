import CondCss.Text.Basic

/-!
# Lines

Line breaks are the line feed, the carriage return (a pair of both counts once), the vertical tab,
the form feed, the information separators and the three separators beyond ASCII. A text ends with
its last break: no empty line follows it.
-/

namespace CondCss
namespace Text

/-- Characters that end a line. -/
def isLineBreak (c : Char) : Bool :=
  let n := c.toNat
  (0x0A ≤ n && n ≤ 0x0D) || (0x1C ≤ n && n ≤ 0x1E) || n == 0x85 || n == 0x2028 || n == 0x2029

/-- Pieces between line breaks, with an empty one after a break at the end. -/
def linePieces : Text → List Text
  | [] => [[]]
  | '\r' :: '\n' :: rest => [] :: linePieces rest
  | c :: rest => if isLineBreak c then [] :: linePieces rest else consHead c (linePieces rest)

/-- The lines of a text, without their breaks. -/
def lines (s : Text) : List Text :=
  let pieces := linePieces s
  if pieces.getLast? == some [] then pieces.dropLast else pieces

/-- Indents every line by two spaces and ends each but the last with a line feed. -/
def indent (s : Text) : Text :=
  joinWith ['\n'] ((lines s).map ([' ', ' '] ++ ·))

end Text
end CondCss
