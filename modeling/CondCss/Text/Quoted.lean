import CondCss.Text.Basic
import CondCss.Text.Printable

/-!
# Quoted texts

Messages show a text between quotes on one line. Single quotes are used unless the text has a single
quote and no double quote. The quote in use and the backslash are escaped by a backslash, as are the
characters that have no visible form.
-/

namespace CondCss
namespace Text

/-- The hexadecimal digits of `n`, in lower case, padded with zeros to `width`. -/
def hexDigits (width n : Nat) : Text :=
  let digits := Nat.toDigits 16 n
  List.replicate (width - digits.length) '0' ++ digits

/-- A character by its number, which is written with as few digits as its size needs. -/
def escapeCode (n : CodePoint) : Text :=
  if n < 0x100 then ['\\', 'x'] ++ hexDigits 2 n
  else if n < 0x10000 then ['\\', 'u'] ++ hexDigits 4 n
  else ['\\', 'U'] ++ hexDigits 8 n

/-- How one character is shown between the given quotes. -/
def escapeChar (quote c : Char) : Text :=
  if c == quote || c == '\\' then ['\\', c]
  else if c == '\n' then ['\\', 'n']
  else if c == '\r' then ['\\', 'r']
  else if c == '\t' then ['\\', 't']
  else if isPrintable c then [c]
  else escapeCode c.toNat

/-- The quote that a text is shown in. -/
def quoteFor (s : Text) : Char :=
  if s.contains '\'' && !s.contains '"' then '"' else '\''

/-- A text between quotes. -/
def quoted (s : Text) : Text :=
  let quote := quoteFor s
  quote :: s.flatMap (escapeChar quote) ++ [quote]

/-- The character of a code point, if it has one. -/
def charOf? (n : CodePoint) : Option Char :=
  if n.isValidChar then some (Char.ofNat n) else none

/-- Code points between quotes; those that have no character are shown by their numbers. -/
def quotedCodePoints (s : List CodePoint) : Text :=
  let quote := quoteFor (s.filterMap charOf?)
  let shown (n : CodePoint) : Text :=
    match charOf? n with
    | some c => escapeChar quote c
    | none => escapeCode n
  quote :: s.flatMap shown ++ [quote]

/-- A text between quotes, for use in messages. -/
def quotedString (s : Text) : String :=
  String.ofList (quoted s)

end Text
end CondCss
