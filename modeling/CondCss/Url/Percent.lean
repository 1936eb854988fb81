import CondCss.Text.Quoted
import CondCss.Text.Utf8

/-!
# Percent encoding

The parts of an address are written in printable ASCII characters. A character that a part may not
hold is written as the bytes of its UTF-8 form, each as a percent sign and two hexadecimal digits;
where such an escape is there already, it stays.
-/

namespace CondCss
namespace Url

/-- The value of a hexadecimal digit. -/
def hexValue? (c : Char) : Option Nat :=
  if '0' ≤ c && c ≤ '9' then some (c.toNat - '0'.toNat)
  else if 'a' ≤ c && c ≤ 'f' then some (c.toNat - 'a'.toNat + 10)
  else if 'A' ≤ c && c ≤ 'F' then some (c.toNat - 'A'.toNat + 10)
  else none

/-- The byte of an escape at the start of a text. -/
def escape? : Text → Option UInt8
  | '%' :: a :: b :: _ =>
    match hexValue? a, hexValue? b with
    | some a, some b => some (UInt8.ofNat (16 * a + b))
    | _, _ => none
  | _ => none

/-- Writes a character as escapes. -/
def escapeAll (c : Char) : Text :=
  (String.utf8EncodeChar c).flatMap fun byte =>
    '%' :: (Text.hexDigits 2 byte.toNat).map Char.toUpper

/-- Escapes what is not allowed in a text, of which the first `skip` characters belong to an escape
    that is there already. -/
def encodeFrom (allowed : Char → Bool) (skip : Nat) : Text → Text
  | [] => []
  | c :: rest =>
    match skip with
    | skip + 1 => c :: encodeFrom allowed skip rest
    | 0 =>
      if (escape? (c :: rest)).isSome then c :: encodeFrom allowed 2 rest
      else (if allowed c then [c] else escapeAll c) ++ encodeFrom allowed 0 rest

/-- Escapes what is not allowed. -/
def encode (allowed : Char → Bool) (s : Text) : Text :=
  encodeFrom allowed 0 s

/-- The bytes of a text with its escapes read, of which the first `skip` characters belong to an
    escape. -/
def bytesFrom (skip : Nat) : Text → List UInt8
  | [] => []
  | c :: rest =>
    match skip with
    | skip + 1 => bytesFrom skip rest
    | 0 =>
      match escape? (c :: rest) with
      | some byte => byte :: bytesFrom 2 rest
      | none => String.utf8EncodeChar c ++ bytesFrom 0 rest

/-- Reads the escapes of a text. -/
def decode (s : Text) : Text :=
  Text.decodeUtf8 (bytesFrom 0 s)

/-- Printable ASCII characters that are none of the given ones. -/
def printableExcept (excluded : List Char) (c : Char) : Bool :=
  0x20 ≤ c.toNat && c.toNat < 0x7F && !excluded.contains c

/-- The backtick. -/
def backtick : Char := Char.ofNat 0x60

/-- What a fragment may hold. -/
def inFragment : Char → Bool :=
  printableExcept [' ', '"', '<', '>', backtick]

/-- What a query may hold. -/
def inQuery : Char → Bool :=
  printableExcept [' ', '"', '#', '<', '>']

/-- What a path may hold. -/
def inPath : Char → Bool :=
  printableExcept [' ', '"', '#', '<', '>', '?', backtick, '{', '}']

/-- What the user part may hold. -/
def inUserinfo : Char → Bool :=
  printableExcept [' ', '"', '#', '<', '>', '?', backtick, '{', '}', '/', ';', '=', '@', '[', '\\',
    ']', '^', '|']

/-- What the name of a host may hold. -/
def inHost : Char → Bool :=
  printableExcept [' ', '#', '/', ':', '<', '>', '?', '@', '[', ']', '^']

end Url
end CondCss
