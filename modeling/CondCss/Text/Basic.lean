/-!
# Texts

A text is a list of characters: positions, lengths and slices count characters. This module holds
the blanks and the operations on texts that everything else is built from: trimming, collapsing runs
of blanks, splitting, and searching.
-/

namespace CondCss

/-- A text, as the list of its characters. -/
abbrev Text := List Char

namespace Text

/-- Blanks: the space and the controls, separators and spaces that count as white space. -/
def isBlank (c : Char) : Bool :=
  let n := c.toNat
  if n < 0x80 then (0x09 ≤ n && n ≤ 0x0D) || (0x1C ≤ n && n ≤ 0x20)
  else n == 0x85 || n == 0xA0 || n == 0x1680 || (0x2000 ≤ n && n ≤ 0x200A) || n == 0x2028 ||
    n == 0x2029 || n == 0x202F || n == 0x205F || n == 0x3000

/-- Drops the blanks at the front. -/
def trimLeft (s : Text) : Text :=
  s.dropWhile isBlank

/-- Drops the blanks at the end. -/
def trimRight (s : Text) : Text :=
  (trimLeft s.reverse).reverse

/-- Drops the blanks at both ends. -/
def trim (s : Text) : Text :=
  trimRight (trimLeft s)

theorem length_trim_le (s : Text) : (trim s).length ≤ s.length := by
  have left (t : Text) : (trimLeft t).length ≤ t.length := (List.dropWhile_suffix isBlank).length_le
  have right : (trimRight (trimLeft s)).length ≤ (trimLeft s).length := by
    simpa [trimRight] using left (trimLeft s).reverse
  exact Nat.le_trans right (left s)

/-- Replaces every run of blanks by one space. -/
def collapse : Text → Text
  | [] => []
  | c :: rest =>
    if isBlank c then
      match collapse rest with
      | ' ' :: tail => ' ' :: tail
      | tail => ' ' :: tail
    else c :: collapse rest

/-- Puts `c` in front of the first of several pieces. -/
def consHead (c : Char) : List Text → List Text
  | piece :: pieces => (c :: piece) :: pieces
  | [] => [[c]]

/-- Splits at every occurrence of a character; the pieces are as many as the occurrences and one
    more. -/
def splitOnChar (sep : Char) : Text → List Text
  | [] => [[]]
  | c :: rest =>
    if c == sep then [] :: splitOnChar sep rest
    else consHead c (splitOnChar sep rest)

/-- Joins texts with a separator between neighbours. -/
def joinWith (sep : Text) (parts : List Text) : Text :=
  sep.intercalate parts

/-- What follows `lead` in `s`, when `s` starts with it. -/
def after? : (lead s : Text) → Option Text
  | [], s => some s
  | _ :: _, [] => none
  | a :: lead, c :: s => if a == c then after? lead s else none

/-- Whether `needle` stands somewhere in the text. -/
def hasInfix (needle : Text) : Text → Bool
  | [] => needle.isEmpty
  | c :: rest => needle.isPrefixOf (c :: rest) || hasInfix needle rest

/-- The text before the first occurrence of a character, and the text after it. -/
def cutAt? (sep : Char) : Text → Option (Text × Text)
  | [] => none
  | c :: rest =>
    if c == sep then some ([], rest)
    else (cutAt? sep rest).map fun (before, after) => (c :: before, after)

/-- The character just before position `i`. -/
def charBefore? (s : Text) : (i : Nat) → Option Char
  | 0 => none
  | i + 1 => s[i]?

end Text
end CondCss
