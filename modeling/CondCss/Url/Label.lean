import CondCss.Text.Ascii
import CondCss.Text.Composed
import CondCss.Text.LowerCase
import CondCss.Url.Direction
import CondCss.Url.Punycode
import CondCss.Url.Script

/-!
# Labels

A host name is made of labels. A label with characters beyond ASCII has an ASCII form, which starts
with `xn--`. Labels are checked before they are brought from one form into the other: a label is
composed, has its hyphens in the middle, starts with no mark, holds only characters that are allowed
where they stand, and keeps to one writing direction.
-/

namespace CondCss
namespace Url

open Text (CodePoint)

/-- A label, as the code points of its characters. -/
abbrev Label := List CodePoint

/-- What is wrong with a label or a name. -/
inductive NameError where
  | emptyName
  | nameTooLong
  | emptyLabel
  | labelTooLong
  | notComposed
  | innerHyphens
  | outerHyphen
  | leadingMark
  /-- A joiner stands after a character without a name. -/
  | namelessNeighbour (label : Label) (index : Nat)
  /-- A joiner stands between the wrong neighbours. -/
  | joiner (label : Label) (index : Nat)
  /-- A character stands between the wrong neighbours. -/
  | neighbours (label : Label) (index : Nat)
  /-- A character is not allowed at all. -/
  | character (label : Label) (index : Nat)
  | direction (label : Label) (error : DirectionError)
  /-- Nothing follows `xn--`. -/
  | nothingEncoded
  /-- A label that starts with `xn--` ends in a hyphen. -/
  | lastHyphen
  /-- What follows `xn--` cannot be read. -/
  | unreadable
  /-- What follows `xn--` is not the way in which the label is written. -/
  | notCanonical
  deriving DecidableEq, Repr

/-- The code point at an index of a label, as it is written in messages. -/
def codePointAt (label : Label) (index : Nat) : String :=
  "U+" ++ String.ofList ((Text.hexDigits 4 (label[index]?.getD 0)).map Char.toUpper)

/-- A label between quotes. -/
def Label.quoted (label : Label) : String :=
  String.ofList (Text.quotedCodePoints label)

/-- What is said of the directions in a label. -/
def DirectionError.message (label : Label) : DirectionError → String
  | unknown position =>
    "Unknown directionality in label " ++ label.quoted ++ s!" at position {position}"
  | start =>
    "First codepoint in label " ++ label.quoted ++ " must be directionality L, R or AL"
  | stray backward position =>
    s!"Invalid direction for codepoint at position {position} in a " ++
      (if backward then "right-to-left" else "left-to-right") ++ " label"
  | mixedDigits => "Can not mix numeral types in a right-to-left label"
  | ending => "Label ends with illegal codepoint directionality"

/-- What is said of an error. -/
def NameError.message : NameError → String
  | emptyName => "Empty domain"
  | nameTooLong => "Domain too long"
  | emptyLabel => "Empty Label"
  | labelTooLong => "Label too long"
  | notComposed => "Label must be in Normalization Form C"
  | innerHyphens => "Label has disallowed hyphens in 3rd and 4th position"
  | outerHyphen => "Label must not start or end with a hyphen"
  | leadingMark => "Label begins with an illegal combining character"
  | namelessNeighbour label index =>
    "Unknown codepoint adjacent to joiner " ++ codePointAt label index ++
      s!" at position {index + 1} in " ++ label.quoted
  | joiner label index =>
    "Joiner " ++ codePointAt label index ++ s!" not allowed at position {index + 1} in " ++
      label.quoted
  | neighbours label index =>
    "Codepoint " ++ codePointAt label index ++ s!" not allowed at position {index + 1} in " ++
      label.quoted
  | character label index =>
    "Codepoint " ++ codePointAt label index ++ s!" at position {index + 1} of " ++
      label.quoted ++ " not allowed"
  | direction label error => error.message label
  | nothingEncoded => "Malformed A-label, no Punycode eligible content found"
  | lastHyphen => "A-label must not end with a hyphen"
  | unreadable => "Invalid A-label"
  | notCanonical => "A-label is not the canonical Punycode encoding of its U-label"

/-! ### Neighbours -/

/-- The sign that keeps letters apart. -/
def nonJoiner : CodePoint := 0x200C

/-- The sign that joins letters. -/
def zeroWidthJoiner : CodePoint := 0x200D

/-- Whether a character is a joiner, which is allowed between certain neighbours. -/
def isJoiner (n : CodePoint) : Bool :=
  n == nonJoiner || n == zeroWidthJoiner

/-- The class of the signs that take the vowel away from a letter. -/
def viramaClass : Nat := 9

/-- Whether a joiner may stand after `before`, given in reverse, and before `after`: behind a sign
    that takes a vowel away or, when it keeps letters apart, between two that would be joined. -/
def joinerFits (n : CodePoint) (before after : Label) : Bool :=
  before.head?.any (Text.combiningClass · == viramaClass) ||
    (n == nonJoiner &&
      (before.find? (!isTransparent ·)).any joinsNext &&
      (after.find? (!isTransparent ·)).any joinsPrevious)

/-- Whether a character is one of the ten digits from `first` on. -/
def isDigitFrom (first n : CodePoint) : Bool :=
  first ≤ n && n < first + 10

/-- The zero of the Arabic digits. -/
def arabicZero : CodePoint := 0x660

/-- The zero of the eastern Arabic digits. -/
def easternZero : CodePoint := 0x6F0

/-- The katakana middle dot. -/
def katakanaDot : CodePoint := 0x30FB

/-- The small letter `l`. -/
def smallEl : CodePoint := 0x6C

/-- For a character that is allowed between certain neighbours only, whether it may stand after
    `before`, given in reverse, and before `after`: a middle dot between two letters `l`, a Greek
    numeral sign before a Greek letter, Hebrew punctuation after a Hebrew letter, a katakana dot in
    Japanese texts, and Arabic digits not next to eastern ones. -/
def neighboursFit? (n : CodePoint) (before after : Label) : Option Bool :=
  let others := before ++ after
  if n == 0xB7 then some (before.head? == some smallEl && after.head? == some smallEl)
  else if n == 0x375 then some (after.head?.any isGreek)
  else if n == 0x5F3 || n == 0x5F4 then some (before.head?.any isHebrew)
  else if n == katakanaDot then some (others.any fun m => m != katakanaDot && isJapanese m)
  else if isDigitFrom arabicZero n then some (!others.any (isDigitFrom easternZero))
  else if isDigitFrom easternZero n then some (!others.any (isDigitFrom arabicZero))
  else none

/-- The first character of a label that is not allowed where it stands, after `before`, which is
    given in reverse. -/
def characterError? (label before : Label) : Label → Option NameError
  | [] => none
  | n :: rest =>
    let index := before.length
    let error :=
      if isLabelChar n then none
      else if isJoiner n then
        if before.head?.any isNameless then some (.namelessNeighbour label index)
        else if joinerFits n before rest then none
        else some (.joiner label index)
      else match neighboursFit? n before rest with
        | some true => none
        | some false => some (.neighbours label index)
        | none => some (.character label index)
    error.orElse fun _ => characterError? label (n :: before) rest

/-! ### Labels -/

/-- The longest name. -/
def maxNameLength : Nat := 253

/-- The longest label in ASCII. -/
def maxLabelLength : Nat := 63

/-- The hyphen. -/
def hyphen : CodePoint := 0x2D

/-- The first thing that is wrong with a label. -/
def labelError? (label : Label) : Option NameError :=
  if label.isEmpty then some .emptyLabel
  else if maxNameLength + 1 < label.length then some .labelTooLong
  else if !Text.isComposed label then some .notComposed
  else if (label.drop 2).take 2 == [hyphen, hyphen] then some .innerHyphens
  else if label.head? == some hyphen || label.getLast? == some hyphen then some .outerHyphen
  else if label.head?.any Text.isMark then some .leadingMark
  else (characterError? label [] label).orElse fun _ =>
    (directionError? label).map (.direction label)

/-- Accepts a label with which nothing is wrong. -/
def checkLabel (label : Label) : Except NameError Unit :=
  match labelError? label with
  | some e => .error e
  | none => .ok ()

/-- How the ASCII form of a label with other characters starts. -/
def asciiMarker : Text := ['x', 'n', '-', '-']

/-- The label that a label in ASCII stands for. There is one way only to write it in ASCII. -/
def readableLabel (label : Text) : Except NameError Text := do
  let label := Text.lower label
  match Text.after? asciiMarker label with
  | none =>
    checkLabel (label.map Char.toNat)
    return label
  | some encoded =>
    if encoded.isEmpty then throw .nothingEncoded
    if encoded.getLast? == some '-' then throw .lastHyphen
    match Punycode.decode? encoded with
    | none => throw .unreadable
    | some decoded =>
      if Punycode.encode decoded != encoded then throw .notCanonical
      checkLabel decoded
      return decoded.filterMap Text.charOf?

/-- The ASCII form of a label. -/
def asciiLabel (label : Text) : Except NameError Text := do
  let form ←
    if Text.isAscii label then do
      let _ ← readableLabel label
      pure label
    else do
      let codes := label.map Char.toNat
      checkLabel codes
      pure (asciiMarker ++ Punycode.encode codes)
  if maxLabelLength < form.length then throw .labelTooLong
  return form

/-! ### Names -/

/-- Whether a character divides the labels of a name. -/
def isLabelDot (c : Char) : Bool :=
  c == '.' || c.toNat == 0x3002 || c.toNat == 0xFF0E || c.toNat == 0xFF61

/-- The labels of a name; one that is empty at the end stands for the root. -/
def labels (name : Text) : List Text :=
  Text.splitOnChar '.' (name.map fun c => if isLabelDot c then '.' else c)

/-- Changes every label of a name but the empty one at its end. -/
def mapLabels (change : Text → Except NameError Text) (name : Text) : Except NameError Text := do
  if maxNameLength + 1 < name.length then throw .nameTooLong
  let parts := labels name
  if parts == [[]] then throw .emptyName
  let isRooted := parts.getLast? == some []
  let changed ← (if isRooted then parts.dropLast else parts).mapM change
  return Text.joinWith ['.'] (if isRooted then changed ++ [[]] else changed)

/-- The ASCII form of a name in lower case. -/
def asciiName (name : Text) : Except NameError Text := do
  let form ← mapLabels asciiLabel name
  let limit := if form.getLast? == some '.' then maxNameLength + 1 else maxNameLength
  if limit < form.length then throw .nameTooLong
  return form

/-- The name that a name in ASCII stands for. -/
def readableName (name : Text) : Except NameError Text :=
  mapLabels readableLabel name

end Url
end CondCss
