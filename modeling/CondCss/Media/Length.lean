import CondCss.Media.Rounding
import CondCss.Text.Basic
import CondCss.Text.DecimalDigit

/-!
# Lengths

A length is a decimal number, perhaps with a unit: pixels, or multiples of the font size, which is
sixteen pixels. Digits of every script count.
-/

namespace CondCss
namespace Media

/-- A length in pixels. -/
structure Length where
  /-- Whether the number was written with a minus sign. -/
  negative : Bool
  /-- The number without its sign. -/
  size : Magnitude
  deriving DecidableEq, Repr

namespace Length

/-- Splits off the decimal digits at the front, as values. -/
def cutDigits : Text → List Nat × Text
  | [] => ([], [])
  | c :: rest =>
    match Text.digitValue? c with
    | some d => let (digits, tail) := cutDigits rest; (d :: digits, tail)
    | none => ([], c :: rest)

/-- The number that decimal digits stand for. -/
def ofDigits (digits : List Nat) : Nat :=
  digits.foldl (fun n d => 10 * n + d) 0

/-- Digits after a point, and what follows them; without both there is no fraction. -/
def cutFraction : Text → List Nat × Text
  | '.' :: rest =>
    match cutDigits rest with
    | ([], _) => ([], '.' :: rest)
    | (digits, tail) => (digits, tail)
  | s => ([], s)

/-- The factor of a unit, as a function on sizes. -/
def unit? : Text → Option (Magnitude → Magnitude)
  | [] | ['p', 'x'] => some id
  | ['e', 'm'] | ['r', 'e', 'm'] => some Magnitude.sixteenfold
  | _ => none

/-- Reads a length without its sign. -/
def readSize? (s : Text) : Option Magnitude :=
  match cutDigits s with
  | ([], _) => none
  | (whole, tail) =>
    let (fraction, unit) := cutFraction tail
    (unit? unit).map fun scale =>
      scale (Magnitude.nearest (ofDigits (whole ++ fraction)) (Nat.pow 10 fraction.length))

/-- Reads a length. -/
def read? : Text → Option Length
  | '-' :: rest => (readSize? rest).map (⟨true, ·⟩)
  | s => (readSize? s).map (⟨false, ·⟩)

/-- How a whole number of pixels compares with a length. -/
def compareTo (pixels : Int) (l : Length) : Ordering :=
  match l.size with
  | .infinite => if l.negative then .gt else .lt
  | .finite num den => compare (pixels * den) (if l.negative then -num else num : Int)

end Length
end Media
end CondCss
