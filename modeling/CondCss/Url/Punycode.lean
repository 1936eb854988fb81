import CondCss.Text.Basic
import CondCss.Text.Range

/-!
# Punycode

A label with characters beyond ASCII is written in ASCII: its ASCII characters, a hyphen if there
are any, and numbers that tell where the other characters are inserted, by increasing code point.
Each number is written in digits of base 36, the lowest place first; the threshold of a place tells
which digits end the number, and depends on a bias that follows the size of the numbers.
-/

namespace CondCss
namespace Url
namespace Punycode

open Text (CodePoint)

/-- The digit for a value below 36: letters first. -/
def digit (d : Nat) : Char :=
  if d < 26 then Char.ofNat ('a'.toNat + d) else Char.ofNat ('0'.toNat + d - 26)

/-- The value of a digit. -/
def digitValue? (c : Char) : Option Nat :=
  if 'a' ≤ c && c ≤ 'z' then some (c.toNat - 'a'.toNat)
  else if '0' ≤ c && c ≤ '9' then some (c.toNat - '0'.toNat + 26)
  else none

/-- The threshold at place `k`: digits below it end the number. -/
def threshold (bias k : Nat) : Nat :=
  if k ≤ bias then 1 else if bias + 26 ≤ k then 26 else k - bias

/-- Divides until little is left; `fuel` bounds the divisions. -/
def shrink : (fuel delta k : Nat) → Nat
  | 0, _, k => k
  | fuel + 1, delta, k =>
    if 455 < delta then shrink fuel (delta / 35) (k + 36) else k + 36 * delta / (delta + 38)

/-- The bias after the number `delta`, when the label has `size` characters. The first number of a
    label is damped. -/
def adapt (delta : Nat) (isFirst : Bool) (size : Nat) : Nat :=
  let scaled := if isFirst then delta / 700 else delta / 2
  shrink (scaled.log2 + 1) (scaled + scaled / size) 0

/-- The bias at the start. -/
def initialBias : Nat := 72

/-- The least code point that is inserted. -/
def firstCode : CodePoint := 0x80

/-! ### Writing -/

/-- A number in digits; `fuel` bounds their count. -/
def number (bias : Nat) : (fuel k q : Nat) → Text
  | 0, _, _ => []
  | fuel + 1, k, q =>
    let t := threshold bias k
    if q < t then [digit q]
    else digit (t + (q - t) % (36 - t)) :: number bias fuel (k + 36) ((q - t) / (36 - t))

/-- What is kept while a label is written. -/
structure Writer where
  /-- The digits so far. -/
  out : Text := []
  /-- The distance to the next insertion. -/
  delta : Nat := 0
  /-- The bias of the next number. -/
  bias : Nat := initialBias
  /-- How many characters have been handled. -/
  handled : Nat

/-- Handles one character of the label while those with code point `m` are inserted. -/
def Writer.step (basic : Nat) (m : CodePoint) (w : Writer) (c : CodePoint) : Writer :=
  if c < m then { w with delta := w.delta + 1 }
  else if c == m then
    { out := w.out ++ number w.bias (w.delta + 1) 36 w.delta
      delta := 0
      bias := adapt w.delta (w.handled == basic) (w.handled + 1)
      handled := w.handled + 1 }
  else w

/-- Inserts the characters of a label from the code point `n` on; `fuel` bounds how many code points
    there are. -/
def insertFrom (label : List CodePoint) (basic : Nat) : (fuel n : Nat) → Writer → Text
  | 0, _, w => w.out
  | fuel + 1, n, w =>
    match (label.filter (n ≤ ·)).min? with
    | none => w.out
    | some m =>
      let w := { w with delta := w.delta + (m - n) * (w.handled + 1) }
      let w := label.foldl (Writer.step basic m) w
      insertFrom label basic fuel (m + 1) { w with delta := w.delta + 1 }

/-- Writes a label in ASCII. -/
def encode (label : List CodePoint) : Text :=
  let basic := (label.filter (· < firstCode)).map Char.ofNat
  basic ++ (if basic.isEmpty then [] else ['-']) ++
    insertFrom label basic.length label.length firstCode { handled := basic.length }

/-! ### Reading -/

/-- What is kept while a label is read. -/
structure Reader where
  /-- The label so far. -/
  label : List CodePoint
  /-- The code point of the last insertion. -/
  code : CodePoint := firstCode
  /-- The position after the last insertion. -/
  position : Nat := 0
  /-- The bias of the number that is read. -/
  bias : Nat := initialBias
  /-- The place of the next digit. -/
  place : Nat := 36
  /-- The weight of the next digit. -/
  weight : Nat := 1
  /-- The number as far as it has been read. -/
  delta : Nat := 0
  /-- Whether no number has been read yet. -/
  isFirst : Bool := true

/-- The greatest code point. -/
def lastCode : CodePoint := 0x10FFFF

/-- Inserts the next character, when its number has been read. -/
def Reader.insert (r : Reader) (delta : Nat) : Option Reader :=
  let size := r.label.length + 1
  let code := r.code + (r.position + delta) / size
  let position := (r.position + delta) % size
  if code ≤ lastCode then
    some
      { label := r.label.take position ++ [code] ++ r.label.drop position
        code
        position := position + 1
        bias := adapt delta r.isFirst size
        isFirst := false }
  else none

/-- Reads one digit. -/
def Reader.step (r : Reader) (c : Char) : Option Reader := do
  let d ← digitValue? c
  let delta := r.delta + d * r.weight
  let t := threshold r.bias r.place
  if d < t then r.insert delta
  else return { r with delta, weight := r.weight * (36 - t), place := r.place + 36 }

/-- Splits at the last hyphen, if there is one. -/
def splitBasic (s : Text) : Text × Text :=
  match Text.cutAt? '-' s.reverse with
  | some (digits, basic) => (basic.reverse, digits.reverse)
  | none => ([], s)

/-- Reads a label that is written in ASCII. -/
def decode? (s : Text) : Option (List CodePoint) := do
  let (basic, digits) := splitBasic s
  let r ← digits.foldlM Reader.step { label := basic.map Char.toNat }
  if r.weight == 1 then return r.label else none

end Punycode
end Url
end CondCss
