/-!
# Rounding to binary

Lengths are rounded to the nearest number of the form `m * 2 ^ e` with `m < 2 ^ 53` and
`-1074 ≤ e`, an exact half going to the even `m`. Numbers from `2 ^ 1024` on count as infinite.
-/

namespace CondCss
namespace Media

/-- The quotient of `n` by `d`, rounded to the nearest number; an exact half goes to the even
    one. -/
def roundQuotient (n d : Nat) : Nat :=
  let q := n / d
  let r := n % d
  if 2 * r < d then q else if d < 2 * r then q + 1 else q + q % 2

/-- A power of two. -/
def twoPow (e : Nat) : Nat :=
  Nat.pow 2 e

/-- A number that is not negative: `num / den`, or one beyond all bounds. -/
inductive Magnitude where
  | finite (num den : Nat)
  | infinite
  deriving DecidableEq, Repr

namespace Magnitude

/-- The number `m * 2 ^ e`, unless it is too large. -/
def ofBinary (m : Nat) (e : Int) : Magnitude :=
  match e with
  | .ofNat e => if m * twoPow e < twoPow 1024 then finite (m * twoPow e) 1 else infinite
  | .negSucc e => finite m (twoPow (e + 1))

/-- The quotient of `n` by `d * 2 ^ e`, rounded. -/
def roundScaled (n d : Nat) (e : Int) : Nat :=
  match e with
  | .ofNat e => roundQuotient n (d * twoPow e)
  | .negSucc e => roundQuotient (n * twoPow (e + 1)) d

/-- Whether `n / d` has at most 53 binary digits at the exponent `e`. -/
def fits (n d : Nat) (e : Int) : Bool :=
  match e with
  | .ofNat e => n < d * twoPow e * twoPow 53
  | .negSucc e => n * twoPow (e + 1) < d * twoPow 53

/-- The least exponent. -/
def leastExponent : Int := -1074

/-- The exponent at which `n / d` has 53 binary digits, but no less than the least exponent. -/
def exponent (n d : Nat) : Int :=
  let e : Int := (n.log2 : Int) - d.log2 - 53
  let e := if fits n d e then e else e + 1
  if e < leastExponent then leastExponent else e

/-- The number nearest to `n / d`. -/
def nearest (n d : Nat) : Magnitude :=
  if n = 0 then finite 0 1
  else
    let e := exponent n d
    ofBinary (roundScaled n d e) e

/-- Sixteen times a number. -/
def sixteenfold : Magnitude → Magnitude
  | finite num den => if 16 * num < den * twoPow 1024 then finite (16 * num) den else infinite
  | infinite => infinite

end Magnitude
end Media
end CondCss
