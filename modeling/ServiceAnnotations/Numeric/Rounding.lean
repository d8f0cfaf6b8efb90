/-! # Rounding to binary floating point

A number is rounded to the nearest one that has a given number of binary digits; of two that are equally
near, to the one whose last digit is zero. -/
namespace ServiceAnnotations.Numeric

/-- `n / d` as a whole number, to the nearest one and from halfway to the even one. -/
def roundDiv (n d : Nat) : Nat :=
  let q := n / d
  let r := n % d
  if 2 * r < d then q
  else if d < 2 * r then q + 1
  else if q % 2 = 0 then q else q + 1

def twoTo (n : Nat) : Nat := Nat.pow 2 n

/-- `n / d` in units of `2 ^ exponent`, as a quotient of natural numbers. -/
def inUnits (n d : Nat) (exponent : Int) : Nat × Nat :=
  if 0 ≤ exponent then (n, d * twoTo exponent.toNat) else (n * twoTo (-exponent).toNat, d)

/-- The unit in which `n / d` has the given number of binary digits before the point. -/
def unitExponent (digits n d : Nat) : Int :=
  let e : Int := (n.log2 : Int) - (d.log2 : Int) - (digits : Int) + 1
  let (a, b) := inUnits n d e
  if a / b < twoTo (digits - 1) then e - 1 else e

/-- A number of the form `mantissa * 2 ^ exponent`. -/
structure Binary where
  isNegative : Bool
  mantissa : Nat
  exponent : Int
  deriving DecidableEq, Repr

/-- A rational number with a given number of binary digits. Units smaller than `least` are not used. -/
def Binary.round (digits : Nat) (least : Option Int) (q : Rat) : Binary :=
  let n := q.num.natAbs
  let unit := unitExponent digits n q.den
  let unit := match least with
    | some e => max e unit
    | none => unit
  let (a, b) := inUnits n q.den unit
  ⟨decide (q.num < 0), roundDiv a b, unit⟩

def Binary.toRat (x : Binary) : Rat :=
  let sign : Int := if x.isNegative then -1 else 1
  if 0 ≤ x.exponent then mkRat (sign * (x.mantissa * twoTo x.exponent.toNat : Nat)) 1
  else mkRat (sign * (x.mantissa : Nat)) (twoTo (-x.exponent).toNat)

def roundTo (digits : Nat) (q : Rat) : Rat := (Binary.round digits none q).toRat

def roundSingle (q : Rat) : Rat := (Binary.round 24 (some (-149)) q).toRat

def roundDouble (q : Rat) : Rat := (Binary.round 53 (some (-1074)) q).toRat

def isWhole (q : Rat) : Bool := q.den = 1

end ServiceAnnotations.Numeric
