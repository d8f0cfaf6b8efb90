import ServiceAnnotations.Numeric.Rounding

/-! # Shortest decimal texts

The text of a binary number has as few digits as are needed to tell it from its neighbours of the same
precision. -/
namespace ServiceAnnotations.Numeric

/-- Decimal digits behind a point, without zeros at the end, times a power of ten. -/
structure Digits where
  digits : List Nat
  exponent : Int
  deriving DecidableEq, Repr

namespace Digits

def ofNat (n : Nat) : List Nat := (toString n).toList.map fun c => c.toNat - 0x30

def trimmed (digits : List Nat) : List Nat := (digits.reverse.dropWhile (· == 0)).reverse

/-- The exact digits of `mantissa * 2 ^ exponent`. -/
def exact (mantissa : Nat) (exponent : Int) : Digits :=
  if mantissa = 0 then ⟨[], 0⟩
  else if 0 ≤ exponent then
    let digits := ofNat (mantissa * twoTo exponent.toNat)
    ⟨trimmed digits, digits.length⟩
  else
    let places := (-exponent).toNat
    let digits := ofNat (mantissa * Nat.pow 5 places)
    ⟨trimmed digits, (digits.length : Int) - places⟩

/-- A digit; digits behind the last one are zero. -/
def digit (d : Digits) (i : Nat) : Nat := d.digits.getD i 0

/-- The first `n` digits. -/
def roundDown (d : Digits) (n : Nat) : Digits := ⟨trimmed (d.digits.take n), d.exponent⟩

/-- The first `n` digits, of which the last is one more than it was; nines at the end are carried. -/
def roundUp (d : Digits) (n : Nat) : Digits :=
  match (d.digits.take n).reverse.dropWhile (· == 9) with
  | [] => ⟨[1], d.exponent + 1⟩
  | last :: before => ⟨((last + 1) :: before).reverse, d.exponent⟩

/-- The nearer one of the two, and from halfway the one that ends with an even digit. -/
def round (d : Digits) (n : Nat) : Digits :=
  let isHalf := d.digit n = 5 && n + 1 = d.digits.length
  let isUp := if isHalf then 0 < n && d.digit (n - 1) % 2 = 1 else 5 ≤ d.digit n
  if isUp then d.roundUp n else d.roundDown n

/-- Cuts digits off where they tell the number from the bounds around it. The bounds themselves belong to
the number if `inclusive`. -/
def shorten (d lower upper : Digits) (inclusive : Bool) : (i : Nat) → List Nat → Digits
  | _, [] => d
  | i, m :: rest =>
    let u := upper.digit i
    let okDown := lower.digit i ≠ m || (inclusive && i + 1 = lower.digits.length)
    let okUp := m ≠ u && (inclusive || m + 1 < u || i + 1 < upper.digits.length)
    if i + 1 = d.digits.length then d
    else if okDown && okUp then d.round (i + 1)
    else if okDown then d.roundDown (i + 1)
    else if okUp then d.roundUp (i + 1)
    else shorten d lower upper inclusive (i + 1) rest

def shortest (precision : Nat) (q : Rat) : Digits :=
  let x := Binary.round precision none q
  let bound (m : Nat) : Digits := exact m (x.exponent - 1)
  let d := exact x.mantissa x.exponent
  shorten d (bound (2 * x.mantissa - 1)) (bound (2 * x.mantissa + 1)) (x.mantissa % 2 = 0) 0 d.digits

def text (d : Digits) : String :=
  let char (n : Nat) : Char := Char.ofNat (0x30 + n)
  let whole := d.exponent.toNat
  let front := if whole = 0 then ['0'] else (List.range whole).map fun i => char (d.digit i)
  let lead := (-d.exponent).toNat
  let fraction := List.replicate (if d.digits.isEmpty then 0 else lead) '0' ++ (d.digits.drop whole).map char
  String.ofList (front ++ if fraction.isEmpty then [] else '.' :: fraction)

end Digits

end ServiceAnnotations.Numeric
