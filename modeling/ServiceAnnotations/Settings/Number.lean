import ServiceAnnotations.Numeric.Shortest

/-! # Numbers of settings files

Numbers are binary floating-point numbers of 512 digits with two infinities. Zero has a sign. -/
namespace ServiceAnnotations.Settings
open Numeric

/-- A number: its sign, its size and its precision. An infinite number has no size. -/
structure Number where
  isNegative : Bool
  size : Option Rat
  precision : Nat
  deriving DecidableEq, Repr

namespace Number

def fullPrecision : Nat := 512

/-- A rational number rounded to a precision. Zero is positive. -/
def ofRat (precision : Nat) (q : Rat) : Number :=
  let rounded := roundTo precision q
  ⟨decide (rounded.num < 0), some (mkRat rounded.num.natAbs rounded.den), precision⟩

def ofIndex (n : Nat) : Number := ⟨false, some (mkRat n 1), 64⟩

def infinite (isNegative : Bool) (precision : Nat) : Number := ⟨isNegative, none, precision⟩

def toRat? (x : Number) : Option Rat := x.size.map fun q => if x.isNegative then Rat.neg q else q

def isZero (x : Number) : Bool := x.size.any (·.num = 0)

def withSign (x : Number) (isNegative : Bool) : Number := { x with isNegative }

def negate (x : Number) : Number := { x with isNegative := !x.isNegative }

/-- The sum; none for infinities of different sign. A sum of two zeros is negative only if both are. -/
def add? (x y : Number) : Option Number :=
  let precision := max x.precision y.precision
  match x.toRat?, y.toRat? with
  | some a, some b =>
    let sum := ofRat precision (Rat.add a b)
    some (if x.isZero && y.isZero then sum.withSign (x.isNegative && y.isNegative) else sum)
  | none, none =>
    if x.isNegative = y.isNegative then some (infinite x.isNegative precision) else none
  | none, some _ => some (infinite x.isNegative precision)
  | some _, none => some (infinite y.isNegative precision)

/-- How many binary digits a number has, zeros at either end left out. -/
def digitCount (q : Rat) : Nat :=
  let n := q.num.natAbs
  let zeros := (List.range (n.log2 + 1)).takeWhile fun i => n % Nat.pow 2 (i + 1) = 0
  if n = 0 then 0 else n.log2 + 1 - zeros.length

/-- The product; none for zero and infinity. It is as precise as it has digits. -/
def mul? (x y : Number) : Option Number :=
  let precision := max x.precision y.precision
  let isNegative := x.isNegative != y.isNegative
  match x.toRat?, y.toRat? with
  | some a, some b =>
    let product := (ofRat fullPrecision (Rat.mul a b)).withSign isNegative
    let least := if precision < fullPrecision then (product.size.map digitCount).getD 0 else 0
    some { product with precision := max precision least }
  | _, _ => if x.isZero || y.isZero then none else some (infinite isNegative precision)

/-- The quotient; none for two zeros or two infinities. -/
def div? (x y : Number) : Option Number :=
  let precision := max x.precision y.precision
  let isNegative := x.isNegative != y.isNegative
  match x.toRat?, y.toRat? with
  | some a, some b =>
    if b.num = 0 then if a.num = 0 then none else some (infinite isNegative precision)
    else some ((ofRat precision (Rat.mul a b.inv)).withSign isNegative)
  | none, none => none
  | none, some _ => some (infinite isNegative precision)
  | some _, none => some ⟨isNegative, some (mkRat 0 1), precision⟩

def whole (x : Number) : Number :=
  match x.size with
  | some q => ofRat x.precision (mkRat (if x.isNegative then -q.floor else q.floor) 1)
  | none => x

/-- What is left of a number after a whole number of times another is taken away. Of zero, nothing is
taken away. -/
def mod? (x y : Number) : Option Number :=
  if x.size.isNone || y.size.isNone then x.mul? y
  else if y.isZero then some x
  else do
    let times := (← x.div? y).whole
    x.add? (← y.mul? times).negate

def less (x y : Number) : Bool :=
  match x.toRat?, y.toRat? with
  | some a, some b => Rat.blt a b
  | none, some _ => x.isNegative
  | some _, none => !y.isNegative
  | none, none => x.isNegative && !y.isNegative

/-- Whether two numbers are equal; both zeros are. -/
def same (x y : Number) : Bool := !x.less y && !y.less x

def nat? (x : Number) : Option Nat :=
  match x.toRat? with
  | some q => if isWhole q && 0 ≤ q.num then some q.num.toNat else none
  | none => none

def text (x : Number) : String :=
  match x.size with
  | none => if x.isNegative then "-Inf" else "+Inf"
  | some q => (if x.isNegative then "-" else "") ++ (Digits.shortest x.precision q).text

def digits? : List Char → Option Nat
  | [] => none
  | cs =>
    if cs.all Char.isDigit then some (cs.foldl (fun n c => n * 10 + (c.toNat - 0x30)) 0) else none

/-- The value of an exponent, perhaps with a sign. It takes at most 64 binary digits. -/
def exponent? (cs : List Char) : Option Int := do
  let n ← match cs with
    | '+' :: cs => (digits? cs).map fun n => (n : Int)
    | '-' :: cs => (digits? cs).map fun n => -(n : Int)
    | cs => (digits? cs).map fun n => (n : Int)
  if -0x8000000000000000 ≤ n && n ≤ 0x7fffffffffffffff then some n else none

def power (base : Nat) (exponent : Int) : Rat :=
  if 0 ≤ exponent then mkRat (Nat.pow base exponent.toNat) 1
  else mkRat 1 (Nat.pow base (-exponent).toNat)

/-- A number above zero as it is written: digits, of which some stand behind the point, and an exponent of
ten or of two. -/
structure Written where
  mantissa : Nat
  fraction : Nat
  base : Nat
  exponent : Int

/-- Binary exponents have 32 digits: beyond them, numbers are infinite or zero. In powers of ten, this is
the greatest exponent. -/
def lastDecimal : Int := 646456993

/-- The number that is written, unless its exponent is out of bounds. -/
def Written.value? (w : Written) : Option Number :=
  let digits := (Nat.toDigits 10 w.mantissa).length
  let shift := w.exponent - w.fraction
  let top := shift + (w.mantissa.log2 + 1)
  if w.mantissa = 0 then some (ofRat fullPrecision (mkRat 0 1))
  else if top < -0x80000000 || 0x7fffffff < top then none
  else if w.base = 10 && lastDecimal + 1 < shift + digits then some (infinite false fullPrecision)
  else if w.base = 10 && shift + digits < -lastDecimal then some (ofRat fullPrecision (mkRat 0 1))
  else some (ofRat fullPrecision
    (Rat.mul (mkRat w.mantissa (Nat.pow 10 w.fraction)) (power w.base w.exponent)))

/-- Reads digits with a point and an exponent, which is one of ten or, behind `p`, of two. -/
def written? (cs : List Char) : Option Written := do
  let digits := cs.takeWhile fun c => c.isDigit || c = '.'
  let whole := digits.takeWhile (· != '.')
  let fraction := (digits.drop whole.length).drop 1
  let mantissa ← digits? (whole ++ fraction)
  match cs.drop digits.length with
  | [] => return ⟨mantissa, fraction.length, 10, 0⟩
  | mark :: rest =>
    let base ← if mark.toLower = 'e' then some 10 else if mark.toLower = 'p' then some 2 else none
    return ⟨mantissa, fraction.length, base, ← exponent? rest⟩

def read? (cs : List Char) : Option Number :=
  let (isNegative, rest) := match cs with
    | '-' :: rest => (true, rest)
    | '+' :: rest => (false, rest)
    | rest => (false, rest)
  if rest = "Inf".toList || rest = "inf".toList then some (infinite isNegative fullPrecision)
  else ((written? rest).bind Written.value?).map (·.withSign isNegative)

end Number
end ServiceAnnotations.Settings
