import ServiceAnnotations.Mark.Literal
import ServiceAnnotations.Numeric.Rounding
import ServiceAnnotations.Types.Basic

/-! # Constants

Numbers are exact. Only a constant of a floating-point type is rounded, to the precision of its type. A
constant may lack a type and have only a kind; the kinds of numbers are ordered, and an operation on two
such constants has the later kind of the two. -/
namespace ServiceAnnotations.Types
open Text Numeric

inductive ConstValue
  | bool (b : Bool)
  | text (b : Bytes)
  /-- A complex number. -/
  | number (re im : Rat)
  deriving DecidableEq, Repr

inductive ConstKind | bool | text | int | rune | float | complex
  deriving DecidableEq, Repr

inductive ConstType
  | typed (t : Ty)
  | untyped (kind : ConstKind)
  deriving DecidableEq, Repr

namespace ConstKind

def rank : ConstKind → Nat
  | bool | text | int => 0
  | rune => 1
  | float => 2
  | complex => 3

def join (a b : ConstKind) : ConstKind := if a.rank < b.rank then b else a

def basic : ConstKind → Basic
  | bool => .bool
  | text => .string
  | int => .int
  | rune => .int32
  | float => .float64
  | complex => .complex128

def isInteger : ConstKind → Bool
  | int | rune => true
  | _ => false

end ConstKind

namespace ConstType

def type : ConstType → Ty
  | typed t => t
  | untyped kind => .basic kind.basic

end ConstType

/-- The number that digits of a base spell, the last `places` of them behind the point. -/
def scaledDigits (base : Nat) (whole fraction : List Char) : Rat :=
  mkRat (Mark.Literal.natOfDigits base (whole ++ fraction))
    (Nat.pow base (fraction.filter (· != '_')).length)

def scaleByPower (base : Nat) (q : Rat) (exponent : Int) : Rat :=
  if 0 ≤ exponent then Rat.mul q (mkRat (Nat.pow base exponent.toNat) 1)
  else Rat.mul q (mkRat 1 (Nat.pow base (-exponent).toNat))

def exponentValue : List Char → Int
  | '-' :: cs => -(Mark.Literal.natOfDigits 10 cs : Int)
  | cs => Mark.Literal.natOfDigits 10 cs

/-- The value of a numeral that is not imaginary, and whether it is whole by its form. -/
def realLiteral (cs : List Char) : Rat × Bool :=
  let (isHex, digits) := match cs with
    | '0' :: c :: rest => if c.toLower = 'x' then (true, rest) else (false, cs)
    | _ => (false, cs)
  let isMark (c : Char) : Bool := c.toLower = (if isHex then 'p' else 'e')
  if digits.any fun c => c = '.' || isMark c then
    let mantissa := digits.takeWhile (!isMark ·)
    let exponent := exponentValue (digits.drop (mantissa.length + 1))
    let whole := mantissa.takeWhile (· != '.')
    let fraction := mantissa.drop (whole.length + 1)
    let base : Nat := if isHex then 16 else 10
    (scaleByPower (if isHex then 2 else 10) (scaledDigits base whole fraction) exponent, false)
  else (mkRat (Mark.Literal.nat cs) 1, true)

/-- Kind and value of a numeral. Digits of an imaginary number are decimal unless the base is marked. -/
def numberLiteral (cs : List Char) : ConstKind × ConstValue :=
  if cs.getLast? = some 'i' then
    let cs := cs.dropLast
    let im := if cs.all fun c => c.isDigit || c = '_' then mkRat (Mark.Literal.natOfDigits 10 cs) 1
      else (realLiteral cs).1
    (.complex, .number 0 im)
  else
    let (value, isInt) := realLiteral cs
    (if isInt then .int else .float, .number value 0)

/-- The code point of a character literal; the escape of a byte stands for the byte. -/
def charLiteral (cs : List Char) : ConstValue :=
  let code : Nat := match (Mark.Literal.quoted cs).getD [] with
    | [b] => b.toNat
    | bytes => match Utf8.glyphs bytes with
      | .char c :: _ => c.toNat
      | _ => 0
  .number (mkRat code 1) 0

def textLiteral (cs : List Char) : Bytes :=
  match cs with
  | '"' :: _ => (Mark.Literal.quoted cs).getD []
  | _ => Mark.Literal.raw cs

namespace ConstValue

def ofInt (n : Int) : ConstValue := number (mkRat n 1) 0

def int? : ConstValue → Option Int
  | number re im => if isWhole re && im.num = 0 then some re.num else none
  | _ => none

/-- The text made of one character; a number that is no code point gives the replacement character. -/
def charText (n : Int) : Bytes :=
  let c := if 0 ≤ n then (Mark.Literal.charOf? n.toNat).getD '\ufffd' else '\ufffd'
  String.utf8EncodeChar c

/-- A value in a type. Numbers lose what the precision of a floating-point type does not hold, and become
characters where a text is wanted. -/
def convert (b : Basic) : ConstValue → ConstValue
  | number re im => match b with
    | .float32 | .complex64 => number (roundSingle re) (roundSingle im)
    | .float64 | .complex128 => number (roundDouble re) (roundDouble im)
    | .string => text (charText re.num)
    | _ => number re im
  | value => value

/-- An operation on the bits of two numbers, where negative numbers have ones in front. -/
def bitwise (op : (w : Nat) → BitVec w → BitVec w → BitVec w) (a b : Int) : Int :=
  let w := max a.natAbs.log2 b.natAbs.log2 + 2
  (op w (BitVec.ofInt w a) (BitVec.ofInt w b)).toInt

/-- An operation on whole numbers. Division drops the remainder. -/
def intOperation? (op : String) (a b : Int) : Option Int :=
  match op with
  | "+" => some (a + b)
  | "-" => some (a - b)
  | "*" => some (a * b)
  | "/" => if b = 0 then none else some (Int.tdiv a b)
  | "%" => if b = 0 then none else some (Int.tmod a b)
  | "<<" => some (Int.shiftLeft a b.toNat)
  | ">>" => some (Int.shiftRight a b.toNat)
  | "&" => some (bitwise (fun _ => BitVec.and) a b)
  | "|" => some (bitwise (fun _ => BitVec.or) a b)
  | "^" => some (bitwise (fun _ => BitVec.xor) a b)
  | "&^" => some (bitwise (fun _ x y => BitVec.and x (BitVec.not y)) a b)
  | _ => none

def mul (a b c d : Rat) : ConstValue :=
  number (Rat.sub (Rat.mul a c) (Rat.mul b d)) (Rat.add (Rat.mul a d) (Rat.mul b c))

def numberOperation? (op : String) (a b c d : Rat) : Option ConstValue :=
  match op with
  | "+" => some (number (Rat.add a c) (Rat.add b d))
  | "-" => some (number (Rat.sub a c) (Rat.sub b d))
  | "*" => some (mul a b c d)
  | "/" =>
    let size := Rat.add (Rat.mul c c) (Rat.mul d d)
    if size.num = 0 then none
    else some (mul a b (Rat.mul c size.inv) (Rat.neg (Rat.mul d size.inv)))
  | _ => none

/-- An operation with two operands. If `asInts`, division is that of whole numbers. -/
def binary? (op : String) (asInts : Bool) : ConstValue → ConstValue → Option ConstValue
  | bool a, bool b => match op with
    | "&&" => some (bool (a && b))
    | "||" => some (bool (a || b))
    | _ => none
  | text a, text b => if op = "+" then some (text (a ++ b)) else none
  | number a b, number c d =>
    if asInts then (intOperation? op a.num c.num).map ofInt else numberOperation? op a b c d
  | _, _ => none

def comparison? (op : String) (less equal : Bool) : Option Bool :=
  match op with
  | "==" => some equal
  | "!=" => some !equal
  | "<" => some less
  | "<=" => some (less || equal)
  | ">" => some !(less || equal)
  | ">=" => some !less
  | _ => none

def compare? (op : String) : ConstValue → ConstValue → Option Bool
  | number a b, number c d => comparison? op (Rat.blt a c) (decide (a = c) && decide (b = d))
  | text a, text b => comparison? op (decide (a < b)) (decide (a = b))
  | a, b => comparison? op false (decide (a = b))

/-- All bits of a number inverted. In an unsigned type of some width, there are only that many bits. -/
def complement (width : Option Nat) (n : Int) : Int :=
  match width with
  | some w => (twoTo w : Int) - 1 - n
  | none => -n - 1

/-- The value of an operation with one operand, in an unsigned type of some width or elsewhere. -/
def unary? (op : String) (width : Option Nat) : ConstValue → Option ConstValue
  | bool b => if op = "!" then some (bool !b) else none
  | number re im => match op with
    | "+" => some (number re im)
    | "-" => some (number (Rat.neg re) (Rat.neg im))
    | "^" => some (ofInt (complement width re.num))
    | _ => none
  | text _ => none

end ConstValue

end ServiceAnnotations.Types
