import ServiceAnnotations.Text.Quoted

/-! # Tokens of the annotation language, and what can be wrong with one -/
namespace ServiceAnnotations.Mark
open Text

/-- The forms of a numeral. A numeral with a leading zero is octal unless it has a fraction or an
exponent. -/
inductive Radix | decimal | leadingZero | octal | hexadecimal | binary
  deriving DecidableEq, Repr

namespace Radix

def base : Radix → Nat
  | decimal => 10
  | leadingZero | octal => 8
  | hexadecimal => 16
  | binary => 2

def describe : Radix → String
  | decimal => "decimal literal"
  | leadingZero | octal => "octal literal"
  | hexadecimal => "hexadecimal literal"
  | binary => "binary literal"

end Radix

/-- Why a text cannot be divided into tokens. -/
inductive LexError
  | invalidEncoding
  | nulCharacter
  | notTerminated
  | badEscape
  | badCharacter
  | noDigits (radix : Radix)
  | noExponentDigits
  | badSeparator
  | badDigit (digit : Char) (radix : Radix)
  | badRadixPoint (radix : Radix)
  | needsDecimal (exponent : Char)
  | needsHexadecimal (exponent : Char)
  | needsExponent
  | unsupported (literal : List Char)
  deriving DecidableEq, Repr

def LexError.message : LexError → String
  | invalidEncoding => "invalid UTF-8 encoding"
  | nulCharacter => "invalid character NUL"
  | notTerminated => "literal not terminated"
  | badEscape => "invalid char escape"
  | badCharacter => "invalid char literal"
  | noDigits radix => radix.describe ++ " has no digits"
  | noExponentDigits => "exponent has no digits"
  | badSeparator => "'_' must separate successive digits"
  | badDigit digit radix => "invalid digit " ++ Quoted.char digit ++ " in " ++ radix.describe
  | badRadixPoint radix => "invalid radix point in " ++ radix.describe
  | needsDecimal e => Quoted.char e ++ " exponent requires decimal mantissa"
  | needsHexadecimal e => Quoted.char e ++ " exponent requires hexadecimal mantissa"
  | needsExponent => "hexadecimal mantissa requires a 'p' exponent"
  | unsupported literal => "unsupported literal " ++ String.ofList literal

/-- A token. A quoted text whose escapes name no character has no value. -/
inductive Token
  | word (name : String)
  | text (value : Option Bytes)
  | rawText (value : Bytes)
  | int (value : Nat)
  | yes
  | no
  | endOfLine
  | endOfInput
  | rune (c : Char)
  deriving DecidableEq, Repr

def Token.describe : Token → String
  | word _ => "identifier"
  | text _ => "string literal"
  | rawText _ => "raw string literal"
  | int _ => "int literal"
  | yes => "\"true\""
  | no => "\"false\""
  | endOfLine => "end-of-line"
  | endOfInput => "end of input"
  | rune c => Quoted.char c

def Token.continues : Token → Bool
  | rune c => c ∈ [',', '.', '\x7b', '(', ':', '-']
  | _ => false

end ServiceAnnotations.Mark
