import ServiceAnnotations.Text.Printable
import ServiceAnnotations.Text.Utf8

/-! # Quoted characters and texts

Printable characters stand for themselves; the quote, the backslash and everything else are escaped. -/
namespace ServiceAnnotations.Text.Quoted

def hexDigit (n : Nat) : Char := if n < 10 then Char.ofNat (0x30 + n) else Char.ofNat (0x61 + n - 10)

/-- The last `width` hexadecimal digits of a number. -/
def hex : (width : Nat) → Nat → List Char
  | 0, _ => []
  | width + 1, n => hex width (n / 16) ++ [hexDigit (n % 16)]

/-- The escape of a character without a letter of its own. -/
def numeric (c : Char) : List Char :=
  if c.toNat < 0x80 then '\\' :: 'x' :: hex 2 c.toNat
  else if c.toNat < 0x10000 then '\\' :: 'u' :: hex 4 c.toNat
  else '\\' :: 'U' :: hex 8 c.toNat

/-- One character between the given quotes. -/
def escape (quote : Char) (c : Char) : List Char :=
  if c = quote || c = '\\' then ['\\', c]
  else if isPrintable c then [c]
  else match c.toNat with
    | 7 => ['\\', 'a']
    | 8 => ['\\', 'b']
    | 12 => ['\\', 'f']
    | 10 => ['\\', 'n']
    | 13 => ['\\', 'r']
    | 9 => ['\\', 't']
    | 11 => ['\\', 'v']
    | _ => numeric c

/-- One glyph between the given quotes; a stray byte is always escaped by its value. -/
def escapeGlyph (quote : Char) : Glyph → List Char
  | .char c => escape quote c
  | .stray b => '\\' :: 'x' :: hex 2 b.toNat

def char (c : Char) : String := String.ofList ('\'' :: escape '\'' c ++ ['\''])

def string (s : String) : String :=
  String.ofList ('"' :: s.toList.flatMap (escape '"') ++ ['"'])

def bytes (b : Bytes) : String :=
  String.ofList ('"' :: (Utf8.glyphs b).flatMap (escapeGlyph '"') ++ ['"'])

end ServiceAnnotations.Text.Quoted
