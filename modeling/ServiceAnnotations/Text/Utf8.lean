import ServiceAnnotations.Text.Bytes

/-! # Reading bytes as UTF-8

A byte string is read as glyphs: characters, and stray bytes that belong to no character. Reading
never fails and never loses a byte. -/
namespace ServiceAnnotations.Text

/-- A character, or a byte that is part of none. -/
inductive Glyph
  | char (c : Char)
  | stray (b : UInt8)
  deriving DecidableEq, Repr

namespace Glyph

def width : Glyph → Nat
  | char c => c.utf8Size
  | stray _ => 1

def bytes : Glyph → Bytes
  | char c => String.utf8EncodeChar c
  | stray b => [b]

def char? : Glyph → Option Char
  | char c => some c
  | stray _ => none

/-- The character a glyph stands for; a stray byte stands for the replacement character. -/
def shown : Glyph → Char
  | char c => c
  | stray _ => '\ufffd'

/-- Whether the glyph is a character that satisfies `p`. -/
def holds (p : Char → Bool) : Glyph → Bool
  | char c => p c
  | stray _ => false

end Glyph

namespace Utf8

def isTail (b : UInt8) : Bool := 0x80 ≤ b && b ≤ 0xbf

def tailBits (b : UInt8) : Nat := b.toNat % 0x40

/-- The glyph that starts with byte `a`, and how many of the following bytes it takes. Overlong forms,
surrogates and code points above 0x10ffff are no characters. -/
def first (a : UInt8) (rest : Bytes) : Glyph × Nat :=
  if a < 0x80 then (.char (Char.ofNat a.toNat), 0)
  else match rest with
    | b :: rest =>
      if 0xc2 ≤ a && a ≤ 0xdf && isTail b then
        (.char (Char.ofNat (a.toNat % 0x20 * 0x40 + tailBits b)), 1)
      else match rest with
        | c :: rest =>
          if 0xe0 ≤ a && a ≤ 0xef && isTail b && isTail c && (a != 0xe0 || 0xa0 ≤ b) &&
              (a != 0xed || b ≤ 0x9f) then
            (.char (Char.ofNat ((a.toNat % 0x10 * 0x40 + tailBits b) * 0x40 + tailBits c)), 2)
          else match rest with
            | d :: _ =>
              if 0xf0 ≤ a && a ≤ 0xf4 && isTail b && isTail c && isTail d &&
                  (a != 0xf0 || 0x90 ≤ b) && (a != 0xf4 || b ≤ 0x8f) then
                (.char (Char.ofNat
                  (((a.toNat % 0x8 * 0x40 + tailBits b) * 0x40 + tailBits c) * 0x40 + tailBits d)), 3)
              else (.stray a, 0)
            | [] => (.stray a, 0)
        | [] => (.stray a, 0)
    | [] => (.stray a, 0)

/-- The glyphs of a byte string from the byte after the next `skip` ones on. -/
def glyphsFrom : Nat → Bytes → List Glyph
  | _, [] => []
  | skip + 1, _ :: rest => glyphsFrom skip rest
  | 0, a :: rest =>
    let (g, more) := first a rest
    g :: glyphsFrom more rest

def glyphs (b : Bytes) : List Glyph := glyphsFrom 0 b

def isValid (b : Bytes) : Bool := (glyphs b).all fun g => g.char?.isSome

def toString? (b : Bytes) : Option String :=
  ((glyphs b).mapM Glyph.char?).map String.ofList

def toText (b : Bytes) : String := String.ofList ((glyphs b).map Glyph.shown)

end Utf8
end ServiceAnnotations.Text
