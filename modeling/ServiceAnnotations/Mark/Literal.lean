import ServiceAnnotations.Text.Utf8

/-! # Values of literals -/
namespace ServiceAnnotations.Mark.Literal
open Text

def digitValue? (c : Char) : Option Nat :=
  if '0' ≤ c && c ≤ '9' then some (c.toNat - 0x30)
  else if 'a' ≤ c && c ≤ 'f' then some (c.toNat - 0x61 + 10)
  else if 'A' ≤ c && c ≤ 'F' then some (c.toNat - 0x41 + 10)
  else none

/-- The number spelled by digits of a base; other characters count for nothing. -/
def natOfDigits (base : Nat) (cs : List Char) : Nat :=
  (cs.filterMap digitValue?).foldl (fun n d => n * base + d) 0

/-- The number spelled by an integer numeral, with separators and any base mark. -/
def nat : List Char → Nat
  | '0' :: c :: cs =>
    if c.toLower = 'x' then natOfDigits 16 cs
    else if c.toLower = 'b' then natOfDigits 2 cs
    else if c.toLower = 'o' then natOfDigits 8 cs
    else natOfDigits 8 (c :: cs)
  | cs => natOfDigits 10 cs

/-- The character with a code point, unless it is a surrogate or out of range. -/
def charOf? (n : Nat) : Option Char :=
  if n < 0xd800 || (0xdfff < n && n < 0x110000) then some (Char.ofNat n) else none

def letterEscape? (c : Char) : Option UInt8 :=
  match c with
  | 'a' => some 7
  | 'b' => some 8
  | 'f' => some 12
  | 'n' => some 10
  | 'r' => some 13
  | 't' => some 9
  | 'v' => some 11
  | '\\' => some 0x5c
  | '\'' => some 0x27
  | '"' => some 0x22
  | _ => none

inductive Escape
  | none
  | opened
  /-- `left` more digits of a byte or a code point, given the digits so far. -/
  | digits (base left value : Nat) (isByte : Bool)

def escaped? (value : Nat) (isByte : Bool) : Option Bytes :=
  if isByte then if value < 0x100 then some [UInt8.ofNat value] else .none
  else (charOf? value).map String.utf8EncodeChar

/-- The bytes denoted by the characters between the quotes of a quoted text. -/
def bytesFrom : Escape → List Char → Option Bytes
  | .none, [] => some []
  | _, [] => .none
  | .none, c :: cs =>
    if c = '\\' then bytesFrom .opened cs
    else (String.utf8EncodeChar c ++ ·) <$> bytesFrom .none cs
  | .opened, c :: cs =>
    match letterEscape? c with
    | some b => (b :: ·) <$> bytesFrom .none cs
    | .none =>
      if c = 'x' then bytesFrom (.digits 16 2 0 true) cs
      else if c = 'u' then bytesFrom (.digits 16 4 0 false) cs
      else if c = 'U' then bytesFrom (.digits 16 8 0 false) cs
      else match digitValue? c with
        | some d => if d < 8 then bytesFrom (.digits 8 2 d true) cs else .none
        | .none => .none
  | .digits base left value isByte, c :: cs =>
    match digitValue? c with
    | some d =>
      if d < base then
        let value := value * base + d
        if left ≤ 1 then do
          let b ← escaped? value isByte
          (b ++ ·) <$> bytesFrom .none cs
        else bytesFrom (.digits base (left - 1) value isByte) cs
      else .none
    | .none => .none

/-- The bytes denoted by a text in double quotes, quotes included; none when an escape denotes no
character or byte. -/
def quoted (literal : List Char) : Option Bytes := bytesFrom .none (literal.drop 1).dropLast

/-- The bytes denoted by a text in back quotes, quotes included: carriage returns are dropped. -/
def raw (literal : List Char) : Bytes :=
  Bytes.ofChars ((literal.drop 1).dropLast.filter (· != '\r'))

end ServiceAnnotations.Mark.Literal
