import ServiceAnnotations.Mark.Literal
import ServiceAnnotations.Mark.Position
import ServiceAnnotations.Mark.Token
import ServiceAnnotations.Text.Letter

/-! # Dividing an annotation text into tokens

A scan reads one glyph beyond its token, so a glyph that no text may hold spoils the token before it.
Of several errors in one token the last one counts. -/
namespace ServiceAnnotations.Mark
open Text

/-- The error that comes with reading the first glyph of `rest`, or the one there was before. -/
def look (rest : List Glyph) (error : Option LexError) : Option LexError :=
  match rest with
  | .stray _ :: _ => some .invalidEncoding
  | .char c :: _ => if c.toNat = 0 then some .nulCharacter else error
  | [] => error

/-- The rest of a text within a token. The first glyph has been read already. -/
structure Scan where
  rest : List Glyph
  error : Option LexError
  deriving DecidableEq, Repr

namespace Scan

def start (rest : List Glyph) : Scan := ⟨rest, look rest none⟩

def step (s : Scan) : Scan := ⟨s.rest.tail, look s.rest.tail s.error⟩

def fail (s : Scan) (e : LexError) : Scan := { s with error := some e }

def failIf (s : Scan) (b : Bool) (e : LexError) : Scan := if b then s.fail e else s

/-- Whether the next glyph is a character that satisfies `p`. -/
def nextIs (s : Scan) (p : Char → Bool) : Bool := s.rest.head?.any (Glyph.holds p)

def next? (s : Scan) : Option Char := s.rest.head?.bind Glyph.char?

/-- Reads past all characters that satisfy `p`. -/
def skipWhile (p : Char → Bool) (s : Scan) : Scan :=
  if s.nextIs p then
    let rest := s.rest.dropWhile (Glyph.holds p)
    ⟨rest, look rest s.error⟩
  else s

/-- The characters that satisfy `p` at the front. -/
def run (p : Char → Bool) (s : Scan) : List Char :=
  (s.rest.takeWhile (Glyph.holds p)).filterMap Glyph.char?

end Scan

def isSeparator (c : Char) : Bool := c == '_'

def isHexDigit (c : Char) : Bool := (Literal.digitValue? c).isSome

/-- What may stand in the digits of a numeral: decimal digits are read in every base, so that one that
is too large can be named. -/
def Radix.accepts (radix : Radix) (c : Char) : Bool :=
  isSeparator c || if radix = .hexadecimal then isHexDigit c else c.isDigit

structure Numeral where
  scan : Scan
  radix : Radix
  hasDigit : Bool := false
  hasSeparator : Bool := false
  /-- The first digit that is too large for the base. -/
  tooLarge : Option Char := none
  isInteger : Bool := true

namespace Numeral

def digits (n : Numeral) : Numeral :=
  let run := n.scan.run n.radix.accepts
  { n with
    scan := n.scan.skipWhile n.radix.accepts
    hasDigit := n.hasDigit || run.any (!isSeparator ·)
    hasSeparator := n.hasSeparator || run.any isSeparator
    tooLarge := n.tooLarge.or
      (run.find? fun c => (Literal.digitValue? c).any (n.radix.base ≤ ·)) }

def ofStart (s : Scan) : Numeral :=
  if s.nextIs (· == '0') then
    let s := s.step
    match s.next?.map Char.toLower with
    | some 'x' => { scan := s.step, radix := .hexadecimal }
    | some 'o' => { scan := s.step, radix := .octal }
    | some 'b' => { scan := s.step, radix := .binary }
    | _ => { scan := s, radix := .leadingZero, hasDigit := true }
  else { scan := s, radix := .decimal }

def fraction (n : Numeral) : Numeral :=
  let scan := n.scan.failIf (n.radix = .octal || n.radix = .binary) (.badRadixPoint n.radix)
  { n with scan, isInteger := false }.digits

def withoutExponent (n : Numeral) : Numeral :=
  { n with scan := n.scan.failIf (n.radix = .hexadecimal && !n.isInteger) .needsExponent }

def exponent (n : Numeral) : Numeral :=
  match n.scan.next? with
  | some c =>
    let e := c.toLower
    if e = 'e' || e = 'p' then
      let scan :=
        if e = 'e' then
          n.scan.failIf (n.radix != .decimal && n.radix != .leadingZero) (.needsDecimal c)
        else n.scan.failIf (n.radix != .hexadecimal) (.needsHexadecimal c)
      let scan := scan.step
      let scan := if scan.nextIs (fun c => c == '+' || c == '-') then scan.step else scan
      let m := digits { scan, radix := .decimal }
      { n with
        scan := m.scan.failIf (!m.hasDigit) .noExponentDigits
        hasSeparator := n.hasSeparator || m.hasSeparator
        isInteger := false }
    else n.withoutExponent
  | none => n.withoutExponent

inductive Before | digit | separator | other deriving DecidableEq

def separatesDigits (isDigit : Char → Bool) : Before → List Char → Bool
  | before, [] => before != .separator
  | before, c :: cs =>
    if isSeparator c then before == .digit && separatesDigits isDigit .separator cs
    else if isDigit c then separatesDigits isDigit .digit cs
    else before != .separator && separatesDigits isDigit .other cs

/-- Whether every separator of a numeral stands between two digits; a base mark counts as a digit. -/
def isWellSeparated : List Char → Bool
  | '0' :: c :: cs =>
    if c.toLower = 'x' then separatesDigits isHexDigit .digit cs
    else if c.toLower = 'o' || c.toLower = 'b' then separatesDigits Char.isDigit .digit cs
    else separatesDigits Char.isDigit .digit (c :: cs)
  | cs => separatesDigits Char.isDigit .other cs

end Numeral

/-- The glyphs of `whole` before its suffix `rest`. -/
def consumed (whole rest : List Glyph) : List Glyph := whole.take (whole.length - rest.length)

/-- The characters of `whole` before its suffix `rest`. -/
def spelling (whole rest : List Glyph) : List Char := (consumed whole rest).filterMap Glyph.char?

inductive Shape | word | int | float | text | character | rawText | single
  deriving DecidableEq, Repr

/-- Reads a numeral that starts at `whole`. If `afterPoint`, the radix point has been read. -/
def scanNumeral (whole : List Glyph) (s : Scan) (afterPoint : Bool) : Shape × Scan :=
  let n :=
    if afterPoint then Numeral.fraction { scan := s, radix := .decimal }
    else
      let n := (Numeral.ofStart s).digits
      if n.scan.nextIs (· == '.') then { n with scan := n.scan.step }.fraction else n
  let n := { n with scan := n.scan.failIf (!n.hasDigit) (.noDigits n.radix) }.exponent
  let s := match n.isInteger, n.tooLarge with
    | true, some c => n.scan.fail (.badDigit c n.radix)
    | _, _ => n.scan
  let s := s.failIf (n.hasSeparator && !Numeral.isWellSeparated (spelling whole s.rest)) .badSeparator
  (if n.isInteger then .int else .float, s)

inductive InText
  | plain
  | escape
  /-- `left` more digits of an escape are wanted. -/
  | digits (base left : Nat)
  deriving DecidableEq, Repr

/-- What a glyph does within a quoted text: it closes the text or leads on. The number counts the
characters of the text so far. -/
inductive TextStep
  | close (error : Option LexError) (count : Nat)
  | next (state : InText) (error : Option LexError) (count : Nat)

/-- A glyph outside escapes. A line end breaks the text off. -/
def plainStep (quote : Char) (g : Glyph) (error : Option LexError) (n : Nat) : TextStep :=
  if g = .char quote then .close error n
  else if g = .char '\n' then .close (some .notTerminated) n
  else if g = .char '\\' then .next .escape error n
  else .next .plain error (n + 1)

def textStep (quote : Char) : InText → Glyph → Option LexError → Nat → TextStep
  | .plain, g, error, n => plainStep quote g error n
  | .escape, g, error, n =>
    if g.holds fun c => c ∈ ['a', 'b', 'f', 'n', 'r', 't', 'v', '\\', quote] then
      .next .plain error (n + 1)
    else if g.holds fun c => '0' ≤ c && c ≤ '7' then .next (.digits 8 2) error n
    else if g = .char 'x' then .next (.digits 16 2) error n
    else if g = .char 'u' then .next (.digits 16 4) error n
    else if g = .char 'U' then .next (.digits 16 8) error n
    else plainStep quote g (some .badEscape) (n + 1)
  | .digits base left, g, error, n =>
    if g.holds fun c => (Literal.digitValue? c).any (· < base) then
      if left ≤ 1 then .next .plain error (n + 1) else .next (.digits base (left - 1)) error n
    else plainStep quote g (some .badEscape) (n + 1)

/-- Reads a quoted text from behind its opening quote; the front glyph has been read. Gives what
follows the text, which has not been read yet, and the number of its characters. -/
def scanText (quote : Char) : InText → List Glyph → Option LexError → Nat → Scan × Nat
  | .plain, [], _, n => (⟨[], some .notTerminated⟩, n)
  | _, [], _, n => (⟨[], some .notTerminated⟩, n + 1)
  | state, g :: rest, error, n =>
    match textStep quote state g error n with
    | .close error n => (⟨rest, error⟩, n)
    | .next state error n => scanText quote state rest (look rest error) n

/-- Reads a text in back quotes from behind its opening quote; the front glyph has been read. -/
def scanRawText : List Glyph → Option LexError → Scan
  | [], _ => ⟨[], some .notTerminated⟩
  | g :: rest, error =>
    if g = .char '\x60' then ⟨rest, error⟩ else scanRawText rest (look rest error)

/-- Reads the token that starts with glyph `g`. -/
def scanToken (g : Glyph) (tail : List Glyph) : Shape × Scan :=
  let s := Scan.start (g :: tail)
  if g.holds isWordStart then (.word, s.step.skipWhile isWordTail)
  else if g.holds Char.isDigit then scanNumeral (g :: tail) s false
  else match g with
    | .char '"' =>
      let (t, _) := scanText '"' .plain tail s.step.error 0
      (.text, ⟨t.rest, look t.rest t.error⟩)
    | .char '\'' =>
      let (t, count) := scanText '\'' .plain tail s.step.error 0
      let t := t.failIf (count != 1) .badCharacter
      (.character, ⟨t.rest, look t.rest t.error⟩)
    | .char '\x60' =>
      let t := scanRawText tail s.step.error
      (.rawText, ⟨t.rest, look t.rest t.error⟩)
    | .char '.' =>
      if s.step.nextIs Char.isDigit then scanNumeral (g :: tail) s.step true else (.single, s.step)
    | _ => (.single, s.step)

/-- The token with a shape and a spelling. Fractions and character literals are none. -/
def Token.ofSpelling (shape : Shape) (g : Glyph) (cs : List Char) : Except LexError Token :=
  match shape with
  | .word =>
    let name := String.ofList cs
    .ok (if name = "true" then .yes else if name = "false" then .no else .word name)
  | .int => .ok (.int (Literal.nat cs))
  | .float | .character => .error (.unsupported cs)
  | .text => .ok (.text (Literal.quoted cs))
  | .rawText => .ok (.rawText (Literal.raw cs))
  | .single => .ok (if g = .char '\n' then .endOfLine else .rune g.shown)

/-- A token, or the error that ends a text, with the place where it starts. An error that comes up
while a token is read has the place of the last line end passed over on the way to the token, if any. -/
inductive Lexeme
  | token (pos : Position) (token : Token)
  | failure (pos : Option Position) (error : LexError)
  deriving DecidableEq, Repr

/-- A text that is being divided into tokens. -/
structure Lexer where
  rest : List Glyph
  /-- The place of the next glyph. -/
  pos : Position
  /-- Whether nothing has been read yet. -/
  isFresh : Bool
  /-- Whether the last token continues its line. -/
  continues : Bool
  /-- The error that stopped the lexer, if any. -/
  stopped : Option LexError
  deriving DecidableEq, Repr

namespace Lexer

def ofGlyphs (gs : List Glyph) : Lexer := ⟨gs, .start, true, false, none⟩

def ofBytes (b : Bytes) : Lexer := ofGlyphs (Utf8.glyphs b)

/-- Glyphs that separate tokens: a line end is one of them only if the line goes on. -/
def isBlank (continues : Bool) (g : Glyph) : Bool :=
  g = .char ' ' || g = .char '\t' || g = .char '\r' || (continues && g = .char '\n')

def stop (l : Lexer) (e : LexError) : Lexer := { l with stopped := some e }

/-- The place of the last line end among glyphs, which stand at `pos`. -/
def lastLineEnd? : (pos : Position) → List Glyph → Option Position
  | _, [] => none
  | pos, g :: rest =>
    (lastLineEnd? (pos.after g) rest).or (if g = .char '\n' then some pos else none)

/-- Reads the token at the front, which is reported to stand at `pos`; an error in it is reported to
stand at `lineEnd`. -/
def readToken (l : Lexer) (pos : Position) (lineEnd : Option Position) : Lexeme × Lexer :=
  match l.rest with
  | [] => (.token pos .endOfInput, { l with isFresh := false })
  | g :: tail =>
    let (shape, s) := scanToken g tail
    match s.error with
    | some e => (.failure lineEnd e, l.stop e)
    | none =>
      match Token.ofSpelling shape g (spelling l.rest s.rest) with
      | .error e => (.failure (some pos) e, l.stop e)
      | .ok t =>
        (.token pos t,
          ⟨s.rest, l.pos.afterAll (consumed l.rest s.rest), false, t.continues, none⟩)

def skipBlanks (l : Lexer) : Lexer :=
  let blank := isBlank l.continues
  { l with
    rest := l.rest.dropWhile blank
    pos := l.pos.afterAll (l.rest.takeWhile blank)
    isFresh := l.isFresh && !l.rest.head?.any blank }

/-- Reads past a byte order mark at the very start of the text. -/
def skipMark (l : Lexer) : Lexer :=
  match l.isFresh, l.rest with
  | true, g :: rest =>
    if g = .char '\ufeff' then { l with rest, pos := l.pos.after g } else l
  | _, _ => l

/-- The next token. After an error, the same error again. A blank is read like a token, with the glyph
behind it. -/
def next (l : Lexer) : Lexeme × Lexer :=
  match l.stopped with
  | some e => (.failure none e, l)
  | none =>
    let here := l.skipMark
    let blanks := here.rest.takeWhile (isBlank l.continues)
    if blanks.isEmpty then here.readToken l.pos none
    else
      let ahead := here.skipBlanks
      match look ahead.rest none with
      | some e => (.failure (lastLineEnd? here.pos blanks.dropLast) e, ahead.stop e)
      | none => ahead.readToken ahead.pos (lastLineEnd? here.pos blanks)

/-- The tokens of a text before its end, and how it ends: with the end of input or an error. -/
def tokensWithin : Nat → Lexer → List (Position × Token) × Lexeme × Lexer
  | 0, l => let (x, l) := l.next; ([], x, l)
  | fuel + 1, l =>
    match l.next with
    | (.token pos .endOfInput, l) => ([], .token pos .endOfInput, l)
    | (.failure pos e, l) => ([], .failure pos e, l)
    | (.token pos t, l) =>
      let (ts, last) := tokensWithin fuel l
      ((pos, t) :: ts, last)

/-- The tokens of a text before its end, how it ends, and the lexer then. Each token takes at least
one glyph, so there are no more tokens than glyphs. -/
def tokens (l : Lexer) : List (Position × Token) × Lexeme × Lexer := tokensWithin l.rest.length l

end Lexer
end ServiceAnnotations.Mark
