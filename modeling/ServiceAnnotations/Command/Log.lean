import ServiceAnnotations.Processing.Session
import ServiceAnnotations.Text.Quoted

/-! # Log lines

A record is written as names and values, or as an object with one field for each value. -/
namespace ServiceAnnotations.Command
open Processing Text

inductive LogFormat | plain | json
  deriving DecidableEq, Repr

structure LogSettings where
  format : LogFormat
  least : LogLevel

def levelRank : LogLevel → Nat
  | .debug => 0
  | .info => 1
  | .warn => 2
  | .error => 3

def levelName : LogLevel → String
  | .debug => "DEBUG"
  | .info => "INFO"
  | .warn => "WARN"
  | .error => "ERROR"

def isPlain : Glyph → Bool
  | .char c =>
    if c.toNat < 0x80 then 0x20 < c.toNat && c ≠ '=' && c ≠ '"'
    else c ≠ '\ufffd' && isPrintable c
  | .stray _ => false

/-- A value in quotes, unless it can do without. -/
def plainText (b : Bytes) : Bytes :=
  if b ≠ [] && (Utf8.glyphs b).all isPlain then b else Bytes.ofString (Quoted.bytes b)

def plainValue : LogValue → Bytes
  | .text b => plainText b
  | .number n => toString n
  | .names ns => plainText (Registry.bracketed ns)
  | .noNames => plainText (Registry.bracketed [])

def plainLine (r : LogRecord) : Bytes :=
  let pair (p : String × Bytes) : Bytes := Bytes.ofString (p.1 ++ "=") ++ p.2
  let fields := [("level", Bytes.ofString (levelName r.level)), ("msg", plainText r.message)] ++
    r.values.map fun (name, v) => (name, plainValue v)
  Bytes.join (Bytes.ofString " ") (fields.map pair)

/-- A character in a quoted text. Inside lists, backspace and form feed have short forms. -/
def jsonChar (inList : Bool) (c : Char) : String :=
  match c with
  | '"' => "\\\""
  | '\\' => "\\\\"
  | '\n' => "\\n"
  | '\r' => "\\r"
  | '\t' => "\\t"
  | c =>
    if inList && c.toNat = 8 then "\\b"
    else if inList && c.toNat = 12 then "\\f"
    else if c.toNat < 0x20 then String.ofList ('\\' :: 'u' :: Quoted.hex 4 c.toNat)
    else if c.toNat = 0x2028 || c.toNat = 0x2029 then
      String.ofList ('\\' :: 'u' :: Quoted.hex 4 c.toNat)
    else c.toString

def jsonText (inList : Bool) (b : Bytes) : String :=
  let glyph : Glyph → String
    | .char c => jsonChar inList c
    | .stray _ => "\\ufffd"
  "\"" ++ String.join ((Utf8.glyphs b).map glyph) ++ "\""

def jsonValue : LogValue → String
  | .text b => jsonText false b
  | .number n => toString n
  | .names ns => "[" ++ ",".intercalate (ns.map (jsonText true)) ++ "]"
  | .noNames => "null"

def jsonLine (r : LogRecord) : Bytes :=
  let pair (p : String × String) : String := jsonText false p.1 ++ ":" ++ p.2
  let fields := [("level", jsonText false (levelName r.level)), ("msg", jsonText false r.message)] ++
    r.values.map fun (name, v) => (name, jsonValue v)
  Bytes.ofString ("\x7b" ++ ",".intercalate (fields.map pair) ++ "\x7d")

def recordText (s : LogSettings) (r : LogRecord) : Bytes :=
  if levelRank r.level < levelRank s.least then []
  else (match s.format with
    | .plain => plainLine r
    | .json => jsonLine r) ++ Bytes.ofString "\n"

/-- What is written for an entry. A report is printed and then logged. -/
def entryText (s : LogSettings) : Entry → Bytes
  | .report r => r.line ++ recordText s r.record
  | .log r => recordText s r

end ServiceAnnotations.Command
