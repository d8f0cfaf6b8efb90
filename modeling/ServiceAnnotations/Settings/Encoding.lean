import ServiceAnnotations.Text.Utf8

/-! # Characters of settings files

Some bytes have the form of a character but encode none: overlong forms, surrogates and code points that
are too large. They can be part of texts all the same, so each is read as a stand-in, a character that is
not used otherwise. Bytes that have no such form are allowed in comments only. -/
namespace ServiceAnnotations.Settings.Encoding
open Text

inductive Symbol
  | char (c : Char)
  /-- Bytes that have the form of a character. -/
  | form (b : Bytes)
  | stray
  deriving DecidableEq, Repr

/-- How many bytes a form takes that starts with a byte; none for a byte that starts no form. -/
def formLength (a : UInt8) : Nat :=
  if a < 0x80 then 1
  else if a < 0xc0 then 0
  else if a < 0xe0 then 2
  else if a < 0xf0 then 3
  else if a < 0xf8 then 4
  else 0

/-- The symbols of a byte string from the byte after the next `skip` ones on. -/
def symbolsFrom : (skip : Nat) → Bytes → List Symbol
  | _, [] => []
  | skip + 1, _ :: rest => symbolsFrom skip rest
  | 0, a :: rest =>
    let length := formLength a
    let tail := rest.take (length - 1)
    if length = 0 || tail.length + 1 < length || !tail.all Utf8.isTail then .stray :: symbolsFrom 0 rest
    else
      let symbol := match Utf8.first a rest with
        | (.char c, _) => Symbol.char c
        | (.stray _, _) => .form (a :: tail)
      symbol :: symbolsFrom (length - 1) rest

structure Decoded where
  chars : List Char
  standIns : List (Char × Bytes)

/-- The characters of a file. A stray byte is read as a lone carriage return, which is allowed in comments
only, too. -/
def decode (content : Bytes) : Decoded :=
  let symbols := symbolsFrom 0 content
  let forms := (symbols.filterMap fun
    | .form b => some b
    | _ => none).eraseDups
  let greatest := (symbols.map fun
    | .char c => c.toNat
    | _ => 0).foldl max 0
  let standIns := forms.zipIdx (max 0xf0000 (greatest + 1)) |>.map fun (b, n) => (Char.ofNat n, b)
  ⟨symbols.flatMap fun
    | .char c => [c]
    | .form b => (standIns.find? (·.2 = b)).toList.map Prod.fst
    | .stray => ['\r', '\r'], standIns⟩

/-- The bytes of a text with stand-ins. -/
def encode (standIns : List (Char × Bytes)) (s : String) : Bytes :=
  s.toList.flatMap fun c => match standIns.find? (·.1 = c) with
    | some (_, b) => b
    | none => String.utf8EncodeChar c

end ServiceAnnotations.Settings.Encoding
