import ServiceAnnotations.Files.Tree
import ServiceAnnotations.Settings.Basic
import ServiceAnnotations.Settings.Encoding
import ServiceAnnotations.Settings.Eval
import ServiceAnnotations.Settings.Parser

/-! # Settings from files -/
namespace ServiceAnnotations.Settings

inductive LoadError
  | unreadable (path : Bytes)
  | undecodable (path : Bytes)
  | unknownOptions (path : Bytes)
  | badOptions (path : Bytes) (kind : String)
  | badOption (path name : Bytes) (kind : String)
  deriving DecidableEq, Repr

def LoadError.message : LoadError → Bytes
  | unreadable path => Bytes.ofString "failed to parse HCL file " ++ path
  | undecodable path => Bytes.ofString "failed to decode HCL file " ++ path
  | unknownOptions path =>
    Bytes.ofString "invalid options in " ++ path ++ Bytes.ofString ": value must be known"
  | badOptions path kind =>
    Bytes.ofString "invalid options in " ++ path ++
      Bytes.ofString (": expecting an object, got " ++ kind)
  | badOption path name kind =>
    Bytes.ofString "invalid options in " ++ path ++ Bytes.ofString ": option " ++ name ++
      Bytes.ofString (": string required, but have " ++ kind)

def textSetting? (encode : String → Bytes) (v : Value) : Option (Option Bytes) := do
  match ← v.convert? .text with
  | .text s => some (some (encode s))
  | .null _ => some none
  | _ => none

def boolSetting? (v : Value) : Option (Option Bool) := do
  match ← v.convert? .bool with
  | .bool b => some (some b)
  | .null _ => some none
  | _ => none

/-- The texts that the items of a value are, where null stands for no list. -/
def listSetting? (encode : String → Bytes) (v : Value) : Option (Option (List Bytes)) := do
  match ← v.convert? (.list .text) with
  | .list _ items => (items.mapM fun
      | Value.text s => some (encode s)
      | _ => none).map some
  | .null _ => some none
  | _ => none

def decode? (doc : Document) : Option (Settings × Value) := do
  if doc.hasBlocks then failure
  let encode := Encoding.encode doc.standIns
  doc.attributes.foldlM (fun (s, options) (name, e) => do
    let o := eval {} e
    if !o.isValid then failure
    match name with
    | "output_dir" => return ({ s with outputDir := (← textSetting? encode o.value).getD [] }, options)
    | "include_tests" => return ({ s with includeTests := (← boolSetting? o.value).getD false }, options)
    | "packages" => return ({ s with packages := ← listSetting? encode o.value }, options)
    | "processors" => return ({ s with processors := ← listSetting? encode o.value }, options)
    | "options" => some (s, o.value)
    | _ => none) (({}, .null .dynamic) : Settings × Value)

/-- The options that entries give. An option without a value is the empty text. -/
def optionsFrom (path : Bytes) (encode : String → Bytes) : ByteMap Bytes → List (String × Value) →
    Except LoadError (ByteMap Bytes)
  | m, [] => .ok m
  | m, (name, .null _) :: rest => optionsFrom path encode (m.insert (encode name) []) rest
  | m, (name, v) :: rest =>
    match v.convert? .text with
    | some (.text s) => optionsFrom path encode (m.insert (encode name) (encode s)) rest
    | _ => .error (.badOption path (encode name) v.type.friendlyName)

def optionsOf (path : Bytes) (encode : String → Bytes) : Value → Except LoadError (Option (ByteMap Bytes))
  | .null _ => .ok none
  | .unknown _ => .error (.unknownOptions path)
  | .object keys values | .map _ keys values => (optionsFrom path encode ∅ (keys.zip values)).map some
  | v => .error (.badOptions path v.type.friendlyName)

def load (t : Files.Tree) (path : Bytes) : Except LoadError Settings := do
  let doc ← match t.read path with
    | .content data => match Document.read? data with
      | some doc => pure doc
      | none => .error (.unreadable path)
    | _ => .error (.unreadable path)
  match decode? doc with
  | none => .error (.undecodable path)
  | some (s, options) => return { s with options := ← optionsOf path (Encoding.encode doc.standIns) options }

def defaultFile : Bytes := "autoserv.hcl"

/-- The settings in the named file. If none is named, those in the usual file, if it is there. -/
def find (t : Files.Tree) (path : Bytes) : Except LoadError Settings :=
  if path ≠ [] then load t path
  else if t.isFile defaultFile || t.isDir defaultFile then load t defaultFile
  else .ok {}

end ServiceAnnotations.Settings
