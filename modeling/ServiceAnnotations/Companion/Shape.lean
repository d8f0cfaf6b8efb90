import ServiceAnnotations.Source.Tree
import ServiceAnnotations.Text.Quoted

/-! # Types as generated files write them

A literal type with one short entry stands on one line. Any other literal type has a line for each entry;
names, types and tags of its fields stand in columns. -/
namespace ServiceAnnotations.Companion
open Source Text

mutual

/-- A type to be written. A declared type has a package, given by path and name. -/
inductive Shape
  | name (package : Option (String × String)) (name : String)
  | pointer (elem : Shape)
  | slice (elem : Shape)
  | array (length : Nat) (elem : Shape)
  | map (key value : Shape)
  | chan (dir : ChanDir) (elem : Shape)
  | func (params results : List ShapeParam) (isVariadic : Bool)
  | struct (fields : List ShapeField)
  | interface (items : List ShapeItem)

inductive ShapeParam
  | mk (name : Option String) (type : Shape)

/-- A field; an embedded one has no name. -/
inductive ShapeField
  | mk (name : Option String) (type : Shape) (tag : Bytes)

/-- An embedded interface, or a method. The name of an embedded interface may run into that of the
method after it. -/
inductive ShapeItem
  | embed (type : Shape)
  | method (before : Option Shape) (name : String) (params results : List ShapeParam)
      (isVariadic : Bool)

end

instance : Inhabited Shape := ⟨.name none ""⟩

/-- A line of a table: cells that stand in columns, and what follows them. -/
structure Row where
  cells : List String
  last : String

def padTo (width : Nat) (s : String) : String :=
  s ++ String.ofList (List.replicate (width - s.length) ' ')

def columnWidth (rows : List Row) : Nat :=
  ((rows.takeWhile (!·.cells.isEmpty)).map fun r => (r.cells.headD "").length + 1).foldl max 0

/-- Fills up the first cell of each line. Lines one after another that have a first cell share its
width. -/
def alignFirst : (width : Nat) → List Row → List (String × Row)
  | _, [] => []
  | width, r :: rest =>
    match r.cells with
    | [] => ("", r) :: alignFirst 0 rest
    | cell :: cells =>
      let width := if width = 0 then columnWidth (r :: rest) else width
      (padTo width cell, { r with cells }) :: alignFirst width rest

/-- Fills up the cells of lines, for as many columns as `n`. -/
def alignColumns : (n : Nat) → List Row → List String
  | 0, rows => rows.map Row.last
  | n + 1, rows =>
    let aligned := alignFirst 0 rows
    (aligned.map Prod.fst).zipWith (· ++ ·) (alignColumns n (aligned.map Prod.snd))

def isBroken (s : String) : Bool := s.toList.contains '\n'

/-- Lines in columns. The columns start anew after a line that goes on over several lines. -/
def alignSections : (before : List Row) → List Row → List String
  | rows, [] => alignColumns 2 rows
  | rows, r :: rest =>
    if isBroken r.last then alignColumns 2 (rows ++ [r]) ++ alignSections [] rest
    else alignSections (rows ++ [r]) rest

def canBackQuote (b : Bytes) : Bool :=
  (Utf8.glyphs b).all fun
    | .char c => c = '\t' || (0x20 ≤ c.toNat && c ≠ '\x60' && c.toNat ≠ 0x7f && c ≠ '\ufeff')
    | .stray _ => false

def tagText (b : Bytes) : String :=
  if canBackQuote b then "\x60" ++ Utf8.toText b ++ "\x60" else Quoted.bytes b

def tabs (indent : Nat) : String := String.ofList (List.replicate indent '\t')

def isShort (isNamed : Bool) (type : String) : Bool :=
  !isBroken type && (if isNamed then 1 else 0) + type.utf8ByteSize ≤ 30

def braced (keyword : String) (indent : Nat) (lines : List String) : String :=
  keyword ++ " \x7b\n" ++ String.join (lines.map fun l => tabs (indent + 1) ++ l ++ "\n") ++
    tabs indent ++ "\x7d"

def fieldRow (name : Option String) (type : String) (tag : Bytes) : Row :=
  let tagged := if isBroken type then type ++ " " ++ tagText tag else type
  match name, tag with
  | none, [] => ⟨[], type⟩
  | none, tag => ⟨[type], tagText tag⟩
  | some name, [] => ⟨[name], type⟩
  | some name, tag => if isBroken type then ⟨[name], tagged⟩ else ⟨[name, type], tagText tag⟩

def structText (indent : Nat) (fields : List (Option String × String × Bytes)) : String :=
  let single (f : Option String × String × Bytes) : String :=
    (f.1.map (· ++ " ")).getD "" ++ f.2.1 ++ if f.2.2 = [] then "" else " " ++ tagText f.2.2
  match fields with
  | [] => "struct\x7b\x7d"
  | [f] =>
    if f.2.2 = [] && isShort f.1.isSome f.2.1 then "struct\x7b " ++ single f ++ " \x7d"
    else braced "struct" indent [single f]
  | fields =>
    braced "struct" indent (alignSections [] (fields.map fun f => fieldRow f.1 f.2.1 f.2.2))

/-- The text of an interface from its entries; a method is given as its name and the rest. -/
def interfaceText (indent : Nat) (items : List (Option String × String)) : String :=
  let line (i : Option String × String) : String := i.1.getD "" ++ i.2
  match items with
  | [] => "interface\x7b\x7d"
  | [i] =>
    let size := match i.1 with
      | some _ => "func" ++ i.2
      | none => i.2
    if isShort i.1.isSome size then "interface\x7b " ++ line i ++ " \x7d"
    else braced "interface" indent [line i]
  | items => braced "interface" indent (items.map line)

def signatureText (params : List String) (results : List (Option String × String)) : String :=
  let named (r : Option String × String) : String := (r.1.map (· ++ " ")).getD "" ++ r.2
  "(" ++ ", ".intercalate params ++ ")" ++
    match results with
    | [] => ""
    | [(none, type)] => " " ++ type
    | rs => " (" ++ ", ".intercalate (rs.map named) ++ ")"

/-- The entry of an interface for a method whose name runs together with a name before it. What results may
be a keyword, and then the entry is a type. -/
def joinedEntry (name sig : String) : Option String × String :=
  match name with
  | "func" => (none, "func" ++ sig)
  | "chan" => (none, "chan " ++ sig)
  | name => (some name, sig)

def hasNames (results : List ShapeParam) : Bool := results.any fun
  | .mk name _ => name.isSome

mutual

/-- The text of a type on a line with the given number of tabs in front, where `names` gives the text of
a name of a package. -/
def Shape.text (names : Option (String × String) → String → String) (indent : Nat) : Shape → String
  | .name package name => names package name
  | .pointer elem => "*" ++ elem.text names indent
  | .slice elem => "[]" ++ elem.text names indent
  | .array length elem => "[" ++ toString length ++ "]" ++ elem.text names indent
  | .map key value => "map[" ++ key.text names indent ++ "]" ++ value.text names indent
  | .chan .both elem => "chan " ++ elem.text names indent
  | .chan .send elem => "chan<- " ++ elem.text names indent
  | .chan .receive elem => "<-chan " ++ elem.text names indent
  | .func params results isVariadic =>
    "func" ++ signatureText (paramTexts names indent isVariadic params)
      (resultTexts names indent results)
  | .struct fields => structText indent (fieldTexts names (indent + 1) fields)
  | .interface items => interfaceText indent (itemTexts names (indent + 1) items)

/-- The texts of parameters; the last one of a variadic function is marked. -/
def paramTexts (names : Option (String × String) → String → String) (indent : Nat)
    (isVariadic : Bool) : List ShapeParam → List String
  | [] => []
  | .mk name type :: rest =>
    ((name.map (· ++ " ")).getD "" ++ (if isVariadic && rest.isEmpty then "..." else "") ++
      type.text names indent) :: paramTexts names indent isVariadic rest

def resultTexts (names : Option (String × String) → String → String) (indent : Nat) :
    List ShapeParam → List (Option String × String)
  | [] => []
  | .mk name type :: rest => (name, type.text names indent) :: resultTexts names indent rest

def fieldTexts (names : Option (String × String) → String → String) (indent : Nat) :
    List ShapeField → List (Option String × String × Bytes)
  | [] => []
  | .mk name type tag :: rest => (name, type.text names indent, tag) :: fieldTexts names indent rest

def itemTexts (names : Option (String × String) → String → String) (indent : Nat) :
    List ShapeItem → List (Option String × String)
  | [] => []
  | .embed type :: rest => (none, type.text names indent) :: itemTexts names indent rest
  | .method (some before) name params results isVariadic :: rest =>
    joinedEntry (before.text names indent ++ name)
      (signatureText (paramTexts names indent isVariadic params) (resultTexts names indent results)) ::
      itemTexts names indent rest
  | .method none name params results isVariadic :: rest =>
    (some name,
      signatureText (paramTexts names indent isVariadic params) (resultTexts names indent results)) ::
      itemTexts names indent rest

end

def signatureLine (params results : List String) (isNamed : Bool) : String :=
  "(" ++ ", ".intercalate params ++ ")" ++
    match results, isNamed with
    | [], _ => ""
    | [r], false => " " ++ r
    | rs, _ => " (" ++ ", ".intercalate rs ++ ")"

mutual

/-- A type on a line, as it stands before it is laid out. -/
def Shape.line (names : Option (String × String) → String → String) : Shape → String
  | .name package name => names package name
  | .pointer elem => "*" ++ elem.line names
  | .slice elem => "[]" ++ elem.line names
  | .array length elem => "[" ++ toString length ++ "]" ++ elem.line names
  | .map key value => "map[" ++ key.line names ++ "]" ++ value.line names
  | .chan .both elem => "chan " ++ elem.line names
  | .chan .send elem => "chan<- " ++ elem.line names
  | .chan .receive elem => "<-chan " ++ elem.line names
  | .func params results isVariadic =>
    "func" ++ signatureLine (paramLines names isVariadic params) (paramLines names false results)
      (hasNames results)
  | .struct fields => "struct\x7b" ++ "; ".intercalate (fieldLines names fields) ++ "\x7d"
  | .interface items => "interface\x7b" ++ "; ".intercalate (itemLines names items) ++ "\x7d"

/-- Parameters, each with its name; the last one of a variadic function is marked. -/
def paramLines (names : Option (String × String) → String → String) (isVariadic : Bool) :
    List ShapeParam → List String
  | [] => []
  | .mk name type :: rest =>
    ((name.map (· ++ " ")).getD "" ++ (if isVariadic && rest.isEmpty then "..." else "") ++
      type.line names) :: paramLines names isVariadic rest

def fieldLines (names : Option (String × String) → String → String) : List ShapeField → List String
  | [] => []
  | .mk name type tag :: rest =>
    ((name.map (· ++ " ")).getD "" ++ type.line names ++
      (if tag = [] then "" else " " ++ tagText tag)) :: fieldLines names rest

def itemLines (names : Option (String × String) → String → String) : List ShapeItem → List String
  | [] => []
  | .embed type :: rest => type.line names :: itemLines names rest
  | .method (some before) name params results isVariadic :: rest =>
    (before.line names ++ name ++ signatureLine (paramLines names isVariadic params)
      (paramLines names false results) (hasNames results)) :: itemLines names rest
  | .method none name params results isVariadic :: rest =>
    (name ++ signatureLine (paramLines names isVariadic params)
      (paramLines names false results) (hasNames results)) :: itemLines names rest

end

mutual

/-- Whether a name runs into another one anywhere in a type. Only then may the type be unreadable. -/
def Shape.hasJoin : Shape → Bool
  | .name _ _ => false
  | .pointer elem | .slice elem | .array _ elem | .chan _ elem => elem.hasJoin
  | .map key value => key.hasJoin || value.hasJoin
  | .func params results _ => paramsJoin params || paramsJoin results
  | .struct fields => fieldsJoin fields
  | .interface items => itemsJoin items

def paramsJoin : List ShapeParam → Bool
  | [] => false
  | .mk _ type :: rest => type.hasJoin || paramsJoin rest

def fieldsJoin : List ShapeField → Bool
  | [] => false
  | .mk _ type _ :: rest => type.hasJoin || fieldsJoin rest

def itemsJoin : List ShapeItem → Bool
  | [] => false
  | .embed type :: rest => type.hasJoin || itemsJoin rest
  | .method (some _) _ _ _ _ :: _ => true
  | .method none _ params results _ :: rest =>
    paramsJoin params || paramsJoin results || itemsJoin rest

end

mutual

/-- The packages whose names a type uses, in the order of writing. -/
def Shape.packages : Shape → List (String × String)
  | .name package _ => package.toList
  | .pointer elem | .slice elem | .array _ elem | .chan _ elem => elem.packages
  | .map key value => key.packages ++ value.packages
  | .func params results _ => paramPackages params ++ paramPackages results
  | .struct fields => fieldPackages fields
  | .interface items => itemPackages items

def paramPackages : List ShapeParam → List (String × String)
  | [] => []
  | .mk _ type :: rest => type.packages ++ paramPackages rest

def fieldPackages : List ShapeField → List (String × String)
  | [] => []
  | .mk _ type _ :: rest => type.packages ++ fieldPackages rest

def itemPackages : List ShapeItem → List (String × String)
  | [] => []
  | .embed type :: rest => type.packages ++ itemPackages rest
  | .method (some before) _ params results _ :: rest =>
    before.packages ++ paramPackages params ++ paramPackages results ++ itemPackages rest
  | .method none _ params results _ :: rest =>
    paramPackages params ++ paramPackages results ++ itemPackages rest

end

end ServiceAnnotations.Companion
