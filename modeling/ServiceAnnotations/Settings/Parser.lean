import ServiceAnnotations.Settings.Encoding
import ServiceAnnotations.Settings.Reader
import ServiceAnnotations.Settings.Template

/-! # Reading settings files

Within brackets and parentheses line ends do not matter. Elsewhere they end attributes and entries. -/
namespace ServiceAnnotations.Settings
open Text Reader

/-- Where a template ends: at a quote, or with a line that holds nothing but a marker. -/
inductive TemplateEnd
  | quote
  | marker (cs : List Char)

def operatorAt? : List Char → Option (Operator × Nat × Nat)
  | '|' :: '|' :: _ => some (.or, 2, 1)
  | '&' :: '&' :: _ => some (.and, 2, 2)
  | '=' :: '=' :: _ => some (.equal, 2, 3)
  | '!' :: '=' :: _ => some (.notEqual, 2, 3)
  | '>' :: '=' :: _ => some (.greaterEqual, 2, 4)
  | '<' :: '=' :: _ => some (.lessEqual, 2, 4)
  | '>' :: _ => some (.greater, 1, 4)
  | '<' :: '<' :: _ => none
  | '<' :: _ => some (.less, 1, 4)
  | '+' :: _ => some (.add, 1, 5)
  | '-' :: _ => some (.sub, 1, 5)
  | '*' :: _ => some (.mul, 1, 6)
  | '/' :: _ => some (.div, 1, 6)
  | '%' :: _ => some (.mod, 1, 6)
  | _ => none

mutual

def readExpr (lines : Bool) : Nat → Reader Expr
  | 0 => failure
  | fuel + 1 => do
    let first ← readBinary lines 0 fuel
    match ← ahead lines with
    | '?' :: _ =>
      skip 1
      let yes ← readExpr lines fuel
      symbol lines ':'
      return .conditional first yes (← readExpr lines fuel)
    | _ => return first

/-- Reads operands with operators stronger than `least`. -/
def readBinary (lines : Bool) (least : Nat) : Nat → Reader Expr
  | 0 => failure
  | fuel + 1 => do
    let first ← readOperand lines fuel
    readOperators lines least fuel first

/-- Reads operators stronger than `least`, with an operand behind each. -/
def readOperators (lines : Bool) (least : Nat) : Nat → Expr → Reader Expr
  | 0, _ => failure
  | fuel + 1, a => do
    match operatorAt? (← ahead lines) with
    | some (op, length, strength) =>
      if strength ≤ least then return a
      skip length
      let b ← readBinary lines strength fuel
      readOperators lines least fuel (.binary op a b)
    | none => return a

def readOperand (lines : Bool) : Nat → Reader Expr
  | 0 => failure
  | fuel + 1 => do
    let term ← readTerm lines fuel
    readSelection lines fuel term

def readSelection (lines : Bool) : Nat → Expr → Reader Expr
  | 0, _ => failure
  | fuel + 1, e => do
    match ← ahead lines with
    | '.' :: '.' :: '.' :: _ => return e
    | '.' :: _ =>
      skip 1
      match ← ahead lines with
      | '*' :: _ =>
        skip 1
        let each ← readMembers lines fuel .item
        readSelection lines fuel (.splat e each)
      | c :: _ =>
        let selected ← if c.isDigit then (Expr.index e <| .number ·) <$> index
          else Expr.member e <$> name
        readSelection lines fuel selected
      | [] => failure
    | '[' :: _ =>
      skip 1
      match ← ahead lines with
      | '*' :: _ =>
        skip 1
        symbol lines ']'
        return .splat e (← readSelection lines fuel .item)
      | _ =>
        let key ← readExpr false fuel
        symbol false ']'
        readSelection lines fuel (.index e key)
    | _ => return e

def readMembers (lines : Bool) : Nat → Expr → Reader Expr
  | 0, _ => failure
  | fuel + 1, e => do
    match ← ahead lines with
    | '.' :: '.' :: '.' :: _ => return e
    | '.' :: _ =>
      skip 1
      match ← ahead lines with
      | c :: _ =>
        let selected ← if c.isDigit then (Expr.index e <| .number ·) <$> index
          else Expr.member e <$> name
        readMembers lines fuel selected
      | [] => failure
    | _ => return e

/-- Reads a literal, a variable, a call or an expression in brackets. -/
def readTerm (lines : Bool) : Nat → Reader Expr
  | 0 => failure
  | fuel + 1 => do
    match ← ahead lines with
    | '(' :: _ =>
      skip 1
      let e ← readExpr false fuel
      symbol false ')'
      return .enclosed e
    | '[' :: _ =>
      skip 1
      if ← nextIsWord false "for" then readFor ']' fuel
      else return .tuple (← readItems fuel)
    | '\x7b' :: _ =>
      skip 1
      if ← nextIsFor then readFor '\x7d' fuel
      else
        let entries ← readEntries fuel
        return .object (entries.map Prod.fst) (entries.map Prod.snd)
    | '"' :: _ =>
      skip 1
      let pieces ← readPieces .quote true fuel
      liftM (Template.expr? pieces)
    | '<' :: '<' :: rest =>
      let isIndented := rest.head? = some '-'
      skip (if isIndented then 3 else 2)
      let marker ← name
      match ← get with
      | '\n' :: _ => skip 1
      | '\r' :: '\n' :: _ => skip 2
      | _ => failure
      let pieces ← readPieces (.marker marker.toList) true fuel
      liftM (Template.expr? (if isIndented then Template.unindent (Template.trimPieces false pieces) else pieces))
    | '-' :: _ =>
      skip 1
      return .negate (← readOperand lines fuel)
    | '!' :: _ =>
      skip 1
      return .not (← readOperand lines fuel)
    | c :: _ =>
      if c.isDigit then return .number (← number)
      else
        let word ← name
        match ← ahead lines with
        | '(' :: _ | ':' :: ':' :: _ =>
          readCall lines fuel
          return .unresolved
        | _ =>
          match word with
          | "true" => return .bool true
          | "false" => return .bool false
          | "null" => return .null
          | _ => return .name word
    | [] => failure
where
  /-- Whether a repetition comes next. Line ends are left where they are if none does. -/
  nextIsFor : Reader Bool := do
    let before ← get
    let found ← nextIsWord false "for"
    set before
    return found

/-- Reads further parts of the name of a function, and its arguments. -/
def readCall (lines : Bool) : Nat → Reader Unit
  | 0 => failure
  | fuel + 1 => do
    match ← ahead lines with
    | ':' :: ':' :: _ =>
      skip 2
      blanks lines
      let _ ← name
      readCall lines fuel
    | _ =>
      symbol lines '('
      readArgs fuel

/-- Reads arguments up to the closing parenthesis. Dots may follow the last one. -/
def readArgs : Nat → Reader Unit
  | 0 => failure
  | fuel + 1 => do
    match ← ahead false with
    | ')' :: _ => skip 1
    | _ =>
      let _ ← readExpr false fuel
      match ← ahead false with
      | ',' :: _ =>
        skip 1
        readArgs fuel
      | '.' :: '.' :: '.' :: _ =>
        skip 3
        symbol false ')'
      | _ => symbol false ')'

def readItems : Nat → Reader (List Expr)
  | 0 => failure
  | fuel + 1 => do
    match ← ahead false with
    | ']' :: _ =>
      skip 1
      return []
    | _ =>
      let e ← readExpr false fuel
      match ← ahead false with
      | ',' :: _ =>
        skip 1
        return e :: (← readItems fuel)
      | _ =>
        symbol false ']'
        return [e]

/-- Reads keys and values up to a closing brace. An entry ends with a comma or a line end. -/
def readEntries : Nat → Reader (List (Expr × Expr))
  | 0 => failure
  | fuel + 1 => do
    match ← ahead true with
    | '\n' :: _ | '\r' :: '\n' :: _ =>
      lineEnd
      readEntries fuel
    | '\x7d' :: _ =>
      skip 1
      return []
    | [] => failure
    | _ =>
      let key ← readExpr true fuel
      match ← ahead true with
      | ':' :: ':' :: _ | '=' :: '=' :: _ | '=' :: '>' :: _ => failure
      | ':' :: _ | '=' :: _ => skip 1
      | _ => failure
      let value ← readExpr true fuel
      match ← ahead true with
      | '\x7d' :: _ =>
        skip 1
        return [(key.asKey, value)]
      | ',' :: _ =>
        skip 1
        return (key.asKey, value) :: (← readEntries fuel)
      | [] => failure
      | _ =>
        lineEnd
        return (key.asKey, value) :: (← readEntries fuel)

def readBinding : Nat → Reader (Option String × String × Expr)
  | 0 => failure
  | fuel + 1 => do
    blanks false
    let first ← name
    let (key, value) ← match ← ahead false with
      | ',' :: _ => do
        skip 1
        blanks false
        pure (some first, ← name)
      | _ => pure (none, first)
    word false "in"
    return (key, value, ← readExpr false fuel)

/-- Reads a repetition up to its closing bracket. Only one in braces has keys. -/
def readFor (close : Char) : Nat → Reader Expr
  | 0 => failure
  | fuel + 1 => do
    word false "for"
    let (key, value, source) ← readBinding fuel
    symbol false ':'
    if (← get).head? = some ':' then failure
    let first ← readExpr false fuel
    let (eachKey, each) ← match ← ahead false with
      | '=' :: '>' :: _ => do
        skip 2
        pure (some first, ← readExpr false fuel)
      | _ => pure (none, first)
    let isGrouped ← match ← ahead false with
      | '.' :: '.' :: '.' :: _ => do
        skip 3
        pure true
      | _ => pure false
    let condition ← if ← nextIsWord false "if" then do
        word false "if"
        readExpr false fuel
      else pure (.bool true)
    symbol false close
    match eachKey with
    | none =>
      if close = '\x7d' || isGrouped then failure
      return .forTuple key value source each condition
    | some eachKey =>
      if close = ']' then failure
      return .forObject key value source eachKey each condition isGrouped

/-- Reads the pieces of a template up to its end. In a long text, `isStart` tells whether a line starts
here. -/
def readPieces (stop : TemplateEnd) (isStart : Bool) : Nat → Reader (List Piece)
  | 0 => failure
  | fuel + 1 => do
    match ← get with
    | '$' :: '\x7b' :: rest =>
      skip (if rest.head? = some '~' then 3 else 2)
      let e ← readExpr false fuel
      let trims ← closeBrace
      return .directive (.value e) (rest.head? = some '~') trims :: (← readPieces stop false fuel)
    | '%' :: '\x7b' :: rest =>
      skip (if rest.head? = some '~' then 3 else 2)
      let d ← readDirective fuel
      let trims ← closeBrace
      return .directive d (rest.head? = some '~') trims :: (← readPieces stop false fuel)
    | '$' :: _ => return .literal (← mark '$') :: (← readPieces stop false fuel)
    | '%' :: _ => return .literal (← mark '%') :: (← readPieces stop false fuel)
    | [] => failure
    | c :: _ =>
      match stop with
      | .quote =>
        if c = '"' then
          skip 1
          return []
        else if c = '\n' || c = '\r' then failure
        else return .literal (← quotedChars fuel) :: (← readPieces stop false fuel)
      | .marker cs =>
        let before ← get
        let line ← lineChars
        let endsLine := line.getLast? = some '\n'
        if isStart && endsLine && trim line = cs then
          set (before.drop (line.length - if line.contains '\r' then 2 else 1))
          return []
        else return .literal line :: (← readPieces stop endsLine fuel)
where
  /-- Reads a closing brace, perhaps with a mark that takes off white space behind it. -/
  closeBrace : Reader Bool := do
    match ← ahead false with
    | '~' :: '\x7d' :: _ =>
      skip 2
      return true
    | _ =>
      symbol false '\x7d'
      return false

def readDirective : Nat → Reader Directive
  | 0 => failure
  | fuel + 1 => do
    blanks false
    match ← name with
    | "if" => return .ifStart (← readExpr false fuel)
    | "else" => return .otherwise
    | "endif" => return .ifEnd
    | "for" =>
      let (key, value, source) ← readBinding fuel
      return .forStart key value source
    | "endfor" => return .forEnd
    | _ => failure

end

def isPlain (pieces : List Piece) : Bool := pieces.all fun
  | .literal _ => true
  | .directive _ _ _ => false

def readLabels : Nat → Reader Unit
  | 0 => failure
  | fuel + 1 => do
    match ← ahead true with
    | '\x7b' :: _ => skip 1
    | '"' :: _ =>
      skip 1
      if !isPlain (← readPieces .quote true fuel) then failure
      readLabels fuel
    | _ =>
      let _ ← name
      readLabels fuel

def readAttribute (fuel : Nat) : Reader Expr := do
  symbol true '='
  match ← get with
  | '=' :: _ | '>' :: _ => failure
  | _ => readExpr true fuel

/-- Reads attributes and blocks up to the end of the text, or the end of a block. A name that was given a
value cannot be given another one. -/
def readBody (isBlock : Bool) : Nat → Document → Reader Document
  | 0, _ => failure
  | fuel + 1, doc => do
    match ← ahead true with
    | [] => if isBlock then failure else return doc
    | '\n' :: _ | '\r' :: '\n' :: _ =>
      lineEnd
      readBody isBlock fuel doc
    | '\x7d' :: _ =>
      if isBlock then
        skip 1
        return doc
      else failure
    | _ =>
      let word ← name
      match ← ahead true with
      | '=' :: _ =>
        let value ← readAttribute fuel
        lineEnd
        if doc.attributes.any (·.1 = word) then failure
        readBody isBlock fuel { doc with attributes := doc.attributes ++ [(word, value)] }
      | _ =>
        readLabels fuel
        readBlock fuel
        lineEnd
        readBody isBlock fuel { doc with hasBlocks := true }
where
  /-- Reads a block behind its opening brace. On one line it holds at most one attribute. -/
  readBlock : Nat → Reader Unit
    | 0 => failure
    | fuel + 1 => do
      match ← ahead true with
      | '\n' :: _ | '\r' :: '\n' :: _ | '\x7d' :: _ =>
        let _ ← readBody true fuel {}
      | _ =>
        let _ ← name
        let _ ← readAttribute fuel
        symbol true '\x7d'

/-- Reads a settings file; none if it cannot be read. A mark of byte order at its start is left out. -/
def Document.read? (content : Bytes) : Option Document := do
  let decoded := Encoding.decode content
  let cs := if decoded.chars.head? = some '\ufeff' then decoded.chars.drop 1 else decoded.chars
  let (doc, _) ← (readBody false (8 * cs.length + 16) {}).run cs
  return { doc with standIns := decoded.standIns }

end ServiceAnnotations.Settings
