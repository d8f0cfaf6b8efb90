import ServiceAnnotations.Companion.File
import ServiceAnnotations.Proofs.Companion.Functions

/-! # What formatting functions do

A file of formatting functions, as a writer has to write it, is read back as functions that put texts together. Called
with a struct value, such a function returns the name of the type and, in braces, the fields that it shows, with
separators between them. -/
namespace ServiceAnnotations.Companion
open Source Text ServiceAnnotations.Types

structure FormatFunction where
  name : String
  type : String
  steps : List FormatStep

/-- The tokens of the name of a function, which may be qualified. -/
def pathPieces : List String → List Piece
  | [] => []
  | name :: rest => (.word, name.toList) :: rest.flatMap fun n => [sign ".", (.word, n.toList)]

namespace FormatStep

/-- The tokens of a statement, given the name of the function that shows values. -/
def pieces (sprint : List String) : FormatStep → List Piece
  | begin text => [(.word, ['s']), sign ":=", (.string, (Quoted.string text).toList)]
  | append text => [(.word, ['s']), sign "+=", (.string, (Quoted.string text).toList)]
  | appendField label field =>
    (.word, ['s']) :: sign "+=" :: (.string, (Quoted.string label).toList) :: sign "+" ::
      (pathPieces sprint ++ [sign "(", (.word, ['v']), sign ".", (.word, field.toList), sign ")"])
  | finish => [(.keyword, "return".toList), (.word, ['s'])]

def statement (sprint : List String) : FormatStep → Statement
  | begin text => .define "s" [.text (Bytes.ofString text)]
  | append text => .append "s" [.text (Bytes.ofString text)]
  | appendField label field => .append "s" [.text (Bytes.ofString label), .call sprint "v" field]
  | finish => .give "s"

end FormatStep

/-- The tokens of statements on lines of their own. -/
def linesOf (sprint : List String) (steps : List FormatStep) : List Piece :=
  steps.flatMap fun step => step.pieces sprint ++ [lineEnd]

namespace FormatFunction

def declaration (f : FormatFunction) : Declaration := .formatFunction f.name f.type f.steps

def ShowsField (f : FormatFunction) : Prop := ∃ label field, .appendField label field ∈ f.steps

/-- The names in a formatting function are words. -/
structure IsSpelled (f : FormatFunction) : Prop where
  name : IsWord f.name.toList
  type : IsWord f.type.toList
  fields : ∀ label field, .appendField label field ∈ f.steps → IsWord field.toList

def head (f : FormatFunction) : List Piece :=
  [(.keyword, "func".toList), (.word, f.name.toList), sign "(", (.word, ['v']), (.word, f.type.toList), sign ")",
    (.word, "string".toList), sign "\x7b"]

/-- The tokens of a function, given the name of the function that shows values. -/
def pieces (sprint : List String) (f : FormatFunction) : List Piece :=
  f.head ++ (linesOf sprint f.steps ++ [sign "\x7d"])

def textFunction (sprint : List String) (f : FormatFunction) : TextFunction :=
  ⟨f.name, "v", f.type, "string", f.steps.map (FormatStep.statement sprint)⟩

end FormatFunction

/-- The tokens of an import, with a name that stands for the package unless it is the package's own. -/
def importPieces (i : Option String × String) : List Piece :=
  (.keyword, "import".toList) :: (i.1.map fun n => (TokenKind.word, n.toList)).toList ++
    [(.string, (Quoted.string i.2).toList)]

def filePieces (package : String) (imports : List (Option String × String)) (functions : List (List Piece)) :
    List Piece :=
  [(.keyword, "package".toList), (.word, package.toList), lineEnd] ++
    (imports.flatMap (importPieces · ++ [lineEnd]) ++ functions.flatMap (· ++ [lineEnd]))

/-- How the files of the package at a path call the function that shows values: in its own package by its name, else by
that name and the one under which they import its package. That one is the name of no variable. -/
inductive Reaches (path : String) : (imports : List (Option String × String)) → (sprint : List String) → Prop
  | own (h : path = "fmt") : Reaches path [] ["Sprint"]
  | imported {name : Option String} (hother : path ≠ "fmt") (hvariables : name.getD "fmt" ∉ ["v", "s"]) :
      Reaches path [(name, "fmt")] [name.getD "fmt", "Sprint"]

/-- What is relied on of a writer: a file of functions consists of the package's name, what the functions need to import,
and the functions, each with its head and its statements in braces. -/
def Writer.WritesFunctions (w : Writer) : Prop :=
  ∀ (path package : String) (fs : List FormatFunction), IsWord package.toList → (∀ f ∈ fs, f.IsSpelled) →
    ∃ text imports sprint,
      w.content ⟨path, package, fs.map FormatFunction.declaration⟩ = .ok (Bytes.ofString text) ∧
      (tokens text.toList).map Token.piece = filePieces package imports (fs.map (FormatFunction.pieces sprint)) ∧
      ((∃ f ∈ fs, f.ShowsField) → Reaches path imports sprint) ∧ ((∀ f ∈ fs, ¬ f.ShowsField) → imports = [])

theorem splitOn_append {α : Type} [BEq α] [LawfulBEq α] {l : List α} {a : α} (h : ∀ t ∈ l, t ≠ a) (rest : List α) :
    (l ++ a :: rest).splitOn a = l :: rest.splitOn a :=
  List.splitOnP_append_cons_of_forall_mem (fun t ht => by simpa using h t ht) a (by simp) rest

/-- Parts with the same element behind each of them. -/
theorem splitOn_flatMap {α β : Type} [BEq α] [LawfulBEq α] {part : β → List α} {a : α} (bs : List β)
    (h : ∀ b ∈ bs, ∀ t ∈ part b, t ≠ a) (rest : List α) :
    (bs.flatMap (part · ++ [a]) ++ rest).splitOn a = bs.map part ++ rest.splitOn a := by
  induction bs with
  | nil => rfl
  | cons b bs ih =>
    obtain ⟨hb, hbs⟩ := List.forall_mem_cons.mp h
    have hfirst := splitOn_append hb (bs.flatMap (part · ++ [a]) ++ rest)
    rw [ih hbs] at hfirst
    simpa using hfirst

theorem mapM_map_eq_some {α β γ : Type} {f : β → Option γ} {g : α → β} {k : α → γ} {as : List α}
    (h : ∀ a ∈ as, f (g a) = some (k a)) : (as.map g).mapM f = some (as.map k) := by
  induction as with
  | nil => rfl
  | cons a as ih =>
    obtain ⟨ha, has⟩ := List.forall_mem_cons.mp h
    simp [ha, ih has]

/-- A dot goes on with the name of a function if more than an argument comes behind it. -/
theorem callOf?_dot {function : List String} {name : List Char} {rest : List Piece} (h : 3 < rest.length) :
    callOf? function (sign "." :: (.word, name) :: rest) = callOf? (function ++ [String.ofList name]) rest := by
  match rest, h with
  | a :: b :: c :: d :: rest, _ => simp [callOf?]

theorem callOf?_path {function names : List String} {value field : List Char} :
    callOf? function ((names.flatMap fun n => [sign ".", (.word, n.toList)]) ++
        [sign "(", (.word, value), sign ".", (.word, field), sign ")"]) =
      some (.call (function ++ names) (String.ofList value) (String.ofList field)) := by
  induction names generalizing function with
  | nil => simp [callOf?]
  | cons n names ih =>
    change callOf? function (sign "." :: (.word, n.toList) :: (names.flatMap _ ++ _)) = _
    rw [callOf?_dot (by simp), ih, String.ofList_toList, List.append_assoc, List.singleton_append]

theorem literalOf?_string (s : String) : literalOf? (Quoted.string s).toList = some (Bytes.ofString s) := by
  rw [literalOf?, if_pos (by simp [Quoted.string]), Quoted.quoted_string]

theorem operandOf?_string (s : String) :
    operandOf? [(.string, (Quoted.string s).toList)] = some (.text (Bytes.ofString s)) := by
  rw [operandOf?, literalOf?_string, Option.map_some]

theorem operandsOf?_string (s : String) :
    operandsOf? [(.string, (Quoted.string s).toList)] = some [.text (Bytes.ofString s)] := by
  rw [operandsOf?, List.splitOn, List.splitOnP_eq_singleton (by simp [sign])]
  simp [operandOf?_string]

/-- A text and the value of a field behind it. -/
theorem operandsOf?_call (label : String) {sprint : List String} (hne : sprint ≠ []) (field : String) :
    operandsOf? ((.string, (Quoted.string label).toList) :: sign "+" ::
        (pathPieces sprint ++ [sign "(", (.word, ['v']), sign ".", (.word, field.toList), sign ")"])) =
      some [.text (Bytes.ofString label), .call sprint "v" field] := by
  obtain ⟨name, names, rfl⟩ := List.exists_cons_of_ne_nil hne
  have hplus : ∀ t ∈ pathPieces (name :: names) ++
      [sign "(", (.word, ['v']), sign ".", (.word, field.toList), sign ")"], (t == sign "+") = false := by
    simp only [List.forall_mem_append, pathPieces, List.forall_mem_cons, List.forall_mem_flatMap]
    simp [sign]
  have hcall : operandOf? (pathPieces (name :: names) ++
      [sign "(", (.word, ['v']), sign ".", (.word, field.toList), sign ")"]) = some (.call (name :: names) "v" field) := by
    change callOf? [String.ofList name.toList] (names.flatMap _ ++ _) = _
    rw [callOf?_path, String.ofList_toList, String.ofList_toList]
    rfl
  have hsplit := splitOn_append (List.forall_mem_singleton.mpr
    (show (TokenKind.string, (Quoted.string label).toList) ≠ sign "+" by simp [sign]))
  rw [operandsOf?, ← List.singleton_append, hsplit, List.splitOn, List.splitOnP_eq_singleton hplus]
  simp [operandOf?_string, hcall]

section
variable {sprint : List String}

/-- A statement shows a field only if there is a function that shows values. -/
def FormatStep.CanBeRead (sprint : List String) : FormatStep → Prop
  | appendField _ _ => sprint ≠ []
  | _ => True

theorem statementOf?_pieces {step : FormatStep} (h : step.CanBeRead sprint) :
    statementOf? (step.pieces sprint) = some (step.statement sprint) := by
  have hne : sign "+=" ≠ sign ":=" := by decide
  cases step with
  | begin text => simp [FormatStep.pieces, FormatStep.statement, statementOf?, operandsOf?_string]
  | append text => simp [FormatStep.pieces, FormatStep.statement, statementOf?, operandsOf?_string, hne]
  | appendField label field =>
    simp [FormatStep.pieces, FormatStep.statement, statementOf?, operandsOf?_call label h field, hne]
  | finish => simp [FormatStep.pieces, FormatStep.statement, statementOf?]

/-- A statement starts with a word or a keyword, and ends on its line. -/
theorem lineEnd_notMem_pieces (step : FormatStep) : ∀ t ∈ step.pieces sprint, t ≠ lineEnd := by
  cases step with
  | appendField label field =>
    cases sprint <;>
      simp only [FormatStep.pieces, pathPieces, List.nil_append, List.cons_append, List.forall_mem_cons,
        List.forall_mem_append, List.forall_mem_flatMap] <;> simp [sign, lineEnd]
  | _ => simp [FormatStep.pieces, sign, lineEnd]

theorem pieces_ne_brace (step : FormatStep) : step.pieces sprint ≠ [sign "\x7d"] := by
  cases step <;> simp [FormatStep.pieces]

namespace FormatFunction

/-- The lines of a function, without the brace that closes it. -/
def lines (sprint : List String) (f : FormatFunction) : List (List Piece) :=
  match f.steps with
  | [] => [f.head]
  | first :: rest => (f.head ++ first.pieces sprint) :: rest.map (FormatStep.pieces sprint)

theorem splitOn_pieces {f : FormatFunction} (h : f.steps ≠ []) (rest : List Piece) :
    (f.pieces sprint ++ lineEnd :: rest).splitOn lineEnd =
      f.lines sprint ++ [sign "\x7d"] :: rest.splitOn lineEnd := by
  obtain ⟨first, steps, hsteps⟩ := List.exists_cons_of_ne_nil h
  have hhead : ∀ t ∈ f.head ++ first.pieces sprint, t ≠ lineEnd := by
    refine List.forall_mem_append.mpr ⟨?_, lineEnd_notMem_pieces first⟩
    simp [head, sign, lineEnd]
  have hall : f.pieces sprint ++ lineEnd :: rest =
      (f.head ++ first.pieces sprint) ++ lineEnd :: (linesOf sprint steps ++ ([sign "\x7d"] ++ lineEnd :: rest)) := by
    simp [pieces, hsteps, linesOf]
  have hbrace : ([sign "\x7d"] ++ lineEnd :: rest).splitOn lineEnd = [sign "\x7d"] :: rest.splitOn lineEnd :=
    splitOn_append (List.forall_mem_singleton.mpr (by decide)) rest
  rw [hall, splitOn_append hhead, linesOf, splitOn_flatMap steps fun step _ => lineEnd_notMem_pieces step, hbrace,
    lines, hsteps]
  rfl

theorem brace_notMem_lines (f : FormatFunction) : ∀ l ∈ f.lines sprint, l ≠ [sign "\x7d"] := by
  unfold lines
  split
  · simp [head]
  · exact List.forall_mem_cons.mpr ⟨by simp [head], List.forall_mem_map.mpr fun step _ => pieces_ne_brace step⟩

theorem ofLines?_lines {f : FormatFunction} (hne : f.steps ≠ []) (h : ∀ step ∈ f.steps, step.CanBeRead sprint) :
    TextFunction.ofLines? (f.lines sprint) = some (f.textFunction sprint) := by
  obtain ⟨first, rest, hsteps⟩ := List.exists_cons_of_ne_nil hne
  have hread := mapM_map_eq_some fun step hstep => statementOf?_pieces (h step hstep)
  rw [hsteps, List.map_cons] at hread
  simp only [lines, hsteps]
  change ((first.pieces sprint :: rest.map (FormatStep.pieces sprint)).mapM statementOf?).map _ = _
  rw [hread]
  simp [textFunction, hsteps]

end FormatFunction

theorem functionsOf?_lines {fs : List FormatFunction} (hne : ∀ f ∈ fs, f.steps ≠ [])
    (h : ∀ f ∈ fs, ∀ step ∈ f.steps, step.CanBeRead sprint) :
    functionsOf? ((fs.flatMap (FormatFunction.pieces sprint · ++ [lineEnd])).splitOn lineEnd) =
      some (fs.map (FormatFunction.textFunction sprint)) := by
  have hsplit : ∀ fs : List FormatFunction, (∀ f ∈ fs, f.steps ≠ []) →
      ((fs.flatMap (FormatFunction.pieces sprint · ++ [lineEnd])).splitOn lineEnd).splitOn [sign "\x7d"] =
        fs.map (FormatFunction.lines sprint) ++ [[[]]] := by
    intro fs hne
    induction fs with
    | nil => rfl
    | cons f fs ih =>
      obtain ⟨hf, hfs⟩ := List.forall_mem_cons.mp hne
      rw [List.flatMap_cons, List.append_assoc, List.singleton_append, FormatFunction.splitOn_pieces hf,
        splitOn_append f.brace_notMem_lines, ih hfs]
      rfl
  have hread := mapM_map_eq_some fun f hf => FormatFunction.ofLines?_lines (hne f hf) (h f hf)
  rw [functionsOf?, hsplit fs hne, List.reverse_append]
  change (fs.map (FormatFunction.lines sprint)).reverse.reverse.mapM _ = _
  rw [List.reverse_reverse, hread]

def Import.of (i : Option String × String) : Import := ⟨i.1, Bytes.ofString i.2⟩

theorem ofLine?_importPieces (i : Option String × String) : Import.ofLine? (importPieces i) = some (.of i) := by
  obtain ⟨name | name, path⟩ := i <;> simp [importPieces, Import.ofLine?, Import.of, literalOf?_string]

theorem lineEnd_notMem_importPieces (i : Option String × String) : ∀ t ∈ importPieces i, t ≠ lineEnd := by
  obtain ⟨name | name, path⟩ := i <;> simp [importPieces, lineEnd]

/-- The imports stand before the first line that is none. -/
theorem span_imports (imports : List (Option String × String)) {lines : List (List Piece)}
    (h : ∀ l ∈ lines.head?, isImport l = false) :
    (imports.map importPieces ++ lines).takeWhile isImport = imports.map importPieces ∧
      (imports.map importPieces ++ lines).dropWhile isImport = lines := by
  have himports : ∀ l ∈ imports.map importPieces, isImport l = true :=
    List.forall_mem_map.mpr fun i _ => by simp [importPieces, isImport]
  rw [List.takeWhile_append_of_pos himports, List.dropWhile_append_of_pos himports]
  cases lines with
  | nil => exact ⟨List.append_nil _, rfl⟩
  | cons l lines =>
    have hl := h l rfl
    rw [List.takeWhile_cons, List.dropWhile_cons, hl]
    exact ⟨List.append_nil _, rfl⟩

theorem isImport_keyword {keyword : String} (h : keyword ≠ "import") (line : List Piece) :
    isImport ((.keyword, keyword.toList) :: line) = false :=
  decide_eq_false fun heq => h (String.toList_injective (Prod.mk.inj (Option.some.inj heq)).2)

/-- A file of formatting functions is read as what its functions do. -/
theorem read?_of_pieces {text package : String} {imports : List (Option String × String)} {fs : List FormatFunction}
    (htext : (tokens text.toList).map Token.piece =
      filePieces package imports (fs.map (FormatFunction.pieces sprint)))
    (hne : ∀ f ∈ fs, f.steps ≠ []) (h : ∀ f ∈ fs, ∀ step ∈ f.steps, step.CanBeRead sprint) :
    TextFile.read? text =
      some ⟨package, imports.map Import.of, fs.map (FormatFunction.textFunction sprint)⟩ := by
  have hsplit : (filePieces package imports (fs.map (FormatFunction.pieces sprint))).splitOn lineEnd =
      [(.keyword, "package".toList), (.word, package.toList)] :: (imports.map importPieces ++
        (fs.flatMap (FormatFunction.pieces sprint · ++ [lineEnd])).splitOn lineEnd) := by
    have hclause : ∀ t ∈ [(TokenKind.keyword, "package".toList), (.word, package.toList)], t ≠ lineEnd := by
      simp [lineEnd]
    rw [← splitOn_flatMap imports fun i _ => lineEnd_notMem_importPieces i, ← splitOn_append hclause, filePieces,
      List.flatMap_map]
    rfl
  have hfirst : ∀ l ∈ ((fs.flatMap (FormatFunction.pieces sprint · ++ [lineEnd])).splitOn lineEnd).head?,
      isImport l = false := by
    cases fs with
    | nil =>
      rintro _ ⟨⟩
      rfl
    | cons f fs =>
      obtain ⟨first, rest, hsteps⟩ := List.exists_cons_of_ne_nil (hne f List.mem_cons_self)
      rw [List.flatMap_cons, List.append_assoc, List.singleton_append,
        FormatFunction.splitOn_pieces (hne f List.mem_cons_self), FormatFunction.lines, hsteps]
      rintro _ ⟨⟩
      exact isImport_keyword (by decide) _
  obtain ⟨htake, hdrop⟩ := span_imports imports hfirst
  have hread := mapM_map_eq_some fun i (_ : i ∈ imports) => ofLine?_importPieces i
  rw [TextFile.read?, htext, hsplit, TextFile.ofLines?, if_pos rfl, htake, hdrop, hread, functionsOf?_lines hne h]
  simp

end

/-- The text that shows fields of a struct: each with its name, with separators between them, in braces behind the name
of the type. -/
def formatted (type : String) (fields : List (String × Bytes)) : Bytes :=
  Bytes.ofString (type ++ "\x7b ") ++
    Bytes.join (Bytes.ofString ", ") (fields.map fun f => Bytes.ofString (f.1 ++ "=") ++ f.2) ++ Bytes.ofString " \x7d"

/-- The statements that show fields, where `separator` comes before the first of them and a comma before the others. -/
def fieldSteps (separator : String) : List String → List FormatStep
  | [] => []
  | field :: rest => .appendField (separator ++ field ++ "=") field :: fieldSteps ", " rest

/-- The statements of a function that shows fields. -/
def formatSteps (type : String) (shown : List String) : List FormatStep :=
  .begin (type ++ "\x7b ") :: (fieldSteps "" shown ++ [.append " \x7d", .finish])

theorem mem_fieldSteps {step : FormatStep} {separator : String} {shown : List String}
    (h : step ∈ fieldSteps separator shown) : ∃ label, ∃ field ∈ shown, step = .appendField label field := by
  induction shown generalizing separator with
  | nil => cases h
  | cons first rest ih =>
    rcases List.mem_cons.mp h with rfl | h
    · exact ⟨_, first, List.mem_cons_self, rfl⟩
    · obtain ⟨label, field, hfield, rfl⟩ := ih h
      exact ⟨label, field, List.mem_cons_of_mem _ hfield, rfl⟩

theorem mem_shown_of_mem_formatSteps {label field type : String} {shown : List String}
    (h : .appendField label field ∈ formatSteps type shown) : field ∈ shown := by
  simp only [formatSteps, List.mem_cons, List.mem_append, reduceCtorEq, List.not_mem_nil, false_or, or_false] at h
  obtain ⟨_, _, hfield, heq⟩ := mem_fieldSteps h
  cases heq
  exact hfield

theorem ofString_append (s s' : String) : Bytes.ofString (s ++ s') = Bytes.ofString s ++ Bytes.ofString s' := by
  simp [Bytes.ofString]

/-- Texts with separators between them, and another separator before them unless there are none. -/
def joinBehind (separator : Bytes) (texts : List Bytes) : Bytes :=
  if texts = [] then [] else separator ++ Bytes.join (Bytes.ofString ", ") texts

theorem joinBehind_cons (separator x : Bytes) (texts : List Bytes) :
    joinBehind separator (x :: texts) = separator ++ x ++ joinBehind (Bytes.ofString ", ") texts := by
  cases texts with
  | nil => simp [joinBehind, Bytes.join]
  | cons y texts => simp [joinBehind, Bytes.join_cons]

theorem joinBehind_nil (texts : List Bytes) : joinBehind [] texts = Bytes.join (Bytes.ofString ", ") texts := by
  cases texts <;> simp [joinBehind, Bytes.join]

section
variable {V : Type} {site : CallSite V} {function? : List String → Option (V → Bytes)}

def withText (b : Bytes) : String → Option Bytes := Function.update (fun _ => none) "s" (some b)

theorem withText_apply (b : Bytes) (n : String) : withText b n = if n = "s" then some b else none := by
  rw [withText, Function.update_apply]

theorem update_withText (b more : Bytes) : Function.update (withText b) "s" (some more) = withText more :=
  Function.update_idem _ _ _

theorem run_define (text : String) (rest : List Statement) :
    runStatements? site function? "v" (fun _ => none) (.define "s" [.text (Bytes.ofString text)] :: rest) =
      runStatements? site function? "v" (withText (Bytes.ofString text)) rest := by
  simp [runStatements?, valueOf?, Operand.value?, withText]

theorem run_append (b : Bytes) {operands : List Operand} {more : Bytes}
    (h : valueOf? site function? "v" (withText b) operands = some more) (rest : List Statement) :
    runStatements? site function? "v" (withText b) (.append "s" operands :: rest) =
      runStatements? site function? "v" (withText (b ++ more)) rest := by
  rw [runStatements?, h, withText_apply, if_pos rfl]
  simp [update_withText]

variable {sprint : List String} {display : V → Bytes} {value : String → V}

/-- A path stands for a function that shows values, and no variable of a formatting function hides it. -/
structure Shows (function? : List String → Option (V → Bytes)) (sprint : List String) (display : V → Bytes) : Prop where
  shows : function? sprint = some display
  free : ∀ n ∈ sprint.head?, n ∉ ["v", "s"]

theorem valueOf?_field (hshows : Shows function? sprint display) (b : Bytes) (label : String) {field : String}
    (hfield : field ≠ "_" ∧ site.fields field = some (value field)) :
    valueOf? site function? "v" (withText b) [.text (Bytes.ofString label), .call sprint "v" field] =
      some (Bytes.ofString label ++ display (value field)) := by
  have hfree : (sprint.head?.any fun n => n = "v" || (withText b n).isSome) = false := by
    rw [Option.any_eq_false]
    intro n hn
    have hn := hshows.free n hn
    simp only [List.mem_cons, List.not_mem_nil, or_false, not_or] at hn
    simp [hn, withText_apply]
  simp [valueOf?, Operand.value?, hfield, hshows.shows, hfree]

/-- Statements that show fields, whichever separator comes before the first one. -/
theorem run_fieldSteps {shown : List String} (hshows : shown ≠ [] → Shows function? sprint display)
    (hfields : ∀ field ∈ shown, field ≠ "_" ∧ site.fields field = some (value field)) (separator : String) (b : Bytes)
    (rest : List Statement) :
    runStatements? site function? "v" (withText b)
        ((fieldSteps separator shown).map (FormatStep.statement sprint) ++ rest) =
      runStatements? site function? "v" (withText (b ++ joinBehind (Bytes.ofString separator)
        (shown.map fun field => Bytes.ofString (field ++ "=") ++ display (value field)))) rest := by
  induction shown generalizing separator b with
  | nil => simp [fieldSteps, joinBehind]
  | cons field shown ih =>
    have hshows := hshows (List.cons_ne_nil field shown)
    obtain ⟨hfield, hfields⟩ := List.forall_mem_cons.mp hfields
    rw [fieldSteps, List.map_cons, List.cons_append, FormatStep.statement,
      run_append b (valueOf?_field hshows b _ hfield), ih (fun _ => hshows) hfields, List.map_cons, joinBehind_cons,
      String.append_assoc, ofString_append]
    simp

/-- A function returns the fields that it shows. -/
theorem run_formatSteps {shown : List String} (hshows : shown ≠ [] → Shows function? sprint display)
    (hfields : ∀ field ∈ shown, field ≠ "_" ∧ site.fields field = some (value field)) (type : String) :
    runStatements? site function? "v" (fun _ => none)
        ((formatSteps type shown).map (FormatStep.statement sprint)) =
      some (formatted type (shown.map fun field => (field, display (value field)))) := by
  have hend : ∀ b : Bytes, runStatements? site function? "v" (withText b)
      ([.append " \x7d", .finish].map (FormatStep.statement sprint)) = some (b ++ Bytes.ofString " \x7d") := by
    intro b
    exact run_append b (by simp [valueOf?, Operand.value?]) _
  have hempty : Bytes.ofString "" = [] := by decide
  rw [formatSteps, List.map_cons, FormatStep.statement, run_define, List.map_append, run_fieldSteps hshows hfields, hend,
    hempty, joinBehind_nil, formatted, List.map_map]
  rfl

end

/-- A function of a package is called with a value of a struct type, where `display` is the function that shows
values. -/
structure CallSite.IsFor {V : Type} (site : CallSite V) (pkg : Package) (type : String) (display : V → Bytes) :
    Prop where
  own : site.own = Bytes.ofString pkg.path
  declares : ∀ n, site.declares n = (pkg.object? n).isSome
  type : site.type = type
  packageName : site.packageName? (Bytes.ofString "fmt") = some "fmt"
  display : site.function? (Bytes.ofString "fmt") "Sprint" = some display

section
variable {V : Type} {site : CallSite V} {pkg : Package} {display : V → Bytes} {type : String}
  {imports : List (Option String × String)} {sprint : List String}

theorem name?_of (hsite : site.IsFor pkg type display) (name : Option String) :
    Import.name? site ⟨name, Bytes.ofString "fmt"⟩ = some (name.getD "fmt") := by
  cases name with
  | none => exact hsite.packageName
  | some name => rfl

theorem shows_of_reaches (hsite : site.IsFor pkg type display) (h : Reaches pkg.path imports sprint) (package : String)
    (functions : List TextFunction) :
    Shows (TextFile.function? site ⟨package, imports.map Import.of, functions⟩) sprint display := by
  cases h with
  | own hpath =>
    refine ⟨?_, by simp⟩
    change site.function? site.own "Sprint" = _
    rw [hsite.own, hpath, hsite.display]
  | @imported name hother hvariables =>
    refine ⟨?_, by simpa using hvariables⟩
    simp [TextFile.function?, name?_of hsite, Import.of, hsite.display]

theorem uses_of_showsField {f : FormatFunction} (h : f.ShowsField) (qualifier name : String) :
    (f.textFunction [qualifier, name]).uses qualifier = true := by
  obtain ⟨label, field, hstep⟩ := h
  rw [TextFunction.uses, List.any_eq_true]
  refine ⟨.call [qualifier, name] "v" field, List.mem_flatMap.mpr ⟨_, List.mem_map_of_mem hstep, ?_⟩, by simp⟩
  exact List.mem_cons_of_mem _ List.mem_cons_self

variable {fs : List FormatFunction}

theorem importsUsed_of_reaches (hsite : site.IsFor pkg type display) (package : String)
    (hreaches : (∃ f ∈ fs, f.ShowsField) → Reaches pkg.path imports sprint)
    (hnone : (∀ f ∈ fs, ¬ f.ShowsField) → imports = []) :
    TextFile.importsUsed site
      ⟨package, imports.map Import.of, fs.map (FormatFunction.textFunction sprint)⟩ = true := by
  by_cases hshows : ∃ f ∈ fs, f.ShowsField
  · cases hreaches hshows with
    | own => rfl
    | @imported name hother hvariables =>
      obtain ⟨f, hf, hfield⟩ := hshows
      have hused := uses_of_showsField hfield (name.getD "fmt") "Sprint"
      simp only [TextFile.importsUsed, List.map_cons, List.map_nil, List.all_cons, List.all_nil, Import.of,
        name?_of hsite, Option.any_some, List.any_map]
      simpa using ⟨f, hf, hused⟩
  · obtain rfl := hnone fun f hf hfield => hshows ⟨f, hf, hfield⟩
    rfl

/-- The statements of a formatting function return the fields that it shows. -/
theorem execute?_textFunction {f : FormatFunction} (hsite : site.IsFor pkg f.type display) (package : String)
    (hreaches : (∃ f ∈ fs, f.ShowsField) → Reaches pkg.path imports sprint) (hf : f ∈ fs) {shown : List String}
    (hsteps : f.steps = formatSteps f.type shown) {value : String → V}
    (hfields : ∀ field ∈ shown, field ≠ "_" ∧ site.fields field = some (value field)) :
    TextFile.execute? site ⟨package, imports.map Import.of, fs.map (FormatFunction.textFunction sprint)⟩
        (f.textFunction sprint) =
      some (formatted f.type (shown.map fun field => (field, display (value field)))) := by
  have hshows : shown ≠ [] → Shows (TextFile.function? site
      ⟨package, imports.map Import.of, fs.map (FormatFunction.textFunction sprint)⟩) sprint display := by
    intro hne
    obtain ⟨first, rest, rfl⟩ := List.exists_cons_of_ne_nil hne
    have hfield : f.ShowsField := ⟨"" ++ first ++ "=", first, by rw [hsteps]; simp [formatSteps, fieldSteps]⟩
    exact shows_of_reaches hsite (hreaches ⟨f, hf, hfield⟩) _ _
  rw [TextFile.execute?, FormatFunction.textFunction, hsteps]
  exact run_formatSteps hshows hfields f.type

/-- A formatting function can be called where the names of its file fit. -/
theorem call?_textFunction {f : FormatFunction} (hsite : site.IsFor pkg f.type display) (package : String)
    (hreaches : (∃ f ∈ fs, f.ShowsField) → Reaches pkg.path imports sprint)
    (hnone : (∀ f ∈ fs, ¬ f.ShowsField) → imports = []) :
    let file : TextFile := ⟨package, imports.map Import.of, fs.map (FormatFunction.textFunction sprint)⟩
    file.call? site (f.textFunction sprint) =
      if file.namesFit site then file.execute? site (f.textFunction sprint) else none := by
  intro file
  have hused : file.importsUsed site = true := importsUsed_of_reaches hsite package hreaches hnone
  rw [TextFile.call?, hused, hsite.type]
  simp [FormatFunction.textFunction]

end

end ServiceAnnotations.Companion
