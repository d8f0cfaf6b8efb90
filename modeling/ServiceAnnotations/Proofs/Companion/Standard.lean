import ServiceAnnotations.Proofs.Companion.Formatting

/-! # The writer of the program

The writer of the program does what is relied on where formatting functions are written. -/
namespace ServiceAnnotations.Companion
open Source Text ServiceAnnotations.Types

def pathText : List String → List Char
  | [] => []
  | name :: rest => name.toList ++ rest.flatMap fun n => '.' :: n.toList

structure IsPath (sprint : List String) (text : String) : Prop where
  text : text.toList = pathText sprint
  words : ∀ n ∈ sprint, IsWord n.toList
  ne_nil : sprint ≠ []

theorem divides_path {name : String} {rest : List String} (hwords : ∀ n ∈ name :: rest, IsWord n.toList)
    {tail : List Char} {ts : List Piece} (htail : tail.head?.all (!isWordTail ·)) (h : Divides true tail ts)
    (pending : Bool) : Divides pending (pathText (name :: rest) ++ tail) (pathPieces (name :: rest) ++ ts) := by
  induction rest generalizing name pending with
  | nil => simpa [pathText, pathPieces] using Divides.word htail (hwords name List.mem_cons_self) h
  | cons m rest ih =>
    obtain ⟨hname, hrest⟩ := List.forall_mem_cons.mp hwords
    obtain ⟨c, cs, hm, hc, -⟩ := (hrest m List.mem_cons_self).start
    have hdot := (ih hrest false).dot (b := true) (by simp [pathText, hm, hc])
    simpa [pathText, pathPieces, sign] using hdot.word (b := pending) rfl hname

/-- A statement that shows a field has names for the field and for the function that shows it. -/
def FormatStep.IsSpelled (sprint : List String) (text : String) : FormatStep → Prop
  | appendField _ field => IsWord field.toList ∧ IsPath sprint text
  | _ => True

section
variable {sprint : List String} {text : String} {rest : List Char} {ts : List Piece}

theorem divides_step {step : FormatStep} (hstep : step.IsSpelled sprint text) (h : Divides false rest ts) :
    Divides false ((step.text text).toList ++ '\n' :: rest) (step.pieces sprint ++ lineEnd :: ts) := by
  have hs : IsWord ['s'] := by decide
  have hv : IsWord ['v'] := by decide
  have hend := h.lineEnd
  cases step with
  | begin label =>
    have hassign := ((hend.string label).blank (.inl rfl)).assignment (c := ':') (b := true) (by decide)
    simpa [FormatStep.text, FormatStep.pieces, sign, lineEnd] using
      (hassign.blank (.inl rfl)).word (b := false) rfl hs
  | append label =>
    have hassign := ((hend.string label).blank (.inl rfl)).assignment (c := '+') (b := true) (by decide)
    simpa [FormatStep.text, FormatStep.pieces, sign, lineEnd] using
      (hassign.blank (.inl rfl)).word (b := false) rfl hs
  | appendField label field =>
    obtain ⟨hfield, hpath⟩ := hstep
    obtain ⟨name, names, rfl⟩ := List.exists_cons_of_ne_nil hpath.ne_nil
    obtain ⟨c, cs, hc, hstart, -⟩ := hfield.start
    have hclose := (hend.bracket (c := ')') (b := true) (by decide)).word (b := false) rfl hfield
    have hargument := (hclose.dot (b := true) (by simp [hc, hstart])).word (b := false) rfl hv
    have hcall := divides_path hpath.words rfl (hargument.bracket (c := '(') (b := true) (by decide)) false
    have hvalue := (hcall.blank (.inl rfl)).plus (b := true)
    have hassign := ((((hvalue.blank (.inl rfl)).string label).blank (.inl rfl))).assignment (c := '+') (b := true)
      (by decide)
    have hall := (hassign.blank (.inl rfl)).word (b := false) rfl hs
    simpa [FormatStep.text, FormatStep.pieces, sign, lineEnd, hpath.text] using hall
  | finish =>
    have hgive := ((hend.word (b := true) rfl hs).blank (.inl rfl)).keyword (w := "return".toList)
      (b := false) rfl (by decide)
    simpa [FormatStep.text, FormatStep.pieces, lineEnd] using hgive

theorem divides_steps {steps : List FormatStep} (hsteps : ∀ step ∈ steps, step.IsSpelled sprint text)
    (h : Divides false rest ts) :
    Divides false ((steps.flatMap fun step => '\t' :: (step.text text).toList ++ ['\n']) ++ rest)
      (linesOf sprint steps ++ ts) := by
  induction steps with
  | nil => exact h
  | cons step steps ih =>
    obtain ⟨hstep, hsteps⟩ := List.forall_mem_cons.mp hsteps
    simpa [linesOf] using (divides_step hstep (ih hsteps)).blank (.inr rfl)

/-- A formatting function is divided into its tokens. -/
theorem divides_function {f : FormatFunction} (hf : f.IsSpelled) {i : Imports}
    (hpath : f.ShowsField → IsPath sprint (i.qualify (some ("fmt", "fmt")) "Sprint")) (h : Divides false rest ts) :
    Divides false ((f.declaration.text i).toList ++ rest) (f.pieces sprint ++ lineEnd :: ts) := by
  have hsteps : ∀ step ∈ f.steps, step.IsSpelled sprint (i.qualify (some ("fmt", "fmt")) "Sprint") := by
    intro step hstep
    cases step with
    | appendField label field => exact ⟨hf.fields label field hstep, hpath ⟨label, field, hstep⟩⟩
    | _ => trivial
  have hclose := h.lineEnd.bracket (c := '\x7d') (b := false) (by decide)
  have hblock := ((divides_steps hsteps hclose).newline.bracket (c := '\x7b') (b := true) (by decide)).blank (.inl rfl)
  have hresult := (hblock.word (w := "string".toList) (b := true) rfl (by decide)).blank (.inl rfl)
  have htype := (hresult.bracket (c := ')') (b := true) (by decide)).word (b := true) rfl hf.type
  have hparameter := (htype.blank (.inl rfl)).word (w := ['v']) (b := false) rfl (by decide)
  have hname := (hparameter.bracket (c := '(') (b := true) (by decide)).word (b := false) rfl hf.name
  have hfunc := (hname.blank (.inl rfl)).keyword (w := "func".toList) (b := false) rfl (by decide)
  have htext : (f.declaration.text i).toList =
      "func".toList ++ ' ' :: (f.name.toList ++ '(' :: (['v'] ++ ' ' :: (f.type.toList ++ ')' :: ' ' ::
        ("string".toList ++ ' ' :: '\x7b' :: '\n' ::
          (f.steps.flatMap (fun step =>
            '\t' :: (step.text (i.qualify (some ("fmt", "fmt")) "Sprint")).toList ++ ['\n']) ++ ['\x7d', '\n']))))) := by
    change String.toList ("func " ++ f.name ++ "(v " ++ f.type ++ ") string " ++ block _) = _
    simp only [block, String.toList_append, String.toList_join, List.flatMap_map]
    simp
  rw [htext]
  simpa [FormatFunction.pieces, FormatFunction.head, lineEnd, sign] using hfunc

end

theorem add_add (i : Imports) (package : String × String) : (i.add package).add package = i.add package := by
  unfold Imports.add
  split
  · rfl
  · rw [if_pos (by simp)]

theorem foldl_add {packages : List (String × String)} {package : String × String}
    (h : ∀ q ∈ packages, q = package) (hne : packages ≠ []) (i : Imports) :
    packages.foldl Imports.add i = i.add package := by
  induction packages generalizing i with
  | nil => exact absurd rfl hne
  | cons q packages ih =>
    obtain ⟨rfl, hpackages⟩ := List.forall_mem_cons.mp h
    rw [List.foldl_cons]
    by_cases hlast : packages = []
    · rw [hlast]
      rfl
    · rw [ih hpackages hlast, add_add]

section
variable {fs : List FormatFunction} {path package : String}

theorem mem_packages_iff {f : FormatFunction} {q : String × String} :
    q ∈ f.declaration.packages ↔ f.ShowsField ∧ q = ("fmt", "fmt") := by
  change q ∈ f.steps.flatMap FormatStep.packages ↔ _
  rw [List.mem_flatMap]
  constructor
  · rintro ⟨step, hstep, hq⟩
    cases step with
    | appendField label field => exact ⟨⟨label, field, hstep⟩, List.mem_singleton.mp hq⟩
    | begin | append | finish => cases hq
  · rintro ⟨⟨label, field, hstep⟩, rfl⟩
    exact ⟨_, hstep, List.mem_singleton_self _⟩

theorem imports_eq_add (h : ∃ f ∈ fs, f.ShowsField) :
    FileSpec.imports ⟨path, package, fs.map FormatFunction.declaration⟩ =
      Imports.add { own := path } ("fmt", "fmt") := by
  obtain ⟨f, hf, hfield⟩ := h
  refine foldl_add (fun q hq => ?_) (List.ne_nil_of_mem (a := ("fmt", "fmt")) ?_) _
  · obtain ⟨d, hd, hq⟩ := List.mem_flatMap.mp hq
    obtain ⟨f, -, rfl⟩ := List.mem_map.mp hd
    exact (mem_packages_iff.mp hq).2
  · exact List.mem_flatMap.mpr ⟨_, List.mem_map_of_mem hf, mem_packages_iff.mpr ⟨hfield, rfl⟩⟩

theorem imports_eq_nil (h : ∀ f ∈ fs, ¬ f.ShowsField) :
    FileSpec.imports ⟨path, package, fs.map FormatFunction.declaration⟩ = { own := path } := by
  have hnil : (fs.map FormatFunction.declaration).flatMap Declaration.packages = [] := by
    refine List.flatMap_eq_nil_iff.mpr (List.forall_mem_map.mpr fun f hf => ?_)
    exact List.eq_nil_iff_forall_not_mem.mpr fun q hq => h f hf (mem_packages_iff.mp hq).1
  rw [FileSpec.imports, hnil]
  rfl

/-- How a file of functions calls the function that shows values. -/
theorem qualify_add (own : String) :
    (Imports.add { own } ("fmt", "fmt")).qualify (some ("fmt", "fmt")) "Sprint" =
      if own = "fmt" then "Sprint" else "fmt.Sprint" := by
  by_cases hown : own = "fmt"
  · simp [Imports.add, Imports.qualify, hown]
  · simp [Imports.add, Imports.qualify, Imports.freeName, Imports.isTaken, hown, Ne.symm hown]

theorem lines_add (own : String) :
    (Imports.add { own } ("fmt", "fmt")).lines =
      if own = "fmt" then [] else ["import " ++ Text.Quoted.string "fmt"] := by
  by_cases hown : own = "fmt"
  · simp [Imports.add, Imports.lines, hown]
  · simp [Imports.add, Imports.lines, Imports.freeName, Imports.isTaken, hown, Ne.symm hown]

theorem toList_intercalate_cons (s : String) (rest : List String) :
    ("\n".intercalate (s :: rest)).toList = s.toList ++ rest.flatMap fun t => '\n' :: t.toList := by
  induction rest generalizing s with
  | nil => simp
  | cons t rest ih => simp [String.intercalate_cons_cons, ih]

/-- The content of a file of functions. -/
theorem content_standard (path package : String) (fs : List FormatFunction) :
    Writer.standard.content ⟨path, package, fs.map FormatFunction.declaration⟩ =
      .ok (Bytes.ofString (FileSpec.text ⟨path, package, fs.map FormatFunction.declaration⟩)) := by
  have hjoin : (fs.map FormatFunction.declaration).any Declaration.hasJoin = false :=
    List.any_eq_false.mpr (List.forall_mem_map.mpr fun f _ => by simp [FormatFunction.declaration, Declaration.hasJoin])
  simp only [Writer.standard, FileSpec.fault?, hjoin, Bool.false_eq_true, if_false]

theorem divides_functions {i : Imports} {sprint : List String} (hspelled : ∀ f ∈ fs, f.IsSpelled)
    (hpath : ∀ f ∈ fs, f.ShowsField → IsPath sprint (i.qualify (some ("fmt", "fmt")) "Sprint")) :
    Divides false (fs.flatMap fun f => '\n' :: (f.declaration.text i).toList)
      (fs.flatMap (FormatFunction.pieces sprint · ++ [lineEnd])) := by
  induction fs with
  | nil => exact .nil
  | cons f fs ih =>
    obtain ⟨hf, hfs⟩ := List.forall_mem_cons.mp hspelled
    obtain ⟨hfirst, hrest⟩ := List.forall_mem_cons.mp hpath
    simpa using (divides_function hf hfirst (ih hfs hrest)).newline

theorem divides_imports {rest : List Char} {ts : List Piece} (paths : List String) (h : Divides false rest ts) :
    Divides false ((paths.flatMap fun q => ("import " ++ Text.Quoted.string q ++ "\n").toList) ++ rest)
      (paths.flatMap (fun q => importPieces (none, q) ++ [lineEnd]) ++ ts) := by
  induction paths with
  | nil => exact h
  | cons q paths ih =>
    have himport := ((ih.lineEnd.string q).blank (.inl rfl)).keyword (w := "import".toList) (b := false) rfl (by decide)
    simpa [importPieces, lineEnd] using himport

/-- A file of functions is divided into its tokens. -/
theorem divides_file {i : Imports} {sprint : List String} (paths : List String) (hname : IsWord package.toList)
    (hspelled : ∀ f ∈ fs, f.IsSpelled)
    (himports : FileSpec.imports ⟨path, package, fs.map FormatFunction.declaration⟩ = i)
    (hlines : i.lines = paths.map ("import " ++ Text.Quoted.string ·))
    (hpath : ∀ f ∈ fs, f.ShowsField → IsPath sprint (i.qualify (some ("fmt", "fmt")) "Sprint")) :
    (tokens (FileSpec.text ⟨path, package, fs.map FormatFunction.declaration⟩).toList).map Token.piece =
      filePieces package (paths.map fun q => (none, q)) (fs.map (FormatFunction.pieces sprint)) := by
  have hfunctions := divides_functions hspelled hpath
  have htext : (FileSpec.text ⟨path, package, fs.map FormatFunction.declaration⟩).toList =
      "package".toList ++ ' ' :: (package.toList ++ '\n' ::
        ((if paths = [] then [] else ['\n']) ++
          ((paths.flatMap fun q => ("import " ++ Text.Quoted.string q ++ "\n").toList) ++
            fs.flatMap fun f => '\n' :: (f.declaration.text i).toList))) := by
    simp only [FileSpec.text, himports, hlines]
    cases paths with
    | nil =>
      simp only [List.map_nil, List.cons_append, List.nil_append, toList_intercalate_cons]
      simp [List.flatMap_map]
    | cons q paths =>
      simp only [List.map_cons, List.cons_append, List.nil_append, toList_intercalate_cons]
      simp [List.flatMap_map]
  have hbody : Divides false ((if paths = [] then [] else ['\n']) ++
      ((paths.flatMap fun q => ("import " ++ Text.Quoted.string q ++ "\n").toList) ++
        fs.flatMap fun f => '\n' :: (f.declaration.text i).toList))
      (paths.flatMap (fun q => importPieces (none, q) ++ [lineEnd]) ++
        fs.flatMap (FormatFunction.pieces sprint · ++ [lineEnd])) := by
    split
    · exact divides_imports paths hfunctions
    · exact (divides_imports paths hfunctions).newline
  have hclause := ((hbody.lineEnd.word (b := false) rfl hname).blank (.inl rfl)).keyword (w := "package".toList)
    (b := false) rfl (by decide)
  rw [htext, hclause.pieces_tokens]
  simp [filePieces, lineEnd, List.flatMap_map]

end

/-- The writer of the program writes files of functions. -/
theorem writesFunctions_standard : Writer.standard.WritesFunctions := by
  intro path package fs hname hspelled
  have hcontent := content_standard path package fs
  by_cases hshows : ∃ f ∈ fs, f.ShowsField
  · have himports : FileSpec.imports ⟨path, package, fs.map FormatFunction.declaration⟩ = _ := imports_eq_add hshows
    have hlines := lines_add path
    have hqualify := qualify_add path
    have hsome : ¬ ∀ f ∈ fs, ¬ f.ShowsField := by simpa using hshows
    by_cases hown : path = "fmt"
    · rw [if_pos hown] at hlines hqualify
      have hpath : IsPath ["Sprint"] "Sprint" := ⟨by decide, by decide, by decide⟩
      exact ⟨_, [], ["Sprint"], hcontent,
        divides_file [] hname hspelled himports hlines fun _ _ _ => by rwa [hqualify],
        fun _ => .own hown, fun hnone => absurd hnone hsome⟩
    · rw [if_neg hown] at hlines hqualify
      have hpath : IsPath ["fmt", "Sprint"] "fmt.Sprint" := ⟨by decide, by decide, by decide⟩
      exact ⟨_, [(none, "fmt")], ["fmt", "Sprint"], hcontent,
        divides_file ["fmt"] hname hspelled himports hlines fun _ _ _ => by rwa [hqualify],
        fun _ => .imported hown (by decide), fun hnone => absurd hnone hsome⟩
  · have hnone : ∀ f ∈ fs, ¬ f.ShowsField := by simpa using hshows
    have himports : FileSpec.imports ⟨path, package, fs.map FormatFunction.declaration⟩ = _ := imports_eq_nil hnone
    have hlines : Imports.lines { own := path } = [] := by simp [Imports.lines]
    exact ⟨_, [], [], hcontent,
      divides_file [] hname hspelled himports hlines fun f hf hfield => absurd hfield (hnone f hf),
      fun h => absurd h hshows, fun _ => rfl⟩

end ServiceAnnotations.Companion
