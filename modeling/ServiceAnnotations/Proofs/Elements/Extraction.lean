import ServiceAnnotations.Elements.Comment
import ServiceAnnotations.Proofs.Mark.Places

/-! # Places survive extraction

The annotation text of a comment is made of its lines, without the marks of the comment. The line map leads from
a token of that text back to where it stands in the source file. -/
namespace ServiceAnnotations.Elements
open Source Text

def lineAt (source : Bytes) (n : Nat) : Nat := 1 + (source.take n).count 0x0a

structure PlacedAt (source file : Bytes) (p : Place) (n : Nat) : Prop where
  file : p.file = file
  line : p.line = lineAt source n
  offset : p.offset = n

/-- Where the text of a comment ends, its marks left out. -/
def innerEnd (c : Comment) : Nat :=
  c.spot.offset + (Bytes.ofChars c.text).length - if c.text.take 2 = ['/', '*'] then 2 else 0

/-- Two slashes open a comment, or a slash and a star that another star and slash close. -/
def IsMarked (c : Comment) : Prop :=
  (∃ inner, c.text = '/' :: '/' :: inner) ∨ ∃ inner, c.text = '/' :: '*' :: inner ++ ['*', '/']

/-- A comment stands in a source file at the place that it records. -/
structure CommentStands (source file : Bytes) (c : Comment) : Prop where
  marks : IsMarked c
  place : PlacedAt source file (c.spot.inFile file) c.spot.offset
  text : Bytes.ofChars c.text <+: source.drop c.spot.offset

/-- A line of a comment stands in a source file behind `n` bytes, at its place. A line end comes after it, or the
comment ends with it. -/
structure LineStands (source file : Bytes) (ends : List Nat) (l : CommentLine) (n : Nat) : Prop where
  place : PlacedAt source file l.pos n
  text : l.text <+: source.drop n
  behind : source[n + l.text.length]? = some 0x0a ∨ n + l.text.length ∈ ends
  oneLine : 0x0a ∉ l.text

section
variable {source file x : Bytes} {n : Nat}

theorem lineAt_append (h : x <+: source.drop n) : lineAt source (n + x.length) = lineAt source n + x.count 0x0a := by
  have htake : (source.drop n).take x.length = x := (List.prefix_iff_eq_take.mp h).symm
  rw [lineAt, lineAt, List.take_add, htake, List.count_append, Nat.add_assoc]

theorem prefix_drop_append {y : Bytes} (h : x ++ y <+: source.drop n) : y <+: source.drop (n + x.length) := by
  obtain ⟨more, hmore⟩ := h
  refine ⟨more, ?_⟩
  rw [← List.drop_drop, ← hmore, List.append_assoc, List.drop_left]

theorem getElem?_of_prefix_drop {b : UInt8} {y : Bytes} (h : x ++ b :: y <+: source.drop n) :
    source[n + x.length]? = some b := by
  obtain ⟨more, hmore⟩ := prefix_drop_append h
  rw [← Nat.add_zero (n + x.length), ← List.getElem?_drop, ← hmore]
  rfl

theorem PlacedAt.advance {p : Place} (hp : PlacedAt source file p n) (hx : x <+: source.drop n)
    (hline : 0x0a ∉ x) (column : Int) :
    PlacedAt source file { p with column := column, offset := p.offset + x.length } (n + x.length) where
  file := hp.file
  line := by
    rw [lineAt_append hx, List.count_eq_zero.mpr hline]
    exact hp.line
  offset := by
    rw [hp.offset]
    rfl

theorem PlacedAt.nextLine {p : Place} (hp : PlacedAt source file p n) (hx : x ++ [0x0a] <+: source.drop n)
    (hline : 0x0a ∉ x) :
    PlacedAt source file { p with line := p.line + 1, column := 1, offset := p.offset + x.length + 1 }
      (n + x.length + 1) where
  file := hp.file
  line := by
    have hnext : lineAt source (n + x.length + 1) = lineAt source n + 1 := by
      have happend := lineAt_append hx
      rw [List.length_append, List.count_append, List.count_eq_zero.mpr hline] at happend
      exact happend
    rw [hnext, hp.line]
    rfl
  offset := by
    rw [hp.offset]
    rfl

end

/-- Each line with a line end behind it. -/
def textOf (lines : List CommentLine) : Bytes := lines.flatMap fun l => l.text ++ [0x0a]

theorem textOf_cons (l : CommentLine) (lines : List CommentLine) :
    textOf (l :: lines) = l.text ++ 0x0a :: textOf lines := by
  simp [textOf]

theorem length_textOf_cons (l : CommentLine) (lines : List CommentLine) :
    (textOf (l :: lines)).length = l.text.length + 1 + (textOf lines).length := by
  rw [textOf_cons, List.length_append, List.length_cons]
  omega

/-- The line of a comment group that comes behind the lines `earlier` starts behind `n` bytes of the source: the
opening mark of its comment and the lines above it there come before it. -/
def LineStartsAt (file : Bytes) (doc : CommentGroup) (earlier : List CommentLine) (l : CommentLine) (n : Nat) : Prop :=
  ∃ cs c ds above below, doc = cs ++ c :: ds ∧ earlier = commentLines file cs ++ above ∧
    linesOfComment file c = above ++ l :: below ∧ textOf above ++ l.text <+: (Bytes.ofChars c.text).drop 2 ∧
    n = c.spot.offset + 2 + (textOf above).length

/-- An element of lists put one behind the other is an element of one of them. -/
theorem exists_of_flatMap_eq_append {α β : Type} {f : α → List β} {xs : List α} {before after : List β} {b : β}
    (h : xs.flatMap f = before ++ b :: after) :
    ∃ front x back y z, xs = front ++ x :: back ∧ before = front.flatMap f ++ y ∧ f x = y ++ b :: z := by
  induction xs generalizing before with
  | nil => simp at h
  | cons x xs ih =>
    rw [List.flatMap_cons] at h
    rcases List.append_eq_append_iff.mp h with ⟨more, rfl, hrest⟩ | ⟨more, hx, hrest⟩
    · obtain ⟨front, x', back, y, z, rfl, rfl, hx'⟩ := ih hrest
      exact ⟨x :: front, x', back, y, z, rfl, by simp, hx'⟩
    · cases more with
      | nil =>
        have hbehind : xs.flatMap f = [] ++ b :: after := hrest.symm
        obtain ⟨front, x', back, y, z, rfl, hy, hx'⟩ := ih hbehind
        refine ⟨x :: front, x', back, y, z, rfl, ?_, hx'⟩
        rw [List.flatMap_cons, List.append_assoc, ← hy, hx, List.append_nil, List.append_nil]
      | cons c more =>
        obtain ⟨rfl, -⟩ := List.cons.inj hrest
        exact ⟨[], x, xs, before, more, rfl, rfl, hx⟩

section
variable {isBlock : Bool} {pos : Place} {pieces : List Bytes} {l : CommentLine} {front back : List CommentLine}

theorem textOf_prefix_of_linesFrom (h : linesFrom isBlock pos pieces = front ++ l :: back) :
    textOf front ++ l.text <+: Bytes.join [0x0a] pieces := by
  induction pieces generalizing pos front with
  | nil => simp [linesFrom] at h
  | cons x rest ih =>
    rw [linesFrom] at h
    cases front with
    | nil =>
      obtain ⟨rfl, -⟩ := List.cons.inj h
      cases rest with
      | nil => exact List.prefix_rfl
      | cons y rest =>
        rw [Bytes.join_cons _ _ (List.cons_ne_nil y rest), List.append_assoc]
        exact List.prefix_append x _
    | cons first front =>
      obtain ⟨rfl, hbehind⟩ := List.cons.inj h
      have hrest : rest ≠ [] := by
        rintro rfl
        simp [linesFrom] at hbehind
      rw [textOf_cons, Bytes.join_cons _ _ hrest, List.append_assoc, List.append_assoc]
      exact (List.prefix_append_right_inj x).mpr ((List.prefix_append_right_inj [0x0a]).mpr (ih hbehind))

variable {source file : Bytes}

theorem linesFrom_stand {n : Nat} (hpieces : ∀ x ∈ pieces, 0x0a ∉ x) (hpos : PlacedAt source file pos n)
    (htext : Bytes.join [0x0a] pieces <+: source.drop n) {ends : List Nat}
    (hend : n + (Bytes.join [0x0a] pieces).length ∈ ends)
    (h : linesFrom isBlock pos pieces = front ++ l :: back) :
    LineStands source file ends l (n + (textOf front).length) := by
  induction pieces generalizing pos n front with
  | nil => simp [linesFrom] at h
  | cons x rest ih =>
    obtain ⟨hx, hrest⟩ := List.forall_mem_cons.mp hpieces
    rw [linesFrom] at h
    cases rest with
    | nil =>
      obtain ⟨rfl, rfl, -⟩ : front = [] ∧ _ := by
        cases front with
        | nil => exact ⟨rfl, List.cons.inj h⟩
        | cons first front => simp [linesFrom] at h
      exact ⟨hpos, htext, .inr hend, hx⟩
    | cons y rest =>
      rw [Bytes.join_cons _ _ (List.cons_ne_nil y rest)] at htext hend
      have hline : x ++ [0x0a] <+: source.drop n := (List.prefix_append _ _).trans htext
      cases front with
      | nil =>
        obtain ⟨rfl, -⟩ := List.cons.inj h
        exact ⟨hpos, (List.prefix_append _ _).trans hline, .inl (getElem?_of_prefix_drop hline), hx⟩
      | cons first front =>
        obtain ⟨rfl, hbehind⟩ := List.cons.inj h
        have hnext := prefix_drop_append htext
        rw [List.length_append, List.length_append, ← Nat.add_assoc, ← Nat.add_assoc] at hend
        rw [List.length_append, ← Nat.add_assoc] at hnext
        rw [length_textOf_cons, ← Nat.add_assoc, ← Nat.add_assoc]
        exact ih hrest (hpos.nextLine hline hx) hnext hend hbehind

/-- A comment consists of two marks, the text that is divided into lines, and what closes it. -/
theorem linesOfComment_eq {c : Comment} (hmarks : IsMarked c) :
    ∃ isBlock marks inner close, c.text = marks ++ (inner ++ close) ∧ marks.length = 2 ∧
      (Bytes.ofChars marks).length = 2 ∧ '\n' ∉ marks ∧
      innerEnd c = c.spot.offset + 2 + (Bytes.ofChars inner).length ∧
      linesOfComment file c = linesFrom isBlock
        { c.spot.inFile file with
          column := (c.spot.inFile file).column + 2, offset := (c.spot.inFile file).offset + 2 }
        (Bytes.splitAt 0x0a (Bytes.ofChars inner)) := by
  rcases hmarks with ⟨inner, hinner⟩ | ⟨inner, hinner⟩
  · have htext : c.text = ['/', '/'] ++ (inner ++ []) := by simp [hinner]
    have hlength : (Bytes.ofChars ['/', '/']).length = 2 := rfl
    refine ⟨false, _, _, _, htext, rfl, hlength, by decide, ?_, ?_⟩
    · have hline : ¬ c.text.take 2 = ['/', '*'] := by simp [hinner]
      rw [innerEnd, if_neg hline, htext, Bytes.ofChars_append, List.length_append, hlength, List.append_nil]
      omega
    · simp [linesOfComment, hinner]
  · have htext : c.text = ['/', '*'] ++ (inner ++ ['*', '/']) := by simp [hinner]
    have hlength : (Bytes.ofChars ['/', '*']).length = 2 := rfl
    have hclose : (Bytes.ofChars ['*', '/']).length = 2 := rfl
    refine ⟨true, _, _, _, htext, rfl, hlength, by decide, ?_, ?_⟩
    · have hblock : c.text.take 2 = ['/', '*'] := by simp [hinner]
      rw [innerEnd, if_pos hblock, htext, Bytes.ofChars_append, Bytes.ofChars_append, List.length_append,
        List.length_append, hlength, hclose]
      omega
    · simp [linesOfComment, hinner]

theorem linesOfComment_stand {c : Comment} (hc : CommentStands source file c) {ends : List Nat}
    (hend : innerEnd c ∈ ends) (h : linesOfComment file c = front ++ l :: back) :
    textOf front ++ l.text <+: (Bytes.ofChars c.text).drop 2 ∧
      LineStands source file ends l (c.spot.offset + 2 + (textOf front).length) := by
  obtain ⟨isBlock, marks, inner, close, hchars, -, hlength, hline, hinnerEnd, hlines⟩ :=
    linesOfComment_eq hc.marks
  have htext := hc.text
  rw [hchars, Bytes.ofChars_append, Bytes.ofChars_append] at htext
  rw [hinnerEnd] at hend
  rw [hlines] at h
  have hline' : 0x0a ∉ Bytes.ofChars marks :=
    fun hmem => hline ((Utf8.mem_ofChars_iff (c := '\n') (by decide)).mp hmem)
  have hstart := hc.place.advance ((List.prefix_append _ _).trans htext) hline'
    ((c.spot.inFile file).column + 2)
  have hinner := (List.prefix_append _ _).trans (prefix_drop_append htext)
  rw [hlength] at hstart hinner
  constructor
  · have hbytes := textOf_prefix_of_linesFrom h
    rw [Bytes.join_splitAt] at hbytes
    rw [hchars, Bytes.ofChars_append, Bytes.ofChars_append, ← hlength, List.drop_left]
    exact hbytes.trans (List.prefix_append _ _)
  · refine linesFrom_stand (fun x => Bytes.not_mem_of_mem_splitAt) hstart ?_ ?_ h
    · rwa [Bytes.join_splitAt]
    · rwa [Bytes.join_splitAt]

/-- The lines of comments that stand in a source stand there too. -/
theorem commentLines_stand {doc : CommentGroup} (hdoc : ∀ c ∈ doc, CommentStands source file c)
    {earlier later : List CommentLine} (h : commentLines file doc = earlier ++ l :: later) :
    ∃ n, LineStartsAt file doc earlier l n ∧ LineStands source file (doc.map innerEnd) l n := by
  obtain ⟨cs, c, ds, above, below, rfl, rfl, hc⟩ := exists_of_flatMap_eq_append h
  have hmem : c ∈ cs ++ c :: ds := List.mem_append_right _ List.mem_cons_self
  obtain ⟨hbytes, hstands⟩ := linesOfComment_stand (hdoc c hmem) (List.mem_map_of_mem hmem) hc
  exact ⟨_, ⟨cs, c, ds, above, below, rfl, rfl, hc, hbytes, rfl⟩, hstands⟩

end

theorem count_textOf {lines : List CommentLine} (hlines : ∀ l ∈ lines, 0x0a ∉ l.text) :
    (textOf lines).count 0x0a = lines.length := by
  induction lines with
  | nil => rfl
  | cons l lines ih =>
    obtain ⟨hl, hlines⟩ := List.forall_mem_cons.mp hlines
    rw [textOf_cons, List.count_append, List.count_eq_zero.mpr hl, List.count_cons_self, ih hlines, Nat.zero_add]
    rfl

/-- A byte of the text of lines comes from one of them, or is the line end behind it. -/
theorem textOf_split {lines : List CommentLine} (hlines : ∀ l ∈ lines, 0x0a ∉ l.text) {before after : Bytes}
    {b : UInt8} (h : textOf lines = before ++ b :: after) :
    ∃ front l back x, lines = front ++ l :: back ∧ before = textOf front ++ x ∧
      before.count 0x0a = front.length ∧ ((∃ y, l.text = x ++ b :: y) ∨ l.text = x ∧ b = 0x0a) := by
  obtain ⟨front, l, back, x, z, rfl, rfl, hl⟩ := exists_of_flatMap_eq_append h
  have hline : (∃ y, l.text = x ++ b :: y) ∨ l.text = x ∧ b = 0x0a := by
    rcases List.eq_nil_or_concat z with rfl | ⟨y, c, rfl⟩
    · obtain ⟨htext, hb⟩ := List.append_inj' hl rfl
      exact .inr ⟨htext, (List.cons.inj hb).1.symm⟩
    · rw [List.concat_eq_append, ← List.cons_append, ← List.append_assoc] at hl
      exact .inl ⟨y, (List.append_inj' hl rfl).1⟩
  have hx : 0x0a ∉ x := by
    have hone := hlines l (by simp)
    rcases hline with ⟨y, hy⟩ | ⟨rfl, -⟩
    · exact fun hmem => hone (hy ▸ List.mem_append_left _ hmem)
    · exact hone
  refine ⟨front, l, back, x, rfl, rfl, ?_, hline⟩
  have hfront : ∀ l ∈ front, 0x0a ∉ l.text := fun l hl => hlines l (List.mem_append_left _ hl)
  exact (List.count_append).trans (by rw [List.count_eq_zero.mpr hx, ← textOf, count_textOf hfront]; rfl)

theorem lineMapFrom_cons {l : CommentLine} {lines : List CommentLine} (h : lines ≠ []) (size : Nat) :
    lineMapFrom size (l :: lines) = (size, l.pos) :: lineMapFrom (size + l.text.length + 1) lines := by
  cases lines with
  | nil => exact absurd rfl h
  | cons l' lines => rfl

/-- Each line has its entry. -/
theorem getElem?_lineMapFrom (size : Nat) (front : List CommentLine) (l : CommentLine)
    (back : List CommentLine) :
    (lineMapFrom size (front ++ l :: back))[front.length]? = some (size + (textOf front).length, l.pos) := by
  induction front generalizing size with
  | nil => cases back <;> rfl
  | cons first front ih =>
    rw [List.cons_append, lineMapFrom_cons (by simp), List.length_cons, List.getElem?_cons_succ, ih, textOf_cons]
    simp only [List.length_append, List.length_cons]
    congr 2
    omega

/-- The end of the last line has the last entry. -/
theorem getElem?_lineMapFrom_end (size : Nat) (front : List CommentLine) (l : CommentLine) :
    (lineMapFrom size (front ++ [l]))[front.length + 1]? =
      some (size + (textOf (front ++ [l])).length,
        { l.pos with column := l.pos.column + l.text.length, offset := l.pos.offset + l.text.length }) := by
  induction front generalizing size with
  | nil => simp [lineMapFrom, textOf, Nat.add_assoc]
  | cons first front ih =>
    rw [List.cons_append, lineMapFrom_cons (by simp), List.length_cons, List.getElem?_cons_succ, ih, textOf_cons]
    simp only [List.length_append, List.length_cons]
    congr 2
    omega

theorem adjust_of_getElem? {m : LineMap} {i start : Nat} {pos : Place} (h : m[i]? = some (start, pos))
    (column offset : Int) :
    m.adjust (1 + i : Nat) column offset =
      { pos with column := pos.column + column - 1, offset := pos.offset + (offset - start) } := by
  obtain ⟨hlt, -⟩ := List.getElem?_eq_some_iff.mp h
  have hi : min (((1 + i : Nat) : Int) - 1).toNat (m.length - 1) = i := by omega
  rw [LineMap.adjust, hi, h]

/-- How comment lines are divided: those of other styles, then in the last stretch of one style those before the
first annotation, and those from it on. -/
structure Divides (lines before prose kept : List CommentLine) : Prop where
  all : lines = before ++ (prose ++ kept)
  oneStyle : ∀ l ∈ prose ++ kept, ∀ l' ∈ prose ++ kept, l.isBlock = l'.isBlock
  otherStyle : ∀ l ∈ before.getLast?, ∀ l' ∈ prose ++ kept, l.isBlock ≠ l'.isBlock
  prose : ∀ l ∈ prose, annotStart? l.text = none
  annotated : ∃ first rest, kept = first :: rest ∧ (annotStart? first.text).isSome

theorem lastStretch_spec (lines : List CommentLine) :
    ∃ before, lines = before ++ lastStretch lines ∧
      (∀ l ∈ lastStretch lines, ∀ l' ∈ lastStretch lines, l.isBlock = l'.isBlock) ∧
      ∀ l ∈ before.getLast?, ∀ l' ∈ lastStretch lines, l.isBlock ≠ l'.isBlock := by
  unfold lastStretch
  cases hreverse : lines.reverse with
  | nil => exact ⟨[], by simpa using hreverse, by simp, by simp⟩
  | cons last others =>
    let same (l : CommentLine) : Bool := l.isBlock = last.isBlock
    have hsame : ∀ l ∈ ((last :: others).takeWhile same).reverse, l.isBlock = last.isBlock := by
      intro l hl
      have hall := List.all_takeWhile (p := same) (l := last :: others)
      have hl := List.all_eq_true.mp hall l (List.mem_reverse.mp hl)
      exact of_decide_eq_true hl
    refine ⟨((last :: others).dropWhile same).reverse, ?_, ?_, ?_⟩
    · rw [← List.reverse_append, List.takeWhile_append_dropWhile, ← hreverse, List.reverse_reverse]
    · exact fun l hl l' hl' => (hsame l hl).trans (hsame l' hl').symm
    · intro l hl l' hl'
      rw [List.getLast?_reverse] at hl
      have hother := List.head?_dropWhile_not same (last :: others)
      rw [Option.mem_def.mp hl] at hother
      rw [hsame l' hl']
      simpa [same] using hother

theorem extract?_eq_some {file : Bytes} {doc : CommentGroup} {text : Bytes} {lines : LineMap}
    (h : extract? file doc = some (text, lines)) :
    ∃ before prose kept, Divides (commentLines file doc) before prose kept ∧ text = textOf kept ∧
      lines = lineMapFrom 0 kept := by
  obtain ⟨before, hall, hstyle, hother⟩ := lastStretch_spec (commentLines file doc)
  unfold extract? at h
  generalize lastStretch (commentLines file doc) = stretch at hall hstyle hother h
  let isProse (l : CommentLine) : Bool := (annotStart? l.text).isNone
  have hsplit : stretch.takeWhile isProse ++ stretch.dropWhile isProse = stretch :=
    List.takeWhile_append_dropWhile
  cases hkept : stretch.dropWhile isProse with
  | nil => simp [isProse, hkept] at h
  | cons first rest =>
    simp only [isProse, hkept, Option.some.injEq, Prod.mk.injEq] at h
    obtain ⟨rfl, rfl⟩ := h
    rw [hkept] at hsplit
    refine ⟨before, stretch.takeWhile isProse, first :: rest,
      ⟨?_, ?_, ?_, ?_, first, rest, rfl, ?_⟩, rfl, rfl⟩
    · rwa [hsplit]
    · rwa [hsplit]
    · rwa [hsplit]
    · intro l hl
      have hprose := List.all_eq_true.mp (List.all_takeWhile (p := isProse) (l := stretch)) l hl
      exact Option.isNone_iff_eq_none.mp hprose
    · have hfirst := List.head?_dropWhile_not isProse stretch
      rw [hkept] at hfirst
      simpa [isProse, Option.isSome_iff_ne_none] using hfirst

/-- An annotation line does not start with a byte order mark. -/
theorem head?_glyphs_of_annotStart? {line : Bytes} (h : (annotStart? line).isSome) :
    ∃ c, (Utf8.glyphs line).head? = some (.char c) ∧ c ≠ '\ufeff' := by
  unfold annotStart? at h
  cases hglyphs : Utf8.glyphs line with
  | nil => simp [hglyphs] at h
  | cons g rest =>
    by_cases hg : g.holds isBlank = true
    · cases g with
      | char c =>
        refine ⟨c, rfl, ?_⟩
        rintro rfl
        revert hg
        decide
      | stray b => cases hg
    · simp only [hglyphs, List.takeWhile_cons, hg, Bool.false_eq_true, if_false, List.length_nil,
        List.drop_zero] at h
      split at h
      · rename_i heq
        obtain ⟨rfl, -⟩ := List.cons.inj heq
        exact ⟨'@', rfl, by decide⟩
      · cases h

theorem noMark_of_divides {lines before prose kept : List CommentLine} (h : Divides lines before prose kept) :
    (Utf8.glyphs (textOf kept)).head? ≠ some (.char '\ufeff') := by
  obtain ⟨first, rest, rfl, hfirst⟩ := h.annotated
  obtain ⟨c, hhead, hc⟩ := head?_glyphs_of_annotStart? hfirst
  rw [textOf_cons, Utf8.head?_glyphs_append hhead]
  simpa using hc

/-- A place in a line of an annotation text, behind `x`, stands for one in the line of the comment. -/
theorem place_in_line {front : List CommentLine} {x : Bytes} {pos : Mark.Position} (hline : pos.line = 1 + front.length)
    (hoffset : pos.offset = (textOf front ++ x).length) (l : CommentLine) (back : List CommentLine) :
    LineMap.place (lineMapFrom 0 (front ++ l :: back)) (some pos) =
      { l.pos with column := l.pos.column + pos.column - 1, offset := l.pos.offset + x.length } := by
  rw [LineMap.place, hline, adjust_of_getElem? (getElem?_lineMapFrom 0 front l back), hoffset, List.length_append]
  congr 2
  omega

/-- The end of an annotation text stands for the end of its last line. -/
theorem place_of_end {kept : List CommentLine} (hkept : ∀ l ∈ kept, 0x0a ∉ l.text) {l : CommentLine}
    (hlast : kept.getLast? = some l) :
    LineMap.place (lineMapFrom 0 kept) (some (Mark.Position.start.afterAll (Utf8.glyphs (textOf kept)))) =
      { l.pos with column := l.pos.column + l.text.length, offset := l.pos.offset + l.text.length } := by
  obtain ⟨front, rfl⟩ := List.getLast?_eq_some_iff.mp hlast
  have hended : (textOf (front ++ [l])).getLast? = some 0x0a := by simp [textOf]
  have hcount := count_textOf hkept
  rw [List.length_append, List.length_singleton] at hcount
  rw [Mark.end_of_text hended, LineMap.place, hcount, adjust_of_getElem? (getElem?_lineMapFrom_end 0 front l),
    Nat.zero_add]
  simp

/-- A token stands behind `i` bytes of the line `l` of an annotation text, which the lines `front` come before and
which starts behind `n` bytes of the source. Its first byte stands at the place `p` there. -/
structure TokenStands (source file : Bytes) (ends : List Nat) (kept front : List CommentLine) (l : CommentLine)
    (pos : Mark.Position) (t : Mark.Token) (p : Place) (n i : Nat) : Prop where
  split : ∃ back, kept = front ++ l :: back
  line : pos.line = 1 + front.length
  offset : pos.offset = (textOf front).length + i
  place : PlacedAt source file p (n + i)
  byte : t ≠ .endOfLine → ∃ b, (textOf kept)[pos.offset]? = some b ∧ l.text[i]? = some b ∧ source[n + i]? = some b
  lineEnd : t = .endOfLine → i = l.text.length ∧ (source[n + i]? = some 0x0a ∨ n + i ∈ ends)

/-- A token of an annotation text stands in the source where the line map says. -/
theorem tokenStands_of_standsAt (source file : Bytes) (ends : List Nat) {kept : List CommentLine}
    {pos : Mark.Position} {t : Mark.Token} (hone : ∀ l ∈ kept, 0x0a ∉ l.text)
    (h : Mark.StandsAt (textOf kept) pos t) :
    ∃ front l back i, kept = front ++ l :: back ∧ ∀ n, LineStands source file ends l n →
      TokenStands source file ends kept front l pos t (LineMap.place (lineMapFrom 0 kept) (some pos)) n i := by
  obtain ⟨before, b, after, htext, hoffset, hline, hend⟩ := h.bytes
  obtain ⟨front, l, back, x, rfl, rfl, hcount, hbyte⟩ := textOf_split hone htext
  -- the token starts behind `x` in the line `l`, whose entry counts the bytes of the lines before it
  have hfront : x <+: l.text := by
    rcases hbyte with ⟨y, hy⟩ | ⟨hx, -⟩
    · exact hy ▸ List.prefix_append x _
    · exact hx ▸ List.prefix_rfl
  refine ⟨front, l, back, x.length, rfl, fun n hl => ⟨⟨back, rfl⟩, ?_, ?_, ?_, ?_, ?_⟩⟩
  · rw [hline, hcount]
  · rw [hoffset, List.length_append]
  · rw [place_in_line (hline.trans (congrArg (1 + ·) hcount)) hoffset l back]
    exact hl.place.advance (hfront.trans hl.text) (fun hmem => hl.oneLine (hfront.subset hmem)) _
  · intro ht
    rcases hbyte with ⟨y, hy⟩ | ⟨-, hb⟩
    · refine ⟨b, ?_, by simp [hy], getElem?_of_prefix_drop (hy ▸ hl.text)⟩
      rw [htext, hoffset]
      simp
    · exact absurd (hend.mp hb) ht
  · intro ht
    obtain rfl := hend.mpr ht
    rcases hbyte with ⟨y, hy⟩ | ⟨rfl, -⟩
    · exact absurd (hy ▸ List.mem_append_right x List.mem_cons_self) hl.oneLine
    · exact ⟨rfl, hl.behind⟩

/-- Extracting the annotations of a comment keeps places. The text is made of the comment lines from the first
annotation of the last stretch of one style on. A token of it stands in one of these lines, and the line map gives
the place where this line of this comment has the token in the source. The end of the text stands for the end of the
last line. A line end that is none of the source's own stands for the end of a comment. -/
theorem extract_keeps_places {source file : Bytes} {doc : CommentGroup}
    (hdoc : ∀ c ∈ doc, CommentStands source file c) {text : Bytes} {lines : LineMap}
    (h : extract? file doc = some (text, lines)) :
    ∃ before prose kept, Divides (commentLines file doc) before prose kept ∧ text = textOf kept ∧
      (∀ x ∈ (Mark.Lexer.ofBytes text).tokens.1, Mark.StandsAt text x.1 x.2 ∧
        ∃ front l n i, LineStartsAt file doc (before ++ prose ++ front) l n ∧
          TokenStands source file (doc.map innerEnd) kept front l x.1 x.2 (lines.place (some x.1)) n i) ∧
      (∀ pos t, (Mark.Lexer.ofBytes text).tokens.2.1 = .token pos t → t = .endOfInput ∧
        ∃ front l n, kept = front ++ [l] ∧ LineStartsAt file doc (before ++ prose ++ front) l n ∧
          l.text <+: source.drop n ∧
          lines.place (some pos) =
            { l.pos with column := l.pos.column + l.text.length, offset := l.pos.offset + l.text.length } ∧
          PlacedAt source file (lines.place (some pos)) (n + l.text.length)) := by
  obtain ⟨before, prose, kept, hdivides, rfl, rfl⟩ := extract?_eq_some h
  have hkept : ∀ front l back, kept = front ++ l :: back →
      ∃ n, LineStartsAt file doc (before ++ prose ++ front) l n ∧
        LineStands source file (doc.map innerEnd) l n := by
    rintro front l back rfl
    apply commentLines_stand hdoc
    rw [hdivides.all, List.append_assoc, List.append_assoc]
  have hone : ∀ l ∈ kept, 0x0a ∉ l.text := by
    intro l hl
    obtain ⟨front, back, hsplit⟩ := List.append_of_mem hl
    obtain ⟨n, -, hstands⟩ := hkept front l back hsplit
    exact hstands.oneLine
  obtain ⟨htokens, hend⟩ := Mark.Lexer.tokens_stand (noMark_of_divides hdivides)
  refine ⟨before, prose, kept, hdivides, rfl, ?_, ?_⟩
  · intro x hx
    obtain ⟨front, l, back, i, hsplit, htoken⟩ :=
      tokenStands_of_standsAt source file (doc.map innerEnd) hone (htokens x hx)
    obtain ⟨n, hstarts, hstands⟩ := hkept front l back hsplit
    exact ⟨htokens x hx, front, l, n, i, hstarts, htoken n hstands⟩
  · intro pos t hpos
    obtain rfl := (Mark.Lexer.tokens_ending _).2 pos t hpos
    obtain ⟨first, rest, rfl, -⟩ := hdivides.annotated
    obtain ⟨l, hl⟩ : ∃ l, (first :: rest).getLast? = some l := ⟨_, List.getLast?_cons⟩
    obtain ⟨front, hsplit⟩ := List.getLast?_eq_some_iff.mp hl
    obtain ⟨n, hstarts, hstands⟩ := hkept front l [] hsplit
    have hlast := place_of_end hone hl
    rw [← hend pos hpos] at hlast
    refine ⟨rfl, front, l, n, hsplit, hstarts, hstands.text, hlast, ?_⟩
    rw [hlast]
    exact hstands.place.advance hstands.text hstands.oneLine _

namespace Notice

def text : String := "package p\n\n// Docs.\n/* Kept.\n  @Mark(1,\n 2)\n  @Mark(1,\n 2)\n*/\ntype T int\n"

def file : Bytes := Bytes.ofString "p/t.go"

def doc : CommentGroup :=
  (Source.tokens text.toList).filterMap fun t => if t.kind = .comment then some ⟨t.text, t.spot⟩ else none

theorem stands_doc : ∀ c ∈ doc, CommentStands (Bytes.ofString text) file c := by
  have hdoc : doc =
      [⟨"// Docs.".toList, { line := 3, column := 1, offset := 11 }⟩,
        ⟨"/* Kept.\n  @Mark(1,\n 2)\n  @Mark(1,\n 2)\n*/".toList, { line := 4, column := 1, offset := 20 }⟩] := by
    decide +kernel
  rw [hdoc]
  refine List.forall_mem_cons.mpr ⟨⟨.inl ⟨_, rfl⟩, ⟨rfl, by decide, rfl⟩, by decide⟩,
    List.forall_mem_singleton.mpr
      ⟨.inr ⟨" Kept.\n  @Mark(1,\n 2)\n  @Mark(1,\n 2)\n".toList, rfl⟩, ⟨rfl, by decide, rfl⟩, by decide⟩⟩

def tokenPlaces (extracted : Bytes × LineMap) : List (Int × Int) :=
  (Mark.Lexer.ofBytes extracted.1).tokens.1.map fun x =>
    ((extracted.2.place (some x.1)).line, (extracted.2.place (some x.1)).offset)

def placed : List (Int × Int) :=
  [(5, 31), (5, 32), (5, 36), (5, 37), (5, 38), (6, 41), (6, 42), (6, 43),
    (7, 46), (7, 47), (7, 51), (7, 52), (7, 53), (8, 56), (8, 57), (8, 58), (9, 59)]

end Notice

open Notice in
theorem extract_keeps_places_notice :
    ∃ extracted lines, extract? file doc = some (extracted, lines) ∧
      extracted = Bytes.ofString "  @Mark(1,\n 2)\n  @Mark(1,\n 2)\n\n" ∧
      tokenPlaces (extracted, lines) = placed ∧
      placed.map (fun p => (Bytes.ofString text)[p.2.toNat]?) =
        (Bytes.ofString "@M(1,2)\n@M(1,2)\n*").map some ∧
      ∀ x ∈ (Mark.Lexer.ofBytes extracted).tokens.1,
        ∃ n, PlacedAt (Bytes.ofString text) file (lines.place (some x.1)) n ∧
          (x.2 ≠ .endOfLine → extracted[x.1.offset]? = (Bytes.ofString text)[n]?) := by
  have htext : (extract? file doc).map Prod.fst = some (Bytes.ofString "  @Mark(1,\n 2)\n  @Mark(1,\n 2)\n\n") := by
    decide +kernel
  have hplaces : (extract? file doc).map tokenPlaces = some placed := by
    decide +kernel
  cases h : extract? file doc with
  | none => simp [h] at htext
  | some extracted =>
    rw [h] at htext hplaces
    obtain ⟨before, prose, kept, -, hkept, htokens, -⟩ := extract_keeps_places stands_doc h
    refine ⟨extracted.1, extracted.2, rfl, Option.some.inj htext, Option.some.inj hplaces, by decide +kernel, ?_⟩
    intro x hx
    obtain ⟨-, front, l, n, i, -, hstands⟩ := htokens x hx
    refine ⟨n + i, hstands.place, fun hx => ?_⟩
    obtain ⟨b, hb, -, hsource⟩ := hstands.byte hx
    rw [hkept, hb, hsource]

end ServiceAnnotations.Elements
