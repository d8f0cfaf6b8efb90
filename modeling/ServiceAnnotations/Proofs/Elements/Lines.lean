import ServiceAnnotations.Proofs.Elements.Extraction
import ServiceAnnotations.Proofs.Text.Bytes

/-! # The characters of comment lines

A line of a comment is a run of characters of the comment. Its place is the one behind the characters before it, where
every byte counts for a column. -/
namespace ServiceAnnotations.Source
open Text

namespace Place

variable {p : Place} {cs ds : List Char}

/-- The place right after a character. -/
def after (p : Place) (c : Char) : Place :=
  if c = '\n' then { p with line := p.line + 1, column := 1, offset := p.offset + c.utf8Size }
  else { p with column := p.column + c.utf8Size, offset := p.offset + c.utf8Size }

def afterAll (p : Place) (cs : List Char) : Place := cs.foldl after p

theorem afterAll_cons (p : Place) (c : Char) (cs : List Char) : p.afterAll (c :: cs) = (p.after c).afterAll cs := rfl

theorem afterAll_append (p : Place) (cs ds : List Char) : p.afterAll (cs ++ ds) = (p.afterAll cs).afterAll ds :=
  List.foldl_append

/-- Within a line only column and offset change, and alike. -/
theorem afterAll_oneLine (h : '\n' ∉ cs) :
    p.afterAll cs =
      { p with column := p.column + (Bytes.ofChars cs).length, offset := p.offset + (Bytes.ofChars cs).length } := by
  induction cs generalizing p with
  | nil => simp [afterAll]
  | cons c cs ih =>
    obtain ⟨hc, hcs⟩ := List.ne_and_not_mem_of_not_mem_cons h
    rw [afterAll_cons, ih hcs, after, if_neg hc.symm, Bytes.ofChars_cons, List.length_append,
      String.length_utf8EncodeChar]
    simp only [Int.natCast_add, mk.injEq, true_and]
    omega

theorem afterAll_lineEnd (h : '\n' ∉ cs) :
    p.afterAll (cs ++ ['\n']) =
      { p with line := p.line + 1, column := 1, offset := p.offset + (Bytes.ofChars cs).length + 1 } := by
  rw [afterAll_append, afterAll_oneLine h]
  rfl

theorem offset_afterAll (p : Place) (cs : List Char) :
    (p.afterAll cs).offset = p.offset + (Bytes.ofChars cs).length := by
  induction cs generalizing p with
  | nil => simp [afterAll]
  | cons c cs ih =>
    have hafter : (p.after c).offset = p.offset + c.utf8Size := by
      unfold after
      split <;> rfl
    rw [afterAll_cons, ih, hafter, Bytes.ofChars_cons, List.length_append, String.length_utf8EncodeChar]
    omega

end Place

/-- In a file that tells nothing of where it comes from, places are those of its spots. -/
theorem Spot.afterAll_inFile {s : Spot} (h : s.origin = none) (file : Bytes) (cs : List Char) :
    (s.inFile file).afterAll cs =
      ⟨file, (s.afterAll cs).line, (s.afterAll cs).column, (s.afterAll cs).offset⟩ := by
  have hinFile : ∀ {s : Spot}, s.origin = none → s.inFile file = ⟨file, s.line, s.column, s.offset⟩ := by
    intro s h
    rw [inFile, h]
  induction cs generalizing s with
  | nil => exact hinFile h
  | cons c cs ih =>
    have horigin : (s.after c).origin = none := by
      unfold after
      split <;> exact h
    have hafter : (s.inFile file).after c = (s.after c).inFile file := by
      rw [hinFile h, hinFile horigin]
      unfold after Place.after
      split <;> rfl
    rw [Place.afterAll_cons, hafter]
    exact ih horigin

end ServiceAnnotations.Source

namespace ServiceAnnotations.Elements
open Source Text

/-- The lines of a text: the characters of each, and of what comes before and behind it. -/
theorem chars_of_mem_linesFrom {isBlock : Bool} {pos : Place} {cs : List Char} {l : CommentLine}
    (h : l ∈ linesFrom isBlock pos (Bytes.splitAt 0x0a (Bytes.ofChars cs))) :
    ∃ front line back, cs = front ++ line ++ back ∧ l.text = Bytes.ofChars line ∧ '\n' ∉ line ∧
      l.pos = pos.afterAll front ∧ (front = [] ∨ front.getLast? = some '\n') := by
  induction hn : cs.length using Nat.strongRecOn generalizing cs pos with
  | _ n ih =>
    subst hn
    by_cases hline : '\n' ∈ cs
    · obtain ⟨u, v, rfl, hu⟩ := List.eq_append_cons_of_mem hline
      have hu' : 0x0a ∉ Bytes.ofChars u := fun hmem => hu ((Utf8.mem_ofChars_iff (c := '\n') (by decide)).mp hmem)
      have hbytes : Bytes.ofChars (u ++ '\n' :: v) = Bytes.ofChars u ++ 0x0a :: Bytes.ofChars v := by
        rw [Bytes.ofChars_append, Bytes.ofChars_cons]
        rfl
      rw [hbytes, Bytes.splitAt_append, Bytes.splitAt_eq_singleton hu', List.singleton_append, linesFrom,
        ← Place.afterAll_lineEnd hu] at h
      obtain rfl | h := List.mem_cons.mp h
      · exact ⟨[], u, '\n' :: v, rfl, rfl, hu, rfl, .inl rfl⟩
      · obtain ⟨front, line, back, rfl, htext, hone, hpos, hstart⟩ := ih v.length (by simp; omega) h rfl
        refine ⟨u ++ '\n' :: front, line, back, by simp, htext, hone, ?_, .inr ?_⟩
        · rw [hpos, ← Place.afterAll_append, List.append_assoc]
          rfl
        · obtain rfl | hfront := hstart
          · simp
          · simp [List.getLast?_append, List.getLast?_cons, hfront]
    · have hcs : 0x0a ∉ Bytes.ofChars cs := fun hmem => hline ((Utf8.mem_ofChars_iff (c := '\n') (by decide)).mp hmem)
      rw [Bytes.splitAt_eq_singleton hcs] at h
      obtain rfl := List.mem_singleton.mp h
      exact ⟨[], cs, [], by simp, rfl, hline, rfl, .inl rfl⟩

/-- The lines of comments are made of their characters. -/
theorem chars_of_mem_commentLines {file : Bytes} {doc : CommentGroup} {l : CommentLine}
    (h : l ∈ commentLines file doc) :
    ∃ line, l.text = Bytes.ofChars line ∧ '\n' ∉ line ∧ ∀ d ∈ line, ∃ c ∈ doc, d ∈ c.text := by
  obtain ⟨c, hc, h⟩ := List.mem_flatMap.mp h
  obtain ⟨front, line, back, hinner, htext, hone, -, -⟩ := chars_of_mem_linesFrom h
  refine ⟨line, htext, hone, fun d hd => ⟨c, hc, ?_⟩⟩
  have hmem : d ∈ front ++ line ++ back := by simp [hd]
  rw [← hinner] at hmem
  split at hmem
  · exact List.mem_of_mem_drop (List.mem_of_mem_take hmem)
  · exact List.mem_of_mem_drop hmem

/-- A text made of lines of comments is made of their characters, and of line ends. -/
theorem textOf_chars {file : Bytes} {doc : CommentGroup} {lines : List CommentLine}
    (hlines : ∀ l ∈ lines, l ∈ commentLines file doc) :
    ∃ cs, textOf lines = Bytes.ofChars cs ∧ ∀ d ∈ cs, d = '\n' ∨ ∃ c ∈ doc, d ∈ c.text := by
  induction lines with
  | nil => exact ⟨[], rfl, by simp⟩
  | cons l lines ih =>
    obtain ⟨hl, hlines⟩ := List.forall_mem_cons.mp hlines
    obtain ⟨line, htext, -, hline⟩ := chars_of_mem_commentLines hl
    obtain ⟨cs, hcs, hmem⟩ := ih hlines
    refine ⟨line ++ '\n' :: cs, ?_, ?_⟩
    · rw [textOf_cons, htext, hcs, Bytes.ofChars_append, Bytes.ofChars_cons]
      rfl
    · rintro d hd
      obtain hd | hd := List.mem_append.mp hd
      · exact .inr (hline d hd)
      · obtain rfl | hd := List.mem_cons.mp hd
        · exact .inl rfl
        · exact hmem d hd

/-- A line of a comment: the characters `front` come before it, and its place is the one behind them. -/
structure LineOf (file : Bytes) (c : Comment) (front line : List Char) (l : CommentLine) : Prop where
  split : front ++ line <+: c.text
  opened : 2 ≤ front.length
  closed : c.spot.offset + (Bytes.ofChars (front ++ line)).length ≤ innerEnd c
  oneLine : '\n' ∉ line
  start : front.length = 2 ∨ front.getLast? = some '\n'
  text : l.text = Bytes.ofChars line
  pos : l.pos = (c.spot.inFile file).afterAll front

theorem linesOfComment_chars {file : Bytes} {c : Comment} (hc : IsMarked c) {l : CommentLine}
    (h : l ∈ linesOfComment file c) : ∃ front line, LineOf file c front line l := by
  obtain ⟨isBlock, marks, inner, close, htext, htwo, hlength, hmarks, hend, hlines⟩ := linesOfComment_eq hc
  have hplace := Place.afterAll_oneLine (p := c.spot.inFile file) hmarks
  rw [hlength] at hplace
  rw [hlines] at h
  obtain ⟨front, line, back, rfl, hline, hone, hpos, hstart⟩ := chars_of_mem_linesFrom h
  refine ⟨marks ++ front, line, ⟨?_, ?_, ?_, hone, ?_, hline, ?_⟩⟩
  · exact ⟨back ++ close, by simp [htext]⟩
  · rw [List.length_append]
    omega
  · simp only [Bytes.ofChars_append, List.length_append] at hend ⊢
    omega
  · obtain rfl | hfront := hstart
    · exact .inl (by rw [List.append_nil, htwo])
    · exact .inr (by rw [List.getLast?_append, hfront]; rfl)
  · rw [Place.afterAll_append, hplace]
    exact hpos

theorem commentLines_chars {file : Bytes} {doc : CommentGroup} (hdoc : ∀ c ∈ doc, IsMarked c) {l : CommentLine}
    (h : l ∈ commentLines file doc) : ∃ c ∈ doc, ∃ front line, LineOf file c front line l := by
  obtain ⟨c, hc, hl⟩ := List.mem_flatMap.mp h
  exact ⟨c, hc, linesOfComment_chars (hdoc c hc) hl⟩

end ServiceAnnotations.Elements
