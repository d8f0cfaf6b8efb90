import ServiceAnnotations.Elements.Value
import ServiceAnnotations.Proofs.Elements.Openings
import ServiceAnnotations.Proofs.Mark.Relocation
import ServiceAnnotations.Proofs.Source.Spots
import ServiceAnnotations.Source.Parser

/-! # Columns of what is told of a comment

Whatever is told of a comment, annotations and faults alike, has a place in the comment. Its line and its offset are
those of one byte. Its column is that of the byte only as long as the characters before it on the line have one byte
each, since each of them counts for one column. A malformed token has the place in front of the first annotation
line. -/
namespace ServiceAnnotations.Mark
open Text

def Reached (cs : List Char) (p : Position) : Prop :=
  ∃ before c after, cs = before ++ c :: after ∧ p.Behind before

theorem Position.Behind.eq {p q : Position} {before : List Char} (hp : p.Behind before) (hq : q.Behind before) :
    p = q := by
  obtain ⟨line, column, offset⟩ := p
  obtain ⟨line', column', offset'⟩ := q
  obtain ⟨hoffset, hline, hcolumn⟩ := hp
  obtain ⟨hoffset', hline', hcolumn'⟩ := hq
  simp_all

/-- Characters at the start of a text are its first glyphs. -/
theorem prefix_of_glyphs {cs before : List Char} {rest : List Glyph}
    (h : Utf8.glyphs (Bytes.ofChars cs) = before.map .char ++ rest) : before <+: cs := by
  rw [Utf8.glyphs_ofChars] at h
  obtain ⟨front, back, rfl, hfront, -⟩ := List.map_eq_append_iff.mp h
  obtain rfl := (List.map_injective_iff.mpr fun _ _ => Glyph.char.inj) hfront
  exact List.prefix_append front back

theorem StandsAt.reached {cs : List Char} {pos : Position} {t : Token} (h : StandsAt (Bytes.ofChars cs) pos t) :
    Reached cs pos := by
  obtain ⟨before, g, after, hglyphs, rfl, -⟩ := h
  rw [Utf8.glyphs_ofChars] at hglyphs
  obtain ⟨front, back, rfl, rfl, hback⟩ := List.map_eq_append_iff.mp hglyphs
  obtain ⟨c, back, rfl, -, -⟩ := List.map_eq_cons_iff.mp hback
  exact ⟨front, c, back, rfl, Position.behind_afterAll front⟩

section
variable {cs : List Char} (hmark : cs.head? ≠ some '\ufeff')
include hmark

theorem head?_glyphs_ne_mark : (Utf8.glyphs (Bytes.ofChars cs)).head? ≠ some (.char '\ufeff') := by
  rw [Utf8.glyphs_ofChars, List.head?_map]
  intro h
  obtain ⟨c, hc, heq⟩ := Option.map_eq_some_iff.mp h
  exact hmark (Glyph.char.inj heq ▸ hc)

/-- All places of the annotations of a text are reached in it: a change of places that keeps those keeps these. -/
theorem mapPos_of_parse {marks : List Mark} (h : parse (Bytes.ofChars cs) = .ok marks) {φ : Position → Position}
    (hφ : ∀ p, Reached cs p → φ p = p) : ∀ m ∈ marks, m.mapPos φ = m := by
  obtain ⟨⟨pos, hpos⟩, f, hf, hmarks⟩ := parse_eq_ok_iff.mp h
  obtain ⟨htokens, -⟩ := Lexer.tokens_stand (head?_glyphs_ne_mark hmark)
  rw [← hf] at htokens
  have hmap : f.tokens.map (Prod.map φ id) = f.tokens := by
    refine (List.map_congr_left fun x hx => ?_).trans (List.map_id f.tokens)
    exact Prod.ext (hφ x.1 (htokens x hx).reached) rfl
  -- the end of the text may have another place then, which is that of no annotation
  have hread := parseMarks_mapPos φ (3 * f.tokens.length + 3) ⟨f.tokens, .token pos .endOfInput⟩
  have hfuel : 3 * f.tokens.length < 3 * f.tokens.length + 3 := Nat.lt_add_of_pos_right (by decide)
  rw [Input.mapPos, Lexeme.mapPos, hmap, parseMarks_complete f hfuel, parseMarks_complete f hfuel, relocated_ok, hmarks]
    at hread
  exact List.map_inj_left.mp ((Except.ok.inj hread).symm.trans (List.map_id marks).symm)

/-- A fault is told with a place that is reached in the text, at the end of it, or it is in a malformed token. -/
theorem place_of_parse_error {e : ParseError} (h : parse (Bytes.ofChars cs) = .error e) :
    (∃ p, e.pos = some p ∧ Reached cs p) ∨
      (∃ p wanted, e = ⟨some p, .unexpected .endOfInput wanted⟩ ∧ p.Behind cs) ∨
      ∃ fault, e = ⟨none, .lexical fault⟩ ∧ Malformed (some fault) := by
  obtain ⟨read, before, rest, hcomes, -, hmet⟩ := exists_metAt h
  have hglyphs := hcomes.glyphs_eq
  rw [Utf8.glyphs_ofChars] at hglyphs
  obtain ⟨front, back, rfl, hfront, rfl⟩ := List.map_eq_append_iff.mp hglyphs
  obtain rfl := (List.map_injective_iff.mpr fun _ _ => Glyph.char.inj) hfront
  have hbehind : ∀ u v, front ++ back = u ++ v → (Position.reported u).Behind u := by
    intro u v huv
    refine Position.behind_reported ?_
    rintro rfl
    rw [huv] at hmark
    exact hmark rfl
  have hreached : back.map Glyph.char ≠ [] → Reached (front ++ back) (.reported front) := by
    intro hne
    obtain ⟨c, after, rfl⟩ := List.exists_cons_of_ne_nil fun hnil => hne (congrArg (List.map _) hnil)
    exact ⟨front, c, after, rfl, hbehind front _ rfl⟩
  cases hmet with
  | token wanted hrest hspells _ =>
    refine .inl ⟨_, rfl, hreached ?_⟩
    rw [hrest]
    exact List.append_ne_nil_of_left_ne_nil (by simpa using hspells.ne_nil) _
  | endOfInput wanted hrest _ =>
    obtain rfl := List.map_eq_nil_iff.mp hrest
    refine .inr (.inl ⟨_, wanted, rfl, ?_⟩)
    rw [List.append_nil]
    exact hbehind front [] rfl
  | unsupported literal hrest => exact .inl ⟨_, rfl, hreached hrest⟩
  | @malformed place fault _ hfault hplace =>
    cases place with
    | none => exact .inr (.inr ⟨fault, rfl, hfault⟩)
    | some p =>
      obtain ⟨u, v, rfl, -, rfl⟩ := hplace p rfl
      exact .inl ⟨_, rfl, u, '\n', v ++ back, by simp, hbehind u ('\n' :: (v ++ back)) (by simp)⟩

end

end ServiceAnnotations.Mark

namespace ServiceAnnotations.Elements
open Source Text

theorem count_ofChars (cs : List Char) : (Bytes.ofChars cs).count 0x0a = cs.count '\n' := by
  have hstray : .stray 0x0a ∉ cs.map Glyph.char := by simp
  have hline := Mark.Position.line_afterAll .start hstray
  rw [Mark.flatMap_bytes_chars, (Mark.Position.behind_afterAll cs).line] at hline
  exact (Nat.add_left_cancel hline).symm

/-- A text without line ends goes on with the last line. -/
theorem rtakeWhile_append_oneLine {x : Bytes} (hx : 0x0a ∉ x) (u : Bytes) :
    (u ++ x).rtakeWhile (· ≠ 0x0a) = u.rtakeWhile (· ≠ 0x0a) ++ x := by
  have hall : ∀ b ∈ x.reverse, decide (b ≠ 0x0a) = true := fun b hb =>
    decide_eq_true fun h => hx (h ▸ List.mem_reverse.mp hb)
  rw [List.rtakeWhile, List.reverse_append, List.takeWhile_append_of_pos hall, List.reverse_append,
    List.reverse_reverse]
  rfl

theorem rtakeWhile_ofChars (cs : List Char) :
    (Bytes.ofChars cs).rtakeWhile (· ≠ 0x0a) = Bytes.ofChars (cs.rtakeWhile (· ≠ '\n')) := by
  induction cs using List.reverseRecOn with
  | nil => rfl
  | append_singleton cs c ih =>
    rw [Bytes.ofChars_append]
    by_cases hc : c = '\n'
    · subst hc
      rw [List.rtakeWhile_concat_neg _ _ _ (by simp)]
      exact List.rtakeWhile_concat_neg _ (Bytes.ofChars cs) 0x0a (by simp)
    · have hone : 0x0a ∉ Bytes.ofChars [c] := fun hmem =>
        hc (List.mem_singleton.mp ((Utf8.mem_ofChars_iff (c := '\n') (by decide)).mp hmem)).symm
      rw [rtakeWhile_append_oneLine hone, ih, List.rtakeWhile_concat_pos _ _ _ (by simpa using hc),
        Bytes.ofChars_append]

/-- A comment of a file, which stands there as it is: no carriage return was left out of it. -/
structure Written (source : List Char) (c : Comment) : Prop where
  marked : IsMarked c
  stands : ∃ before after, source = before ++ (c.text ++ after) ∧ c.spot.Behind before

/-- A comment that is read from a file stands there as it is, if it was written without carriage returns. -/
theorem written_of_token {source : List Char} {c : Comment} (h : ⟨.comment, c.text, c.spot⟩ ∈ tokens source)
    (hc : IsMarked c) : ∃ before raw after, source = before ++ (raw ++ after) ∧ c.spot.Behind before ∧
      ('\r' ∉ raw → Written source c) := by
  obtain ⟨before, raw, after, hsource, hspot, htext⟩ := tokens_stand h
  refine ⟨before, raw, after, hsource, hspot, fun hraw => ⟨hc, before, after, ?_, hspot⟩⟩
  rw [hsource, ← htext rfl hraw]

/-- A place of a comment behind `front` and `passed`. Each of the characters `passed` counts for one column. -/
structure Told (file : Bytes) (c : Comment) (front passed : List Char) (q : Place) : Prop where
  inside : front ++ passed <+: c.text
  opened : 2 ≤ front.length
  closed : c.spot.offset + (Bytes.ofChars (front ++ passed)).length ≤ innerEnd c
  oneLine : '\n' ∉ passed
  place : q = { (c.spot.inFile file).afterAll (front ++ passed) with
    column := ((c.spot.inFile file).afterAll front).column + passed.length }

/-- The column of a byte of a source. -/
def columnAt (source : Bytes) (n : Nat) : Nat := 1 + ((source.take n).rtakeWhile (· ≠ 0x0a)).length

/-- A place of a file: line and offset are those of one byte, and so is the column if each of the characters `passed`
has one byte. -/
def Counted (source : List Char) (file : Bytes) (passed : List Char) (q : Place) : Prop :=
  ∃ n, PlacedAt (Bytes.ofChars source) file q n ∧
    q.column + (Bytes.ofChars passed).length = columnAt (Bytes.ofChars source) n + passed.length

/-- A place in the comments of a file. -/
def ToldIn (source : List Char) (file : Bytes) (doc : CommentGroup) (front passed : List Char) (q : Place) : Prop :=
  ∃ c ∈ doc, Told file c front passed q ∧ (c.spot.origin = none → Counted source file passed q)

/-- What comes before a line of a comment: the marks that open it, or what a line end closes. -/
def AtLineStart (front : List Char) : Prop := front.length = 2 ∨ front.getLast? = some '\n'

section
variable {source : List Char} {file : Bytes} {c : Comment} {front passed : List Char} {q : Place}

/-- A place that counts bytes only. -/
theorem told_nil (hinside : front <+: c.text) (hopened : 2 ≤ front.length)
    (hclosed : c.spot.offset + (Bytes.ofChars front).length ≤ innerEnd c) :
    Told file c front [] ((c.spot.inFile file).afterAll front) := by
  refine ⟨?_, hopened, ?_, List.not_mem_nil, ?_⟩ <;> rw [List.append_nil]
  · exact hinside
  · exact hclosed
  · simp

theorem Told.counted (h : Told file c front passed q) (hc : Written source c) (horigin : c.spot.origin = none) :
    Counted source file passed q := by
  obtain ⟨back, hback⟩ := h.inside
  obtain ⟨before, after, hsource, hspot⟩ := hc.stands
  have hpassed := h.oneLine
  obtain rfl := h.place
  obtain ⟨hline, hcolumn, hoffset⟩ := hspot.afterAll (front ++ passed)
  have hplace := Spot.afterAll_inFile horigin file (front ++ passed)
  have hfront := Spot.afterAll_inFile horigin file front
  have hpassedPlace := Place.afterAll_oneLine (p := (c.spot.inFile file).afterAll front) hpassed
  rw [← Place.afterAll_append, hplace, hfront] at hpassedPlace
  rw [hplace, hfront]
  have htake : (Bytes.ofChars source).take (Bytes.ofChars (before ++ (front ++ passed))).length =
      Bytes.ofChars (before ++ (front ++ passed)) := by
    have hsplit : source = (before ++ (front ++ passed)) ++ (back ++ after) := by
      rw [hsource, ← hback]
      simp
    rw [hsplit, Bytes.ofChars_append _ (back ++ after), List.take_left]
  refine ⟨(Bytes.ofChars (before ++ (front ++ passed))).length, ⟨rfl, ?_, congrArg Nat.cast hoffset⟩, ?_⟩
  · rw [lineAt, htake, count_ofChars]
    exact congrArg Nat.cast hline
  · have hcolumns := congrArg Place.column hpassedPlace
    rw [columnAt, htake, rtakeWhile_ofChars]
    simp only at hcolumns ⊢
    omega

end

/-- What is behind the text of whole lines is the last line. -/
theorem rtakeWhile_textOf {x : Bytes} (hx : 0x0a ∉ x) (lines : List CommentLine) :
    (textOf lines ++ x).rtakeWhile (· ≠ 0x0a) = x := by
  rw [rtakeWhile_append_oneLine hx]
  have hnone : (textOf lines).rtakeWhile (· ≠ 0x0a) = [] := by
    rcases List.eq_nil_or_concat lines with rfl | ⟨front, l, rfl⟩
    · rfl
    · rw [List.concat_eq_append, textOf, List.flatMap_append, List.flatMap_singleton, ← List.append_assoc]
      exact List.rtakeWhile_concat_neg _ _ _ (by simp)
  rw [hnone, List.nil_append]

/-- No place stands for the column in front of the first line. -/
theorem place_none (l : CommentLine) (rest : List CommentLine) :
    LineMap.place (lineMapFrom 0 (l :: rest)) none = { l.pos with column := l.pos.column - 1 } := by
  have hentry : (lineMapFrom 0 (l :: rest))[0]? = some (0, l.pos) := getElem?_lineMapFrom 0 [] l rest
  have hindex : min ((0 : Int) - 1).toNat ((lineMapFrom 0 (l :: rest)).length - 1) = 0 := Nat.zero_min _
  rw [LineMap.place, LineMap.adjust, hindex, hentry]
  simp

section
variable {file : Bytes} {doc : CommentGroup} {kept : List CommentLine}
  (hkept : ∀ l ∈ kept, ∃ c ∈ doc, ∃ front line, LineOf file c front line l)
include hkept

theorem oneLine_of_kept : ∀ l ∈ kept, 0x0a ∉ l.text := by
  intro l hl
  obtain ⟨c, -, front, line, h⟩ := hkept l hl
  rw [h.text]
  exact fun hmem => h.oneLine ((Utf8.mem_ofChars_iff (c := '\n') (by decide)).mp hmem)

/-- The line map leads from the end of the text to the end of its last line, which is found by its bytes. -/
theorem told_of_end (hne : kept ≠ []) {cs : List Char} (htext : textOf kept = Bytes.ofChars cs) {p : Mark.Position}
    (hp : p.Behind cs) : ∃ c ∈ doc, ∃ front, Told file c front [] ((lineMapFrom 0 kept).place (some p)) := by
  obtain ⟨l, hlast⟩ : ∃ l, kept.getLast? = some l := ⟨_, List.getLast?_eq_some_getLast hne⟩
  obtain ⟨c, hc, front, line, hl⟩ := hkept l (List.mem_of_getLast? hlast)
  have hplace := place_of_end (oneLine_of_kept hkept) hlast
  rw [htext, Utf8.glyphs_ofChars, ← hp.eq (Mark.Position.behind_afterAll cs)] at hplace
  have hone := Place.afterAll_oneLine (p := (c.spot.inFile file).afterAll front) hl.oneLine
  have hopened : 2 ≤ (front ++ line).length := by
    rw [List.length_append]
    exact Nat.le_add_right_of_le hl.opened
  refine ⟨c, hc, front ++ line, ?_⟩
  rw [hplace, hl.pos, hl.text, ← hone, ← Place.afterAll_append]
  exact told_nil hl.split hopened hl.closed

/-- The line map leads from a place in the text to one in a comment, and characters count as they do in the text. -/
theorem told_of_reached {cs : List Char} (htext : textOf kept = Bytes.ofChars cs) {p : Mark.Position}
    (h : Mark.Reached cs p) :
    ∃ c ∈ doc, ∃ front passed, AtLineStart front ∧ Told file c front passed ((lineMapFrom 0 kept).place (some p)) := by
  obtain ⟨before, d, after, rfl, hp⟩ := h
  obtain ⟨b, more, hd⟩ := List.exists_cons_of_ne_nil (Glyph.char d).bytes_ne_nil
  have hsplit : textOf kept = Bytes.ofChars before ++ b :: (more ++ Bytes.ofChars after) := by
    rw [htext, Bytes.ofChars_append, Bytes.ofChars_cons, show String.utf8EncodeChar d = b :: more from hd]
    rfl
  obtain ⟨back, l, behind, x, rfl, hbefore, hcount, hbyte⟩ := textOf_split (oneLine_of_kept hkept) hsplit
  obtain ⟨c, hc, front, line, hl⟩ := hkept l (by simp)
  have hx : x <+: l.text := by
    rcases hbyte with ⟨y, hy⟩ | ⟨hx, -⟩
    · exact hy ▸ List.prefix_append x _
    · exact hx ▸ List.prefix_rfl
  -- the place is behind `passed` in the line, which are the bytes `x`
  have hlast := rtakeWhile_textOf (fun hmem => oneLine_of_kept hkept l (by simp) (hx.subset hmem)) back
  rw [← hbefore, rtakeWhile_ofChars] at hlast
  generalize hpassed : before.rtakeWhile (· ≠ '\n') = passed at hlast
  subst hlast
  have hbegins : passed <+: line := by
    obtain ⟨y, hy⟩ := hx
    have hglyphs : Utf8.glyphs (Bytes.ofChars line) = passed.map .char ++ Utf8.glyphs y := by
      rw [← hl.text, ← hy, Utf8.glyphs_ofChars_append]
    exact Mark.prefix_of_glyphs hglyphs
  obtain ⟨hoffset, hline, hcolumn⟩ := hp
  rw [← count_ofChars, hcount] at hline
  have hplace := place_in_line hline (hbefore ▸ hoffset) l behind
  have hbound : front ++ passed <+: front ++ line := (List.prefix_append_right_inj front).mpr hbegins
  have hone : '\n' ∉ passed := fun hmem => hl.oneLine (hbegins.subset hmem)
  refine ⟨c, hc, front, passed, hl.start, ⟨hbound.trans hl.split, hl.opened, ?_, hone, ?_⟩⟩
  · obtain ⟨more, rfl⟩ := hbegins
    have hclosed := hl.closed
    rw [← List.append_assoc, Bytes.ofChars_append, List.length_append] at hclosed
    omega
  · rw [hplace, hl.pos, Place.afterAll_append, Place.afterAll_oneLine hone, hcolumn, hpassed]
    simp only [Place.mk.injEq, true_and, and_true]
    omega

end

namespace Site

variable {s : Site} {φ : Mark.Position → Mark.Position} {x : Misuse}

/-- A fault has the place of a position that a change of places keeps. -/
def Kept (s : Site) (φ : Mark.Position → Mark.Position) (x : Misuse) : Prop :=
  ∃ q, φ q = q ∧ x.pos = s.lines.place (some q)

theorem findImport?_kept {pos : Mark.Position} {name : String} {found : Option String} {imports : List Import}
    (h : s.findImport? pos name found imports = .error x) (hpos : φ pos = pos) : s.Kept φ x := by
  induction imports generalizing found with
  | nil => cases h
  | cons i rest ih =>
    unfold findImport? at h
    split at h
    · exact ih h
    · split at h
      · split at h
        · cases h
          exact ⟨pos, hpos, rfl⟩
        · exact ih h
      · exact ih h

variable {r : Mark.Reference} (hr : r.mapPos φ = r)
include hr

theorem packageOf_kept (h : s.packageOf r = .error x) : s.Kept φ x := by
  have hpos : φ r.pos = r.pos := congrArg Mark.Reference.pos hr
  unfold packageOf at h
  split at h
  · cases h
  · obtain h | ⟨path, -, h⟩ := bind_eq_error_iff.mp h
    · exact findImport?_kept h hpos
    · split at h
      · cases h
      · split at h
        · cases h
        · cases h
          exact ⟨r.pos, hpos, rfl⟩

theorem typeNamed_kept (h : s.typeNamed r = .error x) : s.Kept φ x := by
  have hpos : φ r.pos = r.pos := congrArg Mark.Reference.pos hr
  have hfail : ∀ {α : Type} {e : AnnotError}, (s.fail r.pos e : Except Misuse α) = .error x → s.Kept φ x := by
    rintro α e ⟨⟩
    exact ⟨r.pos, hpos, rfl⟩
  unfold typeNamed at h
  simp only at h
  split at h
  · obtain h | ⟨meaning, -, h⟩ := bind_eq_error_iff.mp h
    · cases h
    · split at h <;> first | exact hfail h | cases h
  · obtain h | ⟨path, -, h⟩ := bind_eq_error_iff.mp h
    · exact findImport?_kept h hpos
    · split at h
      · obtain h | ⟨meaning, -, h⟩ := bind_eq_error_iff.mp h
        · exact hfail h
        · split at h <;> first | exact hfail h | cases h
      · obtain h | ⟨meaning, -, h⟩ := bind_eq_error_iff.mp h
        · cases h
        · split at h <;> first | exact hfail h | cases h

omit hr

mutual

theorem value_kept {e : Mark.Expr} (he : e.mapPos φ = e) (h : s.value e = .error x) : s.Kept φ x := by
  cases e with
  | literal c pos =>
    cases c with
    | text b => cases h
    | _ =>
      cases h
      exact ⟨pos, (Mark.Expr.literal.inj he).2, rfl⟩
  | ref r =>
    rw [value] at h
    cases htype : s.typeNamed r with
    | ok n =>
      rw [htype] at h
      cases h
    | error y =>
      rw [htype] at h
      cases h
      exact typeNamed_kept (Mark.Expr.ref.inj he) htype
  | list items pos =>
    rw [value] at h
    cases hitems : s.listed items with
    | ok vs =>
      rw [hitems] at h
      cases h
    | error y =>
      rw [hitems] at h
      cases h
      exact listed_kept (Mark.Expr.list.inj he).1 hitems

theorem listed_kept {items : List Mark.Item} (hitems : Mark.Item.mapPosAll φ items = items)
    (h : s.listed items = .error x) : s.Kept φ x := by
  match items with
  | [] => cases h
  | .mk (some key) e :: rest =>
    obtain ⟨hkey, -⟩ := Mark.Item.mk.inj (List.cons.inj hitems).1
    cases h
    exact ⟨key.pos, congrArg Mark.Reference.pos (Option.some.inj hkey), rfl⟩
  | .mk none e :: rest =>
    obtain ⟨hitem, hrest⟩ := List.cons.inj hitems
    rw [listed] at h
    obtain h | ⟨v, -, h⟩ := bind_eq_error_iff.mp h
    · exact value_kept (Mark.Item.mk.inj hitem).2 h
    · obtain h | ⟨vs, -, h⟩ := bind_eq_error_iff.mp h
      · exact listed_kept hrest h
      · cases h

end

theorem arguments_kept {items : List Mark.Item} (hitems : Mark.Item.mapPosAll φ items = items)
    {keyed : List (Bytes × Registry.Value Types.TypeName)} {unkeyed : List (Registry.Value Types.TypeName)}
    (h : s.arguments keyed unkeyed items = .error x) : s.Kept φ x := by
  induction items generalizing keyed unkeyed with
  | nil => cases h
  | cons item rest ih =>
    obtain ⟨key, e⟩ := item
    obtain ⟨hitem, hrest⟩ := List.cons.inj hitems
    obtain ⟨hkey, he⟩ := Mark.Item.mk.inj hitem
    rw [arguments] at h
    obtain h | ⟨v, -, h⟩ := bind_eq_error_iff.mp h
    · exact value_kept he h
    · cases key with
      | none => exact ih hrest h
      | some key =>
        simp only at h
        split at h
        · cases h
          exact ⟨key.pos, congrArg Mark.Reference.pos (Option.some.inj hkey), rfl⟩
        · exact ih hrest h

/-- The place of an annotation, and those of all its faults, are places of its mark. -/
theorem annot_kept {m : Mark} (hm : m.mapPos φ = m) :
    (∀ a, s.annot m = .ok a → a.pos = some (s.lines.place (some m.pos)) ∧ φ m.pos = m.pos) ∧
      ∀ x, s.annot m = .error x → s.Kept φ x := by
  have htype : m.type.mapPos φ = m.type := congrArg Mark.type hm
  have hpos : φ m.pos = m.pos := congrArg Mark.pos hm
  have hargs : Mark.Item.mapPosAll φ (m.args.getD []) = m.args.getD [] := by
    have h := congrArg Mark.args hm
    cases hm : m.args with
    | none => rfl
    | some items =>
      rw [Mark.mapPos, hm] at h
      exact Option.some.inj h
  constructor
  · intro a h
    unfold annot at h
    obtain ⟨path, -, h⟩ := bind_eq_ok_iff.mp h
    obtain ⟨⟨keyed, unkeyed⟩, -, h⟩ := bind_eq_ok_iff.mp h
    simp only at h
    split at h
    · cases h
    · cases h
      exact ⟨rfl, hpos⟩
  · intro x h
    unfold annot at h
    obtain h | ⟨path, -, h⟩ := bind_eq_error_iff.mp h
    · exact packageOf_kept htype h
    obtain h | ⟨⟨keyed, unkeyed⟩, -, h⟩ := bind_eq_error_iff.mp h
    · exact arguments_kept hargs h
    simp only at h
    split at h
    · cases h
      exact ⟨m.type.pos, congrArg Mark.Reference.pos htype, rfl⟩
    · cases h

end Site

open Classical in
noncomputable def keeping (P : Mark.Position → Prop) (p : Mark.Position) : Mark.Position :=
  if P p then p else { p with line := p.line + 1 }

theorem keeping_eq_iff {P : Mark.Position → Prop} {p : Mark.Position} : keeping P p = p ↔ P p := by
  unfold keeping
  split
  · simp_all
  · rename_i hp
    refine ⟨fun h => ?_, fun h => absurd h hp⟩
    have hline := congrArg Mark.Position.line h
    simp at hline

/-- A fault in a malformed token is told as if it were one column in front of the start of an annotation line. -/
structure Displaced (source : List Char) (file : Bytes) (doc : CommentGroup) (x : Misuse) : Prop where
  malformed : ∃ fault, x.error = .unreadable (.lexical fault) ∧ Mark.Malformed (some fault)
  place : ∃ front, AtLineStart front ∧ ToldIn source file doc front [] { x.pos with column := x.pos.column + 1 }

section
variable {source : List Char} {file : Bytes} {doc : CommentGroup} (hdoc : ∀ c ∈ doc, Written source c)
include hdoc

theorem toldIn_of_told {c : Comment} (hc : c ∈ doc) {front passed : List Char} {q : Place}
    (h : Told file c front passed q) : ToldIn source file doc front passed q :=
  ⟨c, hc, h, fun horigin => h.counted (hdoc c hc) horigin⟩

/-- The first annotation line is found by its bytes. -/
theorem toldIn_of_findAnnotPlace? {q : Place} (h : findAnnotPlace? file doc = some q) :
    ∃ front, ToldIn source file doc front [] q := by
  obtain ⟨l, hl, hfound⟩ := List.exists_of_findSome?_eq_some h
  obtain ⟨n, hstart, rfl⟩ := Option.map_eq_some_iff.mp hfound
  obtain ⟨blanks, rest, hopening, rfl⟩ := annotStart?_eq_some_iff.mp hstart
  obtain ⟨c, hc, front, line, hline⟩ := commentLines_chars (fun c hc => (hdoc c hc).marked) hl
  have hbegins : blanks ++ ['@'] <+: line := by
    have hglyphs : Utf8.glyphs (Bytes.ofChars line) = (blanks ++ ['@']).map .char ++ Utf8.glyphs rest := by
      rw [← hline.text, hopening.line_eq, Utf8.glyphs_ofChars_append]
    exact Mark.prefix_of_glyphs hglyphs
  have hbound : front ++ blanks <+: front ++ line :=
    (List.prefix_append_right_inj front).mpr ((List.prefix_append _ _).trans hbegins)
  have hone : '\n' ∉ blanks := fun hmem => hline.oneLine (hbegins.subset (List.mem_append_left _ hmem))
  have htold : Told file c (front ++ blanks) [] ((c.spot.inFile file).afterAll (front ++ blanks)) := by
    refine told_nil (hbound.trans hline.split) ?_ ?_
    · rw [List.length_append]
      exact Nat.le_add_right_of_le hline.opened
    · obtain ⟨more, hmore⟩ := hbound
      have hclosed := hline.closed
      rw [← hmore, Bytes.ofChars_append, List.length_append] at hclosed
      omega
  rw [Place.afterAll_append, Place.afterAll_oneLine hone, ← hline.pos] at htold
  exact ⟨front ++ blanks, toldIn_of_told hdoc hc htold⟩

/-- Places of an annotation text lead into the comment, and so does its end. Where there is no place, the line map leads
to the column in front of the first line. -/
theorem extract?_told {text : Bytes} {lines : LineMap} (h : extract? file doc = some (text, lines)) :
    ∃ cs, text = Bytes.ofChars cs ∧ cs.head? ≠ some '\ufeff' ∧
      (∀ p, Mark.Reached cs p →
        ∃ front passed, AtLineStart front ∧ ToldIn source file doc front passed (lines.place (some p))) ∧
      (∀ p, p.Behind cs → ∃ front, ToldIn source file doc front [] (lines.place (some p))) ∧
      ∃ front, AtLineStart front ∧
        ToldIn source file doc front [] { lines.place none with column := (lines.place none).column + 1 } := by
  obtain ⟨before, prose, kept, hdivides, rfl, rfl⟩ := extract?_eq_some h
  have hall : ∀ l ∈ kept, l ∈ commentLines file doc := by
    intro l hl
    rw [hdivides.all]
    exact List.mem_append_right _ (List.mem_append_right _ hl)
  have hkept : ∀ l ∈ kept, ∃ c ∈ doc, ∃ front line, LineOf file c front line l := fun l hl =>
    commentLines_chars (fun c hc => (hdoc c hc).marked) (hall l hl)
  obtain ⟨cs, hcs, -⟩ := textOf_chars hall
  have hnoMark := noMark_of_divides hdivides
  obtain ⟨first, rest, rfl, -⟩ := hdivides.annotated
  refine ⟨cs, hcs, ?_, ?_, ?_, ?_⟩
  · intro hhead
    rw [hcs, Utf8.glyphs_ofChars, List.head?_map, hhead] at hnoMark
    exact hnoMark rfl
  · intro p hp
    obtain ⟨c, hc, front, passed, hstart, htold⟩ := told_of_reached hkept hcs hp
    exact ⟨front, passed, hstart, toldIn_of_told hdoc hc htold⟩
  · intro p hp
    obtain ⟨c, hc, front, htold⟩ := told_of_end hkept (List.cons_ne_nil first rest) hcs hp
    exact ⟨front, toldIn_of_told hdoc hc htold⟩
  · obtain ⟨c, hc, front, line, hl⟩ := hkept first List.mem_cons_self
    have hclosed := hl.closed
    rw [Bytes.ofChars_append, List.length_append] at hclosed
    have htold : Told file c front [] ((c.spot.inFile file).afterAll front) :=
      told_nil ((List.prefix_append _ _).trans hl.split) hl.opened (by omega)
    rw [← hl.pos] at htold
    rw [place_none, Int.sub_add_cancel]
    exact ⟨front, hl.start, toldIn_of_told hdoc hc htold⟩

end

/-- Whatever is told of a comment, annotations and faults alike, has a place in the comment. Line and offset are those
of a byte of the file. The column counts the characters before it on its line. At the end of the text, and where just
the first annotation line is looked for, it counts bytes. A malformed token is told in front of the first line. -/
theorem annotation_places {source : List Char} {p : Types.Program} {s : Types.Scope} {doc : CommentGroup}
    (hdoc : ∀ c ∈ doc, Written source c) :
    (∀ annots, annotsOf p s doc = .ok annots → ∀ a ∈ annots, ∃ q, a.pos = some q ∧
      ∃ front passed, AtLineStart front ∧ ToldIn source s.file.path doc front passed q) ∧
    (∀ x, annotsOf p s doc = .error x →
      (∃ front passed, AtLineStart front ∧ ToldIn source s.file.path doc front passed x.pos) ∨
        ((∃ wanted, x.error = .unreadable (.unexpected .endOfInput wanted)) ∧
          ∃ front, ToldIn source s.file.path doc front [] x.pos) ∨
        Displaced source s.file.path doc x) ∧
    ∀ q, findAnnotPlace? s.file.path doc = some q → ∃ front, ToldIn source s.file.path doc front [] q := by
  refine ⟨?_, ?_, fun q hq => toldIn_of_findAnnotPlace? hdoc hq⟩
  · intro annots h a ha
    unfold annotsOf at h
    split at h
    · cases h
      cases ha
    rename_i text lines hextract
    obtain ⟨cs, rfl, hmark, hreached, -, -⟩ := extract?_told hdoc hextract
    split at h
    · cases h
    rename_i marks hparse
    obtain ⟨m, hm, hannot⟩ := exists_of_mem_mapM h a ha
    have hkept := Mark.mapPos_of_parse hmark hparse (fun _ => keeping_eq_iff.mpr) m hm
    obtain ⟨hpos, hplace⟩ := (Site.annot_kept hkept).1 a hannot
    exact ⟨_, hpos, hreached m.pos (keeping_eq_iff.mp hplace)⟩
  · intro x h
    unfold annotsOf at h
    split at h
    · cases h
    rename_i text lines hextract
    obtain ⟨cs, rfl, hmark, hreached, hend, hnone⟩ := extract?_told hdoc hextract
    split at h
    · rename_i e hparse
      cases h
      obtain ⟨pos, hpos, hp⟩ | ⟨pos, wanted, rfl, hp⟩ | ⟨fault, rfl, hmalformed⟩ :=
        Mark.place_of_parse_error hmark hparse
      · rw [hpos]
        exact .inl (hreached pos hp)
      · exact .inr (.inl ⟨⟨wanted, rfl⟩, hend pos hp⟩)
      · exact .inr (.inr ⟨⟨fault, rfl, hmalformed⟩, hnone⟩)
    · rename_i marks hparse
      obtain ⟨m, hm, hannot⟩ := exists_of_mapM_eq_error h
      have hkept := Mark.mapPos_of_parse hmark hparse (fun _ => keeping_eq_iff.mpr) m hm
      obtain ⟨q, hq, hplace⟩ := (Site.annot_kept hkept).2 x hannot
      rw [hplace]
      exact .inl (hreached q (keeping_eq_iff.mp hq))

namespace Accented

def source : List Char := "package p\n\n// @M(\"é\", X)\ntype A int\n".toList

def file : File := (File.read? (Bytes.ofString "p/a.go") (Bytes.ofChars source)).get (by decide +kernel)

def package : Types.Package := { id := "p", path := "p", name := "p", dir := Bytes.ofString "p", files := [file] }

def program : Types.Program := { packages := [package] }

def scope : Types.Scope := { package, file }

def doc : CommentGroup := [⟨"// @M(\"é\", X)".toList, { line := 3, column := 1, offset := 11 }⟩]

def faultPlace? : Option Place :=
  match annotsOf program scope doc with
  | .error x => some x.pos
  | .ok _ => none

theorem written_doc : ∀ c ∈ doc, Written source c := by
  refine List.forall_mem_singleton.mpr ?_
  have htoken : (⟨.comment, "// @M(\"é\", X)".toList, { line := 3, column := 1, offset := 11 }⟩ : Token) ∈
      tokens source := by
    decide +kernel
  have hmarked : IsMarked ⟨"// @M(\"é\", X)".toList, { line := 3, column := 1, offset := 11 }⟩ := .inl ⟨_, rfl⟩
  obtain ⟨before, raw, after, hsource, -, hwritten⟩ := written_of_token htoken hmarked
  refine hwritten fun hmem => ?_
  have hreturn : '\r' ∉ source := by decide +kernel
  exact hreturn (by simp [hsource, hmem])

end Accented

open Accented in
theorem annotation_places_accented :
    ∃ x, annotsOf program scope doc = .error x ∧ x.pos = ⟨Bytes.ofString "p/a.go", 3, 12, 23⟩ ∧
      (∀ c ∈ doc, Written source c) ∧
      ((∃ front passed, AtLineStart front ∧ ToldIn source scope.file.path doc front passed x.pos) ∨
        ((∃ wanted, x.error = .unreadable (.unexpected .endOfInput wanted)) ∧
          ∃ front, ToldIn source scope.file.path doc front [] x.pos) ∨
        Displaced source scope.file.path doc x) := by
  have hplace : faultPlace? = some ⟨Bytes.ofString "p/a.go", 3, 12, 23⟩ := by decide +kernel
  unfold faultPlace? at hplace
  split at hplace
  · rename_i x hx
    exact ⟨x, hx, Option.some.inj hplace, written_doc, (annotation_places written_doc).2.1 x hx⟩
  · cases hplace

open Accented in
/-- The place of a name behind a letter of two bytes has its offset, and the column before its own. -/
theorem annotation_places_miss_column :
    (∃ x, annotsOf program scope doc = .error x ∧ x.pos = ⟨Bytes.ofString "p/a.go", 3, 12, 23⟩ ∧
      columnAt (Bytes.ofChars source) 23 = 13) ∧
    ¬ ∀ (source : List Char) (p : Types.Program) (s : Types.Scope) (doc : CommentGroup), (∀ c ∈ doc, Written source c) →
      ∀ x, annotsOf p s doc = .error x → x.pos.column = columnAt (Bytes.ofChars source) x.pos.offset.toNat := by
  have hplace : faultPlace? = some ⟨Bytes.ofString "p/a.go", 3, 12, 23⟩ := by decide +kernel
  have hcolumn : columnAt (Bytes.ofChars source) 23 = 13 := by decide +kernel
  unfold faultPlace? at hplace
  split at hplace
  · rename_i x hx
    have hpos := Option.some.inj hplace
    refine ⟨⟨x, hx, hpos, hcolumn⟩, fun hall => ?_⟩
    have hcolumns := hall source program scope doc written_doc x hx
    rw [hpos] at hcolumns
    exact absurd (hcolumns.trans (congrArg Nat.cast hcolumn)) (by decide)
  · cases hplace

end ServiceAnnotations.Elements
